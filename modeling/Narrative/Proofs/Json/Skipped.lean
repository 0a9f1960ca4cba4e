import Mathlib.Data.List.DropRight
import Narrative.Proofs.Json.Entries
import Narrative.Proofs.Json.Scalars

/-!
# Passing over what can be read

To pass over a value checks less than to read it, and nests without a limit.  But where a value can
be both read and passed over, both leave the same rest (`agree_value`).
-/

namespace Narrative.Json.Scan

variable {α : Type} {length : Nat} {text rest rest' : Bytes}

/-- Passing over values goes on from a state and a text and leaves a rest in the end. -/
abbrev SkipsTo (length : Nat) (state : Turning × List Bracket) (text rest : Bytes) : Prop :=
  Runs skipTurn length state text () rest

theorem token_idem {c : Option Char} (h : token length text = .ok (c, rest)) :
    token length rest = token length text := by
  obtain ⟨-, rfl⟩ := Prod.mk.inj (Except.ok.inj h)
  rw [token, token, List.dropWhile_idempotent]

section

variable {stack : List Bracket} {behindValue : Bool} {behind : Bytes} {c : Option Char}

theorem skipsTo_nil (h : SkipsTo length (.inside behindValue, []) text rest) : text = rest := by
  cases h with
  | done hturn => exact (pure_eq_ok_iff.1 hturn).2
  | again hturn _ => cases (pure_eq_ok_iff.1 hturn).1

/-- Where a value is read, passing over it takes the same scalar or goes into the same list or
object. -/
theorem skipTurn_of_valueWith {list object : Scan Json} {j : Json}
    {turn : Turn (Turning × List Bracket) Unit} {front : Bytes}
    (h : valueWith list object length text = .ok (j, rest))
    (h' : skipTurn (.value, stack) length text = .ok (turn, front)) :
    (turn = .again (.inside true, stack) ∧ rest = front) ∨
      (∃ behind, list length behind = .ok (j, rest) ∧
        turn = .again (.inside false, .list :: stack) ∧ behind.tail = front) ∨
      ∃ behind, object length behind = .ok (j, rest) ∧
        turn = .again (.inside false, .object :: stack) ∧ behind.tail = front := by
  obtain ⟨c, behind, htoken, h⟩ := bind_eq_ok_iff.1 h
  obtain ⟨c', behind', htoken', h'⟩ := bind_eq_ok_iff.1 h'
  obtain ⟨rfl, rfl⟩ := ok_unique htoken htoken'
  have hscalar {scan : Scan Json} {scan' : Scan (Turn (Turning × List Bracket) Unit)}
      (hagree : Agree (fun _ turn => turn = .again (.inside true, stack)) scan scan')
      (h : scan length behind = .ok (j, rest)) (h' : scan' length behind = .ok (turn, front)) :
      turn = .again (.inside true, stack) ∧ rest = front := hagree h h'
  have hword (cs : List Char) (value : Json) :
      Agree
        (fun _ (turn : Turn (Turning × List Bracket) Unit) => turn = .again (.inside true, stack))
        (do skip; word cs; return value)
        (do skip; word cs; return Turn.again (Turning.inside true, stack)) :=
    agree_seq fun _ => agree_seq fun _ => agree_pure rfl
  split at h
  · exact absurd h refuseNext_ne_ok
  · exact Or.inl (hscalar (hword _ _) h h')
  · exact Or.inl (hscalar (hword _ _) h h')
  · exact Or.inl (hscalar (hword _ _) h h')
  · exact Or.inl (hscalar (agree_seq fun _ => agree_bind agree_string fun _ _ _ => agree_pure rfl)
      h h')
  · obtain ⟨_, _, hskip, h'⟩ := bind_eq_ok_iff.1 h'
    obtain ⟨rfl, rfl⟩ := pure_eq_ok_iff.1 h'
    exact Or.inr (Or.inl ⟨behind, h, rfl, (Prod.mk.inj (Except.ok.inj hskip)).2⟩)
  · obtain ⟨_, _, hskip, h'⟩ := bind_eq_ok_iff.1 h'
    obtain ⟨rfl, rfl⟩ := pure_eq_ok_iff.1 h'
    exact Or.inr (Or.inr ⟨behind, h, rfl, (Prod.mk.inj (Except.ok.inj hskip)).2⟩)
  · simp only at h'
    split at h
    · rename_i hnumber
      rw [if_pos hnumber] at h'
      exact Or.inl (hscalar (agree_bind agree_number fun _ _ _ => agree_pure rfl) h h')
    · exact absurd h refuseNext_ne_ok

theorem skipsTo_valueWith {list object : Scan Json} {j : Json}
    (hlist : ∀ behind, list length behind = .ok (j, rest) →
      SkipsTo length (.inside false, .list :: stack) behind.tail rest' →
        SkipsTo length (.inside true, stack) rest rest')
    (hobject : ∀ behind, object length behind = .ok (j, rest) →
      SkipsTo length (.inside false, .object :: stack) behind.tail rest' →
        SkipsTo length (.inside true, stack) rest rest')
    (h : valueWith list object length text = .ok (j, rest))
    (h' : SkipsTo length (.value, stack) text rest') :
    SkipsTo length (.inside true, stack) rest rest' := by
  cases h' with
  | done hturn =>
      rcases skipTurn_of_valueWith h hturn with ⟨hagain, -⟩ | ⟨_, -, hagain, -⟩ | ⟨_, -, hagain, -⟩
      · cases hagain
      · cases hagain
      · cases hagain
  | again hturn hrest =>
      rcases skipTurn_of_valueWith h hturn with ⟨hagain, rfl⟩ | ⟨behind, hj, hagain, rfl⟩ |
        ⟨behind, hj, hagain, rfl⟩
      · obtain rfl := Turn.again.inj hagain
        exact hrest
      · obtain rfl := Turn.again.inj hagain
        exact hlist behind hj hrest
      · obtain rfl := Turn.again.inj hagain
        exact hobject behind hj hrest

/-- Space in front of a value is passed over in any case. -/
theorem skipsTo_behind_token (htoken : token length text = .ok (c, behind))
    (h : SkipsTo length (.value, stack) text rest) :
    SkipsTo length (.value, stack) behind rest := by
  have hsame : skipTurn (.value, stack) length behind = skipTurn (.value, stack) length text :=
    bind_congr_left (token_idem htoken)
  cases h with
  | done hturn => exact .done (hsame.trans hturn)
  | again hturn hrest => exact .again (hsame.trans hturn) hrest

/-- A turn inside a bracket passes over its end, or over what stands in front of the next value: a
comma and a name, where these are needed. -/
theorem skipTurn_inside {bracket : Bracket} {turn : Turn (Turning × List Bracket) Unit}
    (htoken : token length text = .ok (c, behind))
    (h : skipTurn (.inside behindValue, bracket :: stack) length text = .ok (turn, rest)) :
    (c = some bracket.close ∧ turn = .again (.inside true, stack) ∧ behind.tail = rest) ∨
      c ≠ some bracket.close ∧ (behindValue = true → c = some ',') ∧
        turn = .again (.value, bracket :: stack) ∧
        (if bracket = .object then skipName else pure ()) length
          (if behindValue then behind.tail else behind) = .ok ((), rest) := by
  obtain ⟨c', _, htoken', h⟩ := bind_eq_ok_iff.1 h
  obtain ⟨rfl, rfl⟩ := ok_unique htoken htoken'
  cases c with
  | none => exact absurd h refuseNext_ne_ok
  | some c =>
      dsimp only at h
      split at h
      · rename_i hclose
        obtain ⟨_, _, hskip, h⟩ := bind_eq_ok_iff.1 h
        obtain ⟨rfl, rfl⟩ := pure_eq_ok_iff.1 h
        exact Or.inl ⟨congrArg some hclose, rfl, (Prod.mk.inj (Except.ok.inj hskip)).2⟩
      · rename_i hclose
        refine Or.inr ⟨fun h => hclose (Option.some.inj h), ?_⟩
        have hname {text : Bytes}
            (h : (do
              if bracket = Bracket.object then skipName
              return Turn.again (Turning.value, bracket :: stack)) length text = .ok (turn, rest)) :
            turn = .again (.value, bracket :: stack) ∧
              (if bracket = .object then skipName else pure ()) length text = .ok ((), rest) := by
          split at h
          · rename_i hobject
            obtain ⟨_, _, hname, h⟩ := bind_eq_ok_iff.1 h
            obtain ⟨rfl, rfl⟩ := pure_eq_ok_iff.1 h
            exact ⟨rfl, by rw [if_pos hobject]; exact hname⟩
          · rename_i hlist
            obtain ⟨rfl, rfl⟩ := pure_eq_ok_iff.1 h
            exact ⟨rfl, by rw [if_neg hlist]; rfl⟩
        split at h
        · exact absurd h refuseNext_ne_ok
        · rename_i hcomma
          cases behindValue with
          | true =>
              rw [if_pos rfl, skip_bind] at h
              exact ⟨fun _ => by simpa using hcomma, hname h⟩
          | false => exact ⟨fun h => absurd h (by decide), hname h⟩

/-- Passing over goes on behind a bracket that is closed, or with the next value. -/
theorem skipsTo_inside {bracket : Bracket} (htoken : token length text = .ok (c, behind))
    (h : SkipsTo length (.inside behindValue, bracket :: stack) text rest) :
    (c = some bracket.close ∧ SkipsTo length (.inside true, stack) behind.tail rest) ∨
      c ≠ some bracket.close ∧ (behindValue = true → c = some ',') ∧
        ∃ front, (if bracket = .object then skipName else pure ()) length
            (if behindValue then behind.tail else behind) = .ok ((), front) ∧
          SkipsTo length (.value, bracket :: stack) front rest := by
  cases h with
  | done hturn =>
      rcases skipTurn_inside htoken hturn with ⟨-, hagain, -⟩ | ⟨-, -, hagain, -⟩
      · cases hagain
      · cases hagain
  | again hturn hrest =>
      rcases skipTurn_inside htoken hturn with ⟨hc, hagain, rfl⟩ | ⟨hc, hcomma, hagain, hname⟩
      · obtain rfl := Turn.again.inj hagain
        exact Or.inl ⟨hc, hrest⟩
      · obtain rfl := Turn.again.inj hagain
        exact Or.inr ⟨hc, hcomma, _, hname, hrest⟩

theorem skipsTo_items {item : Scan α} {isFirst : Bool} {as : List α}
    (hitem : ∀ text a rest stack, item length text = .ok (a, rest) →
      SkipsTo length (.value, stack) text rest' → SkipsTo length (.inside true, stack) rest rest')
    (h : ItemsRead item length isFirst text as rest)
    (h' : SkipsTo length (.inside (!isFirst), .list :: stack) text rest') :
    SkipsTo length (.inside true, stack) rest rest' := by
  induction h with
  | close htoken =>
      rcases skipsTo_inside htoken h' with ⟨-, hrest⟩ | ⟨hopen, -⟩
      · exact hrest
      · exact absurd rfl hopen
  | first htoken hopen ha _ ih =>
      rcases skipsTo_inside htoken h' with ⟨hclose, -⟩ | ⟨-, -, front, hfront, hvalue⟩
      · exact absurd (Option.some.inj hclose) hopen
      · obtain ⟨-, rfl⟩ := pure_eq_ok_iff.1 hfront
        exact ih (hitem _ _ _ _ ha hvalue)
  | later htoken hvalue hopen ha _ ih =>
      rcases skipsTo_inside htoken h' with ⟨hclose, -⟩ | ⟨-, -, front, hfront, hskips⟩
      · cases hclose
      · obtain ⟨-, rfl⟩ := pure_eq_ok_iff.1 hfront
        exact ih (hitem _ _ _ _ ha (skipsTo_behind_token hvalue hskips))

theorem skipName_unique {name : String} {front next : Bytes}
    (htoken : token length text = .ok (some '"', behind))
    (hname : string length behind.tail = .ok (name, front))
    (hcolon : colon length front = .ok ((), next))
    (h : skipName length text = .ok ((), rest)) : next = rest := by
  obtain ⟨c, _, htoken', h⟩ := bind_eq_ok_iff.1 h
  obtain ⟨rfl, rfl⟩ := ok_unique htoken htoken'
  simp only [skip_bind] at h
  obtain ⟨_, _, hstring, h⟩ := bind_eq_ok_iff.1 h
  obtain ⟨-, rfl⟩ := agree_string hname hstring
  exact (ok_unique hcolon h).2

theorem skipsTo_members {value : Scan α} {isFirst : Bool} {entries : List (String × α)}
    (hvalue : ∀ text a rest stack, value length text = .ok (a, rest) →
      SkipsTo length (.value, stack) text rest' → SkipsTo length (.inside true, stack) rest rest')
    (h : MembersRead value length isFirst text entries rest)
    (h' : SkipsTo length (.inside (!isFirst), .object :: stack) text rest') :
    SkipsTo length (.inside true, stack) rest rest' := by
  induction h with
  | close hname =>
      rcases memberName_cases hname with ⟨-, htoken⟩ | ⟨_, _, hnone, -⟩
      · rcases skipsTo_inside htoken h' with ⟨-, hrest⟩ | ⟨hopen, -⟩
        · exact hrest
        · exact absurd rfl hopen
      · cases hnone
  | @member isFirst text _ _ _ _ _ _ _ hname hcolon ha _ ih =>
      rcases memberName_cases hname with ⟨hnone, -⟩ | ⟨name, behind, -, hstring, htoken⟩
      · cases hnone
      cases isFirst with
      | true =>
          rcases skipsTo_inside htoken h' with ⟨hclose, -⟩ | ⟨-, -, front, hfront, hskips⟩
          · cases hclose
          · obtain rfl := skipName_unique ((token_idem htoken).trans htoken) hstring hcolon hfront
            exact ih (hvalue _ _ _ _ ha hskips)
      | false =>
          obtain ⟨comma, hcomma, hquote⟩ := htoken
          rcases skipsTo_inside hcomma h' with ⟨hclose, -⟩ | ⟨-, -, front, hfront, hskips⟩
          · cases hclose
          · obtain rfl := skipName_unique hquote hstring hcolon hfront
            exact ih (hvalue _ _ _ _ ha hskips)

theorem skipsTo_value {depth : Nat} {j : Json} (h : value depth length text = .ok (j, rest))
    (h' : SkipsTo length (.value, stack) text rest') :
    SkipsTo length (.inside true, stack) rest rest' := by
  induction depth generalizing text j rest stack with
  | zero =>
      exact skipsTo_valueWith (fun _ hdeep => absurd hdeep refuseNext_ne_ok)
        (fun _ hdeep => absurd hdeep refuseNext_ne_ok) h h'
  | succ depth ih =>
      refine skipsTo_valueWith (fun _ hlist hskips => ?_) (fun _ hobject hskips => ?_) h h'
      · rw [skip_bind] at hlist
        obtain ⟨as, _, hitems, hlist⟩ := bind_eq_ok_iff.1 hlist
        obtain ⟨-, rfl⟩ := pure_eq_ok_iff.1 hlist
        exact skipsTo_items (fun _ _ _ _ ha => ih ha) (itemsRead_of_items hitems) hskips
      · rw [skip_bind] at hobject
        obtain ⟨taken, _, hmembers, hobject⟩ := bind_eq_ok_iff.1 hobject
        obtain ⟨-, rfl⟩ := pure_eq_ok_iff.1 hobject
        obtain ⟨entries, hentries, -⟩ := exists_membersRead hmembers
        exact skipsTo_members (fun _ _ _ _ ha => ih ha) hentries hskips

theorem agree_value (depth : Nat) : Agree (fun _ _ => True) (value depth) skipValue :=
  fun _ _ _ _ _ _ h h' => ⟨trivial, skipsTo_nil (skipsTo_value h (runs_of_turns h'))⟩

end

end Narrative.Json.Scan
