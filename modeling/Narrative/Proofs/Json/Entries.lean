import Narrative.Json.Reader
import Narrative.Proofs.Keyed
import Narrative.Proofs.Json.Runs

/-!
# What stands in a list or an object

The items of a list and the members of an object, one behind the other as they stand in the text
(`ItemsRead`, `MembersRead`).
-/

namespace Narrative.Json.Scan

variable {α : Type} {length : Nat} {text rest : Bytes} {item : Scan α}

/-- The items of a list up to its closing bracket, as a text has them. -/
inductive ItemsRead (item : Scan α) (length : Nat) : Bool → Bytes → List α → Bytes → Prop
  | close {isFirst : Bool} {text rest : Bytes} :
      token length text = .ok (some ']', rest) → ItemsRead item length isFirst text [] rest.tail
  | first {text value next rest : Bytes} {c : Char} {a : α} {as : List α} :
      token length text = .ok (some c, value) → c ≠ ']' → item length value = .ok (a, next) →
        ItemsRead item length false next as rest → ItemsRead item length true text (a :: as) rest
  | later {text behind value next rest : Bytes} {c : Char} {a : α} {as : List α} :
      token length text = .ok (some ',', behind) → token length behind.tail = .ok (some c, value) →
        c ≠ ']' → item length value = .ok (a, next) → ItemsRead item length false next as rest →
          ItemsRead item length false text (a :: as) rest

theorem itemsRead_of_items {as : List α} (h : items item length text = .ok (as, rest)) :
    ItemsRead item length true text as rest := by
  suffices hmore : ∃ more, ItemsRead item length ([] : List α).isEmpty text more rest ∧
      as = ([] : List α).reverse ++ more by
    obtain ⟨more, hmore, rfl⟩ := hmore
    exact hmore
  refine loop_induction (P := fun taken text as rest =>
    ∃ more, ItemsRead item length taken.isEmpty text more rest ∧ as = taken.reverse ++ more)
    (fun taken text t next hturn => ?_) h
  obtain ⟨c, behind, htoken, hturn⟩ := bind_eq_ok_iff.1 hturn
  split at hturn
  · exact absurd hturn refuseNext_ne_ok
  · rw [skip_bind] at hturn
    obtain ⟨rfl, rfl⟩ := pure_eq_ok_iff.1 hturn
    exact ⟨[], .close htoken, by simp⟩
  · rename_i c hopen
    have hitem {value : Bytes}
        (h : (do return Turn.again (α := List α) ((← item) :: taken)) length value =
          .ok (t, next)) :
        ∃ a, item length value = .ok (a, next) ∧ t = .again (a :: taken) := by
      obtain ⟨a, _, ha, h⟩ := bind_eq_ok_iff.1 h
      obtain ⟨rfl, rfl⟩ := pure_eq_ok_iff.1 h
      exact ⟨a, ha, rfl⟩
    dsimp only at hturn
    split at hturn
    · rename_i hempty
      obtain ⟨a, ha, rfl⟩ := hitem hturn
      rintro as rest ⟨more, hmore, rfl⟩
      rw [hempty]
      exact ⟨a :: more, .first htoken hopen ha hmore, by simp⟩
    · rename_i hempty
      split at hturn
      · exact absurd hturn refuseNext_bind_ne_ok
      · rename_i hcomma
        obtain rfl := Decidable.not_not.1 hcomma
        rw [skip_bind] at hturn
        obtain ⟨c, value, hvalue, hturn⟩ := bind_eq_ok_iff.1 hturn
        split at hturn
        · exact absurd hturn refuseNext_bind_ne_ok
        · exact absurd hturn refuseNext_bind_ne_ok
        · rename_i hopen'
          obtain ⟨a, ha, rfl⟩ := hitem hturn
          rintro as rest ⟨more, hmore, rfl⟩
          rw [Bool.eq_false_iff.2 hempty]
          exact ⟨a :: more, .later htoken hvalue hopen' ha hmore, by simp⟩

/-- The members of an object up to its closing brace, as a text has them. -/
inductive MembersRead (value : Scan α) (length : Nat) :
    Bool → Bytes → List (String × α) → Bytes → Prop
  | close {isFirst : Bool} {text rest : Bytes} :
      memberName isFirst length text = .ok (none, rest) →
        MembersRead value length isFirst text [] rest.tail
  | member {isFirst : Bool} {text behind front next rest : Bytes} {name : String} {a : α}
      {entries : List (String × α)} :
      memberName isFirst length text = .ok (some name, behind) →
        colon length behind = .ok ((), front) → value length front = .ok (a, next) →
          MembersRead value length false next entries rest →
            MembersRead value length isFirst text ((name, a) :: entries) rest

theorem exists_membersRead {value : Scan α} {taken : Keyed α}
    (h : members value length text = .ok (taken, rest)) :
    ∃ entries, MembersRead value length true text entries rest ∧ taken = .ofEntries entries := by
  refine loop_induction (P := fun state text taken rest =>
    ∃ entries, MembersRead value length state.2 text entries rest ∧
      taken = entries.foldl (fun m e => m.put e.1 e.2) state.1)
    (fun state text t next hturn => ?_) h
  obtain ⟨name, behind, hname, hturn⟩ := bind_eq_ok_iff.1 hturn
  cases name with
  | none =>
      simp only [skip_bind] at hturn
      obtain ⟨rfl, rfl⟩ := pure_eq_ok_iff.1 hturn
      exact ⟨[], .close hname, rfl⟩
  | some name =>
      obtain ⟨_, _, hcolon, hturn⟩ := bind_eq_ok_iff.1 hturn
      obtain ⟨a, _, hvalue, hturn⟩ := bind_eq_ok_iff.1 hturn
      obtain ⟨rfl, rfl⟩ := pure_eq_ok_iff.1 hturn
      rintro taken rest ⟨entries, hentries, rfl⟩
      exact ⟨(name, a) :: entries, .member hname hcolon hvalue hentries, rfl⟩

/-- A name of an object: the text closes the object, or has the name between its quotes, behind a
comma unless it is the first one. -/
theorem memberName_cases {isFirst : Bool} {name? : Option String}
    (h : memberName isFirst length text = .ok (name?, rest)) :
    (name? = none ∧ token length text = .ok (some '\x7d', rest)) ∨
      ∃ name behind, name? = some name ∧ string length behind.tail = .ok (name, rest) ∧
        if isFirst then token length text = .ok (some '"', behind)
        else ∃ front, token length text = .ok (some ',', front) ∧
          token length front.tail = .ok (some '"', behind) := by
  obtain ⟨c, front, htoken, h⟩ := bind_eq_ok_iff.1 h
  split at h
  · exact absurd h refuseNext_ne_ok
  · obtain ⟨rfl, rfl⟩ := pure_eq_ok_iff.1 h
    exact Or.inl ⟨rfl, htoken⟩
  · have hstring {behind : Bytes}
        (h : (do skip; return some (← string)) length behind = .ok (name?, rest)) :
        ∃ name, name? = some name ∧ string length behind.tail = .ok (name, rest) := by
      rw [skip_bind] at h
      obtain ⟨name, _, hstring, h⟩ := bind_eq_ok_iff.1 h
      obtain ⟨rfl, rfl⟩ := pure_eq_ok_iff.1 h
      exact ⟨name, rfl, hstring⟩
    dsimp only at h
    cases isFirst with
    | true =>
        rw [if_pos rfl] at h
        split at h
        · exact absurd h refuseNext_bind_ne_ok
        · rename_i hquote
          obtain rfl := Decidable.not_not.1 hquote
          obtain ⟨name, rfl, hname⟩ := hstring h
          exact Or.inr ⟨name, front, rfl, hname, htoken⟩
    | false =>
        rw [if_neg (by decide)] at h
        split at h
        · exact absurd h refuseNext_bind_ne_ok
        · rename_i hcomma
          obtain rfl := Decidable.not_not.1 hcomma
          rw [skip_bind] at h
          obtain ⟨c, behind, hquote, h⟩ := bind_eq_ok_iff.1 h
          split at h
          · exact absurd h refuseNext_bind_ne_ok
          · exact absurd h refuseNext_bind_ne_ok
          · obtain ⟨name, rfl, hname⟩ := hstring h
            exact Or.inr ⟨name, behind, rfl, hname, front, htoken, hquote⟩
          · exact absurd h refuseNext_bind_ne_ok

end Narrative.Json.Scan
