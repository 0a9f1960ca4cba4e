import Narrative.Json.Skip
import Narrative.Proofs.Json.Runs

/-!
# Passing over scalars

Passing over a number or a string checks less than reading it does.  Where both come to an end they
leave the same rest (`agree_number`, `agree_string`).
-/

namespace Narrative.Json.Scan

variable {γ δ : Type} {Q : γ → δ → Prop} {length : Nat} {text rest rest' : Bytes}

/-! ## Numbers -/

/-- A byte that is a decimal digit. -/
def isDigit (b : UInt8) : Bool := 48 ≤ b && b ≤ 57

theorem val_ofUInt8 (b : UInt8) : (Char.ofUInt8 b).val.toNat = b.toNat := UInt8.toNat_toUInt32 b

theorem isSome_digit?_ofUInt8 (b : UInt8) :
    (Text.digit? (Char.ofUInt8 b)).isSome = isDigit b := by
  have hlow : '0' ≤ Char.ofUInt8 b ↔ 48 ≤ b := by
    rw [Char.le_def, UInt32.le_iff_toNat_le, val_ofUInt8, UInt8.le_iff_toNat_le]
    rfl
  have hhigh : Char.ofUInt8 b ≤ '9' ↔ b ≤ 57 := by
    rw [Char.le_def, UInt32.le_iff_toNat_le, val_ofUInt8, UInt8.le_iff_toNat_le]
    rfl
  simp only [Text.digit?, isDigit, hlow, hhigh]
  by_cases h : 48 ≤ b ∧ b ≤ 57
  · simp [h]
  · rw [if_neg h]
    simpa using h

theorem agree_digit : Agree Eq digit skipDigit := by
  intro length text d rest d' rest' h h'
  obtain ⟨c, behind, hnext, h⟩ := bind_eq_ok_iff.1 h
  obtain ⟨c', behind', hpeek, h'⟩ := bind_eq_ok_iff.1 h'
  obtain ⟨rfl, rfl⟩ := Prod.mk.inj (Except.ok.inj hnext)
  obtain ⟨rfl, rfl⟩ := Prod.mk.inj (Except.ok.inj hpeek)
  cases hc : text.head?.map Char.ofUInt8 with
  | none =>
      rw [hc] at h
      exact absurd h refuse_ne_ok
  | some c =>
      rw [hc] at h h'
      rw [Option.bind_some] at h'
      dsimp only at h
      cases hd : Text.digit? c with
      | none =>
          rw [hd] at h
          exact absurd h refuse_ne_ok
      | some d =>
          rw [hd] at h h'
          exact ok_unique h h'

theorem rest_of_exponentDigits {tooLarge : Bool} {n : Nat} {e : Option Nat}
    (h : exponentDigits tooLarge n text = .ok (e, rest)) : rest = text.dropWhile isDigit := by
  induction text generalizing n with
  | nil => exact (Prod.mk.inj (Except.ok.inj h)).2.symm
  | cons b text ih =>
      rw [exponentDigits] at h
      have hb := isSome_digit?_ofUInt8 b
      split at h
      · rename_i hd
        rw [hd, Option.isSome_none] at hb
        rw [List.dropWhile_cons_of_neg (by simp [← hb])]
        exact (Prod.mk.inj (Except.ok.inj h)).2.symm
      · rename_i hd
        rw [hd, Option.isSome_some] at hb
        rw [List.dropWhile_cons_of_pos hb.symm]
        split at h
        · exact ih h
        · split at h
          · cases h
          · rw [← (Prod.mk.inj (Except.ok.inj h)).2]
            exact congrArg (List.dropWhile · text) (funext isSome_digit?_ofUInt8)

theorem agree_exponentDigits (tooLarge : Bool) (n : Nat) :
    Agree (fun _ _ => True) (fun _ => exponentDigits tooLarge n) digits := by
  intro length text e rest ds rest' h h'
  exact ⟨trivial, (rest_of_exponentDigits h).trans (Prod.mk.inj (Except.ok.inj h')).2⟩

theorem agree_exponent (x : Scaled) : Agree (fun _ _ => True) (exponent x) skipExponent := by
  have hdigits (tooLarge : Bool) {next : Option Nat → Scan (Option Scaled)}
      (hnext : ∀ e, Agree (fun _ _ => True) (next e) (pure () : Scan Unit)) :
      Agree (fun _ _ => True)
        (do
          let first ← digit
          let e ← fun _ => exponentDigits tooLarge first
          next e)
        (do
          let _ ← skipDigit
          let _ ← digits) :=
    agree_bind agree_digit fun first _ _ =>
      agree_bind (agree_exponentDigits tooLarge first) fun e _ _ => hnext e
  refine agree_seq fun plus => ?_
  cases plus with
  | true => exact hdigits _ fun e => by cases e <;> exact agree_pure trivial
  | false =>
      exact agree_seq fun minus => hdigits _ fun e => by cases e <;> exact agree_pure trivial

/-- What comes behind the whole part of a number agrees with what comes behind it when it is passed
over. -/
theorem agree_whole {next : Scaled → Scan γ} {scan : Scan δ} (h : ∀ x, Agree Q (next x) scan) :
    Agree Q (whole >>= next)
      (do
        let first ← skipDigit
        if first = 0 then
          if ((← peek).bind Text.digit?).isSome then refuseNext .invalidNumber
        else
          let _ ← digits
        scan) := by
  rw [whole, bind_assoc]
  refine agree_bind agree_digit fun first _ hfirst => ?_
  subst hfirst
  dsimp only
  split
  · rw [bind_assoc]
    refine agree_seq fun c => ?_
    cases c with
    | none => exact h ⟨0, 0⟩
    | some c =>
        dsimp only [Option.bind_some]
        split
        · exact agree_refuseNext_bind_right _ _ _
        · exact h ⟨0, 0⟩
  · rw [bind_assoc]
    exact agree_seq fun ds => h _

theorem agree_fraction {x : Scaled} {next : Scaled → Scan γ} {scan : Scan δ}
    (h : ∀ x, Agree Q (next x) scan) :
    Agree Q (fraction x >>= next)
      (do
        if (← digits).isEmpty then refuseNext .invalidNumber
        scan) := by
  rw [fraction, bind_assoc]
  refine agree_seq fun ds => ?_
  cases ds with
  | nil => exact agree_refuseNext_bind_right _ _ _
  | cons d ds => exact h _

theorem agree_real (negative : Bool) (x : Option Scaled) :
    Agree (fun _ _ => True) (real negative x) (pure ()) := by
  cases x with
  | none => exact agree_pure trivial
  | some x =>
      rw [real.eq_def]
      dsimp only
      split
      · exact agree_pure trivial
      · exact agree_refuse _ _

theorem agree_number : Agree (fun _ _ => True) number skipNumber := by
  refine agree_seq fun negative => agree_whole fun x => agree_seq fun point => ?_
  have hexponent (x' : Scaled) : Agree (fun _ _ => True)
      (do
        let letter ← peek
        if letter = some 'e' ∨ letter = some 'E' then
          skip
          real negative (← exponent x')
        else if point ∨ x.exponent ≠ 0 then
          real negative (some x')
        else
          pure (integer negative x.significand))
      (do
        let letter ← peek
        if letter = some 'e' ∨ letter = some 'E' then
          skip
          skipExponent) := by
    refine agree_seq fun letter => ?_
    split
    · refine agree_seq fun _ => ?_
      rw [← bind_pure skipExponent]
      exact agree_bind (agree_exponent x') fun e _ _ => agree_real negative e
    · split
      · exact agree_real negative _
      · exact agree_pure trivial
  cases point with
  | true => exact agree_fraction hexponent
  | false => exact hexponent x

/-! ## Strings -/

theorem ofUInt8_inj {b b' : UInt8} : Char.ofUInt8 b = Char.ofUInt8 b' ↔ b = b' := by
  constructor
  · intro h
    have hval := congrArg (fun c : Char => c.val.toNat) h
    simp only [val_ofUInt8] at hval
    exact UInt8.toNat_inj.1 hval
  · rintro rfl
    rfl

theorem exists_of_peek {c : Char} (h : peek length text = .ok (some c, rest)) :
    ∃ b behind, text = b :: behind ∧ Char.ofUInt8 b = c ∧ rest = b :: behind := by
  obtain ⟨hc, rfl⟩ := Prod.mk.inj (Except.ok.inj h)
  cases text with
  | nil => cases hc
  | cons b behind => exact ⟨b, behind, rfl, Option.some.inj hc, rfl⟩

/-- What passing over a string leaves, from behind its opening quote or from further on. -/
inductive StringSkipped (length : Nat) : Bytes → Bytes → Prop
  | close {rest : Bytes} : StringSkipped length (34 :: rest) rest
  | escape {text behind rest : Bytes} {c : Char} :
      escape (do let _ ← hexUnit; pure ' ') length text = .ok (c, behind) →
        StringSkipped length behind rest → StringSkipped length (92 :: text) rest
  | plain {b : UInt8} {text rest : Bytes} :
      b ≠ 34 → b ≠ 92 → StringSkipped length text rest → StringSkipped length (b :: text) rest

theorem stringSkipped_of_skipString {u : Unit} (h : skipString length text = .ok (u, rest)) :
    StringSkipped length text rest := by
  refine loop_induction (P := fun _ text _ rest => StringSkipped length text rest)
    (fun state text t next hturn => ?_) h
  obtain ⟨c, _, hpeek, hturn⟩ := bind_eq_ok_iff.1 hturn
  split at hturn
  · exact absurd hturn refuse_ne_ok
  · rw [skip_bind] at hturn
    obtain ⟨rfl, rfl⟩ := pure_eq_ok_iff.1 hturn
    obtain ⟨b, text, rfl, hb, rfl⟩ := exists_of_peek hpeek
    obtain rfl : b = 34 := ofUInt8_inj.1 hb
    exact StringSkipped.close
  · rw [skip_bind] at hturn
    obtain ⟨c, _, hescape, hturn⟩ := bind_eq_ok_iff.1 hturn
    obtain ⟨rfl, rfl⟩ := pure_eq_ok_iff.1 hturn
    obtain ⟨b, text, rfl, hb, rfl⟩ := exists_of_peek hpeek
    obtain rfl : b = 92 := ofUInt8_inj.1 hb
    exact fun _ _ hrest => .escape hescape hrest
  · rename_i hquote hbackslash
    split at hturn
    · exact absurd hturn refuse_ne_ok
    · rw [skip_bind] at hturn
      obtain ⟨rfl, rfl⟩ := pure_eq_ok_iff.1 hturn
      obtain ⟨b, text, rfl, rfl, rfl⟩ := exists_of_peek hpeek
      exact fun _ _ hrest => .plain (fun h => hquote (ofUInt8_inj.2 h))
        (fun h => hbackslash (ofUInt8_inj.2 h)) hrest

theorem exists_of_next {c : Char} (h : next length text = .ok (some c, rest)) :
    ∃ b, text = b :: rest ∧ Char.ofUInt8 b = c := by
  obtain ⟨hc, rfl⟩ := Prod.mk.inj (Except.ok.inj h)
  cases text with
  | nil => cases hc
  | cons b behind => exact ⟨b, rfl, Option.some.inj hc⟩

theorem eq_cons_of_next {b : UInt8} (h : next length text = .ok (some (Char.ofUInt8 b), rest)) :
    text = b :: rest := by
  obtain ⟨b', rfl, hb⟩ := exists_of_next h
  rw [ofUInt8_inj.1 hb]

theorem eq_cons_of_nextByte {b : UInt8} (h : nextByte length text = .ok (some b, rest)) :
    text = b :: rest := by
  obtain ⟨hb, rfl⟩ := Prod.mk.inj (Except.ok.inj h)
  cases text with
  | nil => cases hb
  | cons b' behind => rw [Option.some.inj hb, List.tail_cons]

theorem eq_cons_of_escapeLetter {b : UInt8} {u : Unit}
    (h : escapeLetter (Char.ofUInt8 b) length text = .ok (u, rest)) : text = b :: rest := by
  obtain ⟨c, behind, hnext, h⟩ := bind_eq_ok_iff.1 h
  split at h
  · exact absurd h refuse_ne_ok
  · split at h
    · rename_i hc
      obtain ⟨-, rfl⟩ := pure_eq_ok_iff.1 h
      rw [hc] at hnext
      exact eq_cons_of_next hnext
    · exact absurd h refuse_ne_ok

/-- An escape goes on with what follows its letter `u`, or has one letter. -/
theorem escape_cases {hex : Scan Char} {c : Char} (h : escape hex length text = .ok (c, rest)) :
    (∃ behind, text = 117 :: behind ∧ hex length behind = .ok (c, rest)) ∨
      ∃ b, b ≠ 117 ∧ text = b :: rest := by
  obtain ⟨letter, behind, hnext, h⟩ := bind_eq_ok_iff.1 h
  split at h
  · exact absurd h refuse_ne_ok
  · exact Or.inl ⟨behind, eq_cons_of_next (b := 117) hnext, h⟩
  · rename_i letter hu
    obtain ⟨b, rfl, rfl⟩ := exists_of_next hnext
    cases hescaped : escaped? (Char.ofUInt8 b) with
    | none =>
        rw [hescaped] at h
        exact absurd h refuse_ne_ok
    | some d =>
        rw [hescaped] at h
        obtain ⟨-, rfl⟩ := pure_eq_ok_iff.1 h
        exact Or.inr ⟨b, fun hb => hu (ofUInt8_inj.2 hb), rfl⟩

theorem exists_escape_of_skipped (h : StringSkipped length (92 :: text) rest) :
    ∃ c behind, escape (do let _ ← hexUnit; pure ' ') length text = .ok (c, behind) ∧
      StringSkipped length behind rest := by
  cases h with
  | escape hescape hrest => exact ⟨_, _, hescape, hrest⟩
  | plain _ hbackslash _ => exact absurd rfl hbackslash

theorem skipped_behind_unit {unit : Nat} {behind : Bytes}
    (h : StringSkipped length (92 :: 117 :: text) rest)
    (hunit : hexUnit length text = .ok (unit, behind)) : StringSkipped length behind rest := by
  obtain ⟨c, _, hescape, hrest⟩ := exists_escape_of_skipped h
  rcases escape_cases hescape with ⟨_, htext, hescape⟩ | ⟨b, hb, htext⟩
  · obtain ⟨-, rfl⟩ := List.cons.inj htext
    obtain ⟨unit', _, hunit', hspace⟩ := bind_eq_ok_iff.1 hescape
    obtain ⟨-, rfl⟩ := pure_eq_ok_iff.1 hspace
    obtain ⟨-, rfl⟩ := ok_unique hunit hunit'
    exact hrest
  · exact absurd (List.cons.inj htext).1.symm hb

/-- A string goes on behind an escape where it goes on when it is passed over: a pair of units is
two escapes then. -/
theorem skipped_behind_escape {c : Char} (h : escape hexCharacter length text = .ok (c, rest))
    (h' : StringSkipped length (92 :: text) rest') : StringSkipped length rest rest' := by
  rcases escape_cases h with ⟨_, rfl, hhex⟩ | ⟨b, hb, rfl⟩
  · obtain ⟨high, _, hhigh, h⟩ := bind_eq_ok_iff.1 hhex
    have hrest := skipped_behind_unit h' hhigh
    split at h
    · exact absurd h refuse_ne_ok
    · split at h
      · obtain ⟨_, _, hbackslash, h⟩ := bind_eq_ok_iff.1 h
        obtain ⟨_, _, hu, h⟩ := bind_eq_ok_iff.1 h
        obtain ⟨low, _, hlow, h⟩ := bind_eq_ok_iff.1 h
        rw [eq_cons_of_escapeLetter (b := 92) hbackslash,
          eq_cons_of_escapeLetter (b := 117) hu] at hrest
        split at h
        · obtain ⟨-, rfl⟩ := pure_eq_ok_iff.1 h
          exact skipped_behind_unit hrest hlow
        · exact absurd h refuse_ne_ok
      · obtain ⟨-, rfl⟩ := pure_eq_ok_iff.1 h
        exact hrest
  · obtain ⟨c', _, hescape, hrest⟩ := exists_escape_of_skipped h'
    rcases escape_cases hescape with ⟨_, htext, _⟩ | ⟨b', _, htext⟩
    · exact absurd (List.cons.inj htext).1 hb
    · rw [(List.cons.inj htext).2]
      exact hrest

theorem agree_string : Agree (fun _ _ => True) string skipString := by
  intro length text s rest u rest' h h'
  refine ⟨trivial, ?_⟩
  refine loop_induction (P := fun _ text _ rest => StringSkipped length text rest' → rest = rest')
    (fun state text t next hturn => ?_) h (stringSkipped_of_skipString h')
  obtain ⟨b, _, hnext, hturn⟩ := bind_eq_ok_iff.1 hturn
  split at hturn
  · exact absurd hturn refuse_ne_ok
  · obtain ⟨rfl, rfl⟩ := pure_eq_ok_iff.1 hturn
    obtain rfl := eq_cons_of_nextByte hnext
    intro hskipped
    cases hskipped with
    | close => rfl
    | plain hquote _ _ => exact absurd rfl hquote
  · obtain ⟨c, _, hescape, hturn⟩ := bind_eq_ok_iff.1 hturn
    obtain ⟨rfl, rfl⟩ := pure_eq_ok_iff.1 hturn
    obtain rfl := eq_cons_of_nextByte hnext
    exact fun _ _ ih hskipped => ih (skipped_behind_escape hescape hskipped)
  · rename_i hquote hbackslash
    split at hturn
    · exact absurd hturn refuse_ne_ok
    · obtain ⟨rfl, rfl⟩ := pure_eq_ok_iff.1 hturn
      obtain rfl := eq_cons_of_nextByte hnext
      intro _ _ ih hskipped
      cases hskipped with
      | close => exact absurd rfl hquote
      | escape => exact absurd rfl hbackslash
      | plain _ _ hrest => exact ih hrest

end Narrative.Json.Scan
