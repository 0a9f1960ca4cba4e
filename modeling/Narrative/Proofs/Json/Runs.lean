import Narrative.Json.Scan

/-!
# Runs of a scanner

A scanner that is made of two takes what the first one takes, and then what the second one takes of
the rest (`bind_eq_ok_iff`).  A loop that comes to an end has taken turns, each of which was the
last or handed on a state (`Runs`, `loop_induction`).  Two scanners agree where they take related
things and leave the same rest (`Agree`).
-/

namespace Narrative.Json.Scan

variable {α β γ δ σ : Type} {length : Nat} {text rest : Bytes} {cause : Cause}

theorem ok_unique {r : Except Fault (α × Bytes)} {a b : α} {rest' : Bytes}
    (h : r = .ok (a, rest)) (h' : r = .ok (b, rest')) : a = b ∧ rest = rest' :=
  Prod.mk.inj (Except.ok.inj (h.symm.trans h'))

theorem bind_eq_ok_iff {scan : Scan α} {next : α → Scan β} {b : β} :
    (scan >>= next) length text = .ok (b, rest) ↔
      ∃ a behind, scan length text = .ok (a, behind) ∧ next a length behind = .ok (b, rest) := by
  change (scan length text >>= fun r => next r.1 length r.2) = .ok (b, rest) ↔ _
  cases scan length text with
  | error fault => simp [bind, Except.bind]
  | ok r =>
      constructor
      · exact fun h => ⟨r.1, r.2, rfl, h⟩
      · rintro ⟨a, behind, hr, h⟩
        obtain rfl := Except.ok.inj hr
        exact h

theorem bind_congr_left {scan : Scan α} {next : α → Scan β} {text' : Bytes}
    (h : scan length text = scan length text') :
    (scan >>= next) length text = (scan >>= next) length text' := by
  change (scan length text >>= fun r => next r.1 length r.2) = _
  rw [h]
  rfl

theorem pure_eq_ok_iff {a b : α} :
    (pure a : Scan α) length text = .ok (b, rest) ↔ a = b ∧ text = rest := by
  change Except.ok (a, text) = .ok (b, rest) ↔ _
  simp

theorem skip_bind {next : Unit → Scan β} :
    (skip >>= next) length text = next () length text.tail := rfl

theorem refuse_ne_ok {b : α} : (refuse cause : Scan α) length text ≠ .ok (b, rest) := by
  simp [refuse]

theorem refuseNext_ne_ok {b : α} : (refuseNext cause : Scan α) length text ≠ .ok (b, rest) := by
  simp [refuseNext]

theorem refuseNext_bind_ne_ok {next : α → Scan β} {b : β} :
    (refuseNext cause >>= next) length text ≠ .ok (b, rest) := by
  rw [Ne, bind_eq_ok_iff]
  rintro ⟨a, behind, h, -⟩
  exact refuseNext_ne_ok h

/-! ## Loops -/

/-- The turns of a loop that comes to an end. -/
inductive Runs (turn : σ → Scan (Turn σ α)) (length : Nat) : σ → Bytes → α → Bytes → Prop
  | done {state : σ} {text rest : Bytes} {a : α} :
      turn state length text = .ok (.done a, rest) → Runs turn length state text a rest
  | again {state next : σ} {text behind rest : Bytes} {a : α} :
      turn state length text = .ok (.again next, behind) → Runs turn length next behind a rest →
        Runs turn length state text a rest

theorem runs_of_turns {turn : σ → Scan (Turn σ α)} {bound : Nat} {state : σ} {a : α}
    (h : turns turn bound state length text = .ok (a, rest)) :
    Runs turn length state text a rest := by
  induction bound generalizing state text with
  | zero => exact absurd h refuse_ne_ok
  | succ bound ih =>
      obtain ⟨t, behind, hturn, hnext⟩ := bind_eq_ok_iff.1 h
      cases t with
      | again next => exact .again hturn (ih hnext)
      | done a' =>
          obtain ⟨rfl, rfl⟩ := pure_eq_ok_iff.1 hnext
          exact .done hturn

/-- What a turn has to show of a loop: the property where it is the last, and else that the
property passes on from the run behind it. -/
def Turn.Carries (P : σ → Bytes → α → Bytes → Prop) (state : σ) (text behind : Bytes) :
    Turn σ α → Prop
  | .done a => P state text a behind
  | .again next => ∀ a rest, P next behind a rest → P state text a rest

theorem loop_induction {turn : σ → Scan (Turn σ α)} {P : σ → Bytes → α → Bytes → Prop}
    (hturn : ∀ state text t behind, turn state length text = .ok (t, behind) →
      t.Carries P state text behind)
    {state : σ} {a : α} (h : loop turn state length text = .ok (a, rest)) :
    P state text a rest := by
  have hruns : Runs turn length state text a rest := runs_of_turns h
  clear h
  induction hruns with
  | done hdone => exact hturn _ _ _ _ hdone
  | again hagain _ ih => exact hturn _ _ _ _ hagain _ _ ih

/-! ## Two scanners -/

/-- Where two scanners both come to an end, they leave the same rest, and what they take is
related. -/
def Agree (R : α → β → Prop) (scan : Scan α) (scan' : Scan β) : Prop :=
  ∀ ⦃length text a rest b rest'⦄, scan length text = .ok (a, rest) →
    scan' length text = .ok (b, rest') → R a b ∧ rest = rest'

section

variable {R : α → β → Prop} {Q : γ → δ → Prop}

theorem agree_self (scan : Scan α) : Agree Eq scan scan :=
  fun _ _ _ _ _ _ h h' => ok_unique h h'

theorem agree_refuse (cause : Cause) (scan : Scan β) : Agree R (refuse cause) scan :=
  fun _ _ _ _ _ _ h => absurd h refuse_ne_ok

theorem agree_refuseNext_bind_right (cause : Cause) (scan : Scan α) (next : γ → Scan β) :
    Agree R scan (refuseNext cause >>= next) :=
  fun _ _ _ _ _ _ _ h => absurd h refuseNext_bind_ne_ok

theorem agree_pure {a : α} {b : β} (h : R a b) : Agree R (pure a) (pure b) := by
  intro length text a' rest b' rest' ha hb
  obtain ⟨rfl, rfl⟩ := pure_eq_ok_iff.1 ha
  obtain ⟨rfl, rfl⟩ := pure_eq_ok_iff.1 hb
  exact ⟨h, rfl⟩

theorem agree_bind {scan : Scan α} {scan' : Scan β} {next : α → Scan γ} {next' : β → Scan δ}
    (h : Agree R scan scan') (hnext : ∀ a b, R a b → Agree Q (next a) (next' b)) :
    Agree Q (scan >>= next) (scan' >>= next') := by
  intro length text c rest d rest' hc hd
  obtain ⟨a, behind, ha, hc⟩ := bind_eq_ok_iff.1 hc
  obtain ⟨b, behind', hb, hd⟩ := bind_eq_ok_iff.1 hd
  obtain ⟨hab, rfl⟩ := h ha hb
  exact hnext a b hab hc hd

theorem agree_seq {scan : Scan α} {next : α → Scan γ} {next' : α → Scan δ}
    (h : ∀ a, Agree Q (next a) (next' a)) : Agree Q (scan >>= next) (scan >>= next') :=
  agree_bind (agree_self scan) fun a _ hab => hab ▸ h a

end

end Narrative.Json.Scan
