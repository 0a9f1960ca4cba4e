import Mathlib.Logic.Relation
import Narrative.Script.Journey

/-!
# Passing on

A dialogue without lines passes a run on to the event behind it.  `PassesTo` is this one step.  A
journey takes it until it cannot be taken or has come back to a key: the journey touches exactly
the keys that passing on leads to (`mem_touched_journey_iff`), and its arrival says why it ends
(`arrives_journey`).
-/

namespace Narrative

namespace Script

open Relation

/-- Landing at a key passes the run on to another one. -/
def PassesTo (s : Script) (key next : String) : Prop := s.landing key = .passes (some next)

/-- A key that passing on comes back to. -/
def Circles (s : Script) (key : String) : Prop := TransGen s.PassesTo key key

theorem landing_eq_passes_iff {s : Script} {key : String} {next : Option String} :
    s.landing key = .passes next ↔
      ∃ d, s.node? key = some (.dialogue d) ∧ d.lines = [] ∧ s.successor? key d = next := by
  unfold landing
  cases hn : s.node? key with
  | none => simp
  | some n =>
      cases n with
      | malformed reason => simp
      | choice c => by_cases hc : c.options = [] <;> simp [hc]
      | dialogue d => cases hl : d.lines <;> simp [hl]

theorem passesTo_rightUnique (s : Script) : Relator.RightUnique s.PassesTo := by
  intro key a b ha hb
  have h : Landing.passes (some a) = .passes (some b) := ha.symm.trans hb
  simpa using h

/-- An event at which a run comes to rest, or breaks off at once. -/
inductive RestsAt (s : Script) (key : String) : Arrival → Prop
  | line {d : Dialogue} {first : Line} {others : List Line} :
      s.node? key = some (.dialogue d) → d.lines = first :: others →
        RestsAt s key (.line key first)
  | prompt {c : Choice} :
      s.node? key = some (.choice c) → c.options ≠ [] → RestsAt s key (.prompt key c)
  | undefined : s.node? key = none → RestsAt s key (.broken key .undefined)
  | malformed {reason : String} :
      s.node? key = some (.malformed reason) → RestsAt s key (.broken key (.malformed reason))
  | noOptions {c : Choice} :
      s.node? key = some (.choice c) → c.options = [] → RestsAt s key (.broken key .noOptions)

theorem restsAt_of_landing {s : Script} {key : String} {a : Arrival}
    (h : s.landing key = .rests a) : s.RestsAt key a := by
  unfold landing at h
  cases hn : s.node? key with
  | none =>
      simp only [hn, Landing.rests.injEq] at h
      exact h ▸ .undefined hn
  | some n =>
      cases n with
      | malformed reason =>
          simp only [hn, Landing.rests.injEq] at h
          exact h ▸ .malformed hn
      | choice c =>
          by_cases hc : c.options = []
          · simp only [hn, hc, if_true, Landing.rests.injEq] at h
            exact h ▸ .noOptions hn hc
          · simp only [hn, hc, if_false, Landing.rests.injEq] at h
            exact h ▸ .prompt hn hc
      | dialogue d =>
          cases hl : d.lines with
          | nil => simp [hn, hl] at h
          | cons first others =>
              simp only [hn, hl, Landing.rests.injEq] at h
              exact h ▸ .line hn hl

theorem landing_of_restsAt {s : Script} {key : String} {a : Arrival} (h : s.RestsAt key a) :
    s.landing key = .rests a := by
  cases h with
  | line hn hl => simp [landing, hn, hl]
  | prompt hn hc => simp [landing, hn, hc]
  | undefined hn => simp [landing, hn]
  | malformed hn => simp [landing, hn]
  | noOptions hn hc => simp [landing, hn, hc]

theorem landing_eq_rests_iff {s : Script} {key : String} {a : Arrival} :
    s.landing key = .rests a ↔ s.RestsAt key a :=
  ⟨restsAt_of_landing, landing_of_restsAt⟩

theorem RestsAt.event_eq {s : Script} {key : String} {a : Arrival} (h : s.RestsAt key a) :
    a.event = key := by
  cases h <;> rfl

theorem RestsAt.not_passesTo {s : Script} {key k : String} {a : Arrival} (h : s.RestsAt key a) :
    ¬s.PassesTo key k := by
  intro hk
  exact absurd ((landing_eq_rests_iff.2 h).symm.trans hk) (by simp)

theorem RestsAt.eq_of_passesTo {s : Script} {key k : String} {a : Arrival} (h : s.RestsAt key a)
    (hk : ReflTransGen s.PassesTo key k) : k = key := by
  rcases hk.cases_head with rfl | ⟨b, hb, _⟩
  · rfl
  · exact absurd hb h.not_passesTo

/-! ## The course of a journey -/

theorem journeyFrom_of_rests {s : Script} {key : String} {a : Arrival}
    (h : s.landing key = .rests a) (passed : List String) :
    s.journeyFrom passed key = ⟨[], a⟩ := by
  rw [journeyFrom]
  split
  · rename_i a' h'
    simp [Landing.rests.inj (h.symm.trans h')]
  · rename_i h'
    simp [h] at h'

theorem journeyFrom_of_passes {s : Script} {key : String} {next : Option String}
    (h : s.landing key = .passes next) (passed : List String) :
    s.journeyFrom passed key =
      if key ∈ passed then ⟨[key], .broken key .lineless⟩
      else
        match next with
        | none => ⟨[key], .finished key⟩
        | some k => (s.journeyFrom (key :: passed) k).behind key := by
  rw [journeyFrom]
  split
  · rename_i h'
    exact absurd (h.symm.trans h') (by simp)
  · rename_i next' h'
    obtain rfl : next = next' := Landing.passes.inj (h.symm.trans h')
    cases next <;> rfl

theorem journeyFrom_of_mem {s : Script} {key : String} {next : Option String}
    (h : s.landing key = .passes next) {passed : List String} (hp : key ∈ passed) :
    s.journeyFrom passed key = ⟨[key], .broken key .lineless⟩ := by
  rw [journeyFrom_of_passes h, if_pos hp]

theorem journeyFrom_of_passes_none {s : Script} {key : String}
    (h : s.landing key = .passes none) {passed : List String} (hp : key ∉ passed) :
    s.journeyFrom passed key = ⟨[key], .finished key⟩ := by
  rw [journeyFrom_of_passes h, if_neg hp]

theorem journeyFrom_of_passesTo {s : Script} {key k : String} (h : s.PassesTo key k)
    {passed : List String} (hp : key ∉ passed) :
    s.journeyFrom passed key = (s.journeyFrom (key :: passed) k).behind key := by
  rw [journeyFrom_of_passes h, if_neg hp]

@[simp] theorem touched_behind (key : String) (j : Journey) :
    (j.behind key).touched = key :: j.touched := rfl

@[simp] theorem arrival_behind (key : String) (j : Journey) :
    (j.behind key).arrival = j.arrival := rfl

/-- Why a journey ends where it does. -/
inductive Arrives (s : Script) (start : String) : Arrival → Prop
  | rests {key : String} {a : Arrival} :
      ReflTransGen s.PassesTo start key → s.RestsAt key a → Arrives s start a
  | finishes {key : String} :
      ReflTransGen s.PassesTo start key → s.landing key = .passes none →
        Arrives s start (.finished key)
  | circles {key : String} :
      ReflTransGen s.PassesTo start key → s.Circles key → Arrives s start (.broken key .lineless)

theorem Arrives.of_passesTo {s : Script} {key k : String} {a : Arrival} (h : s.PassesTo key k)
    (ha : s.Arrives k a) : s.Arrives key a := by
  cases ha with
  | rests hk hr => exact .rests (hk.head h) hr
  | finishes hk hn => exact .finishes (hk.head h) hn
  | circles hk hc => exact .circles (hk.head h) hc

/-- All keys passed over lead to the present one, so the first of them to be met again lies on a
circle. -/
theorem arrives_journeyFrom {s : Script} (passed : List String) (key : String) :
    (∀ k ∈ passed, TransGen s.PassesTo k key) →
      s.Arrives key (s.journeyFrom passed key).arrival := by
  induction passed, key using journeyFrom.induct s with
  | case1 passed key a h =>
      intro _
      rw [journeyFrom_of_rests h]
      exact .rests .refl (landing_eq_rests_iff.1 h)
  | case2 passed key next h hp =>
      intro hpassed
      rw [journeyFrom_of_mem h hp]
      exact .circles .refl (hpassed key hp)
  | case3 passed key hp h _ =>
      intro _
      rw [journeyFrom_of_passes_none h hp]
      exact .finishes .refl h
  | case4 passed key hp k h _ _ ih =>
      intro hpassed
      rw [journeyFrom_of_passesTo h hp, arrival_behind]
      refine Arrives.of_passesTo h (ih ?_)
      intro p hp'
      rcases List.mem_cons.1 hp' with rfl | hp'
      · exact .single h
      · exact (hpassed p hp').tail h

theorem arrives_journey (s : Script) (key : String) : s.Arrives key (s.journey key).arrival :=
  arrives_journeyFrom [] key (by simp)

/-- A journey touches only what passing on leads to. -/
theorem passesTo_of_mem_touched {s : Script} (passed : List String) (key : String) {k : String} :
    k ∈ (s.journeyFrom passed key).touched → ReflTransGen s.PassesTo key k := by
  induction passed, key using journeyFrom.induct s with
  | case1 passed key a h =>
      intro hk
      rw [journeyFrom_of_rests h] at hk
      have hk : k = a.event := by simpa [Journey.touched] using hk
      rw [hk, (landing_eq_rests_iff.1 h).event_eq]
  | case2 passed key next h hp =>
      intro hk
      rw [journeyFrom_of_mem h hp] at hk
      obtain rfl : k = key := by simpa [Journey.touched, Arrival.event] using hk
      exact .refl
  | case3 passed key hp h _ =>
      intro hk
      rw [journeyFrom_of_passes_none h hp] at hk
      obtain rfl : k = key := by simpa [Journey.touched, Arrival.event] using hk
      exact .refl
  | case4 passed key hp next h _ _ ih =>
      intro hk
      rw [journeyFrom_of_passesTo h hp, touched_behind] at hk
      rcases List.mem_cons.1 hk with rfl | hk
      · exact .refl
      · exact (ih hk).head h

theorem mem_touched_journeyFrom_self (s : Script) (passed : List String) (key : String) :
    key ∈ (s.journeyFrom passed key).touched := by
  cases h : s.landing key with
  | rests a =>
      rw [journeyFrom_of_rests h]
      simp [Journey.touched, (landing_eq_rests_iff.1 h).event_eq]
  | passes next =>
      by_cases hp : key ∈ passed
      · rw [journeyFrom_of_mem h hp]
        simp [Journey.touched]
      · cases next with
        | none =>
            rw [journeyFrom_of_passes_none h hp]
            simp [Journey.touched]
        | some k =>
            rw [journeyFrom_of_passesTo h hp]
            simp

/-- Where a journey breaks off, the keys passed over are closed under passing on. -/
theorem mem_passed_of_closed {s : Script} {passed : List String} {key k : String}
    (hclosed : ∀ a ∈ passed, ∀ b, s.PassesTo a b → b = key ∨ b ∈ passed) (hp : key ∈ passed)
    (hk : ReflTransGen s.PassesTo key k) : k ∈ passed := by
  induction hk with
  | refl => exact hp
  | tail _ hbc ih =>
      rcases hclosed _ ih _ hbc with rfl | hc
      · exact hp
      · exact hc

theorem closed_cons_of_passesTo {s : Script} {passed : List String} {key next : String}
    (hclosed : ∀ a ∈ passed, ∀ b, s.PassesTo a b → b = key ∨ b ∈ passed)
    (h : s.PassesTo key next) :
    ∀ a ∈ key :: passed, ∀ b, s.PassesTo a b → b = next ∨ b ∈ key :: passed := by
  intro a ha b hab
  rcases List.mem_cons.1 ha with rfl | ha
  · exact Or.inl (passesTo_rightUnique s hab h)
  · exact Or.inr (List.mem_cons.2 (hclosed a ha b hab))

/-- What passing on leads to is touched, or has been passed over before.  The keys passed over are
closed under passing on but for the present one, so nothing is lost where a journey breaks off. -/
theorem mem_touched_or_mem_passed {s : Script} (passed : List String) (key : String) {k : String} :
    (∀ a ∈ passed, ∀ b, s.PassesTo a b → b = key ∨ b ∈ passed) → ReflTransGen s.PassesTo key k →
      k ∈ (s.journeyFrom passed key).touched ∨ k ∈ passed := by
  induction passed, key using journeyFrom.induct s with
  | case1 passed key a h =>
      intro _ hk
      obtain rfl : k = key := (landing_eq_rests_iff.1 h).eq_of_passesTo hk
      exact Or.inl (mem_touched_journeyFrom_self s passed k)
  | case2 passed key next h hp =>
      intro hclosed hk
      exact Or.inr (mem_passed_of_closed hclosed hp hk)
  | case3 passed key hp h _ =>
      intro _ hk
      rcases hk.cases_head with rfl | ⟨b, hb, _⟩
      · exact Or.inl (mem_touched_journeyFrom_self s passed key)
      · exact absurd (h.symm.trans hb) (by simp)
  | case4 passed key hp next h _ _ ih =>
      intro hclosed hk
      rw [journeyFrom_of_passesTo h hp, touched_behind]
      rcases hk.cases_head with rfl | ⟨b, hb, hbk⟩
      · simp
      · obtain rfl : next = b := passesTo_rightUnique s h hb
        rcases ih (closed_cons_of_passesTo hclosed h) hbk with hk | hk
        · exact Or.inl (List.mem_cons_of_mem _ hk)
        · rcases List.mem_cons.1 hk with rfl | hk
          · simp
          · exact Or.inr hk

/-- A journey touches exactly the keys that passing on leads to. -/
theorem mem_touched_journey_iff {s : Script} {key k : String} :
    k ∈ (s.journey key).touched ↔ ReflTransGen s.PassesTo key k := by
  constructor
  · exact passesTo_of_mem_touched [] key
  · intro hk
    rcases mem_touched_or_mem_passed [] key (by simp) hk with h | h
    · exact h
    · exact absurd h (by simp)

/-! ## Circles -/

/-- Behind a circle there is nothing but the circle. -/
theorem Circles.of_passesTo {s : Script} {key k : String} (h : s.Circles key)
    (hk : ReflTransGen s.PassesTo key k) : s.Circles k := by
  induction hk with
  | refl => exact h
  | @tail b c _ hbc ih =>
      obtain ⟨c', hc', hb⟩ := TransGen.head'_iff.1 ih
      obtain rfl : c = c' := passesTo_rightUnique s hbc hc'
      exact TransGen.tail' hb hbc

end Script

end Narrative
