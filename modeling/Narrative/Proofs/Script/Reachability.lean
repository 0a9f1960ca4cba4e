import Narrative.Proofs.Script.Passing
import Narrative.Script.Reach

/-!
# Reachability

`GoesTo` is one step of a run from event to event, to a defined event or not.  The search for the
reachable events finds exactly the defined events that such steps lead to from the first one
(`mem_reachable_iff`).
-/

namespace Narrative

namespace Script

open Relation

/-- A run may go from an event to another: behind a dialogue, or by an option of a choice. -/
inductive GoesTo (s : Script) (key next : String) : Prop
  | dialogue {d : Dialogue} :
      s.node? key = some (.dialogue d) → s.successor? key d = some next → GoesTo s key next
  | choice {c : Choice} {o : ChoiceOption} :
      s.node? key = some (.choice c) → o ∈ c.options → o.target = some next → GoesTo s key next

/-- A run may go from an event to another one that is defined. -/
def LeadsTo (s : Script) (key next : String) : Prop := s.GoesTo key next ∧ s.defines next = true

/-- The first event and all that it leads to. -/
def Reached (s : Script) (key : String) : Prop :=
  ∃ first, s.first? = some first ∧ ReflTransGen s.LeadsTo first key

theorem PassesTo.goesTo {s : Script} {key next : String} (h : s.PassesTo key next) :
    s.GoesTo key next := by
  obtain ⟨d, hn, _, hd⟩ := landing_eq_passes_iff.1 h
  exact .dialogue hn hd

theorem Reached.leadsTo {s : Script} {key next : String} (h : s.Reached key)
    (hn : s.LeadsTo key next) : s.Reached next := by
  obtain ⟨first, hf, hr⟩ := h
  exact ⟨first, hf, hr.tail hn⟩

theorem mem_successors_iff {s : Script} {key next : String} :
    next ∈ s.successors key ↔ s.LeadsTo key next := by
  unfold successors LeadsTo
  rw [List.mem_filter]
  refine and_congr ?_ Iff.rfl
  cases hn : s.node? key with
  | none =>
      refine ⟨fun h => absurd h (by simp), fun h => ?_⟩
      cases h <;> simp_all
  | some n =>
      cases n with
      | malformed reason =>
          refine ⟨fun h => absurd h (by simp), fun h => ?_⟩
          cases h <;> simp_all
      | dialogue d =>
          constructor
          · intro h
            exact .dialogue hn (by simpa using h)
          · intro h
            cases h with
            | @dialogue d' hn' hd =>
                obtain rfl : d = d' := by simpa [hn] using hn'
                simpa using hd
            | choice hn' _ _ => simp [hn] at hn'
      | choice c =>
          constructor
          · intro h
            obtain ⟨o, ho, ht⟩ := List.mem_filterMap.1 h
            exact .choice hn ho ht
          · intro h
            cases h with
            | dialogue hn' _ => simp [hn] at hn'
            | @choice c' o hn' ho ht =>
                obtain rfl : c = c' := by simpa [hn] using hn'
                exact List.mem_filterMap.2 ⟨o, ho, ht⟩

/-! ## The search -/

theorem reachFrom_nil (s : Script) (seen : List String) : s.reachFrom seen [] = seen := by
  rw [reachFrom]

theorem reachFrom_cons_of_mem {s : Script} {seen waiting : List String} {key : String}
    (h : key ∈ seen) : s.reachFrom seen (key :: waiting) = s.reachFrom seen waiting := by
  rw [reachFrom, if_pos h]

theorem reachFrom_cons_of_not_mem {s : Script} {seen waiting : List String} {key : String}
    (h : key ∉ seen) :
    s.reachFrom seen (key :: waiting) =
      s.reachFrom (key :: seen) (waiting ++ s.successors key) := by
  rw [reachFrom, if_neg h]

theorem mem_reachFrom_of_mem {s : Script} (seen waiting : List String) {k : String} :
    k ∈ seen ∨ k ∈ waiting → k ∈ s.reachFrom seen waiting := by
  induction seen, waiting using reachFrom.induct s with
  | case1 seen =>
      intro h
      rw [reachFrom_nil]
      simpa using h
  | case2 seen key waiting hs ih =>
      intro h
      rw [reachFrom_cons_of_mem hs]
      rcases h with h | h
      · exact ih (Or.inl h)
      · rcases List.mem_cons.1 h with rfl | h
        · exact ih (Or.inl hs)
        · exact ih (Or.inr h)
  | case3 seen key waiting hs ih =>
      intro h
      rw [reachFrom_cons_of_not_mem hs]
      rcases h with h | h
      · exact ih (Or.inl (List.mem_cons_of_mem _ h))
      · rcases List.mem_cons.1 h with rfl | h
        · exact ih (Or.inl List.mem_cons_self)
        · exact ih (Or.inr (List.mem_append_left _ h))

/-- What is found has a property that the keys to start with have and that steps keep. -/
theorem of_mem_reachFrom {s : Script} {P : String → Prop}
    (hP : ∀ a b, P a → s.LeadsTo a b → P b) (seen waiting : List String) :
    (∀ k ∈ seen, P k) → (∀ k ∈ waiting, P k) → ∀ k ∈ s.reachFrom seen waiting, P k := by
  induction seen, waiting using reachFrom.induct s with
  | case1 seen =>
      intro hseen _
      rwa [reachFrom_nil]
  | case2 seen key waiting hs ih =>
      intro hseen hwaiting
      rw [reachFrom_cons_of_mem hs]
      exact ih hseen fun k hk => hwaiting k (List.mem_cons_of_mem _ hk)
  | case3 seen key waiting hs ih =>
      intro hseen hwaiting
      rw [reachFrom_cons_of_not_mem hs]
      have hkey : P key := hwaiting key List.mem_cons_self
      refine ih (List.forall_mem_cons.2 ⟨hkey, hseen⟩) fun k hk => ?_
      rcases List.mem_append.1 hk with hk | hk
      · exact hwaiting k (List.mem_cons_of_mem _ hk)
      · exact hP key k hkey (mem_successors_iff.1 hk)

/-- The search ends with a closed set: whatever a key that has been seen leads to has been seen as
well, or waits. -/
theorem reachFrom_closed {s : Script} (seen waiting : List String) :
    (∀ a ∈ seen, ∀ b, s.LeadsTo a b → b ∈ seen ∨ b ∈ waiting) →
      ∀ a ∈ s.reachFrom seen waiting, ∀ b, s.LeadsTo a b → b ∈ s.reachFrom seen waiting := by
  induction seen, waiting using reachFrom.induct s with
  | case1 seen =>
      intro hclosed
      rw [reachFrom_nil]
      simpa using hclosed
  | case2 seen key waiting hs ih =>
      intro hclosed
      rw [reachFrom_cons_of_mem hs]
      refine ih fun a ha b hab => ?_
      rcases hclosed a ha b hab with hb | hb
      · exact Or.inl hb
      · rcases List.mem_cons.1 hb with rfl | hb
        · exact Or.inl hs
        · exact Or.inr hb
  | case3 seen key waiting hs ih =>
      intro hclosed
      rw [reachFrom_cons_of_not_mem hs]
      refine ih fun a ha b hab => ?_
      rcases List.mem_cons.1 ha with rfl | ha
      · exact Or.inr (List.mem_append_right _ (mem_successors_iff.2 hab))
      · rcases hclosed a ha b hab with hb | hb
        · exact Or.inl (List.mem_cons_of_mem _ hb)
        · rcases List.mem_cons.1 hb with rfl | hb
          · exact Or.inl List.mem_cons_self
          · exact Or.inr (List.mem_append_left _ hb)

/-- The search finds the first event and all that it leads to, and nothing else. -/
theorem mem_reachable_iff {s : Script} {key : String} : key ∈ s.reachable ↔ s.Reached key := by
  unfold reachable
  constructor
  · refine of_mem_reachFrom (fun a b => Reached.leadsTo) [] _ (by simp) (fun k hk => ?_) key
    exact ⟨k, by simpa using hk, .refl⟩
  · rintro ⟨first, hf, hr⟩
    have hfirst : first ∈ s.reachFrom [] s.first?.toList :=
      mem_reachFrom_of_mem [] _ (Or.inr (by simp [hf]))
    induction hr with
    | refl => exact hfirst
    | tail _ hbc ih => exact reachFrom_closed [] _ (by simp) _ ih _ hbc

end Script

end Narrative
