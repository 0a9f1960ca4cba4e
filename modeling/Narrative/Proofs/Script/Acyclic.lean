import Narrative.Proofs.Script.Reachability

/-!
# Acyclic scripts

A script is acyclic if no event leads back to itself, be it by order, by name or by an option.  No
journey of such a script runs into a circle (`Acyclic.arrival_ne_lineless`).  To number the events
so that each one goes to greater numbers is enough to see that a script is acyclic
(`acyclic_of_rank`).
-/

namespace Narrative.Script

open Relation

variable {s : Script}

/-- No event leads back to itself. -/
def Acyclic (s : Script) : Prop := ∀ key, ¬TransGen s.GoesTo key key

theorem acyclic_of_rank (rank : String → Nat)
    (h : ∀ key next, s.GoesTo key next → rank key < rank next) : s.Acyclic := by
  intro key hkey
  have hlt : TransGen (· < ·) (rank key) (rank key) := TransGen.lift rank h key key hkey
  rw [transGen_eq_self] at hlt
  exact Nat.lt_irrefl _ hlt

theorem Acyclic.not_circles (hs : s.Acyclic) (key : String) : ¬s.Circles key := by
  intro h
  exact hs key (TransGen.mono (fun _ _ => PassesTo.goesTo) key key h)

theorem Acyclic.arrival_ne_lineless (hs : s.Acyclic) (start key : String) :
    (s.journey start).arrival ≠ .broken key .lineless := by
  intro h
  have harrives := s.arrives_journey start
  rw [h] at harrives
  cases harrives with
  | circles _ hc => exact hs.not_circles key hc
  | rests _ hr => cases hr

end Narrative.Script
