import Narrative.Proofs.Scene.Slots

/-!
# What fails when a scene is applied

The failures that are reported when a scene is applied are the loads that failed, in the order in
which they were tried (`failures_performed_apply`); that is the order of the slots, and each slot is
tried at most once (`slots_failures_apply`).
-/

namespace Narrative

/-- The loads among some calls that failed, each with its slot and its path. -/
def Call.failures (calls : List (Call × Bool)) : List (Slot × String) :=
  calls.filterMap fun
    | (.load slot path, false) => some (.image slot, path)
    | (.play path _, false) => some (.audio, path)
    | _ => none

@[simp] theorem Call.failures_append (calls calls' : List (Call × Bool)) :
    failures (calls ++ calls') = failures calls ++ failures calls' :=
  List.filterMap_append

/-- What a failure says about a load: its slot and its path. -/
def AssetFailure.load (f : AssetFailure) : Slot × String := (f.slot, f.path)

/-- Where each slot reports at most its own failure, the failures come in the order of the slots. -/
theorem Slot.map_slot_filterMap {result : Slot → Option AssetFailure}
    (hslot : ∀ slot f, result slot = some f → f.slot = slot) (slots : List Slot) :
    (slots.filterMap result).map AssetFailure.slot =
      slots.filter fun slot => (result slot).isSome := by
  induction slots with
  | nil => rfl
  | cons slot slots ih =>
      cases hresult : result slot with
      | none => simpa [hresult] using ih
      | some f => simpa [hresult, hslot slot f hresult] using ih

namespace Stage

variable {σ : Type} {m : Media σ} {s t : Stage σ} {result : Status × Option AssetFailure}
  {calls : List (Call × Bool)}

theorem ShowsImage.failures_eq {slot : ImageSlot} {path : String}
    (h : ShowsImage m slot path s result calls t) :
    Call.failures calls = (result.2.map AssetFailure.load).toList := by
  cases h <;> rfl

theorem PlaysCue.failures_eq {cue : Cue} (h : PlaysCue m cue s result calls t) :
    Call.failures calls = (result.2.map AssetFailure.load).toList := by
  cases h <;> rfl

theorem Applies.failures_eq {scene : Scene} {results : Slot → Status × Option AssetFailure}
    (h : Applies m scene s t results calls) :
    Call.failures calls =
      (Slot.all.filterMap fun slot => (results slot).2).map AssetFailure.load := by
  cases h with
  | slots hb hl hr ha =>
      simp only [Call.failures_append, hb.failures_eq, hl.failures_eq, hr.failures_eq,
        ha.failures_eq, Slot.filterMap_all, List.map_append, Option.toList_map]

/-- The failures reported are the loads that failed. -/
theorem failures_performed_apply (m : Media σ) (scene : Scene) (s : Stage σ) :
    Call.failures (Note.performed (s.apply m scene).notes) =
      (s.apply m scene).value.1.failures.map AssetFailure.load := by
  obtain ⟨results, happlies, hfailures, -⟩ := exists_applies m scene s
  rw [hfailures, happlies.failures_eq]

/-- Each slot is reported on at most once, in the order of the slots. -/
theorem slots_failures_apply (m : Media σ) (scene : Scene) (s : Stage σ) :
    List.Sublist ((s.apply m scene).value.1.failures.map AssetFailure.slot) Slot.all := by
  obtain ⟨results, happlies, hfailures, -⟩ := exists_applies m scene s
  rw [hfailures, Slot.map_slot_filterMap fun slot f hf => (happlies.of_failure hf).1]
  exact List.filter_sublist

theorem failures_performed_silence (m : Media σ) (s : Stage σ) :
    Call.failures (Note.performed (s.silence m).notes) = [] := by
  rw [performed_silence]
  rfl

end Stage

end Narrative
