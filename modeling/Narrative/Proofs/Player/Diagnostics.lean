import Narrative.Proofs.Player.Calls
import Narrative.Proofs.Player.Sound
import Narrative.Proofs.Scene.Failures
import Narrative.Scene.Headless

/-!
# Diagnostics of accepted actions

The diagnostics of an accepted action say how it went (`Diagnosed`): the one reason for which the
run broke off, or what failed to load where it came to rest, and never both.  A run breaks off at
most once, and after that it accepts nothing (`diagnostics_of_reachable`).
-/

namespace Narrative

/-- The reasons among some diagnostics for which a run broke off. -/
def Diagnostic.scripts (ds : List Diagnostic) : List ScriptFailure :=
  ds.filterMap fun
    | .asset _ => none
    | .script f => some f

@[simp] theorem Diagnostic.scripts_nil : scripts [] = [] := rfl

@[simp] theorem Diagnostic.scripts_map_asset (failures : List AssetFailure) :
    scripts (failures.map .asset) = [] := by
  simp [scripts]

/-- How an action went, by the ending that it brings and the loads that failed, and the diagnostics
that say so. -/
inductive Diagnosed : Option Ending → List (Slot × String) → List Diagnostic → Prop
  | rests {failures : List AssetFailure} :
      List.Sublist (failures.map AssetFailure.slot) Slot.all →
        Diagnosed none (failures.map AssetFailure.load) (failures.map .asset)
  | completes : Diagnosed (some .completed) [] []
  | cancels : Diagnosed (some .cancelled) [] []
  | breaks (f : ScriptFailure) : Diagnosed (some .scriptError) [] [.script f]

namespace Diagnosed

variable {ending : Option Ending} {failed : List (Slot × String)} {ds : List Diagnostic}

theorem ending_eq_scriptError_iff (h : Diagnosed ending failed ds) :
    ending = some .scriptError ↔ ∃ f, .script f ∈ ds := by
  cases h <;> simp

theorem eq_singleton (h : Diagnosed ending failed ds) {f : ScriptFailure} (hf : .script f ∈ ds) :
    ds = [.script f] := by
  cases h with
  | rests => simp at hf
  | completes => simp at hf
  | cancels => simp at hf
  | breaks g => rw [List.mem_singleton.1 hf]

theorem eq_nil (h : Diagnosed ending failed ds)
    (hending : ending = some .completed ∨ ending = some .cancelled) : ds = [] := by
  cases h with
  | completes => rfl
  | cancels => rfl
  | _ => simp at hending

theorem exists_failures (h : Diagnosed ending failed ds) (hending : ending = none) :
    ∃ failures : List AssetFailure, ds = failures.map .asset ∧
      List.Sublist (failures.map AssetFailure.slot) Slot.all ∧
      failures.map AssetFailure.load = failed := by
  cases h with
  | rests hslots => exact ⟨_, rfl, hslots, rfl⟩
  | _ => cases hending

theorem scripts_eq_nil (h : Diagnosed ending failed ds) (hending : ending ≠ some .scriptError) :
    Diagnostic.scripts ds = [] := by
  cases h with
  | rests => exact Diagnostic.scripts_map_asset _
  | completes => rfl
  | cancels => rfl
  | breaks => exact absurd rfl hending

end Diagnosed

namespace Player

variable {σ : Type} {m : Media σ} {s : Script} {p q : Player σ}

/-- The reasons among some answers for which a run broke off. -/
def breaks (answers : List (Except SignalError Progress)) : List ScriptFailure :=
  answers.flatMap fun
    | .ok progress => Diagnostic.scripts progress.diagnostics
    | .error _ => []

@[simp] theorem breaks_cons_ok (progress : Progress)
    (answers : List (Except SignalError Progress)) :
    breaks (.ok progress :: answers) =
      Diagnostic.scripts progress.diagnostics ++ breaks answers := rfl

@[simp] theorem breaks_cons_error (e : SignalError)
    (answers : List (Except SignalError Progress)) :
    breaks (.error e :: answers) = breaks answers := rfl

/-- Where a rest gives a reason exactly if it breaks the run off, the diagnostics say so. -/
theorem diagnosed_settle {r : Rest}
    (hr : r.failure?.isSome = true ↔ r.ending? = some .scriptError) :
    Diagnosed r.ending? (Call.failures (Note.performed (p.settle m r).notes))
      (p.settle m r).value.1.diagnostics := by
  cases r with
  | stands position scene =>
      have hfailed : Call.failures (Note.performed (p.settle m (.stands position scene)).notes) =
          (p.stage.apply m scene).value.1.failures.map AssetFailure.load := by
        simpa [settle, stand] using Stage.failures_performed_apply m scene p.stage
      rw [hfailed]
      exact .rests (Stage.slots_failures_apply m scene p.stage)
  | ends ending failure =>
      have hfailed : Call.failures (Note.performed (p.settle m (.ends ending failure)).notes) =
          [] := by
        simpa [settle, finish] using Stage.failures_performed_silence m p.stage
      rw [hfailed]
      cases failure with
      | some f =>
          obtain rfl : ending = .scriptError := Option.some.inj (hr.1 rfl)
          exact .breaks f
      | none =>
          cases ending with
          | completed => exact .completes
          | cancelled => exact .cancels
          | scriptError => exact absurd (hr.2 rfl) (by simp [Rest.failure?])

/-- The diagnostics of an accepted action of a sound player say how it went. -/
theorem Sound.diagnosed (h : p.Sound) {action : Action} {progress : Progress}
    (hstep : (p.step m action).value = (.ok progress, q)) :
    Diagnosed q.ending (Call.failures (Note.performed (p.step m action).notes))
      progress.diagnostics := by
  rcases step_cases m p action with ⟨e, -, hvalue⟩ | ⟨course, ht, hvalue⟩
  · rw [hvalue] at hstep
    cases hstep
  · have hnone : p.ending = none := by
      by_contra hsome
      exact ht.position_ne (h.ending_iff.1 (Option.isSome_iff_ne_none.2 hsome))
    rw [hvalue] at hstep
    cases hstep
    rw [performed_step_of_takes ht, settle_ending, hnone, Option.or_none]
    exact diagnosed_settle (course.failure?_rest_iff p.script)

/-! ## Runs -/

/-- A player that is over refuses every action. -/
theorem run_of_terminated (hp : p.position = .terminated) {actions : List Action}
    {answer : Except SignalError Progress} (h : answer ∈ (p.run m actions).value.1) :
    answer = .error .terminated := by
  induction actions with
  | nil => simp at h
  | cons action actions ih =>
      rw [run_cons, step_of_terminated hp] at h
      rcases List.mem_cons.1 h with rfl | h
      · rfl
      · exact ih h

theorem breaks_of_terminated (hp : p.position = .terminated) (actions : List Action) :
    breaks (p.run m actions).value.1 = [] := by
  refine List.flatMap_eq_nil_iff.2 fun answer ha => ?_
  rw [run_of_terminated hp ha]

/-- A sound player that has broken off is over. -/
theorem Sound.terminated_of_script (h : p.Sound) {action : Action} {progress : Progress}
    {f : ScriptFailure} (hstep : (p.step m action).value = (.ok progress, q))
    (hf : .script f ∈ progress.diagnostics) : q.position = .terminated := by
  have hending := (h.diagnosed hstep).ending_eq_scriptError_iff.2 ⟨f, hf⟩
  exact (h.of_step_eq hstep).ending_iff.1 (by rw [hending]; rfl)

theorem Sound.length_breaks_le (h : p.Sound) (actions : List Action) :
    (breaks (p.run m actions).value.1).length ≤ 1 := by
  induction actions generalizing p with
  | nil => exact Nat.zero_le 1
  | cons action actions ih =>
      have hnext := ih (h.step m action)
      rw [run_cons]
      cases hstep : (p.step m action).value with
      | mk answer q =>
          rw [hstep] at hnext
          cases answer with
          | error e => exact hnext
          | ok progress =>
              have hdiagnosed := h.diagnosed hstep
              by_cases hending : q.ending = some .scriptError
              · obtain ⟨f, hf⟩ := hdiagnosed.ending_eq_scriptError_iff.1 hending
                have hover := h.terminated_of_script hstep hf
                simp [hdiagnosed.eq_singleton hf, breaks_of_terminated hover, Diagnostic.scripts]
              · simpa [hdiagnosed.scripts_eq_nil hending] using hnext

/-- Once a run has broken off, it accepts nothing any more. -/
theorem Sound.refused_of_script (h : p.Sound) {actions : List Action}
    {before after : List (Except SignalError Progress)} {progress : Progress} {f : ScriptFailure}
    (hrun : (p.run m actions).value.1 = before ++ .ok progress :: after)
    (hf : .script f ∈ progress.diagnostics) : ∀ answer ∈ after, answer = .error .terminated := by
  induction actions generalizing p before with
  | nil => simp at hrun
  | cons action actions ih =>
      rw [run_cons] at hrun
      cases before with
      | nil =>
          obtain ⟨hanswer, rfl⟩ := List.cons.inj hrun
          intro answer ha
          exact run_of_terminated (h.terminated_of_script (Prod.ext hanswer rfl) hf) ha
      | cons first before => exact ih (h.step m action) (List.cons.inj hrun).2

/-- The diagnostics of the actions that a player accepts, and of its runs.  An accepted action
breaks the run off exactly if a reason for this is among its diagnostics, which then is the only
one; it ends the run otherwise without any; and else they are the loads that failed, each slot at
most once and in order.  A run breaks off at most once, and accepts nothing after it. -/
theorem diagnostics_of_reachable (h : Reachable m s p) :
    (∀ action progress q, (p.step m action).value = (.ok progress, q) →
      (q.ending = some .scriptError ↔ ∃ f, .script f ∈ progress.diagnostics) ∧
      (∀ f, .script f ∈ progress.diagnostics → progress.diagnostics = [.script f]) ∧
      (q.ending = some .completed ∨ q.ending = some .cancelled → progress.diagnostics = []) ∧
      (q.ending = none → ∃ failures : List AssetFailure,
        progress.diagnostics = failures.map .asset ∧
        List.Sublist (failures.map AssetFailure.slot) Slot.all ∧
        failures.map AssetFailure.load =
          Call.failures (Note.performed (p.step m action).notes))) ∧
    ∀ actions, (breaks (p.run m actions).value.1).length ≤ 1 ∧
      ∀ before progress after f, (p.run m actions).value.1 = before ++ .ok progress :: after →
        .script f ∈ progress.diagnostics → ∀ answer ∈ after, answer = .error .terminated := by
  refine ⟨fun action progress q hstep => ?_, fun actions => ⟨h.sound.length_breaks_le actions, ?_⟩⟩
  · have hdiagnosed := h.sound.diagnosed hstep
    exact ⟨hdiagnosed.ending_eq_scriptError_iff, fun f hf => hdiagnosed.eq_singleton hf,
      hdiagnosed.eq_nil, hdiagnosed.exists_failures⟩
  · intro before progress after f hrun hf
    exact h.sound.refused_of_script hrun hf

/-- A line that asks for a picture and for music, and goes on to an event that is not defined. -/
def attic : Script :=
  .ofEntries [("hall", .dialogue {
    lines := [{ scene := { left := "aoi.png", audio := ⟨"rain.ogg", true⟩ } }]
    next := some "attic" })]

/-- The player of `attic` on a device that has neither the picture nor the music. -/
def groping : Player Headless := ofScript attic { missing := ["aoi.png", "rain.ogg"] }

theorem diagnostics_groping :
    Reachable Headless.media attic groping ∧
      Call.failures (Note.performed (groping.step Headless.media .start).notes) =
        [(.image .left, "aoi.png"), (.audio, "rain.ogg")] ∧
      (breaks (groping.run Headless.media [.start, .advance, .advance]).value.1).length ≤ 1 := by
  have hreachable : Reachable Headless.media attic groping :=
    .fresh ({ missing := ["aoi.png", "rain.ogg"] } : Headless)
  have h := diagnostics_of_reachable hreachable
  have hstep : (groping.step Headless.media .start).value.1 = .ok ⟨.line "hall" 0,
      [.asset ⟨.image .left, "aoi.png", "asset not found: aoi.png"⟩,
        .asset ⟨.audio, "rain.ogg", "asset not found: rain.ogg"⟩]⟩ := by decide +kernel
  obtain ⟨-, -, -, hrests⟩ := h.1 _ _ _ (Prod.ext hstep rfl)
  obtain ⟨failures, hfailures, -, hloads⟩ := hrests (by decide +kernel)
  have hpair : failures = [⟨.image .left, "aoi.png", "asset not found: aoi.png"⟩,
      ⟨.audio, "rain.ogg", "asset not found: rain.ogg"⟩] :=
    List.map_injective_iff.2 (fun _ _ => Diagnostic.asset.inj) hfailures.symm
  exact ⟨hreachable, by rw [← hloads, hpair]; rfl, (h.2 _).1⟩

end Player

end Narrative
