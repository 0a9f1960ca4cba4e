import Narrative.Proofs.Player.Calls
import Narrative.Proofs.Scene.Renderer

/-!
# The renderer of a run

A renderer that only follows the calls of a run shows, after each action, the scene that the player
holds for shown, whatever failed on the way (`renderer_follows_run`).  Each step keeps this for
itself (`step_renders`); that nothing plays at the end of a run is an invariant of the player alone.
-/

namespace Narrative

namespace Player

variable {σ : Type} {m : Media σ} {p : Player σ}

theorem settle_renders (m : Media σ) (r : Rest) (p : Player σ) :
    Renders p.stage.shown (p.settle m r).value.2.stage.shown
      (Note.performed (p.settle m r).notes) := by
  cases r with
  | stands position scene => simpa [settle, stand] using Stage.renders_apply m scene p.stage
  | ends ending failure => simpa [settle, finish] using Stage.renders_silence m p.stage

theorem step_renders (m : Media σ) (p : Player σ) (action : Action) :
    Renders p.stage.shown (p.step m action).value.2.stage.shown
      (Note.performed (p.step m action).notes) := by
  rcases step_cases m p action with ⟨e, he, hstep⟩ | ⟨course, ht, hstep⟩
  · rw [hstep, performed_step_of_refused he]
    exact .refl _
  · rw [hstep, performed_step_of_takes ht]
    exact settle_renders m _ p

theorem run_renders (m : Media σ) (p : Player σ) (actions : List Action) :
    Renders p.stage.shown (p.run m actions).value.2.stage.shown
      (Note.performed (p.run m actions).notes) := by
  induction actions generalizing p with
  | nil => exact .refl _
  | cons action actions ih =>
      rw [performed_run_cons, run_cons]
      exact (step_renders m p action).trans (ih _)

/-- A player that is over holds no music for playing. -/
def SilentAtEnd (p : Player σ) : Prop :=
  p.position = .terminated → p.stage.shown.audio = .silence

theorem SilentAtEnd.step (h : p.SilentAtEnd) (m : Media σ) (action : Action) :
    (p.step m action).value.2.SilentAtEnd := by
  rcases step_cases m p action with ⟨e, -, hstep⟩ | ⟨course, -, hstep⟩
  · rwa [hstep]
  · rw [hstep]
    intro hposition
    have hending := (course.ending?_rest_iff p.script).2 (by simpa using hposition)
    cases hrest : course.rest p.script with
    | stands position scene => simp [hrest, Rest.ending?] at hending
    | ends ending failure => simp [settle, finish]

theorem silentAtEnd_run (m : Media σ) (s : Script) (device : σ) (actions : List Action) :
    ((ofScript s device).run m actions).value.2.SilentAtEnd :=
  run_induction (fun _ action h => h.step m action) (by simp [SilentAtEnd, ofScript]) actions

/-- After every run, whatever failed to load, a renderer that follows the calls shows in each place
the picture that the player holds for shown, and plays exactly the cue that it holds for playing.
Music was only ever played while the renderer played nothing, and at the end of a run nothing
plays. -/
theorem renderer_follows_run (m : Media σ) (s : Script) (device : σ) (actions : List Action) :
    let run := (ofScript s device).run m actions
    let renderer := ({} : Renderer).after (Note.performed run.notes)
    (∀ slot, renderer.picture slot = run.value.2.stage.shown.image? slot) ∧
    renderer.playing = run.value.2.stage.shown.cue? ∧
    ({} : Renderer).PlaysInSilence (Note.performed run.notes) ∧
    (run.value.2.position = .terminated → renderer.playing = none) := by
  intro run renderer
  have hrenders : Renders {} run.value.2.stage.shown (Note.performed run.notes) :=
    run_renders m (ofScript s device) actions
  have hrenderer : renderer = .ofScene run.value.2.stage.shown := by
    rw [← hrenders.after_eq, Renderer.ofScene_empty]
  refine ⟨fun slot => ?_, ?_, ?_, fun hposition => ?_⟩
  · rw [hrenderer]
    rfl
  · rw [hrenderer]
    rfl
  · rw [← Renderer.ofScene_empty]
    exact hrenders.playsInSilence
  · have hsilence := silentAtEnd_run m s device actions hposition
    rw [hrenderer]
    simp [Renderer.ofScene, Scene.cue?, run, hsilence, Cue.silence]

end Player

end Narrative
