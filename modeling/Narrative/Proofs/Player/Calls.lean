import Narrative.Proofs.Player.Rest
import Narrative.Proofs.Scene.Slots

/-!
# The calls of a step

On its way through a script a player only logs; the device is called where it comes to rest.  So an
accepted action makes the calls of its rest (`performed_step_of_takes`) and a refused one makes
none.
-/

namespace Narrative

namespace Player

variable {σ : Type} {m : Media σ} {p : Player σ}

theorem performed_arrive (m : Media σ) (a : Arrival) (p : Player σ) :
    Note.performed (p.arrive m a).notes = Note.performed (p.settle m a.rest).notes := by
  cases a <;> simp [arrive, Arrival.rest, Defect.rest, settle, fail]

theorem performed_take (m : Media σ) (course : Course) (p : Player σ) :
    Note.performed (p.take m course).notes =
      Note.performed (p.settle m (course.rest p.script)).notes := by
  cases course with
  | enter event =>
      have hpassed : Note.performed
          ((p.script.journey event).passed.map fun key => .log (passing key)) = [] := by
        simpa [Function.comp_def] using
          Note.performed_logs ((p.script.journey event).passed.map passing)
      simp [take, enter, Course.rest, hpassed, performed_arrive]
  | turn event index scene => rfl
  | complete => rfl
  | cancel => rfl
  | fail event defect => simp [take, fail, Course.rest, Defect.rest, settle]

theorem performed_step_of_refused {action : Action} {e : SignalError}
    (h : (p.script.course p.position action).value = .error e) :
    Note.performed (p.step m action).notes = [] := by
  simp [step, h]

theorem performed_step_of_takes {action : Action} {course : Course}
    (h : p.script.Takes p.position action course) :
    Note.performed (p.step m action).notes =
      Note.performed (p.settle m (course.rest p.script)).notes := by
  simp [step, Script.course_of_takes h, performed_take]

theorem performed_run_cons (m : Media σ) (p : Player σ) (action : Action)
    (actions : List Action) :
    Note.performed (p.run m (action :: actions)).notes =
      Note.performed (p.step m action).notes ++
        Note.performed ((p.step m action).value.2.run m actions).notes := by
  rw [notes_run_cons, Note.performed_append]

end Player

end Narrative
