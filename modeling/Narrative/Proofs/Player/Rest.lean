import Narrative.Player.Basic
import Narrative.Proofs.Player.Course

/-!
# Where a course leaves a run

A course leaves a run at a position in a scene, or at its end (`Rest`).  An accepted action does to
the player what its rest says and nothing else (`step_of_takes`), a refused one does nothing
(`step_of_refused`); the notes aside, that is all there is to a step.  A run is its steps, one after
the other.
-/

namespace Narrative

/-- Where a course leaves a run. -/
inductive Rest where
  | stands (position : Position) (scene : Scene)
  | ends (ending : Ending) (failure : Option ScriptFailure)

namespace Rest

def position : Rest → Position
  | .stands position _ => position
  | .ends .. => .terminated

def ending? : Rest → Option Ending
  | .stands .. => none
  | .ends ending _ => some ending

def failure? : Rest → Option ScriptFailure
  | .stands .. => none
  | .ends _ failure => failure

end Rest

/-- A run broken off at an event. -/
def Defect.rest (event : String) (defect : Defect) : Rest :=
  .ends .scriptError (some ⟨event, defect.reason⟩)

def Arrival.rest : Arrival → Rest
  | .line event first => .stands (.line event 0) first.scene
  | .prompt event choice => .stands (.prompt event) choice.scene
  | .finished _ => .ends .completed none
  | .broken event defect => defect.rest event

def Course.rest (s : Script) : Course → Rest
  | .enter event => (s.journey event).arrival.rest
  | .turn event index scene => .stands (.line event index) scene
  | .complete => .ends .completed none
  | .cancel => .ends .cancelled none
  | .fail event defect => defect.rest event

theorem Arrival.failure?_rest_iff (a : Arrival) :
    a.rest.failure?.isSome = true ↔ a.rest.ending? = some .scriptError := by
  cases a <;> simp [Arrival.rest, Defect.rest, Rest.ending?, Rest.failure?]

theorem Course.failure?_rest_iff (s : Script) (course : Course) :
    (course.rest s).failure?.isSome = true ↔ (course.rest s).ending? = some .scriptError := by
  cases course with
  | enter event => exact (s.journey event).arrival.failure?_rest_iff
  | _ => simp [Course.rest, Defect.rest, Rest.ending?, Rest.failure?]

theorem Arrival.ending?_rest_iff (a : Arrival) :
    a.rest.ending?.isSome = true ↔ a.rest.position = .terminated := by
  cases a <;> simp [Arrival.rest, Defect.rest, Rest.ending?, Rest.position]

theorem Course.ending?_rest_iff (s : Script) (course : Course) :
    (course.rest s).ending?.isSome = true ↔ (course.rest s).position = .terminated := by
  cases course with
  | enter event => exact (s.journey event).arrival.ending?_rest_iff
  | _ => simp [Course.rest, Defect.rest, Rest.ending?, Rest.position]

namespace Player

variable {σ : Type}

/-- Comes to rest. -/
def settle (m : Media σ) (r : Rest) (p : Player σ) : Noted Note (Progress × Player σ) :=
  match r with
  | .stands position scene => p.stand m position scene
  | .ends ending failure => p.finish m ending (failure.toList.map .script)

theorem value_arrive (m : Media σ) (a : Arrival) (p : Player σ) :
    (p.arrive m a).value = (p.settle m a.rest).value := by
  cases a <;> rfl

theorem value_take (m : Media σ) (course : Course) (p : Player σ) :
    (p.take m course).value = (p.settle m (course.rest p.script)).value := by
  cases course with
  | enter event => exact value_arrive m (p.script.journey event).arrival p
  | turn event index scene => rfl
  | complete => rfl
  | cancel => rfl
  | fail event defect => rfl

/-! ## One step -/

theorem step_of_refused {m : Media σ} {p : Player σ} {action : Action} {e : SignalError}
    (h : (p.script.course p.position action).value = .error e) :
    (p.step m action).value = (.error e, p) := by
  simp [step, h]

/-- A player that is over refuses every action. -/
theorem course_of_terminated {p : Player σ} (hp : p.position = .terminated) (action : Action) :
    (p.script.course p.position action).value = .error .terminated := by
  rw [hp]
  rfl

theorem step_of_terminated {p : Player σ} (hp : p.position = .terminated) (m : Media σ)
    (action : Action) : (p.step m action).value = (.error .terminated, p) :=
  step_of_refused (course_of_terminated hp action)

theorem step_of_takes {m : Media σ} {p : Player σ} {action : Action} {course : Course}
    (h : p.script.Takes p.position action course) :
    (p.step m action).value =
      (.ok (p.settle m (course.rest p.script)).value.1,
        (p.settle m (course.rest p.script)).value.2) := by
  simp [step, Script.course_of_takes h, value_take]

theorem step_cases (m : Media σ) (p : Player σ) (action : Action) :
    (∃ e, (p.script.course p.position action).value = .error e ∧
      (p.step m action).value = (.error e, p)) ∨
    ∃ course, p.script.Takes p.position action course ∧
      (p.step m action).value =
        (.ok (p.settle m (course.rest p.script)).value.1,
          (p.settle m (course.rest p.script)).value.2) := by
  cases h : (p.script.course p.position action).value with
  | error e => exact Or.inl ⟨e, rfl, step_of_refused h⟩
  | ok course =>
      have ht := Script.course_eq_ok_iff.1 h
      exact Or.inr ⟨course, ht, step_of_takes ht⟩

@[simp] theorem settle_script (m : Media σ) (r : Rest) (p : Player σ) :
    (p.settle m r).value.2.script = p.script := by
  cases r <;> rfl

@[simp] theorem settle_position (m : Media σ) (r : Rest) (p : Player σ) :
    (p.settle m r).value.2.position = r.position := by
  cases r <;> rfl

theorem settle_ending (m : Media σ) (r : Rest) (p : Player σ) :
    (p.settle m r).value.2.ending = r.ending?.or p.ending := by
  cases r <;> rfl

theorem script_mem_diagnostics_settle {m : Media σ} {r : Rest} {p : Player σ}
    {f : ScriptFailure} :
    .script f ∈ (p.settle m r).value.1.diagnostics ↔ r.failure? = some f := by
  cases r with
  | stands position scene => simp [settle, stand, Rest.failure?]
  | ends ending failure => cases failure <;> simp [settle, finish, Rest.failure?, eq_comm]

@[simp] theorem step_script (m : Media σ) (p : Player σ) (action : Action) :
    (p.step m action).value.2.script = p.script := by
  rcases step_cases m p action with ⟨e, -, h⟩ | ⟨course, -, h⟩ <;> simp [h]

/-! ## Runs -/

@[simp] theorem run_nil (m : Media σ) (p : Player σ) : (p.run m []).value = ([], p) := rfl

theorem run_cons (m : Media σ) (p : Player σ) (action : Action) (actions : List Action) :
    (p.run m (action :: actions)).value =
      ((p.step m action).value.1 :: ((p.step m action).value.2.run m actions).value.1,
        ((p.step m action).value.2.run m actions).value.2) := rfl

theorem notes_run_cons (m : Media σ) (p : Player σ) (action : Action) (actions : List Action) :
    (p.run m (action :: actions)).notes =
      (p.step m action).notes ++ ((p.step m action).value.2.run m actions).notes := by
  simp [run]

theorem run_append (m : Media σ) (p : Player σ) (before actions : List Action) :
    (p.run m (before ++ actions)).value =
      ((p.run m before).value.1 ++ ((p.run m before).value.2.run m actions).value.1,
        ((p.run m before).value.2.run m actions).value.2) := by
  induction before generalizing p with
  | nil => rfl
  | cons action before ih => simp [run_cons, ih]

theorem run_concat (m : Media σ) (p : Player σ) (before : List Action) (action : Action) :
    (p.run m (before ++ [action])).value.2 =
      ((p.run m before).value.2.step m action).value.2 := by
  rw [run_append]
  rfl

/-- An answer of a run is the answer of one of its steps. -/
theorem exists_step_of_mem_run {m : Media σ} {p : Player σ} {actions : List Action}
    {answer : Except SignalError Progress} (h : answer ∈ (p.run m actions).value.1) :
    ∃ before action, before ++ [action] <+: actions ∧
      answer = ((p.run m before).value.2.step m action).value.1 := by
  induction actions generalizing p with
  | nil => simp at h
  | cons action actions ih =>
      rw [run_cons] at h
      rcases List.mem_cons.1 h with rfl | h
      · exact ⟨[], action, by simp, rfl⟩
      · obtain ⟨before, a, hprefix, ha⟩ := ih h
        exact ⟨action :: before, a, by simpa using hprefix, ha⟩

/-- What the steps of a run keep, the run keeps. -/
theorem run_induction {m : Media σ} {P : Player σ → Prop}
    (hP : ∀ p action, P p → P (p.step m action).value.2) {p : Player σ} (hp : P p)
    (actions : List Action) : P (p.run m actions).value.2 := by
  induction actions generalizing p with
  | nil => exact hp
  | cons action actions ih => exact ih (hP p action hp)

@[simp] theorem run_script (m : Media σ) (p : Player σ) (actions : List Action) :
    (p.run m actions).value.2.script = p.script :=
  run_induction (P := fun q => q.script = p.script) (fun q action hq => by simpa using hq) rfl
    actions

end Player

end Narrative
