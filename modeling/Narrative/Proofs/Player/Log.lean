import Narrative.Disk.Answers
import Narrative.Proofs.Player.Bound
import Narrative.Proofs.Player.Diagnostics
import Narrative.Proofs.Scene.Alarms

/-!
# The log of a run

Each diagnostic of an answer has its alarm in the log, an error if the run broke off and a warning
if something failed to load, and no alarm is raised about anything else: that holds of every action
(`alarms_step`), so it holds of whatever a host does (`History.alarms_eq`), and the errors and the
warnings in the log tell of the diagnostics one by one and in order (`log_mirrors_diagnostics`).
-/

namespace Narrative

/-! ## The alarms of diagnostics -/

/-- The alarm about a run that is broken off. -/
def ScriptFailure.alarm (f : ScriptFailure) : LogLine :=
  ⟨.error, "Script error at event '" ++ f.event ++ "': " ++ f.reason⟩

namespace Diagnostic

/-- The alarm about a diagnostic. -/
def alarm : Diagnostic → LogLine
  | .asset f => f.alarm
  | .script f => f.alarm

theorem errors_map_alarm (ds : List Diagnostic) :
    ((ds.map alarm).filter fun l => l.level = .error) = (scripts ds).map ScriptFailure.alarm := by
  induction ds with
  | nil => rfl
  | cons d ds ih =>
      cases d with
      | asset f => simpa [alarm, AssetFailure.alarm, scripts] using ih
      | script f => simpa [alarm, ScriptFailure.alarm, scripts] using ih

theorem warnings_map_alarm (ds : List Diagnostic) :
    ((ds.map alarm).filter fun l => l.level = .warn) = (assets ds).map AssetFailure.alarm := by
  induction ds with
  | nil => rfl
  | cons d ds ih =>
      cases d with
      | asset f => simpa [alarm, AssetFailure.alarm, assets] using ih
      | script f => simpa [alarm, ScriptFailure.alarm, assets] using ih

end Diagnostic

/-! ## Courses -/

namespace Script

theorem calm_startCourse (s : Script) : LogLine.Calm s.startCourse.notes := by
  unfold startCourse
  split <;> simp [log, Level.isAlarm]

theorem calm_advanceCourse (s : Script) (event : String) (index : Nat) :
    LogLine.Calm (s.advanceCourse event index).notes := by
  unfold advanceCourse
  repeat' split
  all_goals simp [log, Level.isAlarm]

theorem calm_optionCourse (event key : String) (target : Option String) :
    LogLine.Calm (optionCourse event key target).notes := by
  cases target <;> simp [optionCourse, log, Level.isAlarm]

theorem calm_chooseCourse (s : Script) (event key : String) :
    LogLine.Calm (s.chooseCourse event key).notes := by
  unfold chooseCourse
  repeat' split
  all_goals simp [calm_optionCourse, log, Level.isAlarm]

theorem calm_chooseNthCourse (s : Script) (event : String) (index : Nat) :
    LogLine.Calm (s.chooseNthCourse event index).notes := by
  unfold chooseNthCourse
  repeat' split
  all_goals simp [calm_chooseCourse]

/-- To decide on a course raises no alarm. -/
theorem calm_course (s : Script) (position : Position) (action : Action) :
    LogLine.Calm (s.course position action).notes := by
  unfold course
  split <;> simp [course.cancelCourse, calm_startCourse, calm_advanceCourse, calm_chooseCourse,
    calm_chooseNthCourse, log, Level.isAlarm]

end Script

namespace Player

variable {σ : Type} {m : Media σ} {s : Script} {p : Player σ}
  {answers : List (Except SignalError Progress)} {notes : List Note}

/-! ## One step -/

/-- The diagnostics of an answer; a refusal has none. -/
def diagnostics : Except SignalError Progress → List Diagnostic
  | .ok progress => progress.diagnostics
  | .error _ => []

theorem alarms_stand (hm : m.Quiet) (position : Position) (scene : Scene) (p : Player σ) :
    Note.alarms (p.stand m position scene).notes =
      (p.stand m position scene).value.1.diagnostics.map Diagnostic.alarm := by
  simp [stand, Stage.alarms_apply hm, Diagnostic.alarm]

theorem alarms_finish (hm : m.Quiet) (ending : Ending) (diagnostics : List Diagnostic)
    (p : Player σ) : Note.alarms (p.finish m ending diagnostics).notes = [] := by
  simp [finish, Stage.alarms_silence hm]

theorem alarms_fail (hm : m.Quiet) (event : String) (defect : Defect) (p : Player σ) :
    Note.alarms (p.fail m event defect).notes =
      (p.fail m event defect).value.1.diagnostics.map Diagnostic.alarm := by
  simp [fail, finish, Stage.alarms_silence hm, Diagnostic.alarm, ScriptFailure.alarm, Level.isAlarm]

theorem alarms_arrive (hm : m.Quiet) (a : Arrival) (p : Player σ) :
    Note.alarms (p.arrive m a).notes = (p.arrive m a).value.1.diagnostics.map Diagnostic.alarm := by
  cases a with
  | line event first => exact alarms_stand hm (.line event 0) first.scene p
  | prompt event choice => exact alarms_stand hm (.prompt event) choice.scene p
  | finished last => simp [arrive, finish, Stage.alarms_silence hm, Level.isAlarm]
  | broken event defect => exact alarms_fail hm event defect p

theorem alarms_take (hm : m.Quiet) (course : Course) (p : Player σ) :
    Note.alarms (p.take m course).notes =
      (p.take m course).value.1.diagnostics.map Diagnostic.alarm := by
  cases course with
  | enter event =>
      have hcalm : LogLine.Calm ((p.script.journey event).passed.map passing) := by
        simp [LogLine.Calm, passing, Level.isAlarm]
      have hpassed : Note.alarms
          ((p.script.journey event).passed.map fun key => .log (passing key)) = [] := by
        simpa [Function.comp_def] using Note.alarms_of_calm hcalm
      simp [take, enter, hpassed, alarms_arrive hm]
  | turn event index scene => exact alarms_stand hm (.line event index) scene p
  | complete => exact alarms_finish hm .completed [] p
  | cancel => exact alarms_finish hm .cancelled [] p
  | fail event defect => exact alarms_fail hm event defect p

/-- One alarm is raised for each diagnostic of the answer. -/
theorem alarms_step (hm : m.Quiet) (p : Player σ) (action : Action) :
    Note.alarms (p.step m action).notes =
      (diagnostics (p.step m action).value.1).map Diagnostic.alarm := by
  have hcourse := Note.alarms_of_calm (p.script.calm_course p.position action)
  cases h : (p.script.course p.position action).value with
  | error e => simp [step, h, hcourse, diagnostics]
  | ok course => simp [step, h, hcourse, diagnostics, alarms_take hm]

/-! ## Runs -/

/-- The players of a script that a host comes to by actions, with the answers and the notes so far.
The device raises no alarm of its own, but at each action it may answer in another way, and in
between the host may do to it what it likes. -/
inductive History (s : Script) : List (Except SignalError Progress) → List Note → Player σ → Prop
  | fresh (device : σ) : History s [] [] (.ofScript s device)
  | step {answers : List (Except SignalError Progress)} {notes : List Note} {p : Player σ}
      {m : Media σ} (hm : m.Quiet) (action : Action) : History s answers notes p →
        History s (answers ++ [(p.step m action).value.1]) (notes ++ (p.step m action).notes)
          (p.step m action).value.2
  | withDevice {answers : List (Except SignalError Progress)} {notes : List Note} {p : Player σ}
      (device : σ) : History s answers notes p → History s answers notes (p.withDevice device)

theorem History.run (h : History s answers notes p) (hm : m.Quiet) (actions : List Action) :
    History s (answers ++ (p.run m actions).value.1) (notes ++ (p.run m actions).notes)
      (p.run m actions).value.2 := by
  induction actions generalizing answers notes p with
  | nil => simpa [Player.run] using h
  | cons action actions ih =>
      rw [run_cons, notes_run_cons]
      simpa using ih (h.step hm action)

theorem History.alarms_eq (h : History s answers notes p) :
    Note.alarms notes = (answers.flatMap diagnostics).map Diagnostic.alarm := by
  induction h with
  | fresh device => rfl
  | step hm action _ ih => simp [ih, alarms_step hm]
  | withDevice device _ ih => exact ih

/-- The errors in the log tell of the reasons for which a run broke off, and the warnings of what
failed to load: one for each that an answer reports, in the order of the answers, and no others.  A
refused action logs neither.  This holds for every device that raises no alarm of its own, and the
device without a screen and the console are such devices, whatever the files are. -/
theorem log_mirrors_diagnostics :
    (Headless.media.Quiet ∧ ∀ disk locate, (Console.media disk locate).Quiet) ∧
    ∀ {σ : Type} (s : Script) (answers : List (Except SignalError Progress)) (notes : List Note)
      (p : Player σ), History s answers notes p →
      Note.texts .error notes = (Diagnostic.scripts (answers.flatMap diagnostics)).map (fun f =>
        "Script error at event '" ++ f.event ++ "': " ++ f.reason) ∧
      Note.texts .warn notes = (Diagnostic.assets (answers.flatMap diagnostics)).map (fun f =>
        "Failed to load " ++ f.slot.name ++ ": " ++ f.path ++ " (" ++ f.reason ++ ")") ∧
      ∀ m : Media σ, m.Quiet → ∀ action e, (p.step m action).value.1 = .error e →
        Note.texts .error (p.step m action).notes = [] ∧
        Note.texts .warn (p.step m action).notes = [] := by
  refine ⟨⟨Headless.quiet_media, Console.quiet_media⟩,
    fun s answers notes p h => ⟨?_, ?_, fun m hm action e he => ?_⟩⟩
  · rw [Note.texts_eq rfl, h.alarms_eq, Diagnostic.errors_map_alarm, List.map_map]
    rfl
  · rw [Note.texts_eq rfl, h.alarms_eq, Diagnostic.warnings_map_alarm, List.map_map]
    rfl
  · have hnone : Note.alarms (p.step m action).notes = [] := by
      rw [alarms_step hm, he]
      rfl
    constructor <;> rw [Note.texts_eq rfl, hnone] <;> rfl

/-- A hall that asks for the same picture at both of its lines and goes on to an event that is not
defined. -/
def hallway : Script :=
  .ofEntries [("hall", .dialogue {
    lines := [{ scene := { left := "aoi.png" } }, { scene := { left := "aoi.png" } }]
    next := some "attic" })]

/-- A disk with the picture on it. -/
def unpacked : Disk := .ofAnswers [("aoi.png", { DiskAnswers.missing with kind := .ok .file })]

/-- The picture is missing at the first line and there at the second one. -/
theorem log_mirrors_unpacking :
    ∃ answers notes, ∃ p : Player Console, History hallway answers notes p ∧
      p.position = .terminated ∧
      Note.texts .error notes =
        ["Script error at event 'attic': event is not defined in the script"] ∧
      Note.texts .warn notes =
        ["Failed to load left sprite: aoi.png (asset not found: aoi.png)"] := by
  have hbare : (Console.media (.ofAnswers []) id).Quiet := Console.quiet_media _ _
  have hfull : (Console.media unpacked id).Quiet := Console.quiet_media _ _
  have hstarted := (History.fresh (s := hallway) ({} : Console)).run hbare [.start, .choose "up"]
  have hover := (hstarted.withDevice {}).run hfull [.advance, .advance]
  obtain ⟨herrors, hwarnings, -⟩ := log_mirrors_diagnostics.2 _ _ _ _ hover
  exact ⟨_, _, _, hover, by decide +kernel, herrors.trans (by decide +kernel),
    hwarnings.trans (by decide +kernel)⟩

end Player

end Narrative
