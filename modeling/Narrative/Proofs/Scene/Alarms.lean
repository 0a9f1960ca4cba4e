import Narrative.Proofs.Scene.Slots
import Narrative.Scene.Console
import Narrative.Scene.Headless

/-!
# Alarms

An alarm is a line that is logged as a warning or as an error.  On a device that raises none of its
own (`Media.Quiet`), such as the one without a screen and the console, applying a scene raises one
alarm for each failure that it reports, in the same order (`alarms_apply`), and no others.
-/

namespace Narrative

/-- Whether a level is kept for what went wrong. -/
def Level.isAlarm : Level → Bool
  | .error | .warn => true
  | .info | .debug | .trace => false

/-- No alarm is among some log lines. -/
def LogLine.Calm (ls : List LogLine) : Prop := ∀ l ∈ ls, l.level.isAlarm = false

namespace LogLine

@[simp] theorem calm_nil : Calm [] := by simp [Calm]

@[simp] theorem calm_singleton (l : LogLine) : Calm [l] ↔ l.level.isAlarm = false := by
  simp [Calm]

@[simp] theorem calm_append (ls ls' : List LogLine) : Calm (ls ++ ls') ↔ Calm ls ∧ Calm ls' :=
  List.forall_mem_append

end LogLine

namespace Note

/-- The alarms among some notes. -/
def alarms (notes : List Note) : List LogLine := (lines notes).filter fun l => l.level.isAlarm

/-- The texts that are logged at a level. -/
def texts (level : Level) (notes : List Note) : List String :=
  ((lines notes).filter fun l => l.level = level).map LogLine.text

@[simp] theorem alarms_nil : alarms [] = [] := rfl

@[simp] theorem alarms_call (c : Call) (ok : Bool) (notes : List Note) :
    alarms (.call c ok :: notes) = alarms notes := rfl

@[simp] theorem alarms_append (notes notes' : List Note) :
    alarms (notes ++ notes') = alarms notes ++ alarms notes' := by
  simp [alarms, lines]

theorem alarms_of_calm {ls : List LogLine} (h : LogLine.Calm ls) : alarms (ls.map .log) = [] := by
  have hlines : lines (ls.map .log) = ls := by
    rw [lines, List.filterMap_map]
    exact List.filterMap_some
  rw [alarms, hlines]
  exact List.filter_eq_nil_iff.2 fun l hl => by simp [h l hl]

/-- What is logged at the level of an alarm is among the alarms. -/
theorem texts_eq {level : Level} (h : level.isAlarm = true) (notes : List Note) :
    texts level notes = ((alarms notes).filter fun l => l.level = level).map LogLine.text := by
  rw [texts, alarms, List.filter_filter]
  congr 2
  funext l
  by_cases hl : l.level = level <;> simp [hl, h]

end Note

/-! ## Devices -/

/-- A device that raises no alarm of its own. -/
def Media.Quiet {σ : Type} (m : Media σ) : Prop := ∀ c, LogLine.Calm (m.journal c)

theorem Headless.quiet_media : Headless.media.Quiet := fun _ => LogLine.calm_nil

theorem Console.quiet_media (disk : Disk) (locate : String → String) :
    (Console.media disk locate).Quiet := by
  intro c
  cases c with
  | stop => exact (LogLine.calm_singleton _).2 rfl
  | _ => exact LogLine.calm_nil

/-! ## Scenes -/

/-- The alarm about a failure to load. -/
def AssetFailure.alarm (f : AssetFailure) : LogLine :=
  ⟨.warn, "Failed to load " ++ f.slot.name ++ ": " ++ f.path ++ " (" ++ f.reason ++ ")"⟩

namespace Stage

variable {σ : Type} {m : Media σ}

@[simp] theorem alarms_note (level : Level) (text : String) :
    Note.alarms (note level text).notes = if level.isAlarm then [⟨level, text⟩] else [] := by
  cases level <;> rfl

theorem alarms_failure (slot : Slot) (path : String) (error : MediaError) :
    Note.alarms (failure slot path error).notes = [(failure slot path error).value.alarm] := rfl

theorem alarms_call (hm : m.Quiet) (c : Call) (s : Stage σ) :
    Note.alarms (s.call m c).notes = [] := by
  simp [call, Media.perform, Note.alarms_of_calm (hm c)]

theorem alarms_showImage (hm : m.Quiet) (slot : ImageSlot) (path : String) (s : Stage σ) :
    Note.alarms (s.showImage m slot path).notes =
      (s.showImage m slot path).value.1.2.toList.map AssetFailure.alarm := by
  unfold showImage
  split
  · rfl
  · split
    · simp [alarms_call hm, Level.isAlarm]
    · cases hanswer : (m.answer (.load slot path) s.device).1 with
      | ok u => simp [hanswer, alarms_call hm, Level.isAlarm]
      | error e => simp [hanswer, alarms_call hm, alarms_failure]

theorem alarms_playCue (hm : m.Quiet) (cue : Cue) (s : Stage σ) :
    Note.alarms (s.playCue m cue).notes =
      (s.playCue m cue).value.1.2.toList.map AssetFailure.alarm := by
  unfold playCue
  split
  · rfl
  · by_cases hpath : cue.path = ""
    · simp [hpath, alarms_call hm, Level.isAlarm]
    · cases hanswer : (m.answer (.play cue.path cue.looped) (m.answer .stop s.device).2).1 with
      | ok u => simp [hpath, hanswer, alarms_call hm, Level.isAlarm]
      | error e => simp [hpath, hanswer, alarms_call hm, alarms_failure]

/-- One alarm is raised for each failure that is reported. -/
theorem alarms_apply (hm : m.Quiet) (scene : Scene) (s : Stage σ) :
    Note.alarms (s.apply m scene).notes =
      (s.apply m scene).value.1.failures.map AssetFailure.alarm := by
  simp [apply, alarms_showImage hm, alarms_playCue hm, List.filterMap_eq_flatMap_toList]

theorem alarms_silence (hm : m.Quiet) (s : Stage σ) : Note.alarms (s.silence m).notes = [] := by
  by_cases hpath : s.shown.audio.path = "" <;>
    simp [silence, hpath, alarms_call hm, Level.isAlarm]

end Stage

end Narrative
