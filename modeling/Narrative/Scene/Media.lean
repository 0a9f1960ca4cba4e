import Narrative.LogLine
import Narrative.Scene.Basic

/-!
# Media devices

A device shows pictures and plays music.  It answers each call with success or an error and may
change its own state; nothing else is known about it.
-/

namespace Narrative

/-- What a device is asked to do. -/
inductive Call where
  | load (slot : ImageSlot) (path : String)
  | release (slot : ImageSlot)
  | play (path : String) (looped : Bool)
  | stop
  deriving DecidableEq

/-- The path that a call asks to be loaded. -/
def Call.path? : Call → Option String
  | .load _ path => some path
  | .play path _ => some path
  | _ => none

/-- Why a picture or music could not be loaded. -/
inductive MediaError where
  | notFound (path : String)
  | undecodable (path message : String)
  | unreadable (path message : String)
  deriving DecidableEq

/-- The error in words. -/
def MediaError.message : MediaError → String
  | .notFound path => "asset not found: " ++ path
  | .undecodable path message => "cannot decode " ++ path ++ ": " ++ message
  | .unreadable path message => "I/O error on " ++ path ++ ": " ++ message

/-- A device with states of type `σ`: its answer to each call, and what it logs about it.  Whatever
it answers to a release or a stop, these are done. -/
structure Media (σ : Type) where
  answer : Call → σ → Except MediaError Unit × σ
  journal : Call → List LogLine := fun _ => []

/-- What happens on the way through a script: a line is logged, or the device is called, with
success or without. -/
inductive Note where
  | log (line : LogLine)
  | call (call : Call) (ok : Bool)
  deriving DecidableEq

/-- The log lines among some notes. -/
def Note.lines (notes : List Note) : List LogLine :=
  notes.filterMap fun
    | .log line => some line
    | .call .. => none

/-- The calls among some notes. -/
def Note.calls (notes : List Note) : List Call :=
  notes.filterMap fun
    | .log _ => none
    | .call c _ => some c

/-- Calls the device and notes the call. -/
def Media.perform {σ : Type} (m : Media σ) (c : Call) (device : σ) :
    Noted Note (Except MediaError Unit × σ) :=
  let answer := m.answer c device
  ⟨answer, .call c answer.1.isOk :: (m.journal c).map .log⟩

end Narrative
