import Narrative.Keyed
import Narrative.Scene.Stage

/-!
# Devices without a screen

A device that shows nothing and remembers what it was asked, and one that fails for given paths.
-/

namespace Narrative

/-- A device that remembers its calls and fails for the paths that are missing. -/
structure Headless where
  missing : List String := []
  calls : List Call := []
  playing : Option String := none

namespace Headless

/-- Fails where the path is missing. -/
def find (h : Headless) (path : String) : Except MediaError Unit :=
  if path ∈ h.missing then .error (.notFound path) else .ok ()

/-- How often a path was asked for since the calls were last forgotten. -/
def attempts (h : Headless) (path : String) : Nat :=
  h.calls.countP fun c => c.path? = some path

/-- From now on the path is there. -/
def markPresent (h : Headless) (path : String) : Headless :=
  { h with missing := h.missing.filter (· ≠ path) }

/-- Forgets the calls. -/
def forget (h : Headless) : Headless := { h with calls := [] }

/-- The answer to a call. -/
def answer (c : Call) (h : Headless) : Except MediaError Unit × Headless :=
  let h := { h with calls := h.calls ++ [c] }
  match c with
  | .load _ path => (h.find path, h)
  | .release _ => (.ok (), h)
  | .play path _ =>
    match h.find path with
    | .ok () => (.ok (), { h with playing := some path })
    | .error e => (.error e, h)
  | .stop => (.ok (), { h with playing := none })

/-- The device that remembers its calls. -/
def media : Media Headless where
  answer := answer

end Headless

/-- A device that fails for the paths of a table, each with its error, and has no state. -/
def Media.failing (errors : Keyed MediaError) : Media Unit where
  answer c _ :=
    match c.path?.bind errors.get? with
    | some e => (.error e, ())
    | none => (.ok (), ())

end Narrative
