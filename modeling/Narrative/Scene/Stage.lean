import Narrative.Scene.Media

/-!
# The stage

A stage is a device together with the scene that it now shows.  Applying a scene calls the device
only where the scene differs from the one shown; where loading fails the place is left empty, so
the next scene that asks for the same path tries again.
-/

namespace Narrative

/-- What became of one slot when a scene was applied. -/
inductive Status where
  | unchanged
  | loaded
  | cleared
  | failed
  deriving DecidableEq, Inhabited

/-- Something that a scene asks for and that could not be loaded. -/
structure AssetFailure where
  slot : Slot
  path : String
  reason : String
  deriving DecidableEq

/-- What became of each slot, and the failures in the order of the slots. -/
structure Applied where
  background : Status
  left : Status
  right : Status
  audio : Status
  failures : List AssetFailure
  deriving DecidableEq

/-- A device and what it shows. -/
structure Stage (σ : Type) where
  device : σ
  shown : Scene := {}

namespace Stage

variable {σ : Type}

/-- Calls the device. -/
def call (m : Media σ) (c : Call) (s : Stage σ) :
    Noted Note (Except MediaError Unit × Stage σ) := do
  let (answer, device) ← m.perform c s.device
  return (answer, { s with device })

/-- Writes one log line. -/
def note (level : Level) (text : String) : Noted Note Unit := Noted.note (.log ⟨level, text⟩)

/-- The failure to load a path, which is logged. -/
def failure (slot : Slot) (path : String) (error : MediaError) : Noted Note AssetFailure := do
  note .warn ("Failed to load " ++ slot.name ++ ": " ++ path ++ " (" ++ error.message ++ ")")
  return { slot, path, reason := error.message }

/-- Brings one picture to what is asked for. -/
def showImage (m : Media σ) (slot : ImageSlot) (path : String) (s : Stage σ) :
    Noted Note ((Status × Option AssetFailure) × Stage σ) := do
  if s.shown.image slot = path then
    return ((.unchanged, none), s)
  else if path = "" then
    let (_, s) ← s.call m (.release slot)
    note .debug ("[Assets] " ++ (slot : Slot).name ++ " cleared")
    return ((.cleared, none), { s with shown := s.shown.withImage slot "" })
  else
    match ← s.call m (.load slot path) with
    | (.ok _, s) =>
      note .debug ("[Assets] " ++ (slot : Slot).name ++ " bound to '" ++ path ++ "'")
      return ((.loaded, none), { s with shown := s.shown.withImage slot path })
    | (.error error, s) =>
      let (_, s) ← s.call m (.release slot)
      let failure ← failure slot path error
      return ((.failed, some failure), { s with shown := s.shown.withImage slot "" })

/-- Brings the music to what is asked for. -/
def playCue (m : Media σ) (cue : Cue) (s : Stage σ) :
    Noted Note ((Status × Option AssetFailure) × Stage σ) := do
  if s.shown.audio = cue.heard then
    return ((.unchanged, none), s)
  else
    let (_, s) ← s.call m .stop
    if cue.path = "" then
      note .debug "[Assets] audio silenced"
      return ((.cleared, none), { s with shown := { s.shown with audio := .silence } })
    else
      match ← s.call m (.play cue.path cue.looped) with
      | (.ok _, s) =>
        note .debug ("[Assets] audio playing '" ++ cue.path ++ "' (loop=" ++
          (if cue.looped then "true" else "false") ++ ")")
        return ((.loaded, none), { s with shown := { s.shown with audio := cue } })
      | (.error error, s) =>
        let failure ← failure .audio cue.path error
        return ((.failed, some failure), { s with shown := { s.shown with audio := .silence } })

/-- Brings the stage to a scene, slot after slot. -/
def apply (m : Media σ) (scene : Scene) (s : Stage σ) : Noted Note (Applied × Stage σ) := do
  let (background, s) ← s.showImage m .background scene.background
  let (left, s) ← s.showImage m .left scene.left
  let (right, s) ← s.showImage m .right scene.right
  let (audio, s) ← s.playCue m scene.audio
  let failures := [background.2, left.2, right.2, audio.2].filterMap id
  return (⟨background.1, left.1, right.1, audio.1, failures⟩, s)

/-- Stops the music, whether any plays or not. -/
def silence (m : Media σ) (s : Stage σ) : Noted Note (Stage σ) := do
  let (_, s) ← s.call m .stop
  if s.shown.audio.path ≠ "" then
    note .debug ("[Assets] audio '" ++ s.shown.audio.path ++ "' stopped")
  return { s with shown := { s.shown with audio := .silence } }

end Stage

end Narrative
