/-!
# Scenes

What a line of a script wants to be seen and heard: a picture in each of three places, and music.
An empty path asks for nothing there.
-/

namespace Narrative

/-- Music, and whether it starts again at its end. -/
structure Cue where
  path : String := ""
  looped : Bool := false
  deriving DecidableEq, Inhabited

/-- Nothing to be heard. -/
def Cue.silence : Cue := {}

/-- The cue as it is heard: without a path it is silence, looped or not. -/
def Cue.heard (c : Cue) : Cue := if c.path = "" then .silence else c

/-- The places for a picture. -/
inductive ImageSlot where
  | background
  | left
  | right
  deriving DecidableEq, Inhabited

/-- The places for a picture, and the one for music. -/
inductive Slot where
  | image (slot : ImageSlot)
  | audio
  deriving DecidableEq, Inhabited

instance : Coe ImageSlot Slot := ⟨.image⟩

/-- The name of a slot in messages. -/
def Slot.name : Slot → String
  | .image .background => "background"
  | .image .left => "left sprite"
  | .image .right => "right sprite"
  | .audio => "audio"

/-- A path for each picture, and the music. -/
structure Scene where
  background : String := ""
  left : String := ""
  right : String := ""
  audio : Cue := {}
  deriving DecidableEq, Inhabited

namespace Scene

/-- The picture in a place. -/
def image (s : Scene) : ImageSlot → String
  | .background => s.background
  | .left => s.left
  | .right => s.right

/-- The scene with another picture in one place. -/
def withImage (s : Scene) (slot : ImageSlot) (path : String) : Scene :=
  match slot with
  | .background => { s with background := path }
  | .left => { s with left := path }
  | .right => { s with right := path }

/-- The picture in a place, if there is one. -/
def image? (s : Scene) (slot : ImageSlot) : Option String :=
  if s.image slot = "" then none else some (s.image slot)

/-- The music, if there is any. -/
def cue? (s : Scene) : Option Cue :=
  if s.audio.path = "" then none else some s.audio

theorem image_withImage (s : Scene) (slot slot' : ImageSlot) (path : String) :
    (s.withImage slot path).image slot' = if slot' = slot then path else s.image slot' := by
  cases slot <;> cases slot' <;> rfl

@[simp] theorem audio_withImage (s : Scene) (slot : ImageSlot) (path : String) :
    (s.withImage slot path).audio = s.audio := by
  cases slot <;> rfl

@[simp] theorem image_withAudio (s : Scene) (c : Cue) (slot : ImageSlot) :
    ({ s with audio := c } : Scene).image slot = s.image slot := by
  cases slot <;> rfl

end Scene

end Narrative
