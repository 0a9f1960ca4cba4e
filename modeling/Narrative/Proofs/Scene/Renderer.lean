import Mathlib.Logic.Function.Basic
import Narrative.Proofs.Scene.Slots

/-!
# What is seen and heard

A renderer knows nothing of scenes: it follows the calls that a device receives, each with whether
it succeeded.  `Renders` says of some calls between two scenes that a renderer which shows the first
one shows the second one after them, and that it plays nothing whenever music is to be played.
-/

namespace Narrative

/-- The picture in each place, and what plays. -/
structure Renderer where
  picture : ImageSlot → Option String := fun _ => none
  playing : Option Cue := none

namespace Renderer

/-- What a call does; one that fails loads nothing and plays nothing new. -/
def perform (r : Renderer) : Call × Bool → Renderer
  | (.load slot path, true) => { r with picture := Function.update r.picture slot (some path) }
  | (.load _ _, false) => r
  | (.release slot, _) => { r with picture := Function.update r.picture slot none }
  | (.play path looped, true) => { r with playing := some ⟨path, looped⟩ }
  | (.play _ _, false) => r
  | (.stop, _) => { r with playing := none }

/-- What some calls do, one after the other. -/
def after (r : Renderer) (calls : List (Call × Bool)) : Renderer := calls.foldl perform r

@[simp] theorem after_nil (r : Renderer) : r.after [] = r := rfl

@[simp] theorem after_cons (r : Renderer) (c : Call × Bool) (calls : List (Call × Bool)) :
    r.after (c :: calls) = (r.perform c).after calls := rfl

theorem after_append (r : Renderer) (calls calls' : List (Call × Bool)) :
    r.after (calls ++ calls') = (r.after calls).after calls' :=
  List.foldl_append

/-- Music is only played while nothing plays. -/
def PlaysInSilence (r : Renderer) (calls : List (Call × Bool)) : Prop :=
  ∀ before path looped ok rest, calls = before ++ (.play path looped, ok) :: rest →
    (r.after before).playing = none

theorem playsInSilence_nil (r : Renderer) : r.PlaysInSilence [] := by
  intro before path looped ok rest h
  simp at h

theorem playsInSilence_cons {r : Renderer} {c : Call × Bool} {calls : List (Call × Bool)} :
    r.PlaysInSilence (c :: calls) ↔
      (∀ path looped, c.1 = .play path looped → r.playing = none) ∧
        (r.perform c).PlaysInSilence calls := by
  constructor
  · intro h
    constructor
    · rintro path looped hc
      exact h [] path looped c.2 calls (by rw [← hc]; rfl)
    · intro before path looped ok rest hcalls
      exact h (c :: before) path looped ok rest (by rw [hcalls]; rfl)
  · rintro ⟨hhead, htail⟩ before path looped ok rest hcalls
    cases before with
    | nil =>
        obtain ⟨rfl, rfl⟩ := List.cons.inj hcalls
        exact hhead path looped rfl
    | cons d before =>
        obtain ⟨rfl, hrest⟩ := List.cons.inj hcalls
        exact htail before path looped ok rest hrest

theorem playsInSilence_append {r : Renderer} {calls calls' : List (Call × Bool)}
    (h : r.PlaysInSilence calls) (h' : (r.after calls).PlaysInSilence calls') :
    r.PlaysInSilence (calls ++ calls') := by
  induction calls generalizing r with
  | nil => exact h'
  | cons c calls ih =>
      rw [playsInSilence_cons] at h
      exact playsInSilence_cons.2 ⟨h.1, ih h.2 h'⟩

/-- The renderer that shows a scene. -/
def ofScene (scene : Scene) : Renderer := ⟨scene.image?, scene.cue?⟩

end Renderer

/-- The calls turn what a renderer shows from one scene into another, and music is only played in
silence. -/
structure Renders (before after : Scene) (calls : List (Call × Bool)) : Prop where
  after_eq : (Renderer.ofScene before).after calls = .ofScene after
  playsInSilence : (Renderer.ofScene before).PlaysInSilence calls

namespace Renders

theorem refl (scene : Scene) : Renders scene scene [] := ⟨rfl, Renderer.playsInSilence_nil _⟩

theorem trans {a b c : Scene} {calls calls' : List (Call × Bool)} (h : Renders a b calls)
    (h' : Renders b c calls') : Renders a c (calls ++ calls') where
  after_eq := by rw [Renderer.after_append, h.after_eq, h'.after_eq]
  playsInSilence :=
    Renderer.playsInSilence_append h.playsInSilence (by rw [h.after_eq]; exact h'.playsInSilence)

end Renders

namespace Renderer

theorem ofScene_empty : ofScene {} = {} := by
  have hpicture : ({} : Scene).image? = fun _ => none := by
    funext slot
    cases slot <;> rfl
  simp [ofScene, hpicture, Scene.cue?]

theorem ofScene_withImage (scene : Scene) (slot : ImageSlot) (path : String) :
    ofScene (scene.withImage slot path) =
      { ofScene scene with
        picture := Function.update (ofScene scene).picture slot
          (if path = "" then none else some path) } := by
  have hpicture : (scene.withImage slot path).image? =
      Function.update scene.image? slot (if path = "" then none else some path) := by
    funext slot'
    by_cases hslot : slot' = slot <;>
      simp [Scene.image?, Scene.image_withImage, hslot]
  simp [ofScene, hpicture, Scene.cue?]

theorem ofScene_withAudio (scene : Scene) (c : Cue) :
    ofScene { scene with audio := c } =
      { ofScene scene with playing := if c.path = "" then none else some c } := by
  have hpicture : ({ scene with audio := c } : Scene).image? = scene.image? := by
    funext slot
    simp [Scene.image?]
  simp [ofScene, hpicture, Scene.cue?]

end Renderer

namespace Stage

variable {σ : Type} {m : Media σ} {s t : Stage σ} {calls : List (Call × Bool)}

open Renderer

theorem ShowsImage.renders {slot : ImageSlot} {path : String}
    {result : Status × Option AssetFailure} (h : ShowsImage m slot path s result calls t) :
    Renders s.shown t.shown calls := by
  cases h with
  | unchanged => exact .refl _
  | cleared _ hpath ht =>
      constructor
      · simp [ht, ofScene_withImage, perform]
      · simp [playsInSilence_cons, playsInSilence_nil]
  | loaded _ hpath _ ht =>
      constructor
      · simp [ht, ofScene_withImage, perform, hpath]
      · simp [playsInSilence_cons, playsInSilence_nil]
  | failed _ hpath _ ht =>
      constructor
      · simp [ht, ofScene_withImage, perform]
      · simp [playsInSilence_cons, playsInSilence_nil]

/-- Before music is played, what played before is stopped. -/
theorem PlaysCue.renders {cue : Cue} {result : Status × Option AssetFailure}
    (h : PlaysCue m cue s result calls t) : Renders s.shown t.shown calls := by
  cases h with
  | unchanged => exact .refl _
  | cleared _ hpath ht =>
      constructor
      · simp [ht, ofScene_withAudio, perform, Cue.silence]
      · simp [playsInSilence_cons, playsInSilence_nil]
  | loaded _ hpath _ ht =>
      constructor
      · simp [ht, ofScene_withAudio, perform, hpath]
      · simp [playsInSilence_cons, playsInSilence_nil, perform]
  | failed _ hpath _ ht =>
      constructor
      · simp [ht, ofScene_withAudio, perform, Cue.silence]
      · simp [playsInSilence_cons, playsInSilence_nil, perform]

theorem Applies.renders {scene : Scene} {results : Slot → Status × Option AssetFailure}
    (h : Applies m scene s t results calls) : Renders s.shown t.shown calls := by
  cases h with
  | slots hb hl hr ha =>
      exact ((hb.renders.trans hl.renders).trans hr.renders).trans ha.renders

theorem renders_apply (m : Media σ) (scene : Scene) (s : Stage σ) :
    Renders s.shown (s.apply m scene).value.2.shown (Note.performed (s.apply m scene).notes) := by
  obtain ⟨results, happlies, -⟩ := exists_applies m scene s
  exact happlies.renders

theorem renders_silence (m : Media σ) (s : Stage σ) :
    Renders s.shown (s.silence m).value.shown (Note.performed (s.silence m).notes) := by
  rw [performed_silence, shown_silence]
  constructor
  · simp [ofScene_withAudio, perform, Cue.silence]
  · simp [playsInSilence_cons, playsInSilence_nil]

end Stage

end Narrative
