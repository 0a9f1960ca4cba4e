import Mathlib.Data.List.Basic
import Narrative.Scene.Stage

/-!
# What becomes of each slot

Applying a scene goes through the slots in order.  `ShowsImage` and `PlaysCue` list, case by case,
what can become of a picture and of the music, with the calls that are made for it;
`exists_applies` puts them together.  Whatever was shown before, the scene shown afterwards is the
one asked for without what failed (`shown_apply`).
-/

namespace Narrative

/-! ## Calls with their success -/

/-- The calls among some notes, each with whether it succeeded. -/
def Note.performed (notes : List Note) : List (Call × Bool) :=
  notes.filterMap fun
    | .log _ => none
    | .call c ok => some (c, ok)

namespace Note

@[simp] theorem performed_nil : performed [] = [] := rfl

@[simp] theorem performed_log (line : LogLine) (notes : List Note) :
    performed (.log line :: notes) = performed notes := rfl

@[simp] theorem performed_call (c : Call) (ok : Bool) (notes : List Note) :
    performed (.call c ok :: notes) = (c, ok) :: performed notes := rfl

@[simp] theorem performed_append (notes notes' : List Note) :
    performed (notes ++ notes') = performed notes ++ performed notes' :=
  List.filterMap_append

@[simp] theorem performed_logs (lines : List LogLine) : performed (lines.map .log) = [] := by
  induction lines with
  | nil => rfl
  | cons line lines ih => simpa using ih

theorem calls_eq (notes : List Note) : calls notes = (performed notes).map Prod.fst := by
  induction notes with
  | nil => rfl
  | cons n notes ih =>
      cases n with
      | log line => simpa [calls] using ih
      | call c ok => simpa [calls] using ih

end Note

/-! ## One slot -/

/-- The slots in the order in which a scene is applied. -/
def Slot.all : List Slot := [.image .background, .image .left, .image .right, .audio]

theorem Slot.mem_all (slot : Slot) : slot ∈ Slot.all := by
  cases slot with
  | audio => decide
  | image slot => cases slot <;> decide

theorem Slot.filterMap_all {α : Type} (f : Slot → Option α) :
    Slot.all.filterMap f =
      (f (.image .background)).toList ++ (f (.image .left)).toList ++ (f (.image .right)).toList ++
        (f .audio).toList := by
  simp [Slot.all, List.filterMap_eq_flatMap_toList]

/-- A value for each slot. -/
def Slot.pick {α : Type} (background left right audio : α) : Slot → α
  | .image .background => background
  | .image .left => left
  | .image .right => right
  | .audio => audio

/-- What became of a slot when a scene was applied. -/
def Applied.status (a : Applied) : Slot → Status :=
  Slot.pick a.background a.left a.right a.audio

/-- Where each slot reports at most its own failure, a slot is reported on exactly if it failed. -/
theorem Slot.exists_failure_iff {result : Slot → Option AssetFailure}
    (hslot : ∀ slot f, result slot = some f → f.slot = slot) (slot : Slot) :
    (∃ f ∈ Slot.all.filterMap result, f.slot = slot) ↔ (result slot).isSome = true := by
  constructor
  · rintro ⟨f, hf, rfl⟩
    obtain ⟨slot, -, hresult⟩ := List.mem_filterMap.1 hf
    rw [hslot slot f hresult, hresult]
    rfl
  · intro hsome
    obtain ⟨f, hf⟩ := Option.isSome_iff_exists.1 hsome
    exact ⟨f, List.mem_filterMap.2 ⟨slot, slot.mem_all, hf⟩, hslot slot f hf⟩

/-- The path that a scene asks for in a slot. -/
def Scene.path (scene : Scene) : Slot → String
  | .image slot => scene.image slot
  | .audio => scene.audio.path

/-- The scene without what failed. -/
def Scene.without (scene : Scene) (failures : List AssetFailure) : Scene where
  background := if ∃ f ∈ failures, f.slot = .image .background then "" else scene.background
  left := if ∃ f ∈ failures, f.slot = .image .left then "" else scene.left
  right := if ∃ f ∈ failures, f.slot = .image .right then "" else scene.right
  audio := if ∃ f ∈ failures, f.slot = .audio then .silence else scene.audio.heard

namespace Scene

theorem image_without (scene : Scene) (failures : List AssetFailure) (slot : ImageSlot) :
    (scene.without failures).image slot =
      if ∃ f ∈ failures, f.slot = .image slot then "" else scene.image slot := by
  cases slot <;> rfl

theorem image?_without (scene : Scene) (failures : List AssetFailure) (slot : ImageSlot) :
    (scene.without failures).image? slot =
      if ∃ f ∈ failures, f.slot = .image slot then none else scene.image? slot := by
  rw [image?, image_without]
  split <;> simp [image?]

theorem cue?_without (scene : Scene) (failures : List AssetFailure) :
    (scene.without failures).cue? =
      if ∃ f ∈ failures, f.slot = .audio then none else scene.cue? := by
  by_cases hlost : ∃ f ∈ failures, f.slot = .audio
  · simp [cue?, without, Cue.silence, hlost]
  · by_cases hpath : scene.audio.path = "" <;>
      simp [cue?, without, Cue.heard, Cue.silence, hlost, hpath]

theorem ext_image {a b : Scene} (himage : ∀ slot, a.image slot = b.image slot)
    (haudio : a.audio = b.audio) : a = b := by
  have hbackground : a.background = b.background := himage .background
  have hleft : a.left = b.left := himage .left
  have hright : a.right = b.right := himage .right
  cases a
  cases b
  simp_all

theorem withImage_eq_self {scene : Scene} {slot : ImageSlot} {path : String}
    (h : scene.image slot = path) : scene.withImage slot path = scene := by
  subst h
  cases slot <;> rfl

end Scene

namespace Stage

variable {σ : Type}

/-- What becomes of a picture when a path is asked for: its status and failure, the calls that are
made, and the stage afterwards. -/
inductive ShowsImage (m : Media σ) (slot : ImageSlot) (path : String) (s : Stage σ) :
    Status × Option AssetFailure → List (Call × Bool) → Stage σ → Prop
  | unchanged : s.shown.image slot = path → ShowsImage m slot path s (.unchanged, none) [] s
  | cleared {ok : Bool} {t : Stage σ} :
      s.shown.image slot ≠ path → path = "" → t.shown = s.shown.withImage slot "" →
        ShowsImage m slot path s (.cleared, none) [(.release slot, ok)] t
  | loaded {t : Stage σ} :
      s.shown.image slot ≠ path → path ≠ "" → (m.answer (.load slot path) s.device).1 = .ok () →
        t.shown = s.shown.withImage slot path →
          ShowsImage m slot path s (.loaded, none) [(.load slot path, true)] t
  | failed {error : MediaError} {ok : Bool} {t : Stage σ} :
      s.shown.image slot ≠ path → path ≠ "" →
        (m.answer (.load slot path) s.device).1 = .error error →
          t.shown = s.shown.withImage slot "" →
            ShowsImage m slot path s (.failed, some ⟨slot, path, error.message⟩)
              [(.load slot path, false), (.release slot, ok)] t

/-- What becomes of the music when a cue is asked for. -/
inductive PlaysCue (m : Media σ) (cue : Cue) (s : Stage σ) :
    Status × Option AssetFailure → List (Call × Bool) → Stage σ → Prop
  | unchanged : s.shown.audio = cue.heard → PlaysCue m cue s (.unchanged, none) [] s
  | cleared {ok : Bool} {t : Stage σ} :
      s.shown.audio ≠ cue.heard → cue.path = "" →
        t.shown = { s.shown with audio := .silence } →
          PlaysCue m cue s (.cleared, none) [(.stop, ok)] t
  | loaded {ok : Bool} {device : σ} {t : Stage σ} :
      s.shown.audio ≠ cue.heard → cue.path ≠ "" →
        (m.answer (.play cue.path cue.looped) device).1 = .ok () →
          t.shown = { s.shown with audio := cue } →
            PlaysCue m cue s (.loaded, none) [(.stop, ok), (.play cue.path cue.looped, true)] t
  | failed {error : MediaError} {ok : Bool} {device : σ} {t : Stage σ} :
      s.shown.audio ≠ cue.heard → cue.path ≠ "" →
        (m.answer (.play cue.path cue.looped) device).1 = .error error →
          t.shown = { s.shown with audio := .silence } →
            PlaysCue m cue s (.failed, some ⟨.audio, cue.path, error.message⟩)
              [(.stop, ok), (.play cue.path cue.looped, false)] t

@[simp] theorem value_call (m : Media σ) (c : Call) (s : Stage σ) :
    (s.call m c).value =
      ((m.answer c s.device).1, { s with device := (m.answer c s.device).2 }) := rfl

@[simp] theorem performed_call (m : Media σ) (c : Call) (s : Stage σ) :
    Note.performed (s.call m c).notes = [(c, (m.answer c s.device).1.isOk)] := by
  simp [call, Media.perform]

@[simp] theorem performed_note (level : Level) (text : String) :
    Note.performed (note level text).notes = [] := rfl

@[simp] theorem value_failure (slot : Slot) (path : String) (error : MediaError) :
    (failure slot path error).value = ⟨slot, path, error.message⟩ := rfl

@[simp] theorem performed_failure (slot : Slot) (path : String) (error : MediaError) :
    Note.performed (failure slot path error).notes = [] := rfl

theorem showsImage (m : Media σ) (slot : ImageSlot) (path : String) (s : Stage σ) :
    ShowsImage m slot path s (s.showImage m slot path).value.1
      (Note.performed (s.showImage m slot path).notes) (s.showImage m slot path).value.2 := by
  unfold showImage
  by_cases hshown : s.shown.image slot = path
  · simpa [hshown] using ShowsImage.unchanged hshown
  · by_cases hpath : path = ""
    · subst hpath
      simpa [hshown] using ShowsImage.cleared hshown rfl rfl
    · cases hanswer : (m.answer (.load slot path) s.device).1 with
      | ok u =>
          simpa [hshown, hpath, hanswer, Except.isOk, Except.toBool] using
            ShowsImage.loaded hshown hpath hanswer rfl
      | error e =>
          simpa [hshown, hpath, hanswer, Except.isOk, Except.toBool] using
            ShowsImage.failed hshown hpath hanswer rfl

theorem playsCue (m : Media σ) (cue : Cue) (s : Stage σ) :
    PlaysCue m cue s (s.playCue m cue).value.1 (Note.performed (s.playCue m cue).notes)
      (s.playCue m cue).value.2 := by
  unfold playCue
  by_cases hshown : s.shown.audio = cue.heard
  · simpa [hshown] using PlaysCue.unchanged hshown
  · by_cases hpath : cue.path = ""
    · simpa [hshown, hpath] using PlaysCue.cleared hshown hpath rfl
    · cases hanswer : (m.answer (.play cue.path cue.looped) (m.answer .stop s.device).2).1 with
      | ok u =>
          simpa [hshown, hpath, hanswer, Except.isOk, Except.toBool] using
            PlaysCue.loaded hshown hpath hanswer rfl
      | error e =>
          simpa [hshown, hpath, hanswer, Except.isOk, Except.toBool] using
            PlaysCue.failed hshown hpath hanswer rfl

/-- The picture shown is the one asked for, or none if it failed. -/
theorem ShowsImage.shown_eq {m : Media σ} {slot : ImageSlot} {path : String} {s t : Stage σ}
    {result : Status × Option AssetFailure} {calls : List (Call × Bool)}
    (h : ShowsImage m slot path s result calls t) :
    t.shown = s.shown.withImage slot (if result.2.isSome = true then "" else path) := by
  cases h with
  | unchanged hs => simpa using (Scene.withImage_eq_self hs).symm
  | cleared _ hpath ht => simpa [hpath] using ht
  | loaded _ _ _ ht => simpa using ht
  | failed _ _ _ ht => simpa using ht

theorem ShowsImage.of_failure {m : Media σ} {slot : ImageSlot} {path : String} {s t : Stage σ}
    {result : Status × Option AssetFailure} {calls : List (Call × Bool)} {f : AssetFailure}
    (h : ShowsImage m slot path s result calls t) (hf : result.2 = some f) :
    f.slot = .image slot ∧ f.path = path ∧ path ≠ "" := by
  cases h with
  | failed _ hpath => cases hf; exact ⟨rfl, rfl, hpath⟩
  | _ => simp at hf

/-- The music is the cue asked for, or silence if it failed; the pictures are left alone. -/
theorem PlaysCue.shown_eq {m : Media σ} {cue : Cue} {s t : Stage σ}
    {result : Status × Option AssetFailure} {calls : List (Call × Bool)}
    (h : PlaysCue m cue s result calls t) :
    t.shown = { s.shown with audio := if result.2.isSome = true then .silence else cue.heard } := by
  cases h with
  | unchanged hs => simp [← hs]
  | cleared _ hpath ht => simpa [Cue.heard, hpath] using ht
  | loaded _ hpath _ ht => simpa [Cue.heard, hpath] using ht
  | failed _ _ _ ht => simpa using ht

theorem PlaysCue.of_failure {m : Media σ} {cue : Cue} {s t : Stage σ}
    {result : Status × Option AssetFailure} {calls : List (Call × Bool)} {f : AssetFailure}
    (h : PlaysCue m cue s result calls t) (hf : result.2 = some f) :
    f.slot = .audio ∧ f.path = cue.path ∧ cue.path ≠ "" := by
  cases h with
  | failed _ hpath => cases hf; exact ⟨rfl, rfl, hpath⟩
  | _ => simp at hf

/-! ## The whole scene -/

/-- What becomes of each slot when a scene is asked for, the calls that are made, and the stage
afterwards. -/
inductive Applies (m : Media σ) (scene : Scene) (s t : Stage σ)
    (results : Slot → Status × Option AssetFailure) : List (Call × Bool) → Prop
  | slots {s₁ s₂ s₃ : Stage σ} {background left right audio : List (Call × Bool)} :
      ShowsImage m .background scene.background s (results (.image .background)) background s₁ →
      ShowsImage m .left scene.left s₁ (results (.image .left)) left s₂ →
      ShowsImage m .right scene.right s₂ (results (.image .right)) right s₃ →
      PlaysCue m scene.audio s₃ (results .audio) audio t →
        Applies m scene s t results (background ++ left ++ right ++ audio)

theorem exists_applies (m : Media σ) (scene : Scene) (s : Stage σ) :
    ∃ results,
      Applies m scene s (s.apply m scene).value.2 results (Note.performed (s.apply m scene).notes) ∧
        (s.apply m scene).value.1.failures = (Slot.all.filterMap fun slot => (results slot).2) ∧
          ∀ slot, (s.apply m scene).value.1.status slot = (results slot).1 := by
  let background := s.showImage m .background scene.background
  let left := background.value.2.showImage m .left scene.left
  let right := left.value.2.showImage m .right scene.right
  let audio := right.value.2.playCue m scene.audio
  let results := Slot.pick background.value.1 left.value.1 right.value.1 audio.value.1
  have happlies : Applies m scene s audio.value.2 results _ :=
    .slots (showsImage m .background _ s) (showsImage m .left _ background.value.2)
      (showsImage m .right _ left.value.2) (playsCue m _ right.value.2)
  refine ⟨results, by simpa [apply] using happlies, rfl, fun slot => ?_⟩
  cases slot with
  | audio => rfl
  | image slot => cases slot <;> rfl

section Applies

variable {m : Media σ} {scene : Scene} {s t : Stage σ}
  {results : Slot → Status × Option AssetFailure} {calls : List (Call × Bool)} {f : AssetFailure}

theorem Applies.of_failure {slot : Slot} (h : Applies m scene s t results calls)
    (hf : (results slot).2 = some f) :
    f.slot = slot ∧ f.path = scene.path slot ∧ scene.path slot ≠ "" := by
  cases h with
  | slots hb hl hr ha =>
      cases slot with
      | audio => exact ha.of_failure hf
      | image slot =>
          cases slot with
          | background => exact hb.of_failure hf
          | left => exact hl.of_failure hf
          | right => exact hr.of_failure hf

theorem Applies.shown_eq (h : Applies m scene s t results calls) :
    t.shown = scene.without (Slot.all.filterMap fun slot => (results slot).2) := by
  have hlost := Slot.exists_failure_iff fun slot f hf => (h.of_failure hf).1
  cases h with
  | slots hb hl hr ha =>
      rw [ha.shown_eq, hr.shown_eq, hl.shown_eq, hb.shown_eq]
      refine Scene.ext_image (fun slot => ?_) ?_
      · simp only [Scene.image_withAudio, Scene.image_withImage, Scene.image_without, hlost]
        cases slot <;> rfl
      · simp only [Scene.without, hlost]

end Applies

/-- Whatever was shown before, a scene that is applied is shown afterwards without what failed. -/
theorem shown_apply (m : Media σ) (scene : Scene) (s : Stage σ) :
    (s.apply m scene).value.2.shown = scene.without (s.apply m scene).value.1.failures := by
  obtain ⟨results, happlies, hfailures, -⟩ := exists_applies m scene s
  rw [hfailures]
  exact happlies.shown_eq

/-- A failure names a slot that a path is asked for, and that path. -/
theorem of_mem_failures_apply {m : Media σ} {scene : Scene} {s : Stage σ} {f : AssetFailure}
    (h : f ∈ (s.apply m scene).value.1.failures) :
    f.path = scene.path f.slot ∧ scene.path f.slot ≠ "" := by
  obtain ⟨results, happlies, hfailures, -⟩ := exists_applies m scene s
  rw [hfailures] at h
  obtain ⟨slot, -, hslot⟩ := List.mem_filterMap.1 h
  obtain ⟨rfl, hpath⟩ := happlies.of_failure hslot
  exact hpath

/-! ## Silence -/

@[simp] theorem shown_silence (m : Media σ) (s : Stage σ) :
    (s.silence m).value.shown = { s.shown with audio := .silence } := by
  by_cases hpath : s.shown.audio.path = "" <;> simp [silence, hpath]

theorem performed_silence (m : Media σ) (s : Stage σ) :
    Note.performed (s.silence m).notes = [(.stop, (m.answer .stop s.device).1.isOk)] := by
  by_cases hpath : s.shown.audio.path = "" <;> simp [silence, hpath]

end Stage

end Narrative
