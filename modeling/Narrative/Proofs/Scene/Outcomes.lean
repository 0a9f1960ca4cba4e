import Narrative.Proofs.Scene.Slots

/-!
# Devices whose outcomes are fixed

On a device that answers each load alike, whatever happened before, what fails when a scene is
applied depends on the scene and on what is shown, but not on the device (`failures_apply_eq`).  It
is a function of the scene alone as long as all that is shown can be loaded (`failures_apply`); and
all that is shown then can be loaded again (`loads_without_failures`).
-/

namespace Narrative

/-! ## What a scene asks to be loaded -/

/-- The call that loads what a scene asks for in a slot. -/
def Scene.call (scene : Scene) : Slot → Call
  | .image slot => .load slot (scene.image slot)
  | .audio => .play scene.audio.path scene.audio.looped

/-- The call for a slot, if anything is asked for there. -/
def Scene.request? (scene : Scene) (slot : Slot) : Option Call :=
  if scene.path slot = "" then none else some (scene.call slot)

/-- The calls among these that load something. -/
def Call.loads (calls : List (Call × Bool)) : List Call :=
  (calls.map Prod.fst).filter fun c => c.path?.isSome

@[simp] theorem Call.loads_nil : loads [] = [] := rfl

@[simp] theorem Call.loads_cons (c : Call) (ok : Bool) (calls : List (Call × Bool)) :
    loads ((c, ok) :: calls) = if c.path?.isSome then c :: loads calls else loads calls := by
  simp [loads, List.filter_cons]

@[simp] theorem Call.loads_append (calls calls' : List (Call × Bool)) :
    loads (calls ++ calls') = loads calls ++ loads calls' := by
  simp [loads]

/-! ## Devices whose outcomes are fixed -/

/-- The outcome of each load, once and for all. -/
structure Outcomes where
  texture : ImageSlot → String → Except MediaError Unit
  music : String → Bool → Except MediaError Unit

namespace Outcomes

/-- The outcome of loading what a scene asks for in a slot. -/
def answer (o : Outcomes) (scene : Scene) : Slot → Except MediaError Unit
  | .image slot => o.texture slot (scene.image slot)
  | .audio => o.music scene.audio.path scene.audio.looped

end Outcomes

/-- The failure that an answer means; a path that is empty is not asked for. -/
def AssetFailure.of? (slot : Slot) (path : String) : Except MediaError Unit → Option AssetFailure
  | .ok _ => none
  | .error error => if path = "" then none else some ⟨slot, path, error.message⟩

theorem AssetFailure.of?_empty (slot : Slot) (answer : Except MediaError Unit) :
    of? slot "" answer = none := by
  cases answer <;> rfl

namespace Outcomes

/-- The failure in a slot when a scene is loaded. -/
def failure? (o : Outcomes) (scene : Scene) (slot : Slot) : Option AssetFailure :=
  AssetFailure.of? slot (scene.path slot) (o.answer scene slot)

/-- The failures when a scene is loaded. -/
def failures (o : Outcomes) (scene : Scene) : List AssetFailure :=
  Slot.all.filterMap (o.failure? scene)

theorem slot_of_failure? {o : Outcomes} {scene : Scene} {slot : Slot} {f : AssetFailure}
    (h : o.failure? scene slot = some f) : f.slot = slot := by
  unfold failure? AssetFailure.of? at h
  split at h
  · cases h
  · split at h
    · cases h
    · cases h
      rfl

theorem exists_failure_iff (o : Outcomes) (scene : Scene) (slot : Slot) :
    (∃ f ∈ o.failures scene, f.slot = slot) ↔ (o.failure? scene slot).isSome = true :=
  Slot.exists_failure_iff (fun _ _ h => slot_of_failure? h) slot

theorem without_failures (o : Outcomes) (scene : Scene) :
    scene.without (o.failures scene) =
      { background :=
          if (o.failure? scene (.image .background)).isSome then "" else scene.background
        left := if (o.failure? scene (.image .left)).isSome then "" else scene.left
        right := if (o.failure? scene (.image .right)).isSome then "" else scene.right
        audio :=
          if (o.failure? scene .audio).isSome || scene.audio.path = "" then .silence
          else scene.audio } := by
  simp only [Scene.without, exists_failure_iff, Cue.heard]
  by_cases hlost : (o.failure? scene .audio).isSome = true <;> simp [hlost]

/-- Everything in the scene can be loaded. -/
def Loads (o : Outcomes) (scene : Scene) : Prop := ∀ slot, o.failure? scene slot = none

theorem failure?_of_path {o : Outcomes} {scene : Scene} {slot : Slot}
    (h : scene.path slot = "") : o.failure? scene slot = none := by
  rw [failure?, h, AssetFailure.of?_empty]

theorem failure?_image_congr (o : Outcomes) {a b : Scene} {slot : ImageSlot}
    (h : a.image slot = b.image slot) :
    o.failure? a (.image slot) = o.failure? b (.image slot) := by
  simp [failure?, answer, Scene.path, h]

theorem failure?_audio_congr (o : Outcomes) {a b : Scene} (h : a.audio = b.audio) :
    o.failure? a .audio = o.failure? b .audio := by
  simp [failure?, answer, Scene.path, h]

theorem loads_empty (o : Outcomes) : o.Loads {} := by
  intro slot
  cases slot with
  | audio => exact failure?_of_path rfl
  | image slot => cases slot <;> exact failure?_of_path rfl

theorem loads_without_failures (o : Outcomes) (scene : Scene) :
    o.Loads (scene.without (o.failures scene)) := by
  intro slot
  by_cases hlost : (o.failure? scene slot).isSome = true
  · apply failure?_of_path
    cases slot with
    | audio => simp [Scene.path, Scene.without, exists_failure_iff, hlost, Cue.silence]
    | image slot => simp [Scene.path, Scene.image_without, exists_failure_iff, hlost]
  · have hnone : o.failure? scene slot = none := by simpa using hlost
    cases slot with
    | image slot =>
        rwa [o.failure?_image_congr (b := scene)]
        simp [Scene.image_without, exists_failure_iff, hnone]
    | audio =>
        by_cases hpath : scene.audio.path = ""
        · apply failure?_of_path
          simp [Scene.path, Scene.without, exists_failure_iff, hnone, Cue.heard, hpath, Cue.silence]
        · rwa [o.failure?_audio_congr (b := scene)]
          simp [Scene.without, exists_failure_iff, hnone, Cue.heard, hpath]

theorem Loads.silence {o : Outcomes} {scene : Scene} (h : o.Loads scene) :
    o.Loads { scene with audio := .silence } := by
  intro slot
  cases slot with
  | audio => exact failure?_of_path rfl
  | image slot =>
      rw [o.failure?_image_congr (Scene.image_withAudio scene .silence slot)]
      exact h (.image slot)

/-- The failure in a slot when a scene is loaded where another one is shown: what is shown already
is not loaded again. -/
def changeFailure? (o : Outcomes) (shown scene : Scene) : Slot → Option AssetFailure
  | .image slot =>
    if shown.image slot = scene.image slot then none else o.failure? scene (.image slot)
  | .audio => if shown.audio = scene.audio.heard then none else o.failure? scene .audio

/-- Where all that is shown can be loaded, it makes no difference that it is not loaded again. -/
theorem Loads.changeFailure?_eq {o : Outcomes} {shown : Scene} (h : o.Loads shown) (scene : Scene)
    (slot : Slot) : o.changeFailure? shown scene slot = o.failure? scene slot := by
  cases slot with
  | image slot =>
      rw [changeFailure?]
      split
      · rename_i hshown
        rw [← o.failure?_image_congr hshown, h]
      · rfl
  | audio =>
      rw [changeFailure?]
      split
      · rename_i hshown
        by_cases hpath : scene.audio.path = ""
        · have hscene : scene.path .audio = "" := hpath
          rw [failure?_of_path hscene]
        · rw [Cue.heard, if_neg hpath] at hshown
          rw [← o.failure?_audio_congr hshown, h]
      · rfl

end Outcomes

/-- The device answers each load with its outcome, whatever happened before. -/
structure Media.Constant {σ : Type} (m : Media σ) (o : Outcomes) : Prop where
  load : ∀ slot path device, (m.answer (.load slot path) device).1 = o.texture slot path
  play : ∀ path looped device, (m.answer (.play path looped) device).1 = o.music path looped

theorem Media.Constant.answer_call {σ : Type} {m : Media σ} {o : Outcomes} (h : m.Constant o)
    (scene : Scene) (slot : Slot) (device : σ) :
    (m.answer (scene.call slot) device).1 = o.answer scene slot := by
  cases slot with
  | image slot => exact h.load slot _ device
  | audio => exact h.play _ _ device

namespace Stage

variable {σ : Type} {m : Media σ} {o : Outcomes}

/-! ## Loading what has changed -/

theorem ShowsImage.failure_eq {slot : ImageSlot} {path : String} {s t : Stage σ}
    {result : Status × Option AssetFailure} {calls : List (Call × Bool)}
    (h : ShowsImage m slot path s result calls t) (hm : m.Constant o) :
    result.2 =
      if s.shown.image slot = path then none
      else AssetFailure.of? (.image slot) path (o.texture slot path) := by
  cases h with
  | unchanged hs => rw [if_pos hs]
  | cleared hs hpath => rw [if_neg hs, hpath, AssetFailure.of?_empty]
  | loaded hs _ hanswer =>
      rw [if_neg hs, ← hm.load slot path s.device, hanswer]
      rfl
  | failed hs hpath hanswer =>
      rw [if_neg hs, ← hm.load slot path s.device, hanswer]
      simp [AssetFailure.of?, hpath]

theorem PlaysCue.failure_eq {cue : Cue} {s t : Stage σ} {result : Status × Option AssetFailure}
    {calls : List (Call × Bool)} (h : PlaysCue m cue s result calls t) (hm : m.Constant o) :
    result.2 =
      if s.shown.audio = cue.heard then none
      else AssetFailure.of? .audio cue.path (o.music cue.path cue.looped) := by
  cases h with
  | unchanged hs => rw [if_pos hs]
  | cleared hs hpath => rw [if_neg hs, hpath, AssetFailure.of?_empty]
  | @loaded _ device _ hs _ hanswer =>
      rw [if_neg hs, ← hm.play cue.path cue.looped device, hanswer]
      rfl
  | @failed _ _ device _ hs hpath hanswer =>
      rw [if_neg hs, ← hm.play cue.path cue.looped device, hanswer]
      simp [AssetFailure.of?, hpath]

theorem ShowsImage.loads_sublist {slot : ImageSlot} {path : String} {s t : Stage σ}
    {result : Status × Option AssetFailure} {calls : List (Call × Bool)}
    (h : ShowsImage m slot path s result calls t) :
    List.Sublist (Call.loads calls)
      (if path = "" then none else some (Call.load slot path)).toList := by
  cases h with
  | unchanged => exact List.nil_sublist _
  | cleared => exact List.nil_sublist _
  | loaded _ hpath => simp [Call.loads, Call.path?, hpath]
  | failed _ hpath => simp [Call.loads, Call.path?, hpath]

theorem PlaysCue.loads_sublist {cue : Cue} {s t : Stage σ} {result : Status × Option AssetFailure}
    {calls : List (Call × Bool)} (h : PlaysCue m cue s result calls t) :
    List.Sublist (Call.loads calls)
      (if cue.path = "" then none else some (Call.play cue.path cue.looped)).toList := by
  cases h with
  | unchanged => exact List.nil_sublist _
  | cleared => exact List.nil_sublist _
  | loaded _ hpath => simp [Call.loads, Call.path?, hpath]
  | failed _ hpath => simp [Call.loads, Call.path?, hpath]

section Applies

variable {scene : Scene} {s t : Stage σ} {results : Slot → Status × Option AssetFailure}
  {calls : List (Call × Bool)}

theorem Applies.failure_eq (h : Applies m scene s t results calls) (hm : m.Constant o)
    (slot : Slot) : (results slot).2 = o.changeFailure? s.shown scene slot := by
  cases h with
  | @slots s₁ s₂ s₃ _ _ _ _ hb hl hr ha =>
      cases slot with
      | image slot =>
          -- the slots before this one leave its picture alone
          cases slot with
          | background => exact hb.failure_eq hm
          | left =>
              have himage : s₁.shown.image .left = s.shown.image .left := by
                simp [hb.shown_eq, Scene.image_withImage]
              rw [hl.failure_eq hm, himage]
              rfl
          | right =>
              have himage : s₂.shown.image .right = s.shown.image .right := by
                simp [hl.shown_eq, hb.shown_eq, Scene.image_withImage]
              rw [hr.failure_eq hm, himage]
              rfl
      | audio =>
          have haudio : s₃.shown.audio = s.shown.audio := by
            simp [hr.shown_eq, hl.shown_eq, hb.shown_eq]
          rw [ha.failure_eq hm, haudio]
          rfl

/-- What is loaded is asked for, in this order. -/
theorem Applies.loads_sublist (h : Applies m scene s t results calls) :
    List.Sublist (Call.loads calls) (Slot.all.filterMap scene.request?) := by
  rw [Slot.filterMap_all]
  cases h with
  | slots hb hl hr ha =>
      simp only [Call.loads_append]
      exact ((hb.loads_sublist.append hl.loads_sublist).append hr.loads_sublist).append
        ha.loads_sublist

end Applies

/-- What fails depends on what is shown and what is asked for, but not on the device. -/
theorem failures_apply_eq (hm : m.Constant o) (scene : Scene) (s : Stage σ) :
    (s.apply m scene).value.1.failures =
      Slot.all.filterMap (o.changeFailure? s.shown scene) := by
  obtain ⟨results, happlies, hfailures, -⟩ := exists_applies m scene s
  rw [hfailures, funext fun slot => happlies.failure_eq hm slot]

theorem failures_apply (hm : m.Constant o) (scene : Scene) {s : Stage σ}
    (hloads : o.Loads s.shown) : (s.apply m scene).value.1.failures = o.failures scene := by
  have hresults := funext fun slot => hloads.changeFailure?_eq scene slot
  rw [failures_apply_eq hm, Outcomes.failures, hresults]

theorem loads_apply_sublist (m : Media σ) (scene : Scene) (s : Stage σ) :
    List.Sublist (Call.loads (Note.performed (s.apply m scene).notes))
      (Slot.all.filterMap scene.request?) := by
  obtain ⟨results, happlies, -⟩ := exists_applies m scene s
  exact happlies.loads_sublist

end Stage

end Narrative
