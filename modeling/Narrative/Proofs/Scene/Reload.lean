import Narrative.Proofs.Scene.Outcomes
import Narrative.Scene.Headless

/-!
# Loading everything anew

The plain way to bring a stage to a scene empties every slot and loads all that the scene asks for
(`reload`).  On a device whose outcomes are fixed, it cannot be told apart from loading only what
has changed, neither by what is shown nor by what fails, but for the calls that the latter saves
(`follow_update_eq_follow_reload`).
-/

namespace Narrative

namespace Stage

variable {σ : Type} {m : Media σ} {o : Outcomes}

/-! ## Loading everything -/

/-- Loads what a scene asks for in a slot, if anything, and says what failed. -/
def fetch (m : Media σ) (scene : Scene) (slot : Slot) (s : Stage σ) :
    Noted Note (Option AssetFailure × Stage σ) := do
  if scene.path slot = "" then
    return (none, s)
  else
    match ← s.call m (scene.call slot) with
    | (.ok _, s) => return (none, s)
    | (.error error, s) =>
      return (some { slot, path := scene.path slot, reason := error.message }, s)

/-- Empties every slot, then loads what a scene asks for, slot after slot; what fails is not
shown. -/
def reload (m : Media σ) (scene : Scene) (s : Stage σ) :
    Noted Note (List AssetFailure × Stage σ) := do
  let (_, s) ← s.call m (.release .background)
  let (_, s) ← s.call m (.release .left)
  let (_, s) ← s.call m (.release .right)
  let (_, s) ← s.call m .stop
  let (background, s) ← s.fetch m scene (.image .background)
  let (left, s) ← s.fetch m scene (.image .left)
  let (right, s) ← s.fetch m scene (.image .right)
  let (audio, s) ← s.fetch m scene .audio
  let shown := {
    background := if background.isSome then "" else scene.background
    left := if left.isSome then "" else scene.left
    right := if right.isSome then "" else scene.right
    audio := if audio.isSome || scene.audio.path = "" then .silence else scene.audio }
  return ([background, left, right, audio].filterMap id, { s with shown })

theorem value_fetch (hm : m.Constant o) (scene : Scene) (slot : Slot) (s : Stage σ) :
    (s.fetch m scene slot).value.1 = o.failure? scene slot := by
  unfold fetch
  by_cases hpath : scene.path slot = ""
  · rw [if_pos hpath, Outcomes.failure?, hpath, AssetFailure.of?_empty]
    rfl
  · have hanswer := hm.answer_call scene slot s.device
    cases ho : o.answer scene slot <;>
      simp [hpath, hanswer, ho, Outcomes.failure?, AssetFailure.of?]

theorem loads_fetch (m : Media σ) (scene : Scene) (slot : Slot) (s : Stage σ) :
    Call.loads (Note.performed (s.fetch m scene slot).notes) = (scene.request? slot).toList := by
  unfold fetch
  by_cases hpath : scene.path slot = ""
  · simp [hpath, Scene.request?]
  · have hload : (scene.call slot).path?.isSome = true := by cases slot <;> rfl
    cases hanswer : (m.answer (scene.call slot) s.device).1 <;>
      simp [hpath, hanswer, Scene.request?, Call.loads, hload]

/-- Whatever was shown before, loading everything shows the scene without what fails, and loads all
that it asks for. -/
theorem reload_spec (hm : m.Constant o) (scene : Scene) (s : Stage σ) :
    (s.reload m scene).value.1 = o.failures scene ∧
      (s.reload m scene).value.2.shown = scene.without (o.failures scene) ∧
        Call.loads (Note.performed (s.reload m scene).notes) =
          Slot.all.filterMap scene.request? := by
  let noBackground := (s.call m (.release .background)).value.2
  let noLeft := (noBackground.call m (.release .left)).value.2
  let noRight := (noLeft.call m (.release .right)).value.2
  let emptied := (noRight.call m .stop).value.2
  let background := emptied.fetch m scene (.image .background)
  let left := background.value.2.fetch m scene (.image .left)
  let right := left.value.2.fetch m scene (.image .right)
  let audio := right.value.2.fetch m scene .audio
  have hbackground : background.value.1 = o.failure? scene (.image .background) :=
    value_fetch hm scene _ emptied
  have hleft : left.value.1 = o.failure? scene (.image .left) :=
    value_fetch hm scene _ background.value.2
  have hright : right.value.1 = o.failure? scene (.image .right) :=
    value_fetch hm scene _ left.value.2
  have haudio : audio.value.1 = o.failure? scene .audio := value_fetch hm scene _ right.value.2
  refine ⟨?_, ?_, ?_⟩
  · change [background.value.1, left.value.1, right.value.1, audio.value.1].filterMap id = _
    rw [hbackground, hleft, hright, haudio]
    rfl
  · rw [Outcomes.without_failures, ← hbackground, ← hleft, ← hright, ← haudio]
    rfl
  · simp [reload, Slot.filterMap_all, loads_fetch, Call.path?]

end Stage

/-! ## Following directions -/

/-- What a stage is told to do. -/
inductive Direction where
  | apply (scene : Scene)
  | silence

namespace Stage

variable {σ : Type} {m : Media σ} {o : Outcomes}

/-- Brings a stage to a scene by loading what has changed. -/
def update (m : Media σ) (scene : Scene) (s : Stage σ) :
    Noted Note (List AssetFailure × Stage σ) := do
  let (applied, s) ← s.apply m scene
  return (applied.failures, s)

/-- Follows one direction, where `bring` brings a stage to a scene. -/
def obey (m : Media σ) (bring : Scene → Stage σ → Noted Note (List AssetFailure × Stage σ)) :
    Direction → Stage σ → Noted Note (List AssetFailure × Stage σ)
  | .apply scene, s => bring scene s
  | .silence, s => do
    let s ← s.silence m
    return ([], s)

/-- Follows directions: what failed at each, and what is shown after it. -/
def follow (m : Media σ) (bring : Scene → Stage σ → Noted Note (List AssetFailure × Stage σ)) :
    List Direction → Stage σ → Noted Note (List (List AssetFailure × Scene) × Stage σ)
  | [], s => return ([], s)
  | direction :: directions, s => do
    let (failures, s) ← obey m bring direction s
    let (steps, last) ← follow m bring directions s
    return ((failures, s.shown) :: steps, last)

/-- Two stages show the same and report the same failures after a step, and the first one loads no
more than the second. -/
structure Matches (x y : Noted Note (List AssetFailure × Stage σ)) : Prop where
  failures_eq : x.value.1 = y.value.1
  shown_eq : x.value.2.shown = y.value.2.shown
  loads_sublist : List.Sublist (Call.loads (Note.performed x.notes))
    (Call.loads (Note.performed y.notes))

theorem matches_obey (hm : m.Constant o) (direction : Direction) {s s' : Stage σ}
    (hshown : s.shown = s'.shown) (hloads : o.Loads s.shown) :
    Matches (obey m (update m) direction s) (obey m (reload m) direction s') ∧
      o.Loads (obey m (update m) direction s).value.2.shown := by
  cases direction with
  | silence =>
      have hsilence : (obey m (update m) .silence s).value.2.shown =
          { s.shown with audio := .silence } := shown_silence m s
      refine ⟨⟨rfl, ?_, ?_⟩, ?_⟩
      · simp [obey, hshown]
      · simp [obey, performed_silence, Call.path?]
      · rw [hsilence]
        exact hloads.silence
  | apply scene =>
      obtain ⟨hfailures', hshown', hloads'⟩ := reload_spec hm scene s'
      have hfailures : (s.apply m scene).value.1.failures = o.failures scene :=
        failures_apply hm scene hloads
      have happly : (s.apply m scene).value.2.shown = scene.without (o.failures scene) := by
        rw [shown_apply, hfailures]
      refine ⟨⟨?_, ?_, ?_⟩, ?_⟩
      · simp [obey, update, hfailures, hfailures']
      · simp [obey, update, happly, hshown']
      · simpa [obey, update, hloads'] using loads_apply_sublist m scene s
      · simpa [obey, update, happly] using o.loads_without_failures scene

theorem follow_cons (m : Media σ)
    (bring : Scene → Stage σ → Noted Note (List AssetFailure × Stage σ)) (direction : Direction)
    (directions : List Direction) (s : Stage σ) :
    (follow m bring (direction :: directions) s).value.1 =
        ((obey m bring direction s).value.1, (obey m bring direction s).value.2.shown) ::
          (follow m bring directions (obey m bring direction s).value.2).value.1 ∧
      Note.performed (follow m bring (direction :: directions) s).notes =
        Note.performed (obey m bring direction s).notes ++
          Note.performed (follow m bring directions (obey m bring direction s).value.2).notes := by
  simp [follow]

theorem follow_matches (hm : m.Constant o) (directions : List Direction) {s s' : Stage σ}
    (hshown : s.shown = s'.shown) (hloads : o.Loads s.shown) :
    (follow m (update m) directions s).value.1 = (follow m (reload m) directions s').value.1 ∧
      List.Sublist (Call.loads (Note.performed (follow m (update m) directions s).notes))
        (Call.loads (Note.performed (follow m (reload m) directions s').notes)) := by
  -- the devices may differ: what both runs keep is that they show the same, and that it all loads
  induction directions generalizing s s' with
  | nil => exact ⟨rfl, List.Sublist.refl _⟩
  | cons direction directions ih =>
      obtain ⟨hmatches, hnext⟩ := matches_obey hm direction hshown hloads
      obtain ⟨hsteps, hsublist⟩ := ih hmatches.shown_eq hnext
      obtain ⟨hvalue, hnotes⟩ := follow_cons m (update m) direction directions s
      obtain ⟨hvalue', hnotes'⟩ := follow_cons m (reload m) direction directions s'
      constructor
      · rw [hvalue, hvalue', hmatches.failures_eq, hmatches.shown_eq, hsteps]
      · rw [hnotes, hnotes', Call.loads_append, Call.loads_append]
        exact hmatches.loads_sublist.append hsublist

/-- On a device whose outcomes are fixed, a fresh stage that loads only what has changed shows the
same after each direction, and reports the same failures in the same order, as one that empties
every slot and loads everything at each scene; and it makes some of the same loads, in the same
order. -/
theorem follow_update_eq_follow_reload (hm : m.Constant o) (device : σ)
    (directions : List Direction) :
    let changed := follow m (update m) directions ⟨device, {}⟩
    let anew := follow m (reload m) directions ⟨device, {}⟩
    changed.value.1 = anew.value.1 ∧
      List.Sublist (Call.loads (Note.performed changed.notes))
        (Call.loads (Note.performed anew.notes)) :=
  follow_matches hm directions rfl o.loads_empty

end Stage

/-- The outcomes of a device that fails for the paths of a table. -/
def Outcomes.failing (errors : Keyed MediaError) : Outcomes where
  texture _ path := (errors.get? path).elim (.ok ()) .error
  music path _ := (errors.get? path).elim (.ok ()) .error

theorem Media.constant_failing (errors : Keyed MediaError) :
    (Media.failing errors).Constant (.failing errors) where
  load slot path device := by
    cases h : errors.get? path <;> simp [failing, Outcomes.failing, Call.path?, h]
  play path looped device := by
    cases h : errors.get? path <;> simp [failing, Outcomes.failing, Call.path?, h]

namespace Stage

/-- A scene with a picture that is gone, the same with the music looped, silence, and the scene
again. -/
def evening : List Direction :=
  let scene : Scene :=
    { background := "gone.png", left := "aoi.png", audio := ⟨"theme.ogg", false⟩ }
  [.apply scene, .apply { scene with audio := ⟨"theme.ogg", true⟩ }, .silence, .apply scene]

theorem follow_update_evening :
    let m := Media.failing [("gone.png", .notFound "gone.png")]
    let changed := follow m (update m) evening ⟨(), {}⟩
    let anew := follow m (reload m) evening ⟨(), {}⟩
    m.Constant (.failing [("gone.png", .notFound "gone.png")]) ∧
      changed.value.1 = anew.value.1 ∧
        List.Sublist (Call.loads (Note.performed changed.notes))
          (Call.loads (Note.performed anew.notes)) := by
  have hm := Media.constant_failing [("gone.png", .notFound "gone.png")]
  exact ⟨hm, follow_update_eq_follow_reload hm () evening⟩

end Stage

end Narrative
