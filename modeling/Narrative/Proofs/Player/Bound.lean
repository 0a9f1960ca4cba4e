import Narrative.Proofs.Player.Refusal
import Narrative.Proofs.Scene.Slots

/-!
# What is bound

An accepted action that leaves a player at a line or at a choice binds what the scene there asks
for, slot by slot, except for what it reports as failed (`bound_of_accepted`).  Nothing that was
shown before matters, so nothing of it is left; and the bindings stay while actions are refused.
-/

namespace Narrative

/-- The failures to load among some diagnostics. -/
def Diagnostic.assets (ds : List Diagnostic) : List AssetFailure :=
  ds.filterMap fun
    | .asset f => some f
    | .script _ => none

@[simp] theorem Diagnostic.assets_map_asset (failures : List AssetFailure) :
    assets (failures.map .asset) = failures := by
  rw [assets, List.filterMap_map]
  exact List.filterMap_some

/-- What is shown where a scene was asked for, with some diagnostics: each slot holds what is asked
for there, if anything is and it did not fail; and each failure names a slot that something is asked
for in, with its path. -/
structure Scene.Binds (scene shown : Scene) (ds : List Diagnostic) : Prop where
  image?_eq : ∀ slot, shown.image? slot =
    if ∃ f ∈ Diagnostic.assets ds, f.slot = .image slot then none else scene.image? slot
  cue?_eq : shown.cue? =
    if ∃ f ∈ Diagnostic.assets ds, f.slot = .audio then none else scene.cue?
  asset : ∀ f, .asset f ∈ ds → f.path = scene.path f.slot ∧ scene.path f.slot ≠ ""

theorem Stage.binds_apply {σ : Type} (m : Media σ) (scene : Scene) (s : Stage σ) :
    scene.Binds (s.apply m scene).value.2.shown
      ((s.apply m scene).value.1.failures.map .asset) where
  image?_eq slot := by rw [shown_apply, Scene.image?_without, Diagnostic.assets_map_asset]
  cue?_eq := by rw [shown_apply, Scene.cue?_without, Diagnostic.assets_map_asset]
  asset f hf := of_mem_failures_apply (by simpa using hf)

namespace Script

/-- The scene that a script asks for at a position: that of the line, or of the choice. -/
inductive Asks (s : Script) : Position → Scene → Prop
  | line {event : String} {index : Nat} {d : Dialogue} {line : Line} :
      s.node? event = some (.dialogue d) → d.lines[index]? = some line →
        Asks s (.line event index) line.scene
  | prompt {event : String} {c : Choice} :
      s.node? event = some (.choice c) → Asks s (.prompt event) c.scene

variable {s : Script} {position : Position} {scene : Scene}

theorem RestsAt.asks {key : String} {a : Arrival} (h : s.RestsAt key a)
    (ha : a.rest = .stands position scene) : s.Asks position scene := by
  cases h with
  | line hn hl =>
      cases ha
      exact .line hn (by rw [hl]; rfl)
  | prompt hn =>
      cases ha
      exact .prompt hn
  | _ => cases ha

theorem Arrives.asks {start : String} {a : Arrival} (h : s.Arrives start a)
    (ha : a.rest = .stands position scene) : s.Asks position scene := by
  cases h with
  | rests _ hr => exact hr.asks ha
  | _ => cases ha

theorem Takes.asks {origin : Position} {action : Action} {course : Course}
    (h : s.Takes origin action course) (hrest : course.rest s = .stands position scene) :
    s.Asks position scene := by
  cases h with
  | start | leave | branch => exact (s.arrives_journey _).asks hrest
  | turn hn hl =>
      cases hrest
      exact .line hn hl
  | _ => cases hrest

end Script

namespace Player

variable {σ : Type} {m : Media σ} {p q r : Player σ}

/-- What a player becomes while each action is refused, whatever the host does to its device. -/
inductive Waits (m : Media σ) (p : Player σ) : Player σ → Prop
  | refl : Waits m p p
  | refused {q : Player σ} {action : Action} {e : SignalError} :
      Waits m p q → (q.step m action).value.1 = .error e → Waits m p (q.step m action).value.2
  | withDevice {q : Player σ} (device : σ) : Waits m p q → Waits m p (q.withDevice device)

theorem Waits.kept (h : Waits m p q) : q.position = p.position ∧ q.stage.shown = p.stage.shown := by
  induction h with
  | refl => exact ⟨rfl, rfl⟩
  | withDevice device _ ih => exact ih
  | refused _ he ih => rwa [(unchanged_of_refused he).1]

/-- Where a step comes to rest, the scene is bound that the script asks for there. -/
theorem exists_asks_of_step {action : Action} {progress : Progress}
    (h : (p.step m action).value = (.ok progress, q)) (hq : q.position ≠ .terminated) :
    ∃ scene, p.script.Asks q.position scene ∧
      scene.Binds q.stage.shown progress.diagnostics := by
  rcases step_cases m p action with ⟨e, -, hstep⟩ | ⟨course, ht, hstep⟩
  · rw [hstep] at h
    cases h
  · rw [hstep] at h
    cases hrest : course.rest p.script with
    | ends ending failure =>
        rw [hrest] at h
        cases h
        exact absurd rfl hq
    | stands position scene =>
        rw [hrest] at h
        cases h
        exact ⟨scene, ht.asks hrest, Stage.binds_apply m scene p.stage⟩

/-- An action that is accepted and leaves the player at a line or at a choice binds the scene of
exactly that line or choice, whatever was shown before and whatever fails to load.  This stays so
until an action is accepted again. -/
theorem bound_of_accepted {action : Action} {progress : Progress}
    (h : (p.step m action).value = (.ok progress, q)) :
    (∀ event index, q.position = .line event index →
      ∃ d line, p.script.node? event = some (.dialogue d) ∧ d.lines[index]? = some line ∧
        line.scene.Binds q.stage.shown progress.diagnostics) ∧
    (∀ event, q.position = .prompt event →
      ∃ c, p.script.node? event = some (.choice c) ∧
        c.scene.Binds q.stage.shown progress.diagnostics) ∧
    ∀ r, Waits m q r → r.position = q.position ∧ r.stage.shown = q.stage.shown := by
  refine ⟨fun event index hposition => ?_, fun event hposition => ?_, fun r hr => hr.kept⟩
  · obtain ⟨scene, hasks, hbinds⟩ := exists_asks_of_step h (by simp [hposition])
    rw [hposition] at hasks
    cases hasks with
    | line hn hl => exact ⟨_, _, hn, hl, hbinds⟩
  · obtain ⟨scene, hasks, hbinds⟩ := exists_asks_of_step h (by simp [hposition])
    rw [hposition] at hasks
    cases hasks with
    | prompt hn => exact ⟨_, hn, hbinds⟩

theorem eq_ok_of_toOption {ε α : Type} {x : Except ε α} {a : α} (h : x.toOption = some a) :
    x = .ok a := by
  cases x with
  | ok b => rw [Option.some.inj h]
  | error e => cases h

/-- A walk whose second line keeps one picture, asks for a new background and for silence, looped
though it is. -/
def walk : Script :=
  .ofEntries [("walk", .dialogue { lines := [
    { scene := { background := "day.png", left := "aoi.png", audio := ⟨"theme.ogg", true⟩ } },
    { scene := { background := "night.png", left := "aoi.png", audio := ⟨"", true⟩ } }] })]

/-- The player of `walk` at its first line, on a device that has no picture of the night. -/
def strolling : Player Headless :=
  ((ofScript walk { missing := ["night.png"] }).run Headless.media [.start]).value.2

theorem bound_strolling :
    (strolling.step Headless.media .advance).value.1 =
        .ok ⟨.line "walk" 1,
          [.asset ⟨.image .background, "night.png", "asset not found: night.png"⟩]⟩ ∧
      ∃ d line, walk.node? "walk" = some (.dialogue d) ∧ d.lines[1]? = some line ∧
        line.scene.Binds (strolling.step Headless.media .advance).value.2.stage.shown
          [.asset ⟨.image .background, "night.png", "asset not found: night.png"⟩] := by
  have hanswer : (strolling.step Headless.media .advance).value.1 =
      .ok ⟨.line "walk" 1,
        [.asset ⟨.image .background, "night.png", "asset not found: night.png"⟩]⟩ :=
    eq_ok_of_toOption (by decide +kernel)
  have hposition : (strolling.step Headless.media .advance).value.2.position = .line "walk" 1 := by
    decide +kernel
  have hscript : strolling.script = walk := run_script _ _ _
  have hbound := bound_of_accepted (p := strolling) (Prod.ext hanswer rfl)
  rw [hscript] at hbound
  exact ⟨hanswer, hbound.1 "walk" 1 hposition⟩

end Player

end Narrative
