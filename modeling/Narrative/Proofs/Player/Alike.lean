import Narrative.Proofs.Player.Rest
import Narrative.Proofs.Scene.Outcomes

/-!
# Players that differ in their devices

Two players are alike if they differ at most in the states of their devices.  On a device whose
outcomes are fixed, they give the same answers and stay alike (`Alike.step`).
-/

namespace Narrative

namespace Stage

variable {σ : Type} {m : Media σ} {o : Outcomes} {s t : Stage σ}

theorem failures_apply_congr (hm : m.Constant o) (h : s.shown = t.shown) (scene : Scene) :
    (s.apply m scene).value.1.failures = (t.apply m scene).value.1.failures := by
  rw [failures_apply_eq hm, failures_apply_eq hm, h]

theorem shown_apply_congr (hm : m.Constant o) (h : s.shown = t.shown) (scene : Scene) :
    (s.apply m scene).value.2.shown = (t.apply m scene).value.2.shown := by
  rw [shown_apply, shown_apply, failures_apply_congr hm h]

end Stage

namespace Player

variable {σ : Type} {m : Media σ} {o : Outcomes} {p q r : Player σ}

/-- Two players differ at most in the states of their devices. -/
structure Alike (p q : Player σ) : Prop where
  script_eq : p.script = q.script
  position_eq : p.position = q.position
  ending_eq : p.ending = q.ending
  shown_eq : p.stage.shown = q.stage.shown

namespace Alike

theorem refl (p : Player σ) : Alike p p := ⟨rfl, rfl, rfl, rfl⟩

theorem withDevice (h : Alike p q) (device : σ) : Alike (p.withDevice device) q :=
  ⟨h.script_eq, h.position_eq, h.ending_eq, h.shown_eq⟩

theorem settle (h : Alike p q) (hm : m.Constant o) (r : Rest) :
    (p.settle m r).value.1 = (q.settle m r).value.1 ∧
      Alike (p.settle m r).value.2 (q.settle m r).value.2 := by
  cases r with
  | stands position scene =>
      constructor
      · simp [Player.settle, stand, Stage.failures_apply_congr hm h.shown_eq]
      · exact ⟨h.script_eq, rfl, h.ending_eq, Stage.shown_apply_congr hm h.shown_eq scene⟩
  | ends ending failure =>
      constructor
      · rfl
      · refine ⟨h.script_eq, rfl, rfl, ?_⟩
        simp [Player.settle, finish, h.shown_eq]

theorem step (h : Alike p q) (hm : m.Constant o) (action : Action) :
    (p.step m action).value.1 = (q.step m action).value.1 ∧
      Alike (p.step m action).value.2 (q.step m action).value.2 := by
  rcases step_cases m p action with ⟨e, he, hstep⟩ | ⟨course, ht, hstep⟩
  · rw [h.script_eq, h.position_eq] at he
    rw [hstep, step_of_refused he]
    exact ⟨rfl, h⟩
  · rw [h.script_eq, h.position_eq] at ht
    obtain ⟨hprogress, halike⟩ := h.settle hm (course.rest q.script)
    rw [hstep, step_of_takes ht, h.script_eq]
    exact ⟨congrArg Except.ok hprogress, halike⟩

end Alike

end Player

end Narrative
