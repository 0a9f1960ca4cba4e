import Narrative.Proofs.Player.Refusal
import Narrative.Session.Basic

/-!
# What a session does with its lines

A session heeds a line of input if the line asks for an action that the run accepts at this point,
and rejects any other one with a text that says why.  `Proceeds` lists, case by case, how a session
goes on: which actions it sends, which lines it rejects, and what it comes to.  There is always such
a way (`exists_proceeds`), and the session goes it (`Proceeds.proceed_eq`).
-/

namespace Narrative

theorem Position.isTerminated_iff {position : Position} :
    position.isTerminated = true ↔ position = .terminated := by
  cases position <;> simp [isTerminated]

namespace Session

variable {m : Media Console} {debug : Bool} {p q : Player Console} {line : String}
  {lines kept : List String} {actions : List Action} {outcome : Outcome}

/-! ## One line -/

/-- A line is rejected, with the text that the session answers. -/
inductive Rejects (m : Media Console) (p : Player Console) (line : String) : String → Prop
  | noChoice : command p.position.isPrompt (Text.trim line) = .noChoice →
      Rejects m p line "Invalid choice. Enter 1-9."
  | noCommand : command p.position.isPrompt (Text.trim line) = .noCommand →
      Rejects m p line "Press Enter to continue, or 'q' to quit."
  | refused {action : Action} {e : SignalError} :
      command p.position.isPrompt (Text.trim line) = .act action →
        (p.step m action).value.1 = .error e → Rejects m p line e.message

/-- A line is heeded: it asks for an action that is accepted. -/
structure Heeds (m : Media Console) (p : Player Console) (line : String) (action : Action)
    (progress : Progress) (q : Player Console) : Prop where
  command_eq : command p.position.isPrompt (Text.trim line) = .act action
  step_eq : (p.step m action).value = (.ok progress, q)

theorem Rejects.respond_eq {text : String} (h : Rejects m p line text) :
    (respond m line p).value = (.lines [text], p) := by
  cases h with
  | noChoice hc => simp [respond, hc]
  | noCommand hc => simp [respond, hc]
  | @refused action e hc he =>
      have hstep : (p.step m action).value = (.error e, p) :=
        Prod.ext he (Player.unchanged_of_refused he).1
      simp [respond, hc, hstep]

theorem Heeds.respond_eq {action : Action} {progress : Progress}
    (h : Heeds m p line action progress q) : (respond m line p).value = report progress q := by
  simp [respond, h.command_eq, h.step_eq]

theorem exists_heeds_or_rejects (m : Media Console) (p : Player Console) (line : String) :
    (∃ action progress q, Heeds m p line action progress q) ∨ ∃ text, Rejects m p line text := by
  cases hc : command p.position.isPrompt (Text.trim line) with
  | noChoice => exact Or.inr ⟨_, .noChoice hc⟩
  | noCommand => exact Or.inr ⟨_, .noCommand hc⟩
  | act action =>
      cases hanswer : (p.step m action).value.1 with
      | ok progress => exact Or.inl ⟨action, progress, _, hc, Prod.ext hanswer rfl⟩
      | error e => exact Or.inr ⟨_, .refused hc hanswer⟩

/-! ## All lines -/

/-- How a session goes on with some lines of input: the actions that it sends, the lines without
those that it rejects, and the outcome. -/
inductive Proceeds (m : Media Console) (debug : Bool) :
    Player Console → List String → List Action → List String → Outcome → Prop
  /-- Once the run is over, no line is read. -/
  | ended {p : Player Console} {lines : List String} :
      p.position = .terminated → Proceeds m debug p lines [] lines (close p)
  | runsOut {p : Player Console} :
      p.position ≠ .terminated →
        Proceeds m debug p [] [.cancel] []
          ((close (p.step m .cancel).value.2).behind (view debug p))
  | heeds {p q : Player Console} {line : String} {lines kept : List String} {action : Action}
      {actions : List Action} {progress : Progress} {outcome : Outcome} :
      p.position ≠ .terminated → Heeds m p line action progress q →
        Proceeds m debug (q.withDevice {}) lines actions kept outcome →
          Proceeds m debug p (line :: lines) (action :: actions) (line :: kept)
            (outcome.behind (view debug p ++ [(report progress q).1]))
  | rejects {p : Player Console} {line text : String} {lines kept : List String}
      {actions : List Action} {outcome : Outcome} :
      p.position ≠ .terminated → Rejects m p line text →
        Proceeds m debug p lines actions kept outcome →
          Proceeds m debug p (line :: lines) actions kept
            (outcome.behind (view debug p ++ [.lines [text]]))

theorem exists_proceeds (m : Media Console) (debug : Bool) (p : Player Console)
    (lines : List String) :
    ∃ actions kept outcome, Proceeds m debug p lines actions kept outcome := by
  induction lines generalizing p with
  | nil =>
      by_cases hp : p.position = .terminated
      · exact ⟨_, _, _, .ended hp⟩
      · exact ⟨_, _, _, .runsOut hp⟩
  | cons line lines ih =>
      by_cases hp : p.position = .terminated
      · exact ⟨_, _, _, .ended hp⟩
      · rcases exists_heeds_or_rejects m p line with ⟨action, progress, q, h⟩ | ⟨text, h⟩
        · obtain ⟨actions, kept, outcome, hrest⟩ := ih (q.withDevice {})
          exact ⟨_, _, _, .heeds hp h hrest⟩
        · obtain ⟨actions, kept, outcome, hrest⟩ := ih p
          exact ⟨_, _, _, .rejects hp h hrest⟩

theorem proceed_of_terminated (hp : p.position = .terminated) (inputs : List Input) :
    (proceed m debug inputs p).value = close p := by
  rw [proceed.eq_def, if_pos (Position.isTerminated_iff.2 hp)]
  rfl

theorem step_cancel (m : Media Console) (hp : p.position ≠ .terminated) :
    ∃ q, (p.step m .cancel).value = (.ok ⟨.terminated, []⟩, q) ∧ q.position = .terminated :=
  ⟨_, Player.step_of_takes (.cancel hp), rfl⟩

theorem proceed_nil (hp : p.position ≠ .terminated) :
    (proceed m debug [] p).value =
      (close (p.step m .cancel).value.2).behind (view debug p) := by
  obtain ⟨q, hstep, -⟩ := step_cancel m hp
  have hgiveUp : (giveUp m p).value = close (p.step m .cancel).value.2 := by
    rw [giveUp, Noted.value_bind, hstep]
    rfl
  rw [proceed.eq_def, if_neg (mt Position.isTerminated_iff.1 hp)]
  simp [hgiveUp]

theorem proceed_notText (hp : p.position ≠ .terminated) (inputs : List Input) :
    (proceed m debug (none :: inputs) p).value = ⟨.error .notText, view debug p, p⟩ := by
  rw [proceed.eq_def, if_neg (mt Position.isTerminated_iff.1 hp)]
  rfl

theorem proceed_line (hp : p.position ≠ .terminated) (inputs : List Input) :
    (proceed m debug (some line :: inputs) p).value =
      (proceed m debug inputs (respond m line p).value.2).value.behind
        (view debug p ++ [(respond m line p).value.1]) := by
  rw [proceed.eq_def, if_neg (mt Position.isTerminated_iff.1 hp)]
  rfl

theorem Proceeds.proceed_eq (h : Proceeds m debug p lines actions kept outcome) :
    (proceed m debug (lines.map some) p).value = outcome := by
  induction h with
  | ended hp => exact proceed_of_terminated hp _
  | runsOut hp => exact proceed_nil hp
  | heeds hp hline _ ih =>
      rw [List.map_cons, proceed_line hp, hline.respond_eq]
      exact congrArg _ ih
  | rejects hp hline _ ih =>
      rw [List.map_cons, proceed_line hp, hline.respond_eq, ih]

/-! ## A whole session -/

/-- How a session goes on some lines: it starts the run, and goes on. -/
inductive Plays (m : Media Console) (debug : Bool) (p : Player Console) (lines : List String) :
    List Action → List String → Outcome → Prop
  | intro {q : Player Console} {progress : Progress} {actions : List Action} {kept : List String}
      {outcome : Outcome} :
      (p.step m .start).value = (.ok progress, q) →
        Proceeds m debug (q.withDevice {}) lines actions kept outcome →
          Plays m debug p lines (.start :: actions) kept
            (outcome.behind [banner, (report progress q).1])

theorem exists_plays (m : Media Console) (debug : Bool) (hp : p.position = .idle)
    (lines : List String) :
    ∃ actions kept outcome, Plays m debug p lines actions kept outcome := by
  obtain ⟨course, ht⟩ := (Script.exists_takes_start_iff (s := p.script)).2 hp
  obtain ⟨actions, kept, outcome, hrest⟩ :=
    exists_proceeds m debug
      ((p.settle m (course.rest p.script)).value.2.withDevice {}) lines
  exact ⟨_, _, _, .intro (Player.step_of_takes ht) hrest⟩

theorem Plays.play_eq (h : Plays m debug p lines actions kept outcome) :
    (play m debug (lines.map some) p).value = outcome := by
  cases h with
  | intro hstart hrest =>
      rw [play, Noted.value_bind, hstart, ← hrest.proceed_eq]
      rfl

end Session

end Narrative
