import Narrative.Proofs.Player.Rest
import Narrative.Proofs.Script.Passing
import Narrative.Scene.Headless

/-!
# Sound players

A player stands only where the script has something to show: at a line that exists, or at a choice
that has options; and it has an ending exactly when it is over.  All that a host can do keeps this,
whatever the script is and whatever the device answers, so it holds of every player that can be
reached (`Reachable.sound`).
-/

namespace Narrative

/-- The script has something to show at the position. -/
def Position.Fits (s : Script) : Position → Prop
  | .line event index => ∃ d, s.node? event = some (.dialogue d) ∧ index < d.lines.length
  | .prompt event => ∃ c, s.node? event = some (.choice c) ∧ c.options ≠ []
  | .idle | .terminated => True

namespace Player

variable {σ : Type}

/-- The position fits the script, and the player has an ending exactly when it is over. -/
structure Sound (p : Player σ) : Prop where
  fits : p.position.Fits p.script
  ending_iff : p.ending.isSome = true ↔ p.position = .terminated

/-- The players of a script that a host comes to by actions and signals, accepted or refused, while
it may do to its device what it likes. -/
inductive Reachable (m : Media σ) (s : Script) : Player σ → Prop
  | fresh (device : σ) : Reachable m s (.ofScript s device)
  | step {p : Player σ} (action : Action) :
      Reachable m s p → Reachable m s (p.step m action).value.2
  | handle {p : Player σ} (signal : Signal) :
      Reachable m s p → Reachable m s (p.handle m signal).value.2
  | withDevice {p : Player σ} (device : σ) :
      Reachable m s p → Reachable m s (p.withDevice device)

theorem Reachable.run {m : Media σ} {s : Script} {p : Player σ} (h : Reachable m s p)
    (actions : List Action) : Reachable m s (p.run m actions).value.2 :=
  run_induction (fun _ action hq => hq.step action) h actions

theorem Reachable.script_eq {m : Media σ} {s : Script} {p : Player σ} (h : Reachable m s p) :
    p.script = s := by
  induction h with
  | fresh device => rfl
  | step action _ ih => exact (step_script m _ action).trans ih
  | handle signal _ ih => exact (step_script m _ signal.action).trans ih
  | withDevice device _ ih => exact ih

end Player

/-! ## What a course comes to -/

theorem Script.RestsAt.fits_rest {s : Script} {key : String} {a : Arrival} (h : s.RestsAt key a) :
    a.rest.position.Fits s := by
  cases h with
  | line hn hl => exact ⟨_, hn, by simp [hl]⟩
  | prompt hn hc => exact ⟨_, hn, hc⟩
  | undefined hn => trivial
  | malformed hn => trivial
  | noOptions hn hc => trivial

theorem Script.Arrives.fits_rest {s : Script} {start : String} {a : Arrival}
    (h : s.Arrives start a) : a.rest.position.Fits s := by
  cases h with
  | rests _ hr => exact hr.fits_rest
  | finishes => trivial
  | circles => trivial

theorem Script.Takes.fits_rest {s : Script} {position : Position} {action : Action}
    {course : Course} (h : s.Takes position action course) :
    (course.rest s).position.Fits s := by
  cases h with
  | start | leave | branch => exact (s.arrives_journey _).fits_rest
  | turn hn hl => exact ⟨_, hn, (List.getElem?_eq_some_iff.1 hl).1⟩
  | startEmpty | complete | astray | deadEnd | unasked | cancel => trivial

theorem Script.Takes.position_ne {s : Script} {position : Position} {action : Action}
    {course : Course} (h : s.Takes position action course) : position ≠ .terminated := by
  cases h with
  | cancel hp => exact hp
  | _ => simp

namespace Player

variable {σ : Type}

theorem sound_ofScript (s : Script) (device : σ) : (ofScript s device).Sound :=
  ⟨trivial, by simp [ofScript]⟩

theorem Sound.withDevice {p : Player σ} (h : p.Sound) (device : σ) : (p.withDevice device).Sound :=
  ⟨h.fits, h.ending_iff⟩

theorem Sound.step {p : Player σ} (h : p.Sound) (m : Media σ) (action : Action) :
    (p.step m action).value.2.Sound := by
  rcases step_cases m p action with ⟨e, -, hstep⟩ | ⟨course, ht, hstep⟩
  · rwa [hstep]
  · rw [hstep]
    have hending : p.ending = none := by
      cases hp : p.ending with
      | none => rfl
      | some ending => exact absurd (h.ending_iff.1 (by simp [hp])) ht.position_ne
    constructor
    · simpa using ht.fits_rest
    · rw [settle_ending, settle_position, hending, Option.or_none]
      exact course.ending?_rest_iff p.script

theorem Sound.of_step_eq {m : Media σ} {p q : Player σ} {action : Action}
    {answer : Except SignalError Progress} (h : p.Sound)
    (hstep : (p.step m action).value = (answer, q)) : q.Sound := by
  have hq := h.step m action
  rwa [hstep] at hq

theorem Reachable.sound {m : Media σ} {s : Script} {p : Player σ} (h : Reachable m s p) :
    p.Sound := by
  induction h with
  | fresh device => exact sound_ofScript s device
  | step action _ ih => exact ih.step m action
  | handle signal _ ih => exact ih.step m signal.action
  | withDevice device _ ih => exact ih.withDevice device

/-! ## What a sound player shows and answers -/

theorem Sound.snapshot?_isSome_iff {p : Player σ} (h : p.Sound) :
    p.snapshot?.isSome = true ↔ p.position ≠ .idle ∧ p.position ≠ .terminated := by
  have hfits := h.fits
  unfold snapshot? Script.snapshot?
  cases hp : p.position with
  | idle => simp
  | terminated => simp
  | line event index =>
      rw [hp] at hfits
      obtain ⟨d, hn, hl⟩ := hfits
      simp [hn, List.getElem?_eq_getElem hl]
  | prompt event =>
      rw [hp] at hfits
      obtain ⟨c, hn, _⟩ := hfits
      simp [hn]

theorem Sound.choices_iff {p : Player σ} (h : p.Sound) {shown : Snapshot}
    (hs : p.snapshot? = some shown) :
    (shown.choices.isSome = true ↔ p.position.isPrompt = true) ∧
      (shown.hasChoices = true ↔ p.position.isPrompt = true) := by
  have hfits := h.fits
  unfold snapshot? Script.snapshot? at hs
  cases hp : p.position with
  | idle => simp [hp] at hs
  | terminated => simp [hp] at hs
  | line event index =>
      rw [hp] at hfits hs
      obtain ⟨d, hn, hl⟩ := hfits
      obtain rfl : Snapshot.ofLine d.lines[index] = shown := by
        simpa [hn, List.getElem?_eq_getElem hl] using hs
      simp [Snapshot.ofLine, Snapshot.hasChoices, Position.isPrompt]
  | prompt event =>
      rw [hp] at hfits hs
      obtain ⟨c, hn, hc⟩ := hfits
      obtain rfl : Snapshot.ofChoice c = shown := by simpa [hn] using hs
      simp [Snapshot.ofChoice, Snapshot.hasChoices, Position.isPrompt, hc]

/-- No course of a sound player breaks off because the event is not what the position says. -/
theorem Sound.takes_fail {p : Player σ} (h : p.Sound) {action : Action} {event : String}
    {defect : Defect} (ht : p.script.Takes p.position action (.fail event defect)) :
    ∃ c key o, p.position = .prompt event ∧ p.script.node? event = some (.choice c) ∧
      c.Picks action key ∧ c.option? key = some o ∧ o.target = none ∧ defect = .noTarget key := by
  have hfits := h.fits
  generalize p.position = position at ht hfits ⊢
  cases ht with
  | astray hn =>
      obtain ⟨d, hd, _⟩ := hfits
      exact absurd hd (hn d)
  | deadEnd hn hp ho hT => exact ⟨_, _, _, rfl, hn, hp, ho, hT, rfl⟩
  | unasked hn =>
      obtain ⟨c, hc, _⟩ := hfits
      exact absurd hc (hn c)

theorem Sound.chooseNth_ne {p : Player σ} (h : p.Sound) {event : String}
    (hp : p.position = .prompt event) (m : Media σ) (index : Nat) :
    (p.step m (.chooseNth index)).value.1 ≠ .error .noPendingChoice := by
  have hfits := h.fits
  rw [hp] at hfits
  obtain ⟨c, hn, _⟩ := hfits
  rcases step_cases m p (.chooseNth index) with ⟨e, he, hstep⟩ | ⟨course, -, hstep⟩
  · rw [hstep]
    rintro ⟨⟩
    rw [hp] at he
    change (p.script.chooseNthCourse event index).value = _ at he
    cases ho : c.options[index]? with
    | none => simp [Script.chooseNthCourse, hn, ho] at he
    | some o =>
        rw [Script.chooseNthCourse_of_place hn ho] at he
        cases ho' : c.option? o.key <;> simp [Script.chooseCourse, hn, ho'] at he
  · simp [hstep]

/-- Every player that can be reached, whatever the script and the device are, stands at a line that
exists, at a choice with options, or nowhere; it is over exactly when it has an ending; it shows
something exactly while it is neither idle nor over, and options to choose from exactly at a
choice.  It never finds that the event it stands at is of another kind than its position. -/
theorem invariant_of_reachable {m : Media σ} {s : Script} {p : Player σ} (h : Reachable m s p) :
    (∀ event index, p.position = .line event index →
      ∃ d, s.node? event = some (.dialogue d) ∧ index < d.lines.length) ∧
    (∀ event, p.position = .prompt event →
      ∃ c, s.node? event = some (.choice c) ∧ c.options ≠ []) ∧
    (p.ending.isSome = true ↔ p.position = .terminated) ∧
    (p.snapshot?.isSome = true ↔ p.position ≠ .idle ∧ p.position ≠ .terminated) ∧
    (∀ shown, p.snapshot? = some shown →
      (shown.choices.isSome = true ↔ p.position.isPrompt = true) ∧
        (shown.hasChoices = true ↔ p.position.isPrompt = true)) ∧
    (∀ action event defect, (s.course p.position action).value = .ok (.fail event defect) →
      ∃ c key o, p.position = .prompt event ∧ s.node? event = some (.choice c) ∧
        c.Picks action key ∧ c.option? key = some o ∧ o.target = none ∧
          defect = .noTarget key) ∧
    (∀ event index, p.position = .prompt event →
      (p.step m (.chooseNth index)).value.1 ≠ .error .noPendingChoice) := by
  have hsound : p.Sound := h.sound
  have hscript : p.script = s := h.script_eq
  subst hscript
  have hfits := hsound.fits
  refine ⟨?_, ?_, hsound.ending_iff, hsound.snapshot?_isSome_iff, ?_, ?_, ?_⟩
  · intro event index hp
    rwa [hp] at hfits
  · intro event hp
    rwa [hp] at hfits
  · intro shown hs
    exact hsound.choices_iff hs
  · intro action event defect hcourse
    exact hsound.takes_fail (Script.course_eq_ok_iff.1 hcourse)
  · intro event index hp
    exact hsound.chooseNth_ne hp m index

/-- A script whose two parts disagree: a key without an event, a key in order twice, and an event
that is not in order. -/
def disordered : Script where
  order := ["a", "lost", "a"]
  nodes := [("b", .choice { options := [⟨"go", "Go", some "a"⟩] }),
    ("a", .dialogue { lines := [{}, { text := "There." }], next := some "b" })]

theorem invariant_disordered :
    Reachable Headless.media disordered
        ((ofScript disordered {}).run Headless.media [.start, .advance]).value.2 ∧
      ∃ d, disordered.node? "a" = some (.dialogue d) ∧ 1 < d.lines.length := by
  have hfresh : Reachable Headless.media disordered (ofScript disordered {}) :=
    .fresh ({} : Headless)
  have h := hfresh.run [.start, .advance]
  exact ⟨h, (invariant_of_reachable h).1 "a" 1 (by decide +kernel)⟩

end Player

end Narrative
