import Narrative.Proofs.Player.Calls
import Narrative.Proofs.Player.Sound

/-!
# Accepted and refused actions

`Refuses` lists, case by case, why a script refuses an action.  Where the position fits the script
it is the exact complement of `Takes` (`course_eq_error_iff`), so every action of a player that can
be reached is answered by this table, and a refused one changes nothing and calls nothing
(`answers_of_reachable`).
-/

namespace Narrative

/-- An action picks an option, by its key or by its place. -/
inductive Action.Chooses : Action → Prop
  | key (key : String) : Chooses (.choose key)
  | place (index : Nat) : Chooses (.chooseNth index)

theorem Choice.exists_option?_iff {c : Choice} {key : String} :
    (∃ o, c.option? key = some o) ↔ ∃ o ∈ c.options, o.key = key := by
  simp [← Option.isSome_iff_exists, Choice.option?]

namespace Script

/-- Why a run refuses an action. -/
inductive Refuses (s : Script) : Position → Action → SignalError → Prop
  | ended {action : Action} : Refuses s .terminated action .terminated
  | started {position : Position} :
      position ≠ .idle → position ≠ .terminated → Refuses s position .start .alreadyStarted
  | early {action : Action} :
      action = .advance ∨ action.Chooses → Refuses s .idle action .notStarted
  | awaiting {event : String} : Refuses s (.prompt event) .advance (.awaitingChoice event)
  | unprompted {event : String} {index : Nat} {action : Action} :
      action.Chooses → Refuses s (.line event index) action .noPendingChoice
  | unknown {event key : String} {c : Choice} :
      s.node? event = some (.choice c) → (∀ o ∈ c.options, o.key ≠ key) →
        Refuses s (.prompt event) (.choose key) (.unknownChoice event key)
  | outOfRange {event : String} {index : Nat} {c : Choice} :
      s.node? event = some (.choice c) → c.options.length ≤ index →
        Refuses s (.prompt event) (.chooseNth index)
          (.indexOutOfRange event index c.options.length)

/-! ## Accepted actions -/

variable {s : Script} {position : Position}

theorem exists_takes_of_picks {event key : String} {action : Action} {c : Choice}
    {o : ChoiceOption} (hn : s.node? event = some (.choice c)) (hp : c.Picks action key)
    (ho : c.option? key = some o) : ∃ course, s.Takes (.prompt event) action course := by
  cases ht : o.target with
  | some target => exact ⟨_, .branch hn hp ho ht⟩
  | none => exact ⟨_, .deadEnd hn hp ho ht⟩

theorem exists_takes_start_iff :
    (∃ course, s.Takes position .start course) ↔ position = .idle := by
  constructor
  · rintro ⟨course, h⟩
    cases h with
    | start => rfl
    | startEmpty => rfl
    | branch _ hp => cases hp
    | deadEnd _ hp => cases hp
  · rintro rfl
    cases hf : s.first? with
    | some key => exact ⟨_, .start hf⟩
    | none => exact ⟨_, .startEmpty hf⟩

theorem exists_takes_advance_iff :
    (∃ course, s.Takes position .advance course) ↔
      ∃ event index, position = .line event index := by
  constructor
  · rintro ⟨course, h⟩
    cases h with
    | turn | leave | complete | astray => exact ⟨_, _, rfl⟩
    | branch _ hp => cases hp
    | deadEnd _ hp => cases hp
  · rintro ⟨event, index, rfl⟩
    exact ⟨_, s.takes_advanceCourse event index⟩

theorem exists_takes_choose_iff (hfits : position.Fits s) {key : String} :
    (∃ course, s.Takes position (.choose key) course) ↔
      ∃ event c, position = .prompt event ∧ s.node? event = some (.choice c) ∧
        ∃ o ∈ c.options, o.key = key := by
  constructor
  · rintro ⟨course, h⟩
    cases h with
    | branch hn hp ho =>
        cases hp
        exact ⟨_, _, rfl, hn, Choice.exists_option?_iff.1 ⟨_, ho⟩⟩
    | deadEnd hn hp ho =>
        cases hp
        exact ⟨_, _, rfl, hn, Choice.exists_option?_iff.1 ⟨_, ho⟩⟩
    | unasked hn =>
        obtain ⟨c, hc, -⟩ := hfits
        exact absurd hc (hn c)
  · rintro ⟨event, c, rfl, hn, hkey⟩
    obtain ⟨o, ho⟩ := Choice.exists_option?_iff.2 hkey
    exact exists_takes_of_picks hn (.key key) ho

theorem exists_takes_chooseNth_iff {index : Nat} :
    (∃ course, s.Takes position (.chooseNth index) course) ↔
      ∃ event c, position = .prompt event ∧ s.node? event = some (.choice c) ∧
        index < c.options.length := by
  constructor
  · rintro ⟨course, h⟩
    cases h with
    | branch hn hp =>
        cases hp with
        | place ho => exact ⟨_, _, rfl, hn, (List.getElem?_eq_some_iff.1 ho).1⟩
    | deadEnd hn hp =>
        cases hp with
        | place ho => exact ⟨_, _, rfl, hn, (List.getElem?_eq_some_iff.1 ho).1⟩
  · rintro ⟨event, c, rfl, hn, hindex⟩
    -- the option in that place is looked up by its key, which some option has
    obtain ⟨o, ho⟩ := Choice.exists_option?_iff.2 ⟨_, List.getElem_mem hindex, rfl⟩
    exact exists_takes_of_picks hn (.place (List.getElem?_eq_getElem hindex)) ho

theorem exists_takes_cancel_iff :
    (∃ course, s.Takes position .cancel course) ↔ position ≠ .terminated := by
  constructor
  · rintro ⟨course, h⟩
    exact h.position_ne
  · intro hp
    exact ⟨_, .cancel hp⟩

/-! ## Refused actions -/

theorem Refuses.course_eq {action : Action} {e : SignalError} (h : s.Refuses position action e) :
    (s.course position action).value = .error e := by
  cases h with
  | ended => rfl
  | started hidle hended =>
      cases position with
      | idle => exact absurd rfl hidle
      | terminated => exact absurd rfl hended
      | line event index => rfl
      | prompt event => rfl
  | early ha => rcases ha with rfl | ⟨key⟩ | ⟨index⟩ <;> rfl
  | awaiting => rfl
  | unprompted ha => cases ha <;> rfl
  | @unknown event key c hn hkey =>
      have hnone : c.option? key = none := by simpa [Choice.option?] using hkey
      simp [Script.course, chooseCourse, hn, hnone]
  | outOfRange hn hindex =>
      simp [Script.course, chooseNthCourse, hn, List.getElem?_eq_none hindex]

theorem exists_takes_or_refuses (hfits : position.Fits s) (action : Action) :
    (∃ course, s.Takes position action course) ∨ ∃ e, s.Refuses position action e := by
  cases position with
  | terminated => exact Or.inr ⟨_, .ended⟩
  | idle =>
      cases action with
      | start => exact Or.inl (exists_takes_start_iff.2 rfl)
      | cancel => exact Or.inl (exists_takes_cancel_iff.2 (by simp))
      | advance => exact Or.inr ⟨_, .early (Or.inl rfl)⟩
      | choose key => exact Or.inr ⟨_, .early (Or.inr (.key key))⟩
      | chooseNth index => exact Or.inr ⟨_, .early (Or.inr (.place index))⟩
  | line event index =>
      cases action with
      | start => exact Or.inr ⟨_, .started (by simp) (by simp)⟩
      | advance => exact Or.inl (exists_takes_advance_iff.2 ⟨_, _, rfl⟩)
      | cancel => exact Or.inl (exists_takes_cancel_iff.2 (by simp))
      | choose key => exact Or.inr ⟨_, .unprompted (.key key)⟩
      | chooseNth place => exact Or.inr ⟨_, .unprompted (.place place)⟩
  | prompt event =>
      obtain ⟨c, hn, -⟩ := id hfits
      cases action with
      | start => exact Or.inr ⟨_, .started (by simp) (by simp)⟩
      | advance => exact Or.inr ⟨_, .awaiting⟩
      | cancel => exact Or.inl (exists_takes_cancel_iff.2 (by simp))
      | choose key =>
          by_cases hkey : ∃ o ∈ c.options, o.key = key
          · exact Or.inl ((exists_takes_choose_iff hfits).2 ⟨_, _, rfl, hn, hkey⟩)
          · exact Or.inr ⟨_, .unknown hn fun o ho hk => hkey ⟨o, ho, hk⟩⟩
      | chooseNth index =>
          by_cases hindex : index < c.options.length
          · exact Or.inl (exists_takes_chooseNth_iff.2 ⟨_, _, rfl, hn, hindex⟩)
          · exact Or.inr ⟨_, .outOfRange hn (Nat.not_lt.1 hindex)⟩

/-- An action is refused exactly in the cases of `Refuses`. -/
theorem course_eq_error_iff (hfits : position.Fits s) {action : Action} {e : SignalError} :
    (s.course position action).value = .error e ↔ s.Refuses position action e := by
  constructor
  · intro h
    rcases exists_takes_or_refuses hfits action with ⟨course, ht⟩ | ⟨e', hr⟩
    · rw [course_of_takes ht] at h
      cases h
    · rw [hr.course_eq] at h
      cases h
      exact hr
  · exact Refuses.course_eq

end Script

namespace Player

variable {σ : Type} {m : Media σ} {s : Script} {p q : Player σ}

/-- The player accepts an action. -/
def Accepts (m : Media σ) (p : Player σ) (action : Action) : Prop :=
  ∃ progress, (p.step m action).value.1 = .ok progress

theorem accepts_iff {action : Action} :
    p.Accepts m action ↔ ∃ course, p.script.Takes p.position action course := by
  constructor
  · rintro ⟨progress, h⟩
    rcases step_cases m p action with ⟨e, -, hstep⟩ | ⟨course, ht, -⟩
    · rw [hstep] at h
      cases h
    · exact ⟨course, ht⟩
  · rintro ⟨course, ht⟩
    exact ⟨_, by rw [step_of_takes ht]⟩

theorem answer_eq_error_iff {action : Action} {e : SignalError} :
    (p.step m action).value.1 = .error e ↔
      (p.script.course p.position action).value = .error e := by
  constructor
  · intro h
    rcases step_cases m p action with ⟨e', he, hstep⟩ | ⟨course, -, hstep⟩
    · rw [hstep] at h
      cases h
      exact he
    · rw [hstep] at h
      cases h
  · intro h
    rw [step_of_refused h]

/-- A refused action changes nothing, and calls nothing. -/
theorem unchanged_of_refused {action : Action} {e : SignalError}
    (h : (p.step m action).value.1 = .error e) :
    (p.step m action).value.2 = p ∧ Note.calls (p.step m action).notes = [] := by
  have hcourse := answer_eq_error_iff.1 h
  constructor
  · rw [step_of_refused hcourse]
  · rw [Note.calls_eq, performed_step_of_refused hcourse, List.map_nil]

/-- What a player can become under a host, which sends actions and does to its device what it
likes. -/
inductive Becomes (m : Media σ) (p : Player σ) : Player σ → Prop
  | refl : Becomes m p p
  | step {q : Player σ} (action : Action) : Becomes m p q → Becomes m p (q.step m action).value.2
  | withDevice {q : Player σ} (device : σ) : Becomes m p q → Becomes m p (q.withDevice device)

/-- A player that is over stays over, for the same reason. -/
theorem Becomes.of_terminated (h : Becomes m p q) (hp : p.position = .terminated) :
    q.position = .terminated ∧ q.ending = p.ending := by
  induction h with
  | refl => exact ⟨hp, rfl⟩
  | withDevice device _ ih => exact ih
  | @step q action _ ih =>
      rw [step_of_terminated ih.1]
      exact ih

/-- The answers of a player that can be reached: which actions it accepts, with which error it
refuses the others, that a refused action leaves the player and its device as they were and calls
nothing, and that nothing revives a player that is over. -/
theorem answers_of_reachable (h : Reachable m s p) :
    (p.Accepts m .start ↔ p.position = .idle) ∧
    (p.Accepts m .advance ↔ ∃ event index, p.position = .line event index) ∧
    (∀ key, p.Accepts m (.choose key) ↔
      ∃ event c, p.position = .prompt event ∧ s.node? event = some (.choice c) ∧
        ∃ o ∈ c.options, o.key = key) ∧
    (∀ index, p.Accepts m (.chooseNth index) ↔
      ∃ event c, p.position = .prompt event ∧ s.node? event = some (.choice c) ∧
        index < c.options.length) ∧
    (p.Accepts m .cancel ↔ p.position ≠ .terminated) ∧
    (∀ action e, (p.step m action).value.1 = .error e ↔ s.Refuses p.position action e) ∧
    (∀ action, ¬ p.Accepts m action →
      (p.step m action).value.2 = p ∧ Note.calls (p.step m action).notes = []) ∧
    (p.position = .terminated →
      ∀ q, Becomes m p q → q.position = .terminated ∧ q.ending = p.ending) := by
  have hfits := h.sound.fits
  have hscript : p.script = s := h.script_eq
  subst hscript
  refine ⟨?_, ?_, fun key => ?_, fun index => ?_, ?_, fun action e => ?_, fun action ha => ?_, ?_⟩
  · rw [accepts_iff, Script.exists_takes_start_iff]
  · rw [accepts_iff, Script.exists_takes_advance_iff]
  · rw [accepts_iff, Script.exists_takes_choose_iff hfits]
  · rw [accepts_iff, Script.exists_takes_chooseNth_iff]
  · rw [accepts_iff, Script.exists_takes_cancel_iff]
  · rw [answer_eq_error_iff, Script.course_eq_error_iff hfits]
  · cases hanswer : (p.step m action).value.1 with
    | ok progress => exact absurd ⟨progress, hanswer⟩ ha
    | error e => exact unchanged_of_refused hanswer
  · intro hp q hq
    exact hq.of_terminated hp

/-- The player of `disordered` at its choice, which has one option. -/
def asked : Player Headless :=
  ((ofScript disordered {}).run Headless.media [.start, .advance, .advance]).value.2

theorem answers_asked :
    Reachable Headless.media disordered asked ∧
      (asked.step Headless.media (.chooseNth 7)).value.1 = .error (.indexOutOfRange "b" 7 1) := by
  have hfresh : Reachable Headless.media disordered (ofScript disordered {}) :=
    .fresh ({} : Headless)
  have h : Reachable Headless.media disordered asked := hfresh.run _
  have hposition : asked.position = .prompt "b" := by decide +kernel
  have hnode : disordered.node? "b" = some (.choice { options := [⟨"go", "Go", some "a"⟩] }) := by
    decide +kernel
  have hrefuses : disordered.Refuses asked.position (.chooseNth 7) (.indexOutOfRange "b" 7 1) := by
    rw [hposition]
    exact .outOfRange hnode (by decide)
  exact ⟨h, ((answers_of_reachable h).2.2.2.2.2.1 _ _).2 hrefuses⟩

end Player

end Narrative
