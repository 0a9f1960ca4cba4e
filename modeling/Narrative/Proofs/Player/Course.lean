import Narrative.Player.Course

/-!
# The courses that a run takes

`Takes` lists, case by case, the course that a script makes of an accepted action; it is what the
decision of the library comes to (`course_eq_ok_iff`).  Everything about accepted actions follows
from its cases.
-/

namespace Narrative

/-- An action picks an option of a choice by its key, or by its place. -/
inductive Choice.Picks (c : Choice) : Action → String → Prop
  | key (key : String) : Picks c (.choose key) key
  | place {index : Nat} {o : ChoiceOption} :
      c.options[index]? = some o → Picks c (.chooseNth index) o.key

theorem Choice.option?_mem {c : Choice} {key : String} {o : ChoiceOption}
    (h : c.option? key = some o) : o ∈ c.options :=
  List.mem_of_find?_eq_some h

theorem Choice.key_of_option? {c : Choice} {key : String} {o : ChoiceOption}
    (h : c.option? key = some o) : o.key = key := by
  simpa using List.find?_some h

namespace Script

/-- The course that a run takes from a position on an accepted action. -/
inductive Takes (s : Script) : Position → Action → Course → Prop
  | start {key : String} : s.first? = some key → Takes s .idle .start (.enter key)
  | startEmpty : s.first? = none → Takes s .idle .start .complete
  | turn {event : String} {index : Nat} {d : Dialogue} {line : Line} :
      s.node? event = some (.dialogue d) → d.lines[index + 1]? = some line →
        Takes s (.line event index) .advance (.turn event (index + 1) line.scene)
  | leave {event next : String} {index : Nat} {d : Dialogue} :
      s.node? event = some (.dialogue d) → d.lines[index + 1]? = none →
        s.successor? event d = some next → Takes s (.line event index) .advance (.enter next)
  | complete {event : String} {index : Nat} {d : Dialogue} :
      s.node? event = some (.dialogue d) → d.lines[index + 1]? = none →
        s.successor? event d = none → Takes s (.line event index) .advance .complete
  /-- At a line of an event that is no dialogue. -/
  | astray {event : String} {index : Nat} :
      (∀ d, s.node? event ≠ some (.dialogue d)) →
        Takes s (.line event index) .advance (.fail event .noDialogue)
  | branch {event key target : String} {action : Action} {c : Choice} {o : ChoiceOption} :
      s.node? event = some (.choice c) → c.Picks action key → c.option? key = some o →
        o.target = some target → Takes s (.prompt event) action (.enter target)
  | deadEnd {event key : String} {action : Action} {c : Choice} {o : ChoiceOption} :
      s.node? event = some (.choice c) → c.Picks action key → c.option? key = some o →
        o.target = none → Takes s (.prompt event) action (.fail event (.noTarget key))
  /-- At the prompt of an event that is no choice. -/
  | unasked {event key : String} :
      (∀ c, s.node? event ≠ some (.choice c)) →
        Takes s (.prompt event) (.choose key) (.fail event (.noTarget key))
  | cancel {position : Position} : position ≠ .terminated → Takes s position .cancel .cancel

theorem startCourse_value (s : Script) :
    s.startCourse.value = match s.first? with
      | some key => .enter key
      | none => .complete := by
  unfold startCourse
  cases s.first? <;> rfl

theorem optionCourse_value (event key : String) (target : Option String) :
    (optionCourse event key target).value = match target with
      | some target => .enter target
      | none => .fail event (.noTarget key) := by
  cases target <;> rfl

theorem takes_advanceCourse (s : Script) (event : String) (index : Nat) :
    s.Takes (.line event index) .advance (s.advanceCourse event index).value := by
  unfold advanceCourse
  cases hn : s.node? event with
  | none => exact .astray (by simp [hn])
  | some n =>
      cases n with
      | choice c => exact .astray (by simp [hn])
      | malformed reason => exact .astray (by simp [hn])
      | dialogue d =>
          cases hl : d.lines[index + 1]? with
          | some line => simpa [hl] using Takes.turn hn hl
          | none =>
              cases hs : s.successor? event d with
              | some next => simpa [hl, hs] using Takes.leave hn hl hs
              | none => simpa [hl, hs] using Takes.complete hn hl hs

theorem takes_of_chooseCourse {s : Script} {event key : String} {c : Choice} {action : Action}
    {course : Course} (hn : s.node? event = some (.choice c)) (hp : c.Picks action key)
    (h : (s.chooseCourse event key).value = .ok course) :
    s.Takes (.prompt event) action course := by
  unfold chooseCourse at h
  cases ho : c.option? key with
  | none => simp [hn, ho] at h
  | some o =>
      cases ht : o.target with
      | some target =>
          obtain rfl : course = .enter target := by
            simpa [hn, ho, ht, optionCourse_value, eq_comm] using h
          exact .branch hn hp ho ht
      | none =>
          obtain rfl : course = .fail event (.noTarget key) := by
            simpa [hn, ho, ht, optionCourse_value, eq_comm] using h
          exact .deadEnd hn hp ho ht

theorem chooseCourse_of_not_choice {s : Script} {event : String} (key : String)
    (hn : ∀ c, s.node? event ≠ some (.choice c)) :
    (s.chooseCourse event key).value = .ok (.fail event (.noTarget key)) := by
  unfold chooseCourse
  split
  · rename_i c hc
    exact absurd hc (hn c)
  · rfl

theorem chooseNthCourse_of_place {s : Script} {event : String} {c : Choice} {index : Nat}
    {o : ChoiceOption} (hn : s.node? event = some (.choice c)) (ho : c.options[index]? = some o) :
    s.chooseNthCourse event index = s.chooseCourse event o.key := by
  simp only [chooseNthCourse, hn, ho]

theorem takes_of_chooseNthCourse {s : Script} {event : String} {index : Nat} {course : Course}
    (h : (s.chooseNthCourse event index).value = .ok course) :
    s.Takes (.prompt event) (.chooseNth index) course := by
  by_cases hc : ∃ c, s.node? event = some (.choice c)
  · obtain ⟨c, hn⟩ := hc
    cases ho : c.options[index]? with
    | none => simp [chooseNthCourse, hn, ho] at h
    | some o =>
        rw [chooseNthCourse_of_place hn ho] at h
        exact takes_of_chooseCourse hn (.place ho) h
  · unfold chooseNthCourse at h
    split at h
    · rename_i c hn
      exact absurd ⟨c, hn⟩ hc
    · simp at h

theorem takes_of_course_cancel {s : Script} {position : Position} {course : Course}
    (h : (s.course position .cancel).value = .ok course) : s.Takes position .cancel course := by
  cases position with
  | terminated => simp [Script.course] at h
  | _ =>
      obtain rfl : course = .cancel := by
        simpa [Script.course, Script.course.cancelCourse, eq_comm] using h
      exact .cancel (by simp)

theorem takes_of_course_prompt {s : Script} {event : String} {action : Action} {course : Course}
    (h : (s.course (.prompt event) action).value = .ok course) :
    s.Takes (.prompt event) action course := by
  cases action with
  | start => simp [Script.course] at h
  | advance => simp [Script.course] at h
  | chooseNth index => exact takes_of_chooseNthCourse h
  | cancel => exact takes_of_course_cancel h
  | choose key =>
      by_cases hc : ∃ c, s.node? event = some (.choice c)
      · obtain ⟨c, hn⟩ := hc
        exact takes_of_chooseCourse hn (.key key) h
      · have hn : ∀ c, s.node? event ≠ some (.choice c) := fun c hn => hc ⟨c, hn⟩
        have hcourse := chooseCourse_of_not_choice key hn
        obtain rfl : .fail event (.noTarget key) = course := by
          simpa [Script.course, hcourse] using h
        exact .unasked hn

theorem takes_of_course {s : Script} {position : Position} {action : Action} {course : Course}
    (h : (s.course position action).value = .ok course) : s.Takes position action course := by
  cases position with
  | terminated => simp [Script.course] at h
  | prompt event => exact takes_of_course_prompt h
  | idle =>
      cases action with
      | start =>
          cases hf : s.first? with
          | some key =>
              obtain rfl : course = .enter key := by
                simpa [Script.course, startCourse_value, hf, eq_comm] using h
              exact .start hf
          | none =>
              obtain rfl : course = .complete := by
                simpa [Script.course, startCourse_value, hf, eq_comm] using h
              exact .startEmpty hf
      | cancel => exact takes_of_course_cancel h
      | advance => simp [Script.course] at h
      | choose key => simp [Script.course] at h
      | chooseNth index => simp [Script.course] at h
  | line event index =>
      cases action with
      | advance =>
          obtain rfl : course = (s.advanceCourse event index).value := by
            simpa [Script.course, eq_comm] using h
          exact takes_advanceCourse s event index
      | cancel => exact takes_of_course_cancel h
      | start => simp [Script.course] at h
      | choose key => simp [Script.course] at h
      | chooseNth index => simp [Script.course] at h

theorem course_prompt_of_picks {s : Script} {event key : String} {c : Choice} {action : Action}
    (hn : s.node? event = some (.choice c)) (hp : c.Picks action key) :
    (s.course (.prompt event) action).value = (s.chooseCourse event key).value := by
  cases hp with
  | key => rfl
  | place ho => rw [Script.course, chooseNthCourse_of_place hn ho]

theorem course_of_takes {s : Script} {position : Position} {action : Action} {course : Course}
    (h : s.Takes position action course) : (s.course position action).value = .ok course := by
  cases h with
  | start hf => simp [Script.course, startCourse_value, hf]
  | startEmpty hf => simp [Script.course, startCourse_value, hf]
  | turn hn hl => simp [Script.course, advanceCourse, hn, hl]
  | leave hn hl hs => simp [Script.course, advanceCourse, hn, hl, hs]
  | complete hn hl hs => simp [Script.course, advanceCourse, hn, hl, hs]
  | @astray event index hn =>
      have hvalue : (s.advanceCourse event index).value = .fail event .noDialogue := by
        unfold advanceCourse
        split
        · rename_i d hd
          exact absurd hd (hn d)
        · rfl
      simp [Script.course, hvalue]
  | branch hn hp ho ht =>
      rw [course_prompt_of_picks hn hp]
      simp [chooseCourse, hn, ho, optionCourse_value, ht]
  | deadEnd hn hp ho ht =>
      rw [course_prompt_of_picks hn hp]
      simp [chooseCourse, hn, ho, optionCourse_value, ht]
  | unasked hn => exact chooseCourse_of_not_choice _ hn
  | cancel hp =>
      cases position with
      | terminated => exact absurd rfl hp
      | idle => rfl
      | line event index => rfl
      | prompt event => rfl

/-- An action is accepted with a course exactly in the cases of `Takes`. -/
theorem course_eq_ok_iff {s : Script} {position : Position} {action : Action} {course : Course} :
    (s.course position action).value = .ok course ↔ s.Takes position action course :=
  ⟨takes_of_course, course_of_takes⟩

end Script

end Narrative
