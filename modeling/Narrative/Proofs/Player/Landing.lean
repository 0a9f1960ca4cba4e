import Narrative.Proofs.Player.Rest
import Narrative.Proofs.Script.Reachability

/-!
# Events that a run lands on

Entering an event lands on each key that its journey touches, whether the run comes to rest there,
passes on or breaks off.  A run that starts at the first event lands on no defined event but the
reached ones (`reached_of_mem_landed`): it stands at a reached event, and from there the script
goes on as the search does.
-/

namespace Narrative

open Relation

/-- The keys that a course lands on. -/
def Course.landed (s : Script) : Course → List String
  | .enter event => (s.journey event).touched
  | _ => []

/-- The event that a run stands at, if there is one, is reached. -/
def Position.StandsReached (s : Script) (position : Position) : Prop :=
  ∀ key, position.event? = some key → s.Reached key

namespace Script

variable {s : Script} {position : Position} {action : Action}

/-- An event that is entered is the first one, or the event that the run stands at leads to it. -/
theorem Takes.first_or_goesTo {event : String} (h : s.Takes position action (.enter event)) :
    s.first? = some event ∨ ∃ origin, position.event? = some origin ∧ s.GoesTo origin event := by
  cases h with
  | start hf => exact Or.inl hf
  | leave hn _ hs => exact Or.inr ⟨_, rfl, .dialogue hn hs⟩
  | branch hn _ ho ht => exact Or.inr ⟨_, rfl, .choice hn (Choice.option?_mem ho) ht⟩

/-- What is defined behind an entered event is reached: each event on the way there passes the run
on, so it is defined itself. -/
theorem Takes.reached {event key : String} (h : s.Takes position action (.enter event))
    (hp : position.StandsReached s) (hk : ReflTransGen s.PassesTo event key)
    (hd : s.defines key = true) : s.Reached key := by
  induction hk with
  | refl =>
      rcases h.first_or_goesTo with hf | ⟨origin, horigin, hgoes⟩
      · exact ⟨event, hf, .refl⟩
      · exact (hp origin horigin).leadsTo ⟨hgoes, hd⟩
  | tail _ hbc ih =>
      obtain ⟨d, hn, _⟩ := landing_eq_passes_iff.1 hbc
      exact (ih (defines_of_node? hn)).leadsTo ⟨hbc.goesTo, hd⟩

theorem Arrives.event?_rest {start key : String} {a : Arrival} (h : s.Arrives start a)
    (hk : a.rest.position.event? = some key) :
    ReflTransGen s.PassesTo start key ∧ s.defines key = true := by
  cases h with
  | finishes => simp [Arrival.rest, Rest.position, Position.event?] at hk
  | circles => simp [Arrival.rest, Defect.rest, Rest.position, Position.event?] at hk
  | @rests k _ hpasses hr =>
      cases hr with
      | line hn =>
          obtain rfl : k = key := Option.some.inj hk
          exact ⟨hpasses, defines_of_node? hn⟩
      | prompt hn =>
          obtain rfl : k = key := Option.some.inj hk
          exact ⟨hpasses, defines_of_node? hn⟩
      | _ => simp [Arrival.rest, Defect.rest, Rest.position, Position.event?] at hk

theorem Takes.standsReached {course : Course} (h : s.Takes position action course)
    (hp : position.StandsReached s) : (course.rest s).position.StandsReached s := by
  intro key hk
  cases course with
  | enter event =>
      obtain ⟨hpasses, hd⟩ := (s.arrives_journey event).event?_rest hk
      exact h.reached hp hpasses hd
  | turn event index scene =>
      cases h with
      | turn => exact hp key hk
  | complete => simp [Course.rest, Rest.position, Position.event?] at hk
  | cancel => simp [Course.rest, Rest.position, Position.event?] at hk
  | fail event defect => simp [Course.rest, Defect.rest, Rest.position, Position.event?] at hk

theorem Takes.reached_of_mem_landed {course : Course} {key : String}
    (h : s.Takes position action course) (hp : position.StandsReached s)
    (hk : key ∈ course.landed s) (hd : s.defines key = true) : s.Reached key := by
  cases course with
  | enter event => exact h.reached hp (mem_touched_journey_iff.1 hk) hd
  | _ => simp [Course.landed] at hk

end Script

namespace Player

variable {σ : Type}

/-- The keys that an action makes the player land on. -/
def landedOn (p : Player σ) (action : Action) : List String :=
  match (p.script.course p.position action).value with
  | .ok course => course.landed p.script
  | .error _ => []

/-- The keys that a run lands on, in order. -/
def landed (m : Media σ) (p : Player σ) : List Action → List String
  | [] => []
  | action :: actions => p.landedOn action ++ landed m (p.step m action).value.2 actions

theorem landedOn_of_refused {p : Player σ} {action : Action} {e : SignalError}
    (h : (p.script.course p.position action).value = .error e) : p.landedOn action = [] := by
  simp [landedOn, h]

theorem landedOn_of_takes {p : Player σ} {action : Action} {course : Course}
    (h : p.script.Takes p.position action course) :
    p.landedOn action = course.landed p.script := by
  simp [landedOn, Script.course_of_takes h]

theorem landed_append (m : Media σ) (p : Player σ) (before actions : List Action) :
    p.landed m (before ++ actions) =
      p.landed m before ++ (p.run m before).value.2.landed m actions := by
  induction before generalizing p with
  | nil => rfl
  | cons action before ih => simp [landed, run_cons, ih]

theorem landed_concat (m : Media σ) (p : Player σ) (before : List Action) (action : Action) :
    p.landed m (before ++ [action]) =
      p.landed m before ++ (p.run m before).value.2.landedOn action := by
  rw [landed_append, landed, landed, List.append_nil]

/-- A run that stands at a reached event lands on no defined event that is not reached. -/
theorem reached_of_mem_landed {m : Media σ} {p : Player σ}
    (hp : p.position.StandsReached p.script) {actions : List Action} {key : String}
    (hk : key ∈ p.landed m actions) (hd : p.script.defines key = true) :
    p.script.Reached key := by
  induction actions generalizing p with
  | nil => simp [landed] at hk
  | cons action actions ih =>
      rw [landed] at hk
      rcases step_cases m p action with ⟨e, he, hvalue⟩ | ⟨course, ht, hvalue⟩
      · rw [landedOn_of_refused he, hvalue] at hk
        exact ih hp hk hd
      · rw [landedOn_of_takes ht, hvalue] at hk
        rcases List.mem_append.1 hk with hk | hk
        · exact ht.reached_of_mem_landed hp hk hd
        · have hnext : (course.rest p.script).position.StandsReached p.script :=
            ht.standsReached hp
          simpa using ih (by simpa using hnext) hk (by simpa using hd)

end Player

end Narrative
