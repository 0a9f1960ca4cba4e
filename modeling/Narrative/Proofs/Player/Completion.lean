import Mathlib.Data.List.Induction
import Narrative.Proofs.Player.Landing
import Narrative.Proofs.Player.Sound
import Narrative.Proofs.Script.Coherence

/-!
# Completed runs

Nothing comes after the dialogue that closes a script (`Script.Closes`): the last one in order, if
it names no next event.  One action completes a run only behind the lines of that dialogue
(`Takes.exists_closes`).  A run stands at the event that it has landed on last
(`getLast?_landed_of_event?`), and one of its actions has ended it (`exists_endedBy`), so a run that
completes has really run off the end of the script (`completes_only_at_close`).
-/

namespace Narrative

theorem Journey.getLast?_touched (j : Journey) : j.touched.getLast? = some j.arrival.event := by
  simp [touched]

theorem Arrival.event_of_event?_rest {a : Arrival} {key : String}
    (h : a.rest.position.event? = some key) : a.event = key := by
  cases a with
  | line event first => exact Option.some.inj h
  | prompt event choice => exact Option.some.inj h
  | finished last => cases h
  | broken event defect => cases h

theorem Arrival.eq_finished_of_completed {a : Arrival} (h : a.rest.ending? = some .completed) :
    a = .finished a.event := by
  cases a <;> simp_all [rest, Defect.rest, Rest.ending?, event]

namespace Script

variable {s : Script} {position : Position} {action : Action} {course : Course} {key : String}

/-- The dialogue is the last event in order and names no next one. -/
structure Closes (s : Script) (key : String) (d : Dialogue) : Prop where
  node_eq : s.node? key = some (.dialogue d)
  next_eq : d.next = none
  last : s.order.getLast? = some key

/-- In a coherent script, nothing comes after a dialogue exactly if it closes the script. -/
theorem Coherent.successor?_eq_none_iff (hs : s.Coherent) {d : Dialogue}
    (hn : s.node? key = some (.dialogue d)) : s.successor? key d = none ↔ s.Closes key d := by
  have hafter : s.after? key = none ↔ s.order.getLast? = some key :=
    afterIn?_eq_none_iff hs.nodup (hs.mem_order_of_node? hn)
  rw [successor?, Option.or_eq_none_iff, hafter]
  exact ⟨fun ⟨hnext, hlast⟩ => ⟨hn, hnext, hlast⟩, fun h => ⟨h.next_eq, h.last⟩⟩

/-- A run stands at the event that it has landed on last: on its course, or before. -/
theorem Takes.event?_rest (h : s.Takes position action course)
    (hk : (course.rest s).position.event? = some key) :
    (course.landed s).getLast?.or position.event? = some key := by
  cases course with
  | enter event =>
      have harrival := Arrival.event_of_event?_rest hk
      rw [Course.landed, Journey.getLast?_touched, harrival, Option.some_or]
  | turn event index scene =>
      cases h with
      | turn => exact hk
  | complete => cases hk
  | cancel => cases hk
  | fail event defect => cases hk

theorem exists_closes_of_finished (hs : s.Coherent) {event last : String}
    (h : (s.journey event).arrival = .finished last) :
    ∃ d : Dialogue, s.Closes last d ∧ d.lines = [] := by
  have harrives := s.arrives_journey event
  rw [h] at harrives
  cases harrives with
  | finishes _ hlanding =>
      obtain ⟨d, hn, hl, hnext⟩ := landing_eq_passes_iff.1 hlanding
      exact ⟨d, (hs.successor?_eq_none_iff hn).1 hnext, hl⟩
  | rests _ hrests => cases hrests

/-- An action that completes a run does so because there are no events, or behind the dialogue that
closes the script: on the way through it if it has no lines, else from the last of its lines. -/
theorem Takes.exists_closes (hs : s.Coherent) (hp : position.Fits s)
    (h : s.Takes position action course) (hending : (course.rest s).ending? = some .completed) :
    s.order = [] ∨ ∃ key d, s.Closes key d ∧
      (course.landed s).getLast?.or position.event? = some key ∧
      (d.lines ≠ [] → action = .advance ∧ position = .line key (d.lines.length - 1)) := by
  cases course with
  | enter event =>
      have harrival := Arrival.eq_finished_of_completed hending
      obtain ⟨d, hcloses, hl⟩ := exists_closes_of_finished hs harrival
      refine Or.inr ⟨_, d, hcloses, ?_, fun hne => absurd hl hne⟩
      rw [Course.landed, Journey.getLast?_touched, Option.some_or]
  | complete =>
      cases h with
      | startEmpty hfirst => exact Or.inl (List.head?_eq_none_iff.1 hfirst)
      | @complete event index d hn hl hnext =>
          -- the run stands at a line that exists, so it is the last one and none behind it
          obtain ⟨d', hn', hindex⟩ := hp
          obtain rfl : d = d' := by simpa using hn.symm.trans hn'
          have hlast : d.lines.length ≤ index + 1 := List.getElem?_eq_none_iff.1 hl
          obtain rfl : index = d.lines.length - 1 := by omega
          exact Or.inr ⟨event, d, (hs.successor?_eq_none_iff hn).1 hnext, rfl, fun _ => ⟨rfl, rfl⟩⟩
  | turn event index scene => cases hending
  | cancel => cases hending
  | fail event defect => cases hending

/-- From the last line of the dialogue that closes the script, advancing completes the run. -/
theorem Closes.takes_complete (hs : s.Coherent) {d : Dialogue} (h : s.Closes key d) :
    s.Takes (.line key (d.lines.length - 1)) .advance .complete := by
  have hlast : d.lines[d.lines.length - 1 + 1]? = none := List.getElem?_eq_none_iff.2 (by omega)
  exact .complete h.node_eq hlast ((hs.successor?_eq_none_iff h.node_eq).2 h)

end Script

namespace Player

variable {σ : Type} {m : Media σ} {p : Player σ} {actions : List Action}

/-- A run that has not landed anywhere at first stands at the event that it has landed on last. -/
theorem getLast?_landed_of_event? (hp : p.position.event? = none) {key : String}
    (h : (p.run m actions).value.2.position.event? = some key) :
    (p.landed m actions).getLast? = some key := by
  induction actions using List.reverseRecOn generalizing key with
  | nil =>
      rw [run_nil, hp] at h
      cases h
  | append_singleton before action ih =>
      -- the last action lands on the event, or the run has stood there before it
      rw [run_concat] at h
      rw [landed_concat, List.getLast?_append]
      rcases step_cases m (p.run m before).value.2 action with
        ⟨e, he, hstep⟩ | ⟨course, ht, hstep⟩
      · rw [hstep] at h
        rw [landedOn_of_refused he, List.getLast?_nil, Option.none_or]
        exact ih h
      · rw [hstep, settle_position] at h
        rw [landedOn_of_takes ht]
        rcases Option.or_eq_some_iff.1 (ht.event?_rest h) with hlanded | ⟨hnone, hstands⟩
        · rw [hlanded, Option.some_or]
        · rw [hnone, Option.none_or]
          exact ih hstands

/-! ## How a run ends -/

/-- After some actions of a run, an action is taken in a course that ends it. -/
structure EndedBy (m : Media σ) (p : Player σ) (before : List Action) (action : Action)
    (course : Course) (ending : Ending) : Prop where
  ending_eq_none : (p.run m before).value.2.ending = none
  takes : p.script.Takes (p.run m before).value.2.position action course
  ending?_eq : (course.rest p.script).ending? = some ending

theorem EndedBy.cons {action first : Action} {before : List Action} {course : Course}
    {ending : Ending} (h : EndedBy m (p.step m first).value.2 before action course ending) :
    EndedBy m p (first :: before) action course ending := by
  obtain ⟨hnone, htakes, hending⟩ := h
  rw [step_script] at htakes hending
  exact ⟨hnone, htakes, hending⟩

theorem EndedBy.step_value {action : Action} {before : List Action} {course : Course}
    {ending : Ending} (h : EndedBy m p before action course ending) :
    ((p.run m before).value.2.step m action).value.2.position = .terminated ∧
      ((p.run m before).value.2.step m action).value.2.ending = some ending := by
  have htakes := h.takes
  rw [← run_script m p before] at htakes
  rw [step_of_takes htakes, settle_position, settle_ending, run_script, h.ending?_eq]
  have hover := (course.ending?_rest_iff p.script).1 (Option.isSome_iff_exists.2 ⟨_, h.ending?_eq⟩)
  exact ⟨hover, rfl⟩

/-- A player that is over stays as it is and lands on nothing. -/
theorem run_eq_of_terminated (hp : p.position = .terminated) (actions : List Action) :
    (p.run m actions).value.2 = p ∧ p.landed m actions = [] := by
  induction actions with
  | nil => exact ⟨rfl, rfl⟩
  | cons action actions ih =>
      rw [run_cons, landed, landedOn_of_refused (course_of_terminated hp action),
        step_of_terminated hp]
      exact ih

/-- A run that has ended was ended by one of its actions; it lands on nothing after that. -/
theorem exists_endedBy {ending : Ending} (hp : p.ending = none)
    (h : (p.run m actions).value.2.ending = some ending) :
    ∃ before action after course, actions = before ++ action :: after ∧
      EndedBy m p before action course ending ∧
      p.landed m actions = p.landed m before ++ course.landed p.script := by
  induction actions generalizing p with
  | nil =>
      rw [run_nil, hp] at h
      cases h
  | cons first actions ih =>
      cases hfirst : (p.step m first).value.2.ending with
      | none =>
          obtain ⟨before, action, after, course, rfl, hended, hlanded⟩ := ih hfirst h
          refine ⟨first :: before, action, after, course, rfl, hended.cons, ?_⟩
          rw [landed, landed, hlanded, step_script, List.append_assoc]
      | some ending' =>
          rcases step_cases m p first with ⟨e, -, hstep⟩ | ⟨course, ht, hstep⟩
          · rw [hstep, hp] at hfirst
            cases hfirst
          · -- the run is over here, whatever actions come behind
            have hending : (course.rest p.script).ending? = some ending' := by
              rwa [hstep, settle_ending, hp, Option.or_none] at hfirst
            have hended : EndedBy m p [] first course ending' := ⟨hp, ht, hending⟩
            have hover : (p.step m first).value.2.position = .terminated := hended.step_value.1
            obtain ⟨hrun, hlanded⟩ := run_eq_of_terminated (m := m) hover actions
            obtain rfl : ending' = ending := by
              rw [run_cons, hrun, hfirst] at h
              exact Option.some.inj h
            refine ⟨[], first, actions, course, rfl, hended, ?_⟩
            change p.landedOn first ++ (p.step m first).value.2.landed m actions = _
            rw [hlanded, landedOn_of_takes ht, List.append_nil]
            rfl

/-! ## Running off the end -/

/-- A run has run off the end of its script: it has landed last on the dialogue that closes the
script and, if this has lines, advancing from the last of them has completed it. -/
structure RunsOff (m : Media σ) (p : Player σ) (actions : List Action) (key : String)
    (d : Dialogue) : Prop where
  closes : p.script.Closes key d
  landed_last : (p.landed m actions).getLast? = some key
  by_advance : d.lines ≠ [] → ∃ before after, actions = before ++ .advance :: after ∧
    (p.run m before).value.2.position = .line key (d.lines.length - 1) ∧
    (p.run m before).value.2.ending = none ∧
    (p.run m (before ++ [.advance])).value.2.ending = some .completed

/-- Any run of a script that has not started: if it completes, it has run off the end. -/
theorem exists_runsOff {s : Script} (hs : s.Coherent) {device : σ}
    (h : ((ofScript s device).run m actions).value.2.ending = some .completed) :
    s.order = [] ∨ ∃ key d, RunsOff m (ofScript s device) actions key d := by
  obtain ⟨before, action, after, course, rfl, hended, hlanded⟩ := exists_endedBy rfl h
  have hfits : ((ofScript s device).run m before).value.2.position.Fits s := by
    have hsound := ((Reachable.fresh (m := m) (s := s) device).run before).sound.fits
    rwa [run_script] at hsound
  rcases hended.takes.exists_closes hs hfits hended.ending?_eq with
    hempty | ⟨key, d, hcloses, hlast, hadvance⟩
  · exact Or.inl hempty
  · refine Or.inr ⟨key, d, hcloses, ?_, fun hl => ?_⟩
    · rw [hlanded, List.getLast?_append]
      rcases Option.or_eq_some_iff.1 hlast with hcourse | ⟨hnone, hstands⟩
      · exact Option.or_eq_some_iff.2 (Or.inl hcourse)
      · have hstood := getLast?_landed_of_event? (p := ofScript s device) rfl hstands
        exact Option.or_eq_some_iff.2 (Or.inr ⟨hnone, hstood⟩)
    · obtain ⟨rfl, hposition⟩ := hadvance hl
      refine ⟨before, after, rfl, hposition, hended.ending_eq_none, ?_⟩
      rw [run_concat]
      exact hended.step_value.2

/-- A run of a script of entries completes only if there are no events, or if it has run off the
end of the script.  From the last line of the dialogue that closes the script, an advance always
completes the run.  So a script whose last event is no dialogue, or a dialogue that names a next
event, is not completed by any actions. -/
theorem completes_only_at_close (m : Media σ) (device : σ) (entries : List (String × Node)) :
    let s := Script.ofEntries entries
    let start := ofScript s device
    (∀ actions, (start.run m actions).value.2.ending = some .completed →
      s.order = [] ∨ ∃ key d, RunsOff m start actions key d) ∧
    (∀ p key d, Reachable m s p → s.Closes key d →
      p.position = .line key (d.lines.length - 1) →
        (p.step m .advance).value.1 = .ok ⟨.terminated, []⟩ ∧
          (p.step m .advance).value.2.ending = some .completed) ∧
    (∀ key n, s.order.getLast? = some key → s.node? key = some n →
      (∀ d : Dialogue, n = .dialogue d → d.next ≠ none) →
        ∀ actions, (start.run m actions).value.2.ending ≠ some .completed) := by
  intro s start
  have hs : s.Coherent := Script.coherent_ofEntries entries
  refine ⟨fun actions h => exists_runsOff hs h, ?_, ?_⟩
  · intro p key d hp hcloses hposition
    have htakes : p.script.Takes p.position .advance .complete := by
      rw [hp.script_eq, hposition]
      exact hcloses.takes_complete hs
    rw [step_of_takes htakes]
    exact ⟨rfl, rfl⟩
  · intro key n hlast hn hopen actions h
    rcases exists_runsOff hs h with hempty | ⟨key', d, hruns⟩
    · rw [hempty] at hlast
      cases hlast
    · have hcloses : s.Closes key' d := hruns.closes
      obtain rfl : key = key' := Option.some.inj (hlast.symm.trans hcloses.last)
      obtain rfl : n = .dialogue d := Option.some.inj (hn.symm.trans hcloses.node_eq)
      exact hopen d rfl hcloses.next_eq

/-- A dialogue that leads around a choice to the last event. -/
def farewell : List (String × Node) :=
  [("door", .dialogue { lines := [{ text := "Going?" }], next := some "leave" }),
    ("stay", .choice { options := [⟨"go", "Go", some "leave"⟩] }),
    ("leave", .dialogue { lines := [{ text := "Bye." }, { text := "See you." }] })]

theorem completes_farewell :
    let start := ofScript (Script.ofEntries farewell) ({} : Headless)
    let actions := [.start, .advance, .chooseNth 0, .advance, .advance, .cancel]
    (start.run Headless.media actions).value.2.ending = some .completed ∧
      (∃ key d, RunsOff Headless.media start actions key d) ∧
      ((start.run Headless.media [.start, .advance, .advance]).value.2.step Headless.media
        .advance).value.2.ending = some .completed ∧
      ∀ actions, ((ofScript (Script.ofEntries (farewell.take 2)) ({} : Headless)).run
        Headless.media actions).value.2.ending ≠ some .completed := by
  intro start actions
  have hending : (start.run Headless.media actions).value.2.ending = some .completed := by
    decide +kernel
  have hcloses : (Script.ofEntries farewell).Closes "leave"
      { lines := [{ text := "Bye." }, { text := "See you." }] } :=
    ⟨by decide, rfl, by decide⟩
  have hreached := (Reachable.fresh (m := Headless.media) (s := Script.ofEntries farewell)
    {}).run [.start, .advance, .advance]
  obtain ⟨hruns, hadvance, -⟩ :=
    completes_only_at_close Headless.media ({} : Headless) farewell
  obtain ⟨-, -, hnever⟩ :=
    completes_only_at_close Headless.media ({} : Headless) (farewell.take 2)
  refine ⟨hending, (hruns actions hending).resolve_left (by decide), ?_, ?_⟩
  · exact (hadvance _ _ _ hreached hcloses (by decide +kernel)).2
  · exact hnever "stay" (.choice { options := [⟨"go", "Go", some "leave"⟩] }) (by decide)
      (by decide) (by simp)

end Player

end Narrative
