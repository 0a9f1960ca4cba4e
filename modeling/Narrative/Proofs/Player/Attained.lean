import Narrative.Proofs.Player.Landing
import Narrative.Proofs.Script.Chain
import Narrative.Proofs.Script.Loaded

/-!
# Courses that a run can be brought to

Starting a run and then reading on, line by line and option by option, brings it to each reached
event of an orderly script (`Reached.lands`).  Which courses can be attained depends on the script
alone; that the actions exist for a player on any stage is `exists_takesLast`.
-/

namespace Narrative

open Relation

/-- An action of a host that reads on: it advances, or chooses by key. -/
inductive Action.ReadsOn : Action → Prop
  | advance : ReadsOn .advance
  | choose (key : String) : ReadsOn (.choose key)

namespace Script

/-- The courses that a run can be brought to take by starting it and reading on. -/
inductive Attains (s : Script) : Course → Prop
  | start {course : Course} : s.Takes .idle .start course → Attains s course
  | onward {before course : Course} {action : Action} :
      Attains s before → action.ReadsOn → s.Takes (before.rest s).position action course →
        Attains s course

/-- A run can be brought to land on an event. -/
def Lands (s : Script) (key : String) : Prop :=
  ∃ event, s.Attains (.enter event) ∧ ReflTransGen s.PassesTo event key

variable {s : Script} {key : String}

theorem lands_of_first? (h : s.first? = some key) : s.Lands key :=
  ⟨key, .start (.start h), .refl⟩

theorem lands_of_takes {course : Course} {action : Action} (h : s.Attains course)
    (ha : action.ReadsOn) (ht : s.Takes (course.rest s).position action (.enter key)) :
    s.Lands key :=
  ⟨key, h.onward ha ht, .refl⟩

theorem Lands.passesTo {next : String} (h : s.Lands key) (hn : s.PassesTo key next) :
    s.Lands next := by
  obtain ⟨event, ha, hk⟩ := h
  exact ⟨event, ha, hk.tail hn⟩

/-- Where a run lands on an event that lets it come to rest, it can be brought to rest there. -/
theorem Lands.exists_rest {a : Arrival} (h : s.Lands key) (hr : s.RestsAt key a) :
    ∃ course, s.Attains course ∧ course.rest s = a.rest := by
  obtain ⟨event, ha, hk⟩ := h
  exact ⟨.enter event, ha, by rw [Course.rest, arrival_eq_of_restsAt hk hr]⟩

/-- A dialogue that a run lands on can be read up to each of its lines. -/
theorem Lands.exists_line {d : Dialogue} (h : s.Lands key) (hn : s.node? key = some (.dialogue d))
    (index : Nat) (hi : index < d.lines.length) :
    ∃ course, s.Attains course ∧ (course.rest s).position = .line key index := by
  induction index with
  | zero =>
      cases hl : d.lines with
      | nil => simp [hl] at hi
      | cons first others =>
          obtain ⟨course, ha, hrest⟩ := h.exists_rest (.line hn hl)
          exact ⟨course, ha, by rw [hrest]; rfl⟩
  | succ index ih =>
      obtain ⟨course, ha, hposition⟩ := ih (Nat.lt_of_succ_lt hi)
      have hline : d.lines[index + 1]? = some d.lines[index + 1] := List.getElem?_eq_getElem hi
      refine ⟨.turn key (index + 1) d.lines[index + 1].scene, ha.onward .advance ?_, rfl⟩
      rw [hposition]
      exact .turn hn hline

theorem Lands.successor {d : Dialogue} {next : String} (h : s.Lands key)
    (hn : s.node? key = some (.dialogue d)) (hd : s.successor? key d = some next) :
    s.Lands next := by
  by_cases hl : d.lines = []
  · exact h.passesTo (landing_eq_passes_iff.2 ⟨d, hn, hl, hd⟩)
  · have hlength : 0 < d.lines.length := List.length_pos_iff.2 hl
    obtain ⟨course, ha, hposition⟩ :=
      h.exists_line hn (d.lines.length - 1) (Nat.sub_lt hlength Nat.one_pos)
    refine lands_of_takes ha .advance ?_
    rw [hposition]
    exact .leave hn (List.getElem?_eq_none (by omega)) hd

/-- A choice that a run lands on and that has options can be asked. -/
theorem Lands.exists_prompt {c : Choice} {o : ChoiceOption} (h : s.Lands key)
    (hn : s.node? key = some (.choice c)) (ho : o ∈ c.options) :
    ∃ course, s.Attains course ∧ (course.rest s).position = .prompt key := by
  obtain ⟨course, ha, hrest⟩ := h.exists_rest (.prompt hn (List.ne_nil_of_mem ho))
  exact ⟨course, ha, by rw [hrest]; rfl⟩

/-- From an event that a run lands on it can go on to each event that may come next. -/
theorem Lands.goesTo {next : String} (hs : s.Orderly) (h : s.Lands key)
    (hn : s.GoesTo key next) : s.Lands next := by
  cases hn with
  | dialogue hn hd => exact h.successor hn hd
  | @choice c o hn ho ht =>
      obtain ⟨course, ha, hposition⟩ := h.exists_prompt hn ho
      refine lands_of_takes ha (.choose o.key) ?_
      rw [hposition]
      exact .branch hn (.key o.key) (Choice.option?_of_mem (hs.nodup_options hn) ho) ht

/-- A run of an orderly script can be brought to land on each reached event. -/
theorem Reached.lands (hs : s.Orderly) (h : s.Reached key) : s.Lands key := by
  obtain ⟨first, hf, hr⟩ := h
  induction hr with
  | refl => exact lands_of_first? hf
  | tail _ hbc ih => exact ih.goesTo hs hbc.1

end Script

namespace Player

variable {σ : Type} {m : Media σ} {p : Player σ}

/-- A run accepts all of its actions, and takes a course last. -/
structure TakesLast (m : Media σ) (p : Player σ) (actions : List Action) (course : Course) :
    Prop where
  accepted : ∀ answer ∈ (p.run m actions).value.1, ∃ progress, answer = .ok progress
  position_eq : (p.run m actions).value.2.position = (course.rest p.script).position
  ending_eq : (p.run m actions).value.2.ending = (course.rest p.script).ending?
  landed_subset : course.landed p.script ⊆ p.landed m actions

theorem TakesLast.of_takes {action : Action} {course : Course} (hp : p.ending = none)
    (h : p.script.Takes p.position action course) : TakesLast m p [action] course where
  accepted answer ha := by
    rw [run_cons, step_of_takes h] at ha
    exact ⟨_, List.mem_singleton.1 ha⟩
  position_eq := by rw [run_cons, step_of_takes h]; simp
  ending_eq := by rw [run_cons, step_of_takes h]; simp [settle_ending, hp]
  landed_subset := by rw [landed, landedOn_of_takes h]; exact List.subset_append_left _ _

/-- A run over which an action is still accepted has not ended. -/
theorem ending?_eq_none_of_takes {s : Script} {before course : Course} {action : Action}
    (h : s.Takes (before.rest s).position action course) : (before.rest s).ending? = none := by
  by_contra hne
  have hposition := (before.ending?_rest_iff s).1 (Option.isSome_iff_ne_none.2 hne)
  rw [hposition] at h
  cases h with
  | cancel hp => exact hp rfl

theorem TakesLast.append {actions : List Action} {before course : Course} {action : Action}
    (h : TakesLast m p actions before)
    (ht : p.script.Takes (before.rest p.script).position action course) :
    TakesLast m p (actions ++ [action]) course := by
  have hlast : TakesLast m (p.run m actions).value.2 [action] course := by
    refine .of_takes ?_ ?_
    · rw [h.ending_eq, ending?_eq_none_of_takes ht]
    · rwa [run_script, h.position_eq]
  have hrun := run_append m p actions [action]
  refine ⟨fun answer ha => ?_, ?_, ?_, fun key hk => ?_⟩
  · rw [hrun] at ha
    rcases List.mem_append.1 ha with ha | ha
    · exact h.accepted answer ha
    · exact hlast.accepted answer ha
  · rw [hrun, hlast.position_eq, run_script]
  · rw [hrun, hlast.ending_eq, run_script]
  · rw [landed_append]
    refine List.mem_append_right _ (hlast.landed_subset ?_)
    rwa [run_script]

/-- What can be attained is attained on any stage, by reading on. -/
theorem exists_takesLast {s : Script} {course : Course} (h : s.Attains course) (m : Media σ)
    (device : σ) :
    ∃ actions, (∀ action ∈ actions, action.ReadsOn) ∧
      TakesLast m (ofScript s device) (.start :: actions) course := by
  induction h with
  | start ht => exact ⟨[], by simp, .of_takes rfl ht⟩
  | @onward before course action _ ha ht ih =>
      obtain ⟨actions, hactions, hlast⟩ := ih
      refine ⟨actions ++ [action], fun a hmem => ?_, hlast.append ht⟩
      rcases List.mem_append.1 hmem with hmem | hmem
      · exact hactions a hmem
      · rwa [List.mem_singleton.1 hmem]

end Player

end Narrative
