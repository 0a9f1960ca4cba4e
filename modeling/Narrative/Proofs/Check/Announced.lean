import Narrative.Proofs.Player.Landing
import Narrative.Proofs.Player.Sound
import Narrative.Proofs.Script.Findings
import Narrative.Proofs.Script.LinelessCycle
import Narrative.Scene.Headless

/-!
# Errors are announced

Whatever makes a run of a coherent script break off has been found by the check of the script: for
each way to break off, `Announces` names the finding that says so.  A run of a script without
error findings never breaks off (`failures_announced`).
-/

namespace Narrative

namespace Script

open Relation

/-- The check announces a failure on an action at a position: it has found an error for exactly
what the run breaks off at. -/
inductive Announces (s : Script) (position : Position) (action : Action) : ScriptFailure → Prop
  | malformed {event reason : String} :
      s.node? event = some (.malformed reason) →
        ⟨.error, some event, reason⟩ ∈ s.check → Announces s position action ⟨event, reason⟩
  | noOptions {event : String} {c : Choice} :
      s.node? event = some (.choice c) → c.options = [] →
        ⟨.error, some event, "choice offers no options"⟩ ∈ s.check →
          Announces s position action ⟨event, "choice offers no options"⟩
  | noBranch {event key : String} {c : Choice} {o : ChoiceOption} :
      position = .prompt event → s.node? event = some (.choice c) → c.Picks action key →
        c.option? key = some o → o.target = none →
          ⟨.error, some event, "option '" ++ key ++ "' has no branch"⟩ ∈ s.check →
            Announces s position action ⟨event, "choice '" ++ key ++ "' has no branch target"⟩
  | undefinedNext {event origin : String} {d : Dialogue} :
      s.node? event = none → s.node? origin = some (.dialogue d) → d.next = some event →
        ⟨.error, some origin, "'next' names undefined event '" ++ event ++ "'"⟩ ∈ s.check →
          Announces s position action ⟨event, "event is not defined in the script"⟩
  | undefinedTarget {event origin : String} {c : Choice} {o : ChoiceOption} :
      s.node? event = none → s.node? origin = some (.choice c) → o ∈ c.options →
        o.target = some event →
          ⟨.error, some origin,
            "option '" ++ o.key ++ "' branches to undefined event '" ++ event ++ "'"⟩ ∈ s.check →
              Announces s position action ⟨event, "event is not defined in the script"⟩
  | linelessCycle {event first : String} {rest : List String} :
      s.IsCycle (first :: rest) → event ∈ first :: rest →
        ⟨.error, some first, "events without lines form a cycle: " ++
          " -> ".intercalate (first :: rest ++ [first])⟩ ∈ s.check →
            Announces s position action ⟨event, "events without lines form a cycle"⟩

theorem Announces.exists_error {s : Script} {position : Position} {action : Action}
    {f : ScriptFailure} (h : s.Announces position action f) :
    ∃ finding ∈ s.check, finding.severity = .error := by
  cases h with
  | malformed _ hf => exact ⟨_, hf, rfl⟩
  | noOptions _ _ hf => exact ⟨_, hf, rfl⟩
  | noBranch _ _ _ _ _ hf => exact ⟨_, hf, rfl⟩
  | undefinedNext _ _ _ hf => exact ⟨_, hf, rfl⟩
  | undefinedTarget _ _ _ _ hf => exact ⟨_, hf, rfl⟩
  | linelessCycle _ _ hf => exact ⟨_, hf, rfl⟩

variable {s : Script} {position : Position} {action : Action}

theorem announces_malformed (hs : s.Coherent) {event reason : String}
    (hn : s.node? event = some (.malformed reason)) : s.Announces position action ⟨event, reason⟩ :=
  .malformed hn (mem_check_of_faulty (hs.mem_order_of_node? hn) hn (.malformed reason))

theorem announces_noOptions (hs : s.Coherent) {event : String} {c : Choice}
    (hn : s.node? event = some (.choice c)) (hc : c.options = []) :
    s.Announces position action ⟨event, "choice offers no options"⟩ :=
  .noOptions hn hc (mem_check_of_faulty (hs.mem_order_of_node? hn) hn (.noOptions hc))

theorem announces_noBranch (hs : s.Coherent) {event key : String} {c : Choice} {o : ChoiceOption}
    (hn : s.node? event = some (.choice c)) (hp : c.Picks action key) (ho : c.option? key = some o)
    (ht : o.target = none) :
    s.Announces (.prompt event) action ⟨event, "choice '" ++ key ++ "' has no branch target"⟩ := by
  obtain rfl := Choice.key_of_option? ho
  exact .noBranch rfl hn hp ho ht
    (mem_check_of_faulty (hs.mem_order_of_node? hn) hn (.noBranch (Choice.option?_mem ho) ht))

/-- An undefined event is announced at each event that leads to it: only a name leads to it. -/
theorem announces_undefined (hs : s.Coherent) {origin event : String} (hn : s.node? event = none)
    (h : s.GoesTo origin event) :
    s.Announces position action ⟨event, "event is not defined in the script"⟩ := by
  have hundefined : s.defines event = false := defines_eq_false_iff.2 hn
  cases h with
  | dialogue horigin hd =>
      have hnext := hs.next_eq_of_successor? hd (by simp [hundefined])
      exact .undefinedNext hn horigin hnext
        (mem_check_of_faulty (hs.mem_order_of_node? horigin) horigin
          (.undefinedNext hnext hundefined))
  | choice horigin ho ht =>
      exact .undefinedTarget hn horigin ho ht
        (mem_check_of_faulty (hs.mem_order_of_node? horigin) horigin
          (.undefinedTarget ho ht hundefined))

theorem announces_lineless (hs : s.Coherent) {event : String} (hc : s.Circles event) :
    s.Announces position action ⟨event, "events without lines form a cycle"⟩ := by
  obtain ⟨d, hn, _⟩ := isLineless_iff.1 hc.isLineless
  obtain ⟨cycle, hcycle, hmem⟩ := exists_linelessCycle_of_circles (hs.mem_order_of_node? hn) hc
  have hIs := isCycle_of_mem_linelessCycles hcycle
  cases cycle with
  | nil => exact hIs.elim
  | cons first rest => exact .linelessCycle hIs hmem (mem_check_of_linelessCycle hcycle)

theorem first_or_goesTo_of_passesTo {event key : String}
    (h : s.first? = some event ∨ ∃ origin, s.GoesTo origin event)
    (hk : ReflTransGen s.PassesTo event key) :
    s.first? = some key ∨ ∃ origin, s.GoesTo origin key := by
  rcases hk.cases_tail with rfl | ⟨b, _, hb⟩
  · exact h
  · exact Or.inr ⟨b, hb.goesTo⟩

theorem announces_of_arrives (hs : s.Coherent) {start : String} {a : Arrival} {f : ScriptFailure}
    (hstart : s.first? = some start ∨ ∃ origin, s.GoesTo origin start) (ha : s.Arrives start a)
    (hf : a.rest.failure? = some f) : s.Announces position action f := by
  cases ha with
  | finishes => simp [Arrival.rest, Rest.failure?] at hf
  | circles hk hc =>
      obtain rfl := Option.some.inj hf
      exact announces_lineless hs hc
  | @rests key _ hk hr =>
      cases hr with
      | line => simp [Arrival.rest, Rest.failure?] at hf
      | prompt => simp [Arrival.rest, Rest.failure?] at hf
      | malformed hn =>
          obtain rfl := Option.some.inj hf
          exact announces_malformed hs hn
      | noOptions hn hc =>
          obtain rfl := Option.some.inj hf
          exact announces_noOptions hs hn hc
      | undefined hn =>
          obtain rfl := Option.some.inj hf
          rcases first_or_goesTo_of_passesTo hstart hk with hfirst | ⟨origin, ho⟩
          · have hdefined := hs.defines_of_first? hfirst
            simp [defines_eq_false_iff.2 hn] at hdefined
          · exact announces_undefined hs hn ho

end Script

namespace Player

variable {σ : Type}

/-- A step of a sound player that breaks off is announced. -/
theorem Sound.announces {p : Player σ} (h : p.Sound) (hs : p.script.Coherent) {action : Action}
    {course : Course} (ht : p.script.Takes p.position action course) {f : ScriptFailure}
    (hf : (course.rest p.script).failure? = some f) : p.script.Announces p.position action f := by
  cases course with
  | enter event =>
      have hstart : p.script.first? = some event ∨ ∃ origin, p.script.GoesTo origin event := by
        rcases ht.first_or_goesTo with hfirst | ⟨origin, _, hgoes⟩
        · exact Or.inl hfirst
        · exact Or.inr ⟨origin, hgoes⟩
      exact Script.announces_of_arrives hs hstart (p.script.arrives_journey event) hf
  | fail event defect =>
      obtain ⟨c, key, o, hp, hn, hpicks, ho, htarget, rfl⟩ := h.takes_fail ht
      obtain rfl := Option.some.inj hf
      rw [hp]
      exact Script.announces_noBranch hs hn hpicks ho htarget
  | turn event index scene => simp [Course.rest, Rest.failure?] at hf
  | complete => simp [Course.rest, Rest.failure?] at hf
  | cancel => simp [Course.rest, Rest.failure?] at hf

theorem exists_failure_of_ending {m : Media σ} {p : Player σ} {actions : List Action}
    (hp : p.ending ≠ some .scriptError)
    (h : (p.run m actions).value.2.ending = some .scriptError) :
    ∃ progress f, .ok progress ∈ (p.run m actions).value.1 ∧ .script f ∈ progress.diagnostics := by
  induction actions generalizing p with
  | nil => exact absurd h hp
  | cons action actions ih =>
      by_cases hstep : (p.step m action).value.2.ending = some .scriptError
      · rcases step_cases m p action with ⟨e, -, hvalue⟩ | ⟨course, -, hvalue⟩
        · rw [hvalue] at hstep
          exact absurd hstep hp
        · rw [hvalue, settle_ending] at hstep
          have hending : (course.rest p.script).ending? = some .scriptError := by
            rcases Option.or_eq_some_iff.1 hstep with h | ⟨_, h⟩
            · exact h
            · exact absurd h hp
          obtain ⟨f, hf⟩ := Option.isSome_iff_exists.1
            ((course.failure?_rest_iff p.script).2 hending)
          refine ⟨(p.settle m (course.rest p.script)).value.1, f, ?_,
            script_mem_diagnostics_settle.2 hf⟩
          rw [run_cons, hvalue]
          exact List.mem_cons_self
      · obtain ⟨progress, f, hmem, hf⟩ := ih hstep h
        exact ⟨progress, f, List.mem_cons_of_mem _ hmem, hf⟩

theorem announces_of_mem_run {m : Media σ} {s : Script} (hs : s.Coherent) {p : Player σ}
    (hp : Reachable m s p) {actions : List Action} {progress : Progress} {f : ScriptFailure}
    (hmem : .ok progress ∈ (p.run m actions).value.1) (hf : .script f ∈ progress.diagnostics) :
    ∃ before action, before ++ [action] <+: actions ∧
      s.Announces (p.run m before).value.2.position action f := by
  obtain ⟨before, action, hprefix, hanswer⟩ := exists_step_of_mem_run hmem
  refine ⟨before, action, hprefix, ?_⟩
  have hq : Reachable m s (p.run m before).value.2 := hp.run before
  generalize (p.run m before).value.2 = q at hanswer hq ⊢
  obtain rfl := hq.script_eq
  rcases step_cases m q action with ⟨e, -, hvalue⟩ | ⟨course, ht, hvalue⟩
  · simp [hvalue] at hanswer
  · rw [hvalue] at hanswer
    obtain rfl := Except.ok.inj hanswer
    exact hq.sound.announces hs ht (script_mem_diagnostics_settle.1 hf)

end Player

/-- Every failure of a run of a script built from entries is announced by the check of the script,
at the action and the position at which the run breaks off; and a run that ends with a script error
has such a failure.  So no run of a valid script ends with one. -/
theorem Script.failures_announced {σ : Type} (m : Media σ) (device : σ)
    (entries : List (String × Node)) (actions : List Action) :
    let s := Script.ofEntries entries
    let start := Player.ofScript s device
    let result := (start.run m actions).value
    (∀ progress f, .ok progress ∈ result.1 → .script f ∈ progress.diagnostics →
      ∃ before action, before ++ [action] <+: actions ∧
        s.Announces (start.run m before).value.2.position action f) ∧
    (result.2.ending = some .scriptError →
      ∃ progress f, .ok progress ∈ result.1 ∧ .script f ∈ progress.diagnostics) ∧
    (s.report.isValid = true → result.2.ending ≠ some .scriptError) := by
  intro s start result
  have hs : s.Coherent := coherent_ofEntries entries
  have hstart : Player.Reachable m s start := .fresh device
  have hannounced (progress : Progress) (f : ScriptFailure) (hmem : .ok progress ∈ result.1)
      (hf : .script f ∈ progress.diagnostics) :=
    Player.announces_of_mem_run hs hstart hmem hf
  have hfailure (hending : result.2.ending = some .scriptError) :=
    Player.exists_failure_of_ending (p := start) (by simp [start, Player.ofScript]) hending
  refine ⟨hannounced, hfailure, ?_⟩
  intro hvalid hending
  obtain ⟨progress, f, hmem, hf⟩ := hfailure hending
  obtain ⟨_, _, _, ha⟩ := hannounced progress f hmem hf
  obtain ⟨finding, hfinding, hseverity⟩ := ha.exists_error
  have hany : s.report.findings.any (fun f => f.severity = .error) = true :=
    List.any_eq_true.2 ⟨finding, hfinding, by simpa using hseverity⟩
  simp [Report.isValid, hany] at hvalid

/-- A choice with an option that leads nowhere. -/
def Script.stranding : List (String × Node) :=
  [("ask", .choice { options := [⟨"yes", "Yes", none⟩] })]

theorem Script.failures_announced_stranding :
    let start := Player.ofScript (ofEntries stranding) ({} : Headless)
    (start.run Headless.media [.start, .chooseNth 0]).value.2.ending = some .scriptError ∧
      ∃ before action, before ++ [action] <+: [.start, .chooseNth 0] ∧
        (ofEntries stranding).Announces (start.run Headless.media before).value.2.position action
          ⟨"ask", "choice 'yes' has no branch target"⟩ := by
  intro start
  let stranded : Progress :=
    ⟨.terminated, [.script ⟨"ask", "choice 'yes' has no branch target"⟩]⟩
  have hanswers : (start.run Headless.media [.start, .chooseNth 0]).value.1 =
      [.ok ⟨.prompt "ask", []⟩, .ok stranded] := by decide +kernel
  have hmem : .ok stranded ∈ (start.run Headless.media [.start, .chooseNth 0]).value.1 := by
    rw [hanswers]
    exact List.mem_cons_of_mem _ List.mem_cons_self
  have hannounced := failures_announced Headless.media {} stranding [.start, .chooseNth 0]
  exact ⟨by decide +kernel, hannounced.1 stranded _ hmem List.mem_cons_self⟩

end Narrative
