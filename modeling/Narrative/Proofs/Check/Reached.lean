import Narrative.Proofs.Player.Attained
import Narrative.Proofs.Script.Findings
import Narrative.Proofs.Script.LinelessCycle
import Narrative.Scene.Headless

/-!
# Findings about reached events

The check of a script that has been loaded is exact about reached events.  An error that it finds at
one is no false alarm: some run breaks off with a script error
(`exists_scriptError_of_error_mem_check`).  And an event is said to be never reached exactly if no
run lands on it (`neverReached_mem_check_iff_forall_not_mem_landed`).
-/

namespace Narrative

namespace Script

open Relation

variable {s : Script} {key : String}

/-- A run that lands on a circle of dialogues without lines breaks off. -/
theorem Lands.exists_scriptError_of_circles (h : s.Lands key) (hc : s.Circles key) :
    ∃ course, s.Attains course ∧ (course.rest s).ending? = some .scriptError := by
  obtain ⟨event, ha, hk⟩ := h
  obtain ⟨k, harrival⟩ := arrival_eq_of_circles hk hc
  exact ⟨.enter event, ha, by rw [Course.rest, harrival]; rfl⟩

theorem Lands.exists_scriptError_of_broken {defect : Defect} (h : s.Lands key)
    (hr : s.RestsAt key (.broken key defect)) :
    ∃ course, s.Attains course ∧ (course.rest s).ending? = some .scriptError := by
  obtain ⟨course, ha, hrest⟩ := h.exists_rest hr
  exact ⟨course, ha, by rw [hrest]; rfl⟩

theorem Lands.exists_scriptError_of_goesTo {next : String} (hs : s.Orderly) (h : s.Lands key)
    (hn : s.GoesTo key next) (hundefined : s.defines next = false) :
    ∃ course, s.Attains course ∧ (course.rest s).ending? = some .scriptError :=
  (h.goesTo hs hn).exists_scriptError_of_broken (.undefined (defines_eq_false_iff.1 hundefined))

/-- A run that lands on an event at fault can be brought to break off. -/
theorem Lands.exists_scriptError_of_faulty (hs : s.Orderly) (h : s.Lands key) {n : Node}
    {p : Problem} (hn : s.node? key = some n) (hp : s.Faulty n p) :
    ∃ course, s.Attains course ∧ (course.rest s).ending? = some .scriptError := by
  cases hp with
  | malformed reason => exact h.exists_scriptError_of_broken (.malformed hn)
  | noOptions hc => exact h.exists_scriptError_of_broken (.noOptions hn hc)
  | undefinedNext hd hundefined =>
      refine h.exists_scriptError_of_goesTo hs (.dialogue hn ?_) hundefined
      simp [successor?, hd]
  | undefinedTarget ho ht hundefined =>
      exact h.exists_scriptError_of_goesTo hs (.choice hn ho ht) hundefined
  | @noBranch c o ho ht =>
      obtain ⟨course, ha, hposition⟩ := h.exists_prompt hn ho
      have hoption := Choice.option?_of_mem (hs.nodup_options hn) ho
      refine ⟨.fail key (.noTarget o.key), ha.onward (.choose o.key) ?_, rfl⟩
      rw [hposition]
      exact .deadEnd hn (.key o.key) hoption ht

/-- An error is never found in vain at an event that is reached. -/
theorem Reached.exists_scriptError (hs : s.Orderly) (h : s.Reached key) {message : String}
    (hf : ⟨.error, some key, message⟩ ∈ s.check) :
    ∃ course, s.Attains course ∧ (course.rest s).ending? = some .scriptError := by
  have hlands : s.Lands key := h.lands hs
  rcases faulty_or_linelessCycle_of_mem_check hf with ⟨n, p, -, hn, hp⟩ | ⟨rest, hcycle⟩
  · exact hlands.exists_scriptError_of_faulty hs hn hp
  · exact hlands.exists_scriptError_of_circles
      ((isCycle_of_mem_linelessCycles hcycle).circles List.mem_cons_self)

theorem Coherent.mem_order_of_error_mem_check (hs : s.Coherent) {message : String}
    (hf : ⟨.error, some key, message⟩ ∈ s.check) : key ∈ s.order := by
  rcases faulty_or_linelessCycle_of_mem_check hf with ⟨n, p, hk, -, -⟩ | ⟨rest, hcycle⟩
  · exact hk
  · have hcircles := (isCycle_of_mem_linelessCycles hcycle).circles List.mem_cons_self
    obtain ⟨d, hn, _⟩ := isLineless_iff.1 hcircles.isLineless
    exact hs.mem_order_of_node? hn

/-- An error at an event of a script that has been loaded, if the event is not said to be never
reached, is no false alarm: on any stage, a run that is started and read on ends with a script
error, and accepts each action on the way. -/
theorem exists_scriptError_of_error_mem_check {σ : Type} (m : Media σ) (device : σ) {text : String}
    {s : Script} (hs : (ofText text).value = .ok s) {key message : String}
    (herror : ⟨.error, some key, message⟩ ∈ s.check)
    (hreached : ⟨.warning, some key, "event is never reached"⟩ ∉ s.check) :
    ∃ actions : List Action, (∀ action ∈ actions, action.ReadsOn) ∧
      let result := ((Player.ofScript s device).run m (.start :: actions)).value
      (∀ answer ∈ result.1, ∃ progress, answer = .ok progress) ∧
        result.2.position = .terminated ∧ result.2.ending = some .scriptError := by
  have horderly : s.Orderly := orderly_of_ofText hs
  have hkey : key ∈ s.order := horderly.mem_order_of_error_mem_check herror
  have hr : s.Reached key := by
    by_contra hnot
    exact hreached (neverReached_mem_check_iff.2 ⟨hkey, hnot⟩)
  obtain ⟨course, ha, hending⟩ := hr.exists_scriptError horderly herror
  obtain ⟨actions, hactions, hlast⟩ := Player.exists_takesLast ha m device
  have hposition : (course.rest s).position = .terminated :=
    (course.ending?_rest_iff s).1 (by rw [hending]; rfl)
  exact ⟨actions, hactions, hlast.accepted, hlast.position_eq.trans hposition,
    hlast.ending_eq.trans hending⟩

/-- A script of two events, of which the first goes on to an event that is not defined. -/
def astray : Script :=
  .ofEntries
    [("ask", .dialogue { lines := [{}], next := some "moon" }),
      ("shore", .malformed "missing 'type' string")]

def astrayText : String :=
  "\x7b\"events\":\x7b\"ask\":\x7b\"type\":\"dialogue\",\"data\":[\x7b\x7d]," ++
    "\"next\":\"moon\"\x7d,\"shore\":\x7b\x7d\x7d\x7d"

theorem value_ofText_astrayText : (ofText astrayText).value = .ok astray := by
  have h : (ofText astrayText).value.toOption = some astray := by decide +kernel
  cases hvalue : (ofText astrayText).value with
  | error e => simp [hvalue, Except.toOption] at h
  | ok s =>
      rw [hvalue] at h
      rw [Option.some.inj h]

theorem reached_astray_iff (key : String) : astray.Reached key ↔ key = "ask" := by
  constructor
  · rintro ⟨first, hf, hr⟩
    obtain rfl : "ask" = first := Option.some.inj hf
    rcases hr.cases_head with rfl | ⟨next, hnext, _⟩
    · rfl
    · have hsuccessors : astray.successors "ask" = [] := by decide
      have hmem := mem_successors_iff.2 hnext
      simp [hsuccessors] at hmem
  · rintro rfl
    exact ⟨"ask", rfl, .refl⟩

theorem neverReached_mem_check_astray_iff (key : String) :
    ⟨.warning, some key, "event is never reached"⟩ ∈ astray.check ↔ key = "shore" := by
  have horder : astray.order = ["ask", "shore"] := by decide
  rw [neverReached_mem_check_iff, reached_astray_iff, horder]
  simp only [List.mem_cons, List.not_mem_nil, or_false]
  constructor
  · rintro ⟨hk, hnot⟩
    exact hk.resolve_left hnot
  · rintro rfl
    decide

theorem undefinedNext_mem_check_astray :
    ⟨.error, some "ask", "'next' names undefined event 'moon'"⟩ ∈ astray.check := by
  have hn : astray.node? "ask" = some (.dialogue { lines := [{}], next := some "moon" }) := by
    decide
  have hp : astray.Faulty (.dialogue { lines := [{}], next := some "moon" })
      (.undefinedNext "moon") := .undefinedNext rfl (by decide)
  exact mem_check_of_faulty (by decide) hn hp

theorem exists_scriptError_astray :
    (ofText astrayText).value = .ok astray ∧
      ⟨.error, some "ask", "'next' names undefined event 'moon'"⟩ ∈ astray.check ∧
      ⟨.warning, some "ask", "event is never reached"⟩ ∉ astray.check ∧
      ∃ actions : List Action, (∀ action ∈ actions, action.ReadsOn) ∧
        let result := ((Player.ofScript astray ({} : Headless)).run Headless.media
          (.start :: actions)).value
        (∀ answer ∈ result.1, ∃ progress, answer = .ok progress) ∧
          result.2.position = .terminated ∧ result.2.ending = some .scriptError := by
  have hreached : ⟨.warning, some "ask", "event is never reached"⟩ ∉ astray.check := by
    rw [neverReached_mem_check_astray_iff]
    decide
  exact ⟨value_ofText_astrayText, undefinedNext_mem_check_astray, hreached,
    exists_scriptError_of_error_mem_check Headless.media {} value_ofText_astrayText
      undefinedNext_mem_check_astray hreached⟩

/-- A key of a script that has been loaded is said to be never reached exactly if no run of the
script lands on it, on whichever stage. -/
theorem neverReached_mem_check_iff_forall_not_mem_landed {σ : Type} (m : Media σ) (device : σ)
    {text : String} {s : Script} (hs : (ofText text).value = .ok s) {key : String}
    (hkey : key ∈ s.order) :
    ⟨.warning, some key, "event is never reached"⟩ ∈ s.check ↔
      ∀ actions, key ∉ (Player.ofScript s device).landed m actions := by
  have horderly : s.Orderly := orderly_of_ofText hs
  rw [neverReached_mem_check_iff]
  constructor
  · rintro ⟨-, hnot⟩ actions hlanded
    have hstart : (Player.ofScript s device).position.StandsReached s := by
      intro k hk
      simp [Player.ofScript, Position.event?] at hk
    exact hnot (Player.reached_of_mem_landed hstart hlanded (horderly.mem_order_iff.1 hkey))
  · intro hnever
    refine ⟨hkey, fun hr => ?_⟩
    obtain ⟨event, ha, hk⟩ := hr.lands horderly
    obtain ⟨actions, -, hlast⟩ := Player.exists_takesLast ha m device
    exact hnever _ (hlast.landed_subset (mem_touched_journey_iff.2 hk))

theorem shore_not_mem_landed_astray :
    (ofText astrayText).value = .ok astray ∧ "shore" ∈ astray.order ∧
      ∀ actions,
        "shore" ∉ (Player.ofScript astray ({} : Headless)).landed Headless.media actions := by
  have hkey : "shore" ∈ astray.order := by decide
  have hiff := neverReached_mem_check_iff_forall_not_mem_landed Headless.media ({} : Headless)
    value_ofText_astrayText hkey
  exact ⟨value_ofText_astrayText, hkey, hiff.1 ((neverReached_mem_check_astray_iff "shore").2 rfl)⟩

end Script

end Narrative
