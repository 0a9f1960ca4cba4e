import Narrative.Proofs.Player.Calls
import Narrative.Proofs.Script.Chain
import Narrative.Scene.Headless

/-!
# Entering an event

To enter an event is to go along its chain of dialogues without lines and to do one thing at the
end of it: to come to rest in a scene (`RestsIn`), or to end the run (`EndsWith`).  Nothing else is
done to the player, whatever it has gone through before, and no device is called on the way
(`enter_resolves_chain`).
-/

namespace Narrative

namespace Player

variable {σ : Type} {m : Media σ} {p : Player σ} {start key : String}

/-- The player comes to rest at a position: the scene there is applied once, what fails is reported,
and nothing else happens. -/
structure RestsIn (m : Media σ) (p : Player σ) (position : Position) (scene : Scene)
    (outcome : Noted Note (Progress × Player σ)) : Prop where
  progress_eq : outcome.value.1 = ⟨position, (p.stage.apply m scene).value.1.failures.map .asset⟩
  player_eq : outcome.value.2 =
    { p with stage := (p.stage.apply m scene).value.2, position := position }
  performed_eq : Note.performed outcome.notes = Note.performed (p.stage.apply m scene).notes

/-- The run of the player ends: the music is stopped, and nothing else happens. -/
structure EndsWith (m : Media σ) (p : Player σ) (ending : Ending) (diagnostics : List Diagnostic)
    (outcome : Noted Note (Progress × Player σ)) : Prop where
  progress_eq : outcome.value.1 = ⟨.terminated, diagnostics⟩
  player_eq : outcome.value.2 = { p with
    stage := (p.stage.silence m).value, position := .terminated, ending := some ending }
  performed_eq : Note.performed outcome.notes = [(.stop, (m.answer .stop p.stage.device).1.isOk)]

/-- The run of the player breaks off at an event, for a reason. -/
def BreaksOff (m : Media σ) (p : Player σ) (event reason : String)
    (outcome : Noted Note (Progress × Player σ)) : Prop :=
  EndsWith m p .scriptError [.script ⟨event, reason⟩] outcome

theorem value_enter {a : Arrival} (h : (p.script.journey start).arrival = a) :
    (p.enter m start).value = (p.settle m a.rest).value := by
  rw [← h]
  exact value_take m (.enter start) p

theorem performed_enter {a : Arrival} (h : (p.script.journey start).arrival = a) :
    Note.performed (p.enter m start).notes = Note.performed (p.settle m a.rest).notes := by
  rw [← h]
  exact performed_take m (.enter start) p

theorem restsIn_enter {a : Arrival} {position : Position} {scene : Scene}
    (h : (p.script.journey start).arrival = a) (hrest : a.rest = .stands position scene) :
    RestsIn m p position scene (p.enter m start) := by
  have hvalue := value_enter (m := m) h
  have hperformed := performed_enter (m := m) h
  rw [hrest] at hvalue hperformed
  refine ⟨by rw [hvalue]; rfl, by rw [hvalue]; rfl, ?_⟩
  simpa [settle, stand] using hperformed

theorem endsWith_enter {a : Arrival} {ending : Ending} {failure : Option ScriptFailure}
    (h : (p.script.journey start).arrival = a) (hrest : a.rest = .ends ending failure) :
    EndsWith m p ending (failure.toList.map .script) (p.enter m start) := by
  have hvalue := value_enter (m := m) h
  have hperformed := performed_enter (m := m) h
  rw [hrest] at hvalue hperformed
  refine ⟨by rw [hvalue]; rfl, by rw [hvalue]; rfl, ?_⟩
  simpa [settle, finish, Stage.performed_silence] using hperformed

theorem breaksOff_enter {defect : Defect}
    (h : (p.script.journey start).arrival = .broken key defect) :
    BreaksOff m p key defect.reason (p.enter m start) :=
  endsWith_enter h rfl

/-- What comes of entering an event whose chain comes to an event at which runs come to rest. -/
theorem enter_of_chainStops {n : Nat} {a : Arrival} (h : p.script.chain start n = some key)
    (hrests : p.script.RestsAt key a) :
    match a.rest with
    | .stands position scene => RestsIn m p position scene (p.enter m start)
    | .ends ending failure =>
      EndsWith m p ending (failure.toList.map .script) (p.enter m start) := by
  have harrival := (Script.journey_of_restsAt h hrests).1
  cases hrest : a.rest with
  | stands position scene => exact restsIn_enter harrival hrest
  | ends ending failure => exact endsWith_enter harrival hrest

/-- The words for a cycle are only used of a cycle, unless an event that could not be understood
has them for its reason. -/
theorem malformed_of_lineless_mem_diagnostics
    (hnever : ∀ key, ¬p.script.ChainReturns start key)
    (h : .script ⟨key, "events without lines form a cycle"⟩ ∈
      (p.enter m start).value.1.diagnostics) :
    p.script.node? key = some (.malformed "events without lines form a cycle") := by
  rcases p.script.exists_chainEnd start with ⟨k, n, hk, hl⟩ | ⟨k, n, hk, hl, hnone⟩ | ⟨k, hk⟩
  · obtain ⟨a, hrests⟩ := Script.exists_restsAt_of_not_lineless hl
    rw [value_enter (Script.journey_of_restsAt hk hrests).1, script_mem_diagnostics_settle] at h
    cases hrests with
    | malformed hn =>
        obtain ⟨rfl, rfl⟩ := ScriptFailure.mk.inj (Option.some.inj h)
        exact hn
    | _ => simp [Arrival.rest, Defect.rest, Rest.failure?, Defect.reason] at h
  · rw [value_enter (Script.journey_of_runsOut hk hl hnone).1, script_mem_diagnostics_settle] at h
    cases h
  · exact absurd hk (hnever k)

/-- Entering an event goes along the chain of dialogues without lines from there, over as many of
them at most as there are events and one of them once more, and ends in one of three ways.  Where
the chain comes to another event, the player comes to rest there or breaks off there; where a
dialogue without lines is the last of all, the run is completed; where the chain comes to a key
again, the run breaks off at the first such key.  In each case nothing else is done and nothing
else is called.  What the player has gone through before makes no difference: a chain without
repetition is not taken for a cycle. -/
theorem enter_resolves_chain (m : Media σ) (p : Player σ) (start : String) :
    let s := p.script
    let entered := p.enter m start
    ((∃ key, s.ChainStops start key) ∨ (∃ key, s.ChainRunsOut start key) ∨
      ∃ key, s.ChainReturns start key) ∧
    (∃ n ≤ s.nodes.length + 1, s.PassesOver start n) ∧
    (∀ key, s.ChainStops start key →
      (∀ d first others, s.node? key = some (.dialogue d) → d.lines = first :: others →
        RestsIn m p (.line key 0) first.scene entered) ∧
      (∀ c, s.node? key = some (.choice c) → c.options ≠ [] →
        RestsIn m p (.prompt key) c.scene entered) ∧
      (s.node? key = none → BreaksOff m p key "event is not defined in the script" entered) ∧
      (∀ reason, s.node? key = some (.malformed reason) → BreaksOff m p key reason entered) ∧
      (∀ c, s.node? key = some (.choice c) → c.options = [] →
        BreaksOff m p key "choice offers no options" entered)) ∧
    (∀ key, s.ChainRunsOut start key → EndsWith m p .completed [] entered) ∧
    (∀ key, s.ChainReturns start key →
      BreaksOff m p key "events without lines form a cycle" entered) ∧
    ((∀ i j key, s.chain start i = some key → s.chain start j = some key → i = j) →
      ∀ key, .script ⟨key, "events without lines form a cycle"⟩ ∈ entered.value.1.diagnostics →
        s.node? key = some (.malformed "events without lines form a cycle")) := by
  intro s entered
  refine ⟨s.exists_chainEnd start, s.exists_passesOver start, ?_, ?_, ?_, ?_⟩
  · rintro key ⟨n, hkey, -⟩
    exact ⟨fun d first others hn hl => enter_of_chainStops hkey (.line hn hl),
      fun c hn ho => enter_of_chainStops hkey (.prompt hn ho),
      fun hn => enter_of_chainStops hkey (.undefined hn),
      fun reason hn => enter_of_chainStops hkey (.malformed hn),
      fun c hn ho => enter_of_chainStops hkey (.noOptions hn ho)⟩
  · rintro key ⟨n, hkey, hl, hnone⟩
    exact endsWith_enter (Script.journey_of_runsOut hkey hl hnone).1 rfl
  · rintro key ⟨n, hkey, ⟨i, hi, hagain⟩, hdistinct⟩
    exact breaksOff_enter (Script.journey_of_again hkey hi hagain hdistinct).1
  · intro honce key
    refine malformed_of_lineless_mem_diagnostics ?_
    rintro k ⟨n, hk, ⟨i, hi, hagain⟩, -⟩
    exact hi.ne (honce i n k hagain hk)

/-- Two events without lines that lead to a line, two that lead round, and one that is the last. -/
def detours : Script :=
  .ofEntries [
    ("gate", .dialogue {}),
    ("path", .dialogue { next := some "hall" }),
    ("ring", .dialogue {}),
    ("round", .dialogue { next := some "ring" }),
    ("hall", .dialogue { lines := [{ text := "Here." , scene := { left := "aoi.png" } }] }),
    ("exit", .dialogue {})]

theorem enter_detours :
    let p := ofScript detours ({} : Headless)
    RestsIn Headless.media p (.line "hall" 0) { left := "aoi.png" }
        (p.enter Headless.media "gate") ∧
      BreaksOff Headless.media p "ring" "events without lines form a cycle"
        (p.enter Headless.media "ring") ∧
      EndsWith Headless.media p .completed [] (p.enter Headless.media "exit") := by
  intro p
  obtain ⟨-, -, hstops, -⟩ := enter_resolves_chain Headless.media p "gate"
  obtain ⟨-, -, -, -, hreturns, -⟩ := enter_resolves_chain Headless.media p "ring"
  obtain ⟨-, -, -, hout, -⟩ := enter_resolves_chain Headless.media p "exit"
  refine ⟨?_, hreturns "ring" ⟨2, by decide, ⟨0, by decide, by decide⟩, ?_⟩,
    hout "exit" ⟨0, by decide, by decide, by decide⟩⟩
  · exact (hstops "hall" ⟨2, by decide, by decide⟩).1 _ _ [] rfl rfl
  · intro i j hij hj
    obtain ⟨rfl, rfl⟩ : i = 0 ∧ j = 1 := by omega
    decide

end Player

end Narrative
