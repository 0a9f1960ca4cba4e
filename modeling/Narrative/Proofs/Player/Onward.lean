import Mathlib.Data.List.Perm.Subperm
import Narrative.Proofs.Check.Announced
import Narrative.Proofs.Player.Linear
import Narrative.Proofs.Script.Acyclic

/-!
# Runs that only go onward

The places where a run of a script can stand are its lines and its choices.  In an acyclic script
they come in an order: `Position.Before` goes from a line to the later ones of its dialogue and to
all that its event leads to, and never comes back.  Each accepted action goes on in this order or
ends the run (`Script.Takes.before`), so a run stands nowhere twice and accepts at most one action
for each place and one more (`onward_of_acyclic`).
-/

namespace Narrative

open Relation

/-! ## Places -/

namespace Script

variable {s : Script}

/-- Whether there is a choice under the key. -/
def isChoice (s : Script) (key : String) : Bool :=
  match s.node? key with
  | some (.choice _) => true
  | _ => false

/-- The keys of the choices, in order. -/
def choices (s : Script) : List String := s.order.filter s.isChoice

/-- The positions at an event: one at each line, or one at the choice. -/
def placesAt (s : Script) (key : String) : List Position :=
  match s.node? key with
  | some (.dialogue d) => (List.range d.lines.length).map (.line key)
  | some (.choice _) => [.prompt key]
  | _ => []

/-- The positions at all events. -/
def places (s : Script) : List Position := s.order.flatMap s.placesAt

theorem length_placesAt (s : Script) (key : String) :
    (s.placesAt key).length = (s.linesAt key).length + if s.isChoice key then 1 else 0 := by
  unfold placesAt linesAt isChoice
  cases s.node? key with
  | none => rfl
  | some n => cases n <;> simp

/-- There is a place for each line and for each choice. -/
theorem length_places (s : Script) : s.places.length = s.lines.length + s.choices.length := by
  unfold places lines choices
  induction s.order with
  | nil => rfl
  | cons key keys ih =>
      rw [List.flatMap_cons, List.flatMap_cons, List.length_append, List.length_append, ih,
        length_placesAt, List.filter_cons]
      split
      · rw [List.length_cons]
        omega
      · omega

theorem mem_places_of_fits (hs : s.Coherent) {position : Position} {event : String}
    (hfits : position.Fits s) (hevent : position.event? = some event) : position ∈ s.places := by
  cases position with
  | idle => cases hevent
  | terminated => cases hevent
  | line key index =>
      obtain ⟨d, hn, hindex⟩ := hfits
      exact List.mem_flatMap.2 ⟨key, hs.mem_order_of_node? hn, by simp [placesAt, hn, hindex]⟩
  | prompt key =>
      obtain ⟨c, hn, -⟩ := hfits
      exact List.mem_flatMap.2 ⟨key, hs.mem_order_of_node? hn, by simp [placesAt, hn]⟩

end Script

/-! ## The order of places -/

/-- A run may come from a position to another place: from the beginning to any, to a later line of
the dialogue, or to an event that the event leads to. -/
inductive Position.Before (s : Script) : Position → Position → Prop
  | start {q : Position} {event : String} : q.event? = some event → Before s .idle q
  | turn {event : String} {index later : Nat} :
      index < later → Before s (.line event index) (.line event later)
  | leads {p q : Position} {event next : String} :
      p.event? = some event → q.event? = some next → TransGen s.GoesTo event next → Before s p q

namespace Position.Before

variable {s : Script} {p q r : Position}

theorem exists_event? (h : Before s p q) : ∃ event, q.event? = some event := by
  cases h with
  | start hq => exact ⟨_, hq⟩
  | turn => exact ⟨_, rfl⟩
  | leads _ hq => exact ⟨_, hq⟩

theorem trans (hpq : Before s p q) (hqr : Before s q r) : Before s p r := by
  cases hpq with
  | start =>
      obtain ⟨event, hr⟩ := hqr.exists_event?
      exact .start hr
  | turn hlt =>
      cases hqr with
      | turn hlt' => exact .turn (Nat.lt_trans hlt hlt')
      | leads hq hr hnext => exact .leads hq hr hnext
  | leads hp hq hnext =>
      cases hqr with
      | start => cases hq
      | turn => exact .leads hp hq hnext
      | leads hq' hr hnext' =>
          obtain rfl := Option.some.inj (hq.symm.trans hq')
          exact .leads hp hr (hnext.trans hnext')

instance : Trans (Before s) (Before s) (Before s) := ⟨trans⟩

theorem irrefl (hs : s.Acyclic) (p : Position) : ¬Before s p p := by
  intro h
  cases h with
  | start hq => cases hq
  | turn hlt => exact Nat.lt_irrefl _ hlt
  | leads hp hq hnext =>
      obtain rfl := Option.some.inj (hp.symm.trans hq)
      exact hs _ hnext

end Position.Before

namespace Script

variable {s : Script} {position : Position} {action : Action} {course : Course}

theorem Arrives.transGen_goesTo {origin start event : String} {a : Arrival}
    (h : s.Arrives start a) (horigin : s.GoesTo origin start)
    (hevent : a.rest.position.event? = some event) : TransGen s.GoesTo origin event := by
  obtain ⟨hpasses, -⟩ := h.event?_rest hevent
  exact TransGen.head' horigin (ReflTransGen.mono (fun _ _ => PassesTo.goesTo) _ _ hpasses)

/-- An accepted action goes on to a later place, unless it ends the run. -/
theorem Takes.before (h : s.Takes position action course) {event : String}
    (hevent : (course.rest s).position.event? = some event) :
    position.Before s (course.rest s).position := by
  have hjourney {origin start : String} (horigin : s.GoesTo origin start)
      (hstart : ((Course.enter start).rest s).position.event? = some event) :
      TransGen s.GoesTo origin event := (s.arrives_journey start).transGen_goesTo horigin hstart
  cases h with
  | start => exact .start hevent
  | turn => exact .turn (Nat.lt_succ_self _)
  | leave hn _ hs => exact .leads rfl hevent (hjourney (.dialogue hn hs) hevent)
  | branch hn _ ho ht =>
      exact .leads rfl hevent (hjourney (.choice hn (Choice.option?_mem ho) ht) hevent)
  | startEmpty | complete | astray | deadEnd | unasked | cancel => cases hevent

end Script

theorem Course.event?_rest_or_terminated (s : Script) (course : Course) :
    (∃ event, (course.rest s).position.event? = some event) ∨
      (course.rest s).position = .terminated := by
  cases course with
  | enter event =>
      simp only [Course.rest]
      cases (s.journey event).arrival with
      | line key first => exact Or.inl ⟨key, rfl⟩
      | prompt key c => exact Or.inl ⟨key, rfl⟩
      | finished last => exact Or.inr rfl
      | broken key defect => exact Or.inr rfl
  | turn event index scene => exact Or.inl ⟨event, rfl⟩
  | complete => exact Or.inr rfl
  | cancel => exact Or.inr rfl
  | fail event defect => exact Or.inr rfl

namespace Player

variable {σ : Type} {m : Media σ} {s : Script} {p : Player σ}

/-! ## Runs -/

/-- What is answered to the actions that are accepted. -/
def accepted (answers : List (Except SignalError Progress)) : List Progress :=
  answers.filterMap Except.toOption

/-- The places where accepted actions leave a run. -/
def occupied (answers : List (Except SignalError Progress)) : List Position :=
  ((accepted answers).map Progress.position).filter fun position => position.event?.isSome

@[simp] theorem accepted_cons_error (e : SignalError)
    (answers : List (Except SignalError Progress)) :
    accepted (.error e :: answers) = accepted answers := rfl

@[simp] theorem accepted_cons_ok (progress : Progress)
    (answers : List (Except SignalError Progress)) :
    accepted (.ok progress :: answers) = progress :: accepted answers := rfl

theorem accepted_of_terminated (hp : p.position = .terminated) (actions : List Action) :
    accepted (p.run m actions).value.1 = [] := by
  refine List.filterMap_eq_nil_iff.2 fun answer ha => ?_
  rw [run_of_terminated hp ha]
  rfl

theorem occupied_cons_ok_of_event? {progress : Progress} {event : String}
    (h : progress.position.event? = some event) (answers : List (Except SignalError Progress)) :
    occupied (.ok progress :: answers) = progress.position :: occupied answers := by
  simp [occupied, h]

theorem occupied_of_accepted_eq_nil {progress : Progress}
    {answers : List (Except SignalError Progress)} (hover : progress.position = .terminated)
    (hnone : accepted answers = []) : occupied (.ok progress :: answers) = [] := by
  simp [occupied, hnone, hover, Position.event?]

theorem settle_progress_position (m : Media σ) (r : Rest) (p : Player σ) :
    (p.settle m r).value.1.position = r.position := by
  cases r <;> rfl

/-- How a run goes on at an action, by the answers to it and to the actions behind it. -/
inductive GoesOn (m : Media σ) (p : Player σ) (actions : List Action) :
    List (Except SignalError Progress) → Prop
  | refused (e : SignalError) : GoesOn m p actions (.error e :: (p.run m actions).value.1)
  /-- The run goes on to a later place. -/
  | arrives {progress : Progress} {q : Player σ} {event : String} :
      q.script = p.script → q.position = progress.position →
        progress.position.event? = some event → p.position.Before p.script progress.position →
          GoesOn m p actions (.ok progress :: (q.run m actions).value.1)
  /-- The run ends, and accepts nothing any more. -/
  | ends {progress : Progress} {answers : List (Except SignalError Progress)} :
      progress.position = .terminated → accepted answers = [] →
        GoesOn m p actions (.ok progress :: answers)

theorem goesOn (m : Media σ) (p : Player σ) (action : Action) (actions : List Action) :
    GoesOn m p actions (p.run m (action :: actions)).value.1 := by
  rw [run_cons]
  rcases step_cases m p action with ⟨e, -, hstep⟩ | ⟨course, ht, hstep⟩
  · rw [hstep]
    exact .refused e
  · rw [hstep]
    have hprogress := settle_progress_position m (course.rest p.script) p
    rcases course.event?_rest_or_terminated p.script with ⟨event, hevent⟩ | hover
    · have hposition := settle_position m (course.rest p.script) p
      rw [← hprogress] at hevent
      refine .arrives (settle_script ..) (hposition.trans hprogress.symm) hevent ?_
      rw [hprogress] at hevent ⊢
      exact ht.before hevent
    · exact .ends (hprogress.trans hover)
        (accepted_of_terminated ((settle_position ..).trans hover) actions)

/-- A run goes from place to place in their order. -/
theorem isChain_occupied (m : Media σ) (p : Player σ) (actions : List Action) :
    List.IsChain (Position.Before p.script) (p.position :: occupied (p.run m actions).value.1) := by
  induction actions generalizing p with
  | nil => exact List.isChain_singleton _
  | cons action actions ih =>
      have h := goesOn m p action actions
      generalize (p.run m (action :: actions)).value.1 = answers at h
      cases h with
      | refused e => exact ih p
      | @arrives progress q event hscript hq hevent hbefore =>
          have hrest := ih q
          rw [hscript, hq] at hrest
          rw [occupied_cons_ok_of_event? hevent]
          exact List.isChain_cons_cons.2 ⟨hbefore, hrest⟩
      | ends hover hnone =>
          rw [occupied_of_accepted_eq_nil hover hnone]
          exact List.isChain_singleton _

/-- A run accepts at most one action that does not lead it to a place: the one that ends it. -/
theorem length_accepted_le (m : Media σ) (p : Player σ) (actions : List Action) :
    (accepted (p.run m actions).value.1).length ≤
      1 + (occupied (p.run m actions).value.1).length := by
  induction actions generalizing p with
  | nil => exact Nat.zero_le _
  | cons action actions ih =>
      have h := goesOn m p action actions
      generalize (p.run m (action :: actions)).value.1 = answers at h
      cases h with
      | refused e => exact ih p
      | @arrives progress q event _ _ hevent _ =>
          rw [accepted_cons_ok, occupied_cons_ok_of_event? hevent, List.length_cons,
            List.length_cons]
          exact Nat.succ_le_succ (ih q)
      | ends _ hnone =>
          rw [accepted_cons_ok, hnone]
          exact Nat.le_add_right 1 _

theorem nodup_occupied (hs : p.script.Acyclic) (m : Media σ) (actions : List Action) :
    (occupied (p.run m actions).value.1).Nodup := by
  have hpairwise := (List.pairwise_cons.1 (isChain_occupied m p actions).pairwise).2
  refine hpairwise.imp fun {q r} hbefore => ?_
  rintro rfl
  exact Position.Before.irrefl hs q hbefore

theorem occupied_subset_places (hp : Reachable m s p) (hs : s.Coherent) (actions : List Action) :
    occupied (p.run m actions).value.1 ⊆ s.places := by
  intro position hposition
  obtain ⟨hmem, hevent⟩ := List.mem_filter.1 hposition
  obtain ⟨progress, hprogress, rfl⟩ := List.mem_map.1 hmem
  obtain ⟨answer, hanswer, hok⟩ := List.mem_filterMap.1 hprogress
  obtain ⟨before, action, -, rfl⟩ := exists_step_of_mem_run hanswer
  have hq := hp.run before
  generalize (p.run m before).value.2 = q at hok hq
  obtain rfl := hq.script_eq
  obtain ⟨event, hevent⟩ := Option.isSome_iff_exists.1 hevent
  rcases step_cases m q action with ⟨e, -, hstep⟩ | ⟨course, ht, hstep⟩
  · simp [hstep, Except.toOption] at hok
  · obtain rfl : (q.settle m (course.rest q.script)).value.1 = progress := by
      simpa [hstep, Except.toOption] using hok
    rw [settle_progress_position] at hevent ⊢
    exact Script.mem_places_of_fits hs ht.fits_rest hevent

theorem malformed_of_announces (hs : s.Acyclic) {position : Position} {action : Action}
    {event : String} (h : s.Announces position action ⟨event, Defect.lineless.reason⟩) :
    s.node? event = some (.malformed Defect.lineless.reason) := by
  generalize hf : ScriptFailure.mk event Defect.lineless.reason = f at h
  cases h with
  | malformed hn =>
      obtain ⟨rfl, rfl⟩ := ScriptFailure.mk.inj hf
      exact hn
  | noBranch =>
      have hhead := congrArg (fun f => f.reason.toList.head?) hf
      simp [Defect.reason] at hhead
  | noOptions | undefinedNext | undefinedTarget => simp [Defect.reason] at hf
  | linelessCycle hcycle hmem => exact absurd (hcycle.circles hmem) (hs.not_circles _)

theorem exists_progress_of_mem_breaks {answers : List (Except SignalError Progress)}
    {f : ScriptFailure} (h : f ∈ breaks answers) :
    ∃ progress, .ok progress ∈ answers ∧ .script f ∈ progress.diagnostics := by
  obtain ⟨answer, hanswer, hf⟩ := List.mem_flatMap.1 h
  cases answer with
  | error e => cases hf
  | ok progress =>
      obtain ⟨diagnostic, hdiagnostic, hscript⟩ := List.mem_filterMap.1 hf
      cases diagnostic with
      | asset failure => cases hscript
      | script g =>
          obtain rfl := Option.some.inj hscript
          exact ⟨progress, hanswer, hdiagnostic⟩

/-- In an acyclic script that is built from entries, a run stands at no line and at no choice twice,
whatever it is told to do.  Nothing that it enters runs into a circle of dialogues without lines,
and where it breaks off with the words for this, the words are those of a malformed event.  It
accepts at most one action for each line and for each choice, and one more. -/
theorem onward_of_acyclic (m : Media σ) (device : σ) {entries : List (String × Node)}
    (h : (Script.ofEntries entries).Acyclic) (actions : List Action) :
    let s := Script.ofEntries entries
    let answers := ((ofScript s device).run m actions).value.1
    (occupied answers).Nodup ∧
    (∀ start event, (s.journey start).arrival ≠ .broken event .lineless) ∧
    (∀ event, ⟨event, Defect.lineless.reason⟩ ∈ breaks answers →
      s.node? event = some (.malformed Defect.lineless.reason)) ∧
    (accepted answers).length ≤ 1 + s.lines.length + s.choices.length := by
  intro s answers
  have hs : s.Coherent := Script.coherent_ofEntries entries
  have hstart : Reachable m s (ofScript s device) := .fresh device
  have hnodup : (occupied answers).Nodup := nodup_occupied h m actions
  have hplaces : (occupied answers).length ≤ s.places.length :=
    (List.subperm_of_subset hnodup (occupied_subset_places hstart hs actions)).length_le
  refine ⟨hnodup, h.arrival_ne_lineless, fun event hevent => ?_, ?_⟩
  · obtain ⟨progress, hprogress, hf⟩ := exists_progress_of_mem_breaks hevent
    obtain ⟨before, action, -, hannounces⟩ := announces_of_mem_run hs hstart hprogress hf
    exact malformed_of_announces h hannounces
  · rw [Script.length_places] at hplaces
    have haccepted : (accepted answers).length ≤ 1 + (occupied answers).length :=
      length_accepted_le m (ofScript s device) actions
    omega

/-- A script that is not gone through in order: a first event without lines names the fourth, and an
option of the last one names the second. -/
def excursion : List (String × Node) :=
  [("cover", .dialogue { next := some "hall" }),
    ("yard", .dialogue { lines := [{ text := "Rain." }] }), ("gate", .malformed "locked"),
    ("hall", .dialogue { lines := [{ text := "Coat?" }, { text := "Shoes?" }] }),
    ("ask", .choice { options := [⟨"out", "Out", some "yard"⟩, ⟨"stay", "Stay", none⟩] })]

theorem acyclic_excursion : (Script.ofEntries excursion).Acyclic := by
  refine Script.acyclic_of_rank (["cover", "hall", "ask", "yard", "gate"].idxOf ·) ?_
  intro key next h
  have hentry {n : Node} (hn : (Script.ofEntries excursion).node? key = some n) :
      (key, n) ∈ excursion := Keyed.mem_of_mem_ofEntries (Keyed.mem_of_get? hn)
  cases h with
  | dialogue hn hnext =>
      have hmem := hentry hn
      simp only [excursion, List.mem_cons, Prod.mk.injEq, Node.dialogue.injEq, reduceCtorEq,
        and_false, List.not_mem_nil, or_false, false_or] at hmem
      rcases hmem with ⟨rfl, rfl⟩ | ⟨rfl, rfl⟩ | ⟨rfl, rfl⟩
      all_goals
        obtain rfl := Option.some.inj hnext
        decide
  | choice hn ho ht =>
      have hmem := hentry hn
      simp only [excursion, List.mem_cons, Prod.mk.injEq, Node.choice.injEq, reduceCtorEq,
        and_false, List.not_mem_nil, or_false, false_or] at hmem
      obtain ⟨rfl, rfl⟩ := hmem
      simp only [List.mem_cons, List.not_mem_nil, or_false] at ho
      rcases ho with rfl | rfl
      · obtain rfl := Option.some.inj ht
        decide
      · cases ht

theorem onward_excursion :
    let answers := ((ofScript (Script.ofEntries excursion) ({} : Headless)).run Headless.media
      [.start, .advance, .advance, .chooseNth 0, .advance, .cancel]).value.1
    (Script.ofEntries excursion).Acyclic ∧
      occupied answers = [.line "hall" 0, .line "hall" 1, .prompt "ask", .line "yard" 0] ∧
      (occupied answers).Nodup ∧ (accepted answers).length ≤ 5 := by
  intro answers
  obtain ⟨hnodup, -, -, haccepted⟩ := onward_of_acyclic Headless.media ({} : Headless)
    acyclic_excursion [.start, .advance, .advance, .chooseNth 0, .advance, .cancel]
  exact ⟨acyclic_excursion, by decide +kernel, hnodup, haccepted⟩

end Player

end Narrative
