import Narrative.Proofs.Player.Diagnostics
import Narrative.Proofs.Script.Chain
import Narrative.Proofs.Script.Coherence

/-!
# Linear scripts

A script is linear if each event is a dialogue that goes on to the next one in order.  What is left
to be read of it is then a list of lines: `Ahead` gives those behind a position, `Reads` those that
a rest begins with.  Starting reads all lines (`Linear.exists_takes_start`) and advancing reads
those behind the present one (`Linear.exists_takes_advance`), so a run shows each line once and in
order, and completes (`shows_lines_of_linear`).
-/

namespace Narrative

namespace Script

open Relation

variable {s : Script} {before after : List String} {key : String}

/-- The lines of the event under a key, if it is a dialogue. -/
def linesAt (s : Script) (key : String) : List Line :=
  match s.node? key with
  | some (.dialogue d) => d.lines
  | _ => []

/-- The lines of all events, in order. -/
def lines (s : Script) : List Line := s.order.flatMap s.linesAt

/-- A coherent script in which each event is a dialogue that names no other one. -/
structure Linear (s : Script) : Prop extends Coherent s where
  next_eq {key : String} {n : Node} :
    s.node? key = some n → ∃ d : Dialogue, n = .dialogue d ∧ d.next = none

theorem linesAt_of_dialogue {d : Dialogue} (h : s.node? key = some (.dialogue d)) :
    s.linesAt key = d.lines := by
  simp [linesAt, h]

namespace Linear

theorem exists_dialogue (hs : s.Linear) (horder : s.order = before ++ key :: after) :
    ∃ d : Dialogue, s.node? key = some (.dialogue d) ∧ s.successor? key d = after.head? := by
  have hmem : key ∈ s.order := by simp [horder]
  obtain ⟨n, hn⟩ := Option.isSome_iff_exists.1 (hs.mem_order_iff.1 hmem)
  obtain ⟨d, rfl, hnext⟩ := hs.next_eq hn
  have hnodup := hs.nodup
  rw [horder] at hnodup
  refine ⟨d, hn, ?_⟩
  rw [successor?, hnext, Option.none_or, after?, horder, afterIn?_of_nodup hnodup]

end Linear

/-- At a line of a linear script, the lines behind it. -/
inductive Ahead (s : Script) : Position → List Line → Prop
  | line {before after : List String} {event : String} {index : Nat} :
      s.order = before ++ event :: after →
        Ahead s (.line event index)
          ((s.linesAt event).drop (index + 1) ++ after.flatMap s.linesAt)

/-- The lines that are read from a rest on: those that it begins with, and those behind it. -/
inductive Reads (s : Script) : Rest → List Line → Prop
  | ends : Reads s (.ends .completed none) []
  | line {position : Position} {scene : Scene} {line : Line} {lines : List Line} :
      s.snapshot? position = some (.ofLine line) → s.Ahead position lines →
        Reads s (.stands position scene) (line :: lines)

namespace Linear

theorem reads_line {d : Dialogue} {index : Nat} {line : Line}
    (horder : s.order = before ++ key :: after) (hn : s.node? key = some (.dialogue d))
    (hl : d.lines[index]? = some line) :
    s.Reads (.stands (.line key index) line.scene)
      (d.lines.drop index ++ after.flatMap s.linesAt) := by
  have hahead : s.Ahead (.line key index)
      (d.lines.drop (index + 1) ++ after.flatMap s.linesAt) := by
    rw [← linesAt_of_dialogue hn]
    exact .line horder
  rw [List.drop_eq_getElem?_toList_append, hl]
  exact .line (by simp [snapshot?, hn, hl]) hahead

theorem reads_journey_of_lines {start : String} {d : Dialogue}
    (horder : s.order = before ++ key :: after) (hk : ReflTransGen s.PassesTo start key)
    (hn : s.node? key = some (.dialogue d)) (hl : d.lines ≠ []) :
    s.Reads (s.journey start).arrival.rest ((key :: after).flatMap s.linesAt) := by
  obtain ⟨first, others, hcons⟩ := List.exists_cons_of_ne_nil hl
  rw [arrival_eq_of_restsAt hk (.line hn hcons), List.flatMap_cons, linesAt_of_dialogue hn]
  exact reads_line horder hn (by simp [hcons])

/-- From wherever a run passes on to an event, it reads the lines from this event on: events without
lines are passed over until one has a line, or until nothing is left. -/
theorem reads_journey (hs : s.Linear) {start : String} (horder : s.order = before ++ key :: after)
    (hk : ReflTransGen s.PassesTo start key) :
    s.Reads (s.journey start).arrival.rest ((key :: after).flatMap s.linesAt) := by
  induction after generalizing before key with
  | nil =>
      obtain ⟨d, hn, hsuccessor⟩ := hs.exists_dialogue horder
      by_cases hl : d.lines = []
      · have hlanding := landing_eq_passes_iff.2 ⟨d, hn, hl, hsuccessor⟩
        rw [arrival_eq_of_passes_none hk hlanding, List.flatMap_singleton,
          linesAt_of_dialogue hn, hl]
        exact .ends
      · exact reads_journey_of_lines horder hk hn hl
  | cons next after ih =>
      obtain ⟨d, hn, hsuccessor⟩ := hs.exists_dialogue horder
      by_cases hl : d.lines = []
      · have hpasses : s.PassesTo key next := landing_eq_passes_iff.2 ⟨d, hn, hl, hsuccessor⟩
        have hrest : s.order = (before ++ [key]) ++ next :: after := by simp [horder]
        rw [List.flatMap_cons, linesAt_of_dialogue hn, hl, List.nil_append]
        exact ih hrest (hk.tail hpasses)
      · exact reads_journey_of_lines horder hk hn hl

/-- A run starts by reading all lines. -/
theorem exists_takes_start (hs : s.Linear) :
    ∃ course, s.Takes .idle .start course ∧ s.Reads (course.rest s) s.lines := by
  cases horder : s.order with
  | nil =>
      refine ⟨.complete, .startEmpty (by simp [first?, horder]), ?_⟩
      rw [lines, horder]
      exact .ends
  | cons key after =>
      refine ⟨.enter key, .start (by simp [first?, horder]), ?_⟩
      have hall : s.order = [] ++ key :: after := horder
      rw [lines, horder]
      exact hs.reads_journey hall .refl

/-- From a line a run goes on by reading the lines behind it. -/
theorem exists_takes_advance (hs : s.Linear) {position : Position} {lines : List Line}
    (h : s.Ahead position lines) :
    ∃ course, s.Takes position .advance course ∧ s.Reads (course.rest s) lines := by
  cases h with
  | @line before after event index horder =>
      obtain ⟨d, hn, hsuccessor⟩ := hs.exists_dialogue horder
      rw [linesAt_of_dialogue hn]
      cases hl : d.lines[index + 1]? with
      | some line =>
          exact ⟨.turn event (index + 1) line.scene, .turn hn hl, reads_line horder hn hl⟩
      | none =>
          have hdrop : d.lines.drop (index + 1) = [] := by
            simpa using hl
          rw [hdrop, List.nil_append]
          cases after with
          | nil => exact ⟨.complete, .complete hn hl hsuccessor, .ends⟩
          | cons next after =>
              have hrest : s.order = (before ++ [event]) ++ next :: after := by simp [horder]
              exact ⟨.enter next, .leave hn hl hsuccessor, hs.reads_journey hrest .refl⟩

end Linear

end Script

namespace Player

variable {σ : Type} {m : Media σ} {p : Player σ}

/-- What a player shows after each of some actions, where it shows anything. -/
def shows (m : Media σ) (p : Player σ) : List Action → List Snapshot
  | [] => []
  | action :: actions =>
    (p.step m action).value.2.snapshot?.toList ++ shows m (p.step m action).value.2 actions

/-- A run reads some lines: all of its actions are accepted without a failure, it shows the lines
one after the other, and it completes. -/
structure ReadsThrough (m : Media σ) (p : Player σ) (actions : List Action) (lines : List Line) :
    Prop where
  shows_eq : p.shows m actions = lines.map Snapshot.ofLine
  accepted : ∀ answer ∈ (p.run m actions).value.1,
    ∃ progress, answer = .ok progress ∧ ∀ f, .script f ∉ progress.diagnostics
  position_eq : (p.run m actions).value.2.position = .terminated
  ending_eq : (p.run m actions).value.2.ending = some .completed

theorem ReadsThrough.cons {q : Player σ} {action : Action} {actions : List Action}
    {progress : Progress} {line : Line} {lines : List Line}
    (hstep : (p.step m action).value = (.ok progress, q))
    (hclean : ∀ f, .script f ∉ progress.diagnostics) (hshown : q.snapshot? = some (.ofLine line))
    (h : ReadsThrough m q actions lines) :
    ReadsThrough m p (action :: actions) (line :: lines) where
  shows_eq := by rw [shows, hstep, hshown, h.shows_eq]; rfl
  accepted answer ha := by
    rw [run_cons, hstep] at ha
    rcases List.mem_cons.1 ha with rfl | ha
    · exact ⟨progress, rfl, hclean⟩
    · exact h.accepted answer ha
  position_eq := by rw [run_cons, hstep]; exact h.position_eq
  ending_eq := by rw [run_cons, hstep]; exact h.ending_eq

theorem ReadsThrough.single {q : Player σ} {action : Action} {progress : Progress}
    (hstep : (p.step m action).value = (.ok progress, q))
    (hclean : ∀ f, .script f ∉ progress.diagnostics) (hposition : q.position = .terminated)
    (hending : q.ending = some .completed) : ReadsThrough m p [action] [] where
  shows_eq := by
    rw [shows, hstep, snapshot?, hposition]
    rfl
  accepted answer ha := by
    rw [run_cons, hstep] at ha
    exact ⟨progress, List.mem_singleton.1 ha, hclean⟩
  position_eq := by rw [run_cons, hstep]; exact hposition
  ending_eq := by rw [run_cons, hstep]; exact hending

theorem script_not_mem_settle (m : Media σ) {r : Rest} (hr : r.failure? = none) (p : Player σ)
    (f : ScriptFailure) : .script f ∉ (p.settle m r).value.1.diagnostics := by
  simp [script_mem_diagnostics_settle, hr]

/-- An action whose rest reads some lines is followed by one advance for each of them. -/
theorem readsThrough_of_takes (hs : p.script.Linear) {action : Action} {course : Course}
    {lines : List Line} (ht : p.script.Takes p.position action course)
    (hr : p.script.Reads (course.rest p.script) lines) :
    ReadsThrough m p (action :: List.replicate lines.length .advance) lines := by
  induction lines generalizing p action course with
  | nil =>
      have hstep := step_of_takes (m := m) ht
      generalize course.rest p.script = r at hr hstep
      cases hr with
      | ends => exact .single hstep (script_not_mem_settle m rfl p) rfl rfl
  | cons line lines ih =>
      have hstep := step_of_takes (m := m) ht
      generalize course.rest p.script = r at hr hstep
      cases hr with
      | @line position scene _ _ hshown hahead =>
          obtain ⟨next, htakes, hreads⟩ := hs.exists_takes_advance hahead
          let q := (p.settle m (.stands position scene)).value.2
          have hrest := ih (p := q) hs htakes hreads
          exact .cons hstep (script_not_mem_settle m rfl p) hshown hrest

/-- Starting a script of dialogues that name no next event, and then advancing once for each line,
shows every line of the script once and in order, whatever fails to load.  All of this is accepted
without a failure, the run completes, and it accepts nothing more. -/
theorem shows_lines_of_linear (m : Media σ) (device : σ) {entries : List (String × Node)}
    (h : ∀ key n, (Script.ofEntries entries).node? key = some n →
      ∃ lines, n = .dialogue { lines }) :
    let s := Script.ofEntries entries
    let start := ofScript s device
    let actions := .start :: List.replicate s.lines.length .advance
    let last := (start.run m actions).value
    start.shows m actions = s.lines.map Snapshot.ofLine ∧
    (∀ answer ∈ last.1, ∃ progress, answer = .ok progress ∧
      ∀ f, .script f ∉ progress.diagnostics) ∧
    last.2.position = .terminated ∧ last.2.ending = some .completed ∧
    ∀ more, ∀ answer ∈ (last.2.run m more).value.1, answer = .error .terminated := by
  intro s start actions last
  have hs : s.Linear := by
    refine ⟨Script.coherent_ofEntries entries, fun {key n} hn => ?_⟩
    obtain ⟨lines, rfl⟩ := h key n hn
    exact ⟨_, rfl, rfl⟩
  obtain ⟨course, htakes, hreads⟩ := hs.exists_takes_start
  have hrun : ReadsThrough m start actions s.lines := readsThrough_of_takes hs htakes hreads
  exact ⟨hrun.shows_eq, hrun.accepted, hrun.position_eq, hrun.ending_eq,
    fun more answer ha => run_of_terminated hrun.position_eq ha⟩

/-- Five events in order, of which the first, the third and the last have no lines. -/
def diary : List (String × Node) :=
  [("cover", .dialogue {}),
    ("monday", .dialogue {
      lines := [{ speaker := "Aoi", text := "Rain." }, { text := "Still." }] }),
    ("tuesday", .dialogue {}), ("sunday", .dialogue { lines := [{ text := "Sun." }] }),
    ("back", .dialogue {})]

theorem shows_lines_diary :
    let start := ofScript (Script.ofEntries diary) ({} : Headless)
    start.shows Headless.media [.start, .advance, .advance, .advance] =
        [{ speaker := "Aoi", line := "Rain." }, { speaker := "Narrator", line := "Still." },
          { speaker := "Narrator", line := "Sun." }] ∧
      (start.run Headless.media [.start, .advance, .advance, .advance]).value.2.ending =
        some .completed := by
  have hdialogues : ∀ key n, (Script.ofEntries diary).node? key = some n →
      ∃ lines, n = .dialogue { lines } := by
    intro key n hn
    have hmem := Keyed.mem_of_mem_ofEntries (Keyed.mem_of_get? hn)
    simp only [diary, List.mem_cons, Prod.mk.injEq, List.not_mem_nil, or_false] at hmem
    rcases hmem with ⟨-, rfl⟩ | ⟨-, rfl⟩ | ⟨-, rfl⟩ | ⟨-, rfl⟩ | ⟨-, rfl⟩ <;> exact ⟨_, rfl⟩
  have hlines : (Script.ofEntries diary).lines =
      [{ speaker := "Aoi", text := "Rain." }, { text := "Still." }, { text := "Sun." }] := by
    decide
  obtain ⟨hshows, -, -, hending, -⟩ :=
    shows_lines_of_linear Headless.media ({} : Headless) hdialogues
  rw [hlines] at hshows hending
  exact ⟨hshows, hending⟩

end Player

end Narrative
