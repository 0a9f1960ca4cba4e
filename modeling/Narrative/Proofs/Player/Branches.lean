import Mathlib.Logic.Basic
import Narrative.Proofs.Player.Refusal
import Narrative.Proofs.Script.Branches

/-!
# No branch is lost silently

Each branch of a loaded choice is followed wherever the choice is asked, or it can never be chosen
and the check says so; it is followed exactly if its key names an option
(`branch_followed_xor_lost`).
-/

namespace Narrative

namespace Player

variable {σ : Type} {m : Media σ} {p : Player σ} {action : Action} {course : Course}

/-- The player accepts an action and takes a course on it. -/
structure Follows (m : Media σ) (p : Player σ) (action : Action) (course : Course) : Prop where
  value_eq : (p.step m action).value =
    (.ok (p.take m course).value.1, (p.take m course).value.2)
  performed_eq : Note.performed (p.step m action).notes = Note.performed (p.take m course).notes

theorem follows_of_takes (h : p.script.Takes p.position action course) :
    p.Follows m action course where
  value_eq := by simp [step, Script.course_of_takes h]
  performed_eq := by simp [step, Script.course_of_takes h]

end Player

namespace Script

/-- The branch under a key is followed: its choice has one option of that key.  Wherever the choice
is asked, choosing the key enters the target of the branch; if it has none, this breaks the run off
at the choice, and the check finds an error there. -/
structure BranchFollowed (s : Script) (event key : String) (target : Option String) : Prop where
  offered : ∃ c, s.node? event = some (.choice c) ∧ (c.options.map ChoiceOption.key).count key = 1
  enters : ∀ {σ : Type} (m : Media σ) (p : Player σ), p.Reachable m s →
    p.position = .prompt event → ∀ next, target = some next →
      p.Follows m (.choose key) (.enter next)
  breaks : ∀ {σ : Type} (m : Media σ) (p : Player σ), p.Reachable m s →
    p.position = .prompt event → target = none →
      ∃ q, (p.step m (.choose key)).value =
          (.ok ⟨.terminated, [.script ⟨event, "choice '" ++ key ++ "' has no branch target"⟩]⟩, q) ∧
        q.ending = some .scriptError
  found : target = none → ⟨.error, some event, "option '" ++ key ++ "' has no branch"⟩ ∈ s.check

/-- The branch under a key is lost: wherever its choice is asked, the key is refused, and the check
warns of it. -/
structure BranchLost (s : Script) (event key : String) : Prop where
  refused : ∀ {σ : Type} (m : Media σ) (p : Player σ), p.Reachable m s →
    p.position = .prompt event →
      (p.step m (.choose key)).value = (.error (.unknownChoice event key), p)
  warned : ⟨.warning, some event, "branch '" ++ key ++ "' matches no option"⟩ ∈ s.check

theorem branchFollowed_of_option? {s : Script} {event key : String} {c : Choice}
    {o : ChoiceOption} (hk : event ∈ s.order) (hn : s.node? event = some (.choice c))
    (ho : c.option? key = some o) (hcount : (c.options.map ChoiceOption.key).count key = 1) :
    s.BranchFollowed event key o.target where
  offered := ⟨c, hn, hcount⟩
  enters m p hp hposition next hnext := by
    obtain rfl := hp.script_eq
    have ht : p.script.Takes p.position (.choose key) (.enter next) := by
      rw [hposition]
      exact .branch hn (.key key) ho hnext
    exact Player.follows_of_takes ht
  breaks m p hp hposition hnone := by
    obtain rfl := hp.script_eq
    have ht : p.script.Takes p.position (.choose key) (.fail event (.noTarget key)) := by
      rw [hposition]
      exact .deadEnd hn (.key key) ho hnone
    exact ⟨_, Player.step_of_takes ht, rfl⟩
  found hnone := by
    have hfaulty : s.Faulty (.choice c) (.noBranch o.key) :=
      .noBranch (Choice.option?_mem ho) hnone
    rw [Choice.key_of_option? ho] at hfaulty
    exact mem_check_of_faulty hk hn hfaulty

theorem branchLost_of_option? {s : Script} {event key : String} {c : Choice}
    (hk : event ∈ s.order) (hn : s.node? event = some (.choice c)) (ho : c.option? key = none)
    (hunmatched : key ∈ c.unmatched) : s.BranchLost event key where
  refused m p hp hposition := by
    obtain rfl := hp.script_eq
    have hkeys : ∀ o ∈ c.options, o.key ≠ key := by simpa [Choice.option?] using ho
    have hrefuses : p.script.Refuses p.position (.choose key) (.unknownChoice event key) := by
      rw [hposition]
      exact .unknown hn hkeys
    exact Player.step_of_refused hrefuses.course_eq
  warned := (unmatchedBranch_mem_check_iff hk hn).2 hunmatched

section Loaded

variable {s : Script} {event key : String} {j : Json} {data branches : Keyed Json}

theorem branchFollowed_iff (key : String) (hk : event ∈ s.order)
    (hn : s.node? event = some (.choice (.ofMembers j data branches))) (hdata : data.keys.Nodup) :
    s.BranchFollowed event key ((branches.get? key).bind Json.string?) ↔
      key ≠ Choice.promptKey ∧ key ∈ data.keys := by
  constructor
  · intro h
    obtain ⟨c, hc, hcount⟩ := h.offered
    obtain rfl : .ofMembers j data branches = c :=
      Node.choice.inj (Option.some.inj (hn.symm.trans hc))
    rw [Choice.count_options_ofMembers hdata] at hcount
    by_contra hnot
    rw [if_neg hnot] at hcount
    exact absurd hcount (by decide)
  · intro h
    obtain ⟨o, ho, htarget⟩ := Choice.exists_option?_ofMembers j branches h
    rw [← htarget]
    exact branchFollowed_of_option? hk hn ho
      (by rw [Choice.count_options_ofMembers hdata, if_pos h])

theorem branchLost_iff (hk : event ∈ s.order)
    (hn : s.node? event = some (.choice (.ofMembers j data branches)))
    (hkey : key ∈ branches.keys) :
    s.BranchLost event key ↔ ¬(key ≠ Choice.promptKey ∧ key ∈ data.keys) := by
  constructor
  · intro h
    have hunmatched := (unmatchedBranch_mem_check_iff hk hn).1 h.warned
    exact (Choice.mem_unmatched_ofMembers.1 hunmatched).2
  · intro h
    exact branchLost_of_option? hk hn (Choice.option?_ofMembers_eq_none h)
      (Choice.mem_unmatched_ofMembers.2 ⟨hkey, h⟩)

end Loaded

/-- Each branch of a choice that is read from a value is followed or lost, and not both: it is
followed exactly if its key is a member of the data other than the question.  So no branch is lost
without a warning. -/
theorem branch_followed_xor_lost {j event : Json} {events data branches : Keyed Json}
    (name key : String) (hj : j.Distinct)
    (hevents : (j.member? "events").bind Json.members? = some events)
    (hevent : events.get? name = some event) (htype : event.stringAt? "type" = some "choice")
    (hdata : (event.member? "data").bind Json.members? = some data)
    (hbranches : (event.member? "branches").bind Json.members? = some branches)
    (hkey : key ∈ branches.keys) :
    let s := (ofJson j).value
    let target := (branches.get? key).bind Json.string?
    (s.BranchFollowed name key target ↔ key ≠ Choice.promptKey ∧ key ∈ data.keys) ∧
      Xor (s.BranchFollowed name key target) (s.BranchLost name key) := by
  intro s target
  have hn : s.node? name = some (.choice (.ofMembers event data branches)) := by
    rw [node?_ofJson hj hevents, hevent, Option.map_some,
      Node.ofJson_choice htype hdata hbranches]
  have hk : name ∈ s.order := (orderly_ofJson hj).mem_order_of_node? hn
  have hdistinct : event.Distinct := (hj.membersAt? hevents).2 _ (Keyed.mem_of_get? hevent)
  have hfollowed := branchFollowed_iff key hk hn (hdistinct.membersAt? hdata).1
  have hlost := branchLost_iff hk hn hkey
  refine ⟨hfollowed, ?_⟩
  rw [xor_iff_not_iff', hfollowed, hlost]

/-- A value with one choice, which asks one question and has two branches: that of its option is no
text, and the other one belongs to the question. -/
def askingJson : Json :=
  .object [("events", .object [("ask", .object [("type", .string "choice"),
    ("data", .object [("prompt", .object []), ("no", .null)]),
    ("branches", .object [("no", .nat 7), ("prompt", .string "ask")])])])]

theorem distinct_askingJson : askingJson.Distinct := by
  simp [askingJson, Json.nat, Json.distinct_object_iff, Json.Distinct.string, Json.Distinct.null,
    Json.Distinct.number]

theorem branch_followed_askingJson :
    (ofJson askingJson).value.BranchFollowed "ask" "no" none ∧
      (ofJson askingJson).value.BranchLost "ask" "prompt" := by
  have hno := branch_followed_xor_lost "ask" "no" distinct_askingJson rfl rfl rfl rfl rfl
    (by decide)
  have hprompt := branch_followed_xor_lost "ask" "prompt" distinct_askingJson rfl rfl rfl rfl rfl
    (by decide)
  refine ⟨hno.1.2 (by decide), hprompt.2.or.resolve_left fun h => ?_⟩
  exact absurd (hprompt.1.1 h).1 (by decide)

end Script

end Narrative
