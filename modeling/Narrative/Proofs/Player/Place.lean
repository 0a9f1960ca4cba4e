import Narrative.Proofs.Player.Branches

/-!
# Choosing by place

An option that is chosen by its place is looked up again by its key, so the first option of that key
is followed (`place_follows_first_of_key`).  That is the option in the place itself, unless an
earlier one has the same key and another target: then the run goes where the earlier one leads
(`exists_place_not_followed`).  No loaded choice offers a key twice, but a script may be built from
any entries.
-/

namespace Narrative

/-- The course of following an option of a choice: into its target or, if there is none, to the end
of the run at the choice. -/
def ChoiceOption.course (event : String) (o : ChoiceOption) : Course :=
  match o.target with
  | some target => .enter target
  | none => .fail event (.noTarget o.key)

theorem ChoiceOption.course_inj {event : String} {o first : ChoiceOption}
    (hkey : first.key = o.key) : first.course event = o.course event ↔ first.target = o.target := by
  unfold course
  rw [hkey]
  cases first.target <;> cases o.target <;> simp

namespace Choice

variable {c : Choice} {index : Nat} {o : ChoiceOption}

/-- Of the options that have the key of the one in a place, one is the first. -/
theorem exists_first_of_key (ho : c.options[index]? = some o) :
    ∃ place ≤ index, ∃ first, c.options[place]? = some first ∧ first.key = o.key ∧
      (∀ earlier < place, ∀ other, c.options[earlier]? = some other → other.key ≠ o.key) ∧
        c.option? o.key = some first := by
  obtain ⟨first, hfirst⟩ := exists_option?_iff.2 ⟨o, List.mem_of_getElem? ho, rfl⟩
  obtain ⟨hkey, place, hplace, rfl, hearlier⟩ := List.find?_eq_some_iff_getElem.1 hfirst
  have hbefore : ∀ earlier < place, ∀ other, c.options[earlier]? = some other →
      other.key ≠ o.key := by
    intro earlier hlt other hother
    obtain ⟨_, rfl⟩ := List.getElem?_eq_some_iff.1 hother
    simpa using hearlier earlier hlt
  refine ⟨place, ?_, _, List.getElem?_eq_getElem hplace, by simpa using hkey, hbefore, hfirst⟩
  by_contra hlt
  exact hbefore index (Nat.not_le.1 hlt) o ho rfl

/-- Where no key is offered twice, the options have their places by their keys. -/
theorem place_eq_of_nodup (hc : (c.options.map ChoiceOption.key).Nodup) {place : Nat}
    {first : ChoiceOption} (ho : c.options[index]? = some o)
    (hfirst : c.options[place]? = some first) (hkey : first.key = o.key) : place = index := by
  have hplace : place < (c.options.map ChoiceOption.key).length := by
    simpa using (List.getElem?_eq_some_iff.1 hfirst).1
  refine (List.getElem?_inj hplace hc).1 ?_
  simp [ho, hfirst, hkey]

end Choice

namespace Player

variable {σ : Type} {m : Media σ} {s : Script} {p : Player σ} {event : String} {c : Choice}
  {index : Nat} {o first : ChoiceOption}

theorem takes_course_of_option? (hn : s.node? event = some (.choice c))
    (ho : c.options[index]? = some o) (hfirst : c.option? o.key = some first) :
    s.Takes (.prompt event) (.chooseNth index) (first.course event) := by
  have hkey : first.key = o.key := Choice.key_of_option? hfirst
  unfold ChoiceOption.course
  cases htarget : first.target with
  | some target => exact .branch hn (.place ho) hfirst htarget
  | none =>
      rw [hkey]
      exact .deadEnd hn (.place ho) hfirst htarget

/-- Following an option that leads nowhere breaks the run off at the choice. -/
theorem Follows.breaks {action : Action} (h : p.Follows m action (first.course event))
    (htarget : first.target = none) :
    (p.step m action).value.1 = .ok ⟨.terminated,
        [.script ⟨event, "choice '" ++ first.key ++ "' has no branch target"⟩]⟩ ∧
      (p.step m action).value.2.ending = some .scriptError := by
  have hvalue := h.value_eq
  rw [ChoiceOption.course, htarget] at hvalue
  rw [hvalue]
  exact ⟨rfl, rfl⟩

/-- Choosing by place, wherever a script of any entries asks for a choice, follows the first option
that has the key of the option in that place: the run enters its target or, if there is none, breaks
off at the choice.  So it takes the course of the option in the place exactly if both lead to the
same target, and always if no key is offered twice; this option is the one that is shown in the
place. -/
theorem place_follows_first_of_key {entries : List (String × Node)}
    (h : p.Reachable m (.ofEntries entries)) (hposition : p.position = .prompt event)
    (hn : (Script.ofEntries entries).node? event = some (.choice c))
    (ho : c.options[index]? = some o) :
    (∃ shown offered, p.snapshot? = some shown ∧ shown.choices = some offered ∧
      offered.length = c.options.length ∧ offered[index]? = some ⟨o.key, o.text⟩) ∧
    ∃ place ≤ index, ∃ first, c.options[place]? = some first ∧ first.key = o.key ∧
      (∀ earlier < place, ∀ other, c.options[earlier]? = some other → other.key ≠ o.key) ∧
      p.Follows m (.chooseNth index) (first.course event) ∧
      (first.target = none →
        (p.step m (.chooseNth index)).value.1 = .ok ⟨.terminated,
            [.script ⟨event, "choice '" ++ o.key ++ "' has no branch target"⟩]⟩ ∧
          (p.step m (.chooseNth index)).value.2.ending = some .scriptError) ∧
      ((p.script.course p.position (.chooseNth index)).value = .ok (o.course event) ↔
        first.target = o.target) ∧
      (first.target = o.target → p.Follows m (.chooseNth index) (o.course event)) ∧
      ((c.options.map ChoiceOption.key).Nodup → place = index) := by
  rw [← h.script_eq] at hn
  obtain ⟨place, hplace, first, hfirst, hkey, hbefore, hoption⟩ := Choice.exists_first_of_key ho
  have htakes : p.script.Takes p.position (.chooseNth index) (first.course event) := by
    rw [hposition]
    exact takes_course_of_option? hn ho hoption
  have hfollows : p.Follows m (.chooseNth index) (first.course event) := follows_of_takes htakes
  have hshown : p.snapshot? = some (.ofChoice c) := by
    simp [snapshot?, hposition, Script.snapshot?, hn]
  refine ⟨⟨_, _, hshown, rfl, by simp, by simp [ho]⟩, place, hplace, first, hfirst, hkey, hbefore,
    hfollows, fun htarget => ?_, ?_, fun htarget => ?_,
    fun hc => Choice.place_eq_of_nodup hc ho hfirst hkey⟩
  · rw [← hkey]
    exact hfollows.breaks htarget
  · rw [Script.course_of_takes htakes, Except.ok.injEq]
    exact ChoiceOption.course_inj hkey
  · rwa [← (ChoiceOption.course_inj hkey).2 htarget]

/-- A choice of two options that have the same key and lead to different events. -/
def forked : Choice where
  options := [⟨"go", "Left", some "wood"⟩, ⟨"go", "Right", some "lake"⟩]

def fork : Script :=
  .ofEntries [("fork", .choice forked), ("wood", .dialogue { lines := [{ text := "Trees." }] }),
    ("lake", .dialogue { lines := [{ text := "Water." }] })]

/-- The player of `fork` at its choice. -/
def atFork : Player Headless := ((ofScript fork {}).run Headless.media [.start]).value.2

theorem reachable_atFork : atFork.Reachable Headless.media fork := by
  have hfresh : (ofScript fork {}).Reachable Headless.media fork := .fresh ({} : Headless)
  exact hfresh.run [.start]

theorem position_atFork : atFork.position = .prompt "fork" := by decide +kernel

theorem place_follows_first_of_key_fork :
    atFork.Reachable Headless.media fork ∧ atFork.position = .prompt "fork" ∧
      fork.node? "fork" = some (.choice forked) ∧
      forked.options[1]? = some ⟨"go", "Right", some "lake"⟩ ∧
      atFork.Follows Headless.media (.chooseNth 1) (.enter "wood") ∧
      (atFork.script.course atFork.position (.chooseNth 1)).value ≠ .ok (.enter "lake") := by
  have hn : fork.node? "fork" = some (.choice forked) := by decide
  have ho : forked.options[1]? = some ⟨"go", "Right", some "lake"⟩ := rfl
  obtain ⟨-, place, hplace, first, hfirst, -, hbefore, hfollows, -, hcourse, -⟩ :=
    place_follows_first_of_key reachable_atFork position_atFork hn ho
  have hzero : place = 0 := by
    by_contra hne
    exact hbefore 0 (Nat.pos_of_ne_zero hne) _ rfl rfl
  subst hzero
  obtain rfl : ⟨"go", "Left", some "wood"⟩ = first := Option.some.inj hfirst
  exact ⟨reachable_atFork, position_atFork, hn, ho, hfollows,
    fun h => absurd (hcourse.1 h) (by decide)⟩

/-- Some place of a choice is not followed: at `fork` the second option leads to the lake, and
choosing its place leads into the wood. -/
theorem exists_place_not_followed :
    ∃ p : Player Headless, p.Reachable Headless.media fork ∧ p.position = .prompt "fork" ∧
      fork.node? "fork" = some (.choice forked) ∧
      forked.options[1]? = some ⟨"go", "Right", some "lake"⟩ ∧
      (p.step Headless.media (.chooseNth 1)).value.2.position = .line "wood" 0 ∧
      ¬ p.Follows Headless.media (.chooseNth 1) (.enter "lake") := by
  have hwood : (atFork.step Headless.media (.chooseNth 1)).value.2.position = .line "wood" 0 := by
    decide +kernel
  have hlake : (atFork.take Headless.media (.enter "lake")).value.2.position = .line "lake" 0 := by
    decide +kernel
  refine ⟨atFork, reachable_atFork, position_atFork, by decide, rfl, hwood, fun h => ?_⟩
  rw [h.value_eq, hlake] at hwood
  exact absurd hwood (by decide)

end Player

end Narrative
