import Narrative.Proofs.Script.Coherence
import Narrative.Proofs.Script.Reachability
import Narrative.Script.Check

/-!
# What a check finds

The problems of a script by kind: those of its events, its cycles without lines, and the keys that
no step leads to.  `Faulty` says when an event has a problem that is an error; the finding that an
event is never reached stands for the search alone, as no other warning has the same words.
-/

namespace Narrative

namespace Script

/-- The problems of an event that are errors. -/
inductive Faulty (s : Script) : Node → Problem → Prop
  | malformed (reason : String) : Faulty s (.malformed reason) (.malformed reason)
  | undefinedNext {d : Dialogue} {next : String} :
      d.next = some next → s.defines next = false → Faulty s (.dialogue d) (.undefinedNext next)
  | noOptions {c : Choice} : c.options = [] → Faulty s (.choice c) .noOptions
  | noBranch {c : Choice} {o : ChoiceOption} :
      o ∈ c.options → o.target = none → Faulty s (.choice c) (.noBranch o.key)
  | undefinedTarget {c : Choice} {o : ChoiceOption} {target : String} :
      o ∈ c.options → o.target = some target → s.defines target = false →
        Faulty s (.choice c) (.undefinedTarget o.key target)

theorem Faulty.severity_eq {s : Script} {n : Node} {p : Problem} (h : s.Faulty n p) :
    p.severity = .error := by
  cases h <;> rfl

theorem Faulty.mem_nodeProblems {s : Script} {n : Node} {p : Problem} (h : s.Faulty n p) :
    p ∈ s.nodeProblems n := by
  cases h with
  | malformed reason => simp [nodeProblems]
  | undefinedNext hd hn => simp [nodeProblems, dialogueProblems, hd, hn]
  | noOptions hc => simp [nodeProblems, choiceProblems, hc]
  | @noBranch c o ho ht =>
      have hp : Problem.noBranch o.key ∈ s.optionProblems o := by simp [optionProblems, ht]
      have hflat := List.mem_flatMap_of_mem ho hp
      simp [nodeProblems, choiceProblems, hflat]
  | @undefinedTarget c o target ho ht hn =>
      have hp : Problem.undefinedTarget o.key target ∈ s.optionProblems o := by
        simp [optionProblems, ht, hn]
      have hflat := List.mem_flatMap_of_mem ho hp
      simp [nodeProblems, choiceProblems, hflat]

theorem faulty_of_mem_optionProblems {s : Script} {c : Choice} {o : ChoiceOption} {p : Problem}
    (ho : o ∈ c.options) (h : p ∈ s.optionProblems o) : s.Faulty (.choice c) p := by
  unfold optionProblems at h
  cases ht : o.target with
  | none =>
      obtain rfl : p = .noBranch o.key := by simpa [ht] using h
      exact .noBranch ho ht
  | some target =>
      cases hn : s.defines target with
      | true => simp [ht, hn] at h
      | false =>
          obtain rfl : p = .undefinedTarget o.key target := by simpa [ht, hn] using h
          exact .undefinedTarget ho ht hn

theorem faulty_or_of_mem_choiceProblems {s : Script} {c : Choice} {p : Problem}
    (h : p ∈ s.choiceProblems c) :
    s.Faulty (.choice c) p ∨ ∃ branch ∈ c.unmatched, p = .unmatchedBranch branch := by
  rcases List.mem_append.1 h with h | h
  · rcases List.mem_append.1 h with h | h
    · split at h
      · rename_i hc
        obtain rfl : p = .noOptions := by simpa using h
        exact Or.inl (.noOptions (List.isEmpty_iff.1 hc))
      · simp at h
    · obtain ⟨o, ho, hpo⟩ := List.mem_flatMap.1 h
      exact Or.inl (faulty_of_mem_optionProblems ho hpo)
  · obtain ⟨branch, hbranch, rfl⟩ := List.mem_map.1 h
    exact Or.inr ⟨branch, hbranch, rfl⟩

/-- What is wrong with an event is a fault, or something that only a reader may mind. -/
theorem faulty_or_of_mem_nodeProblems {s : Script} {n : Node} {p : Problem}
    (h : p ∈ s.nodeProblems n) :
    s.Faulty n p ∨ p = .noLines ∨ ∃ branch, p = .unmatchedBranch branch := by
  cases n with
  | malformed reason =>
      obtain rfl : p = .malformed reason := by simpa [nodeProblems] using h
      exact Or.inl (.malformed reason)
  | dialogue d =>
      rcases List.mem_append.1 h with h | h
      · split at h
        · exact Or.inr (Or.inl (by simpa using h))
        · simp at h
      · split at h
        · rename_i next hd
          cases hn : s.defines next with
          | true => simp [hn] at h
          | false =>
              obtain rfl : p = .undefinedNext next := by simpa [hn] using h
              exact Or.inl (.undefinedNext hd hn)
        · simp at h
  | choice c =>
      rcases faulty_or_of_mem_choiceProblems h with hf | ⟨branch, -, rfl⟩
      · exact Or.inl hf
      · exact Or.inr (Or.inr ⟨branch, rfl⟩)

/-! ## The problems of a script -/

theorem mem_entries_iff {s : Script} {key : String} {n : Node} :
    (key, n) ∈ s.entries ↔ key ∈ s.order ∧ s.node? key = some n := by
  unfold entries
  rw [List.mem_filterMap]
  constructor
  · rintro ⟨k, hk, h⟩
    obtain ⟨m, hm, he⟩ := Option.map_eq_some_iff.1 h
    obtain ⟨rfl, rfl⟩ := Prod.mk.inj he
    exact ⟨hk, hm⟩
  · rintro ⟨hk, hn⟩
    exact ⟨key, hk, by simp [hn]⟩

theorem mem_cycleProblems_iff {s : Script} {key : String} {p : Problem} :
    (key, p) ∈ s.cycleProblems ↔
      ∃ rest, key :: rest ∈ s.linelessCycles ∧ p = .linelessCycle key rest := by
  unfold cycleProblems
  rw [List.mem_filterMap]
  constructor
  · rintro ⟨cycle, hcycle, h⟩
    cases cycle with
    | nil => simp at h
    | cons first rest =>
        obtain ⟨rfl, rfl⟩ := Prod.mk.inj (Option.some.inj h)
        exact ⟨rest, hcycle, rfl⟩
  · rintro ⟨rest, hcycle, rfl⟩
    exact ⟨key :: rest, hcycle, rfl⟩

theorem mem_unreached_iff {s : Script} {key : String} :
    key ∈ s.unreached ↔ key ∈ s.order ∧ ¬s.Reached key := by
  simp [unreached, mem_reachable_iff]

/-- Each problem of an event is one of the event itself, a cycle that the event is the first key
of, or that the event is never reached. -/
theorem mem_problems_iff {s : Script} {key : String} {p : Problem} :
    (some key, p) ∈ s.problems ↔
      (∃ n, (key, n) ∈ s.entries ∧ p ∈ s.nodeProblems n) ∨ (key, p) ∈ s.cycleProblems ∨
        (key ∈ s.unreached ∧ p = .neverReached) := by
  unfold problems
  by_cases ho : s.order = []
  · simp [ho, entries, cycleProblems, linelessCycles, unreached]
  · rw [if_neg (by simpa using ho)]
    simp only [List.mem_append, List.mem_flatMap, List.mem_map, Prod.mk.injEq, Prod.exists,
      Option.some.injEq, or_assoc]
    refine or_congr ?_ (or_congr ?_ ?_)
    · constructor
      · rintro ⟨k, n, he, q, hq, rfl, rfl⟩
        exact ⟨n, he, hq⟩
      · rintro ⟨n, he, hp⟩
        exact ⟨key, n, he, p, hp, rfl, rfl⟩
    · constructor
      · rintro ⟨k, q, hq, rfl, rfl⟩
        exact hq
      · intro hp
        exact ⟨key, p, hp, rfl, rfl⟩
    · constructor
      · rintro ⟨k, hk, rfl, rfl⟩
        exact ⟨hk, rfl⟩
      · rintro ⟨hk, rfl⟩
        exact ⟨key, hk, rfl, rfl⟩

theorem mem_check_iff {s : Script} {severity : Severity} {event : Option String}
    {message : String} :
    ⟨severity, event, message⟩ ∈ s.check ↔
      ∃ p, (event, p) ∈ s.problems ∧ p.severity = severity ∧ p.message = message := by
  unfold check
  rw [List.mem_map]
  constructor
  · rintro ⟨⟨e, p⟩, hp, h⟩
    obtain ⟨hseverity, rfl, hmessage⟩ := Finding.mk.inj h
    exact ⟨p, hp, hseverity, hmessage⟩
  · rintro ⟨p, hp, rfl, rfl⟩
    exact ⟨(event, p), hp, rfl⟩

theorem mem_check_of_mem_problems {s : Script} {event : Option String} {p : Problem}
    (h : (event, p) ∈ s.problems) : ⟨p.severity, event, p.message⟩ ∈ s.check :=
  mem_check_iff.2 ⟨p, h, rfl, rfl⟩

theorem mem_check_of_faulty {s : Script} {key : String} {n : Node} {p : Problem}
    (hk : key ∈ s.order) (hn : s.node? key = some n) (hp : s.Faulty n p) :
    ⟨.error, some key, p.message⟩ ∈ s.check := by
  rw [← hp.severity_eq]
  exact mem_check_of_mem_problems
    (mem_problems_iff.2 (Or.inl ⟨n, mem_entries_iff.2 ⟨hk, hn⟩, hp.mem_nodeProblems⟩))

theorem mem_check_of_linelessCycle {s : Script} {first : String} {rest : List String}
    (h : first :: rest ∈ s.linelessCycles) :
    ⟨.error, some first, (Problem.linelessCycle first rest).message⟩ ∈ s.check :=
  mem_check_of_mem_problems (p := .linelessCycle first rest)
    (mem_problems_iff.2 (Or.inr (Or.inl (mem_cycleProblems_iff.2 ⟨rest, h, rfl⟩))))

/-- Where an error is found, the event itself is at fault or is the first key of a cycle. -/
theorem faulty_or_linelessCycle_of_mem_check {s : Script} {key message : String}
    (h : ⟨.error, some key, message⟩ ∈ s.check) :
    (∃ n p, key ∈ s.order ∧ s.node? key = some n ∧ s.Faulty n p) ∨
      ∃ rest, key :: rest ∈ s.linelessCycles := by
  obtain ⟨p, hp, hseverity, -⟩ := mem_check_iff.1 h
  rcases mem_problems_iff.1 hp with ⟨n, hn, hpn⟩ | hc | ⟨-, rfl⟩
  · obtain ⟨hk, hnode⟩ := mem_entries_iff.1 hn
    rcases faulty_or_of_mem_nodeProblems hpn with hf | rfl | ⟨branch, rfl⟩
    · exact Or.inl ⟨n, p, hk, hnode, hf⟩
    · simp [Problem.severity] at hseverity
    · simp [Problem.severity] at hseverity
  · obtain ⟨rest, hcycle, -⟩ := mem_cycleProblems_iff.1 hc
    exact Or.inr ⟨rest, hcycle⟩
  · simp [Problem.severity] at hseverity

/-- Branch keys are free, but not the word in front of them. -/
theorem message_unmatchedBranch_ne (branch : String) :
    (Problem.unmatchedBranch branch).message ≠ "event is never reached" := by
  change "branch '" ++ branch ++ "' matches no option" ≠ "event is never reached"
  intro h
  have hfirst := congrArg (fun m : String => m.toList.head?) h
  have hbranch : "branch '".toList = ['b', 'r', 'a', 'n', 'c', 'h', ' ', '\''] := by decide
  have hevent : "event is never reached".toList.head? = some 'e' := by decide
  simp only [String.toList_append, hbranch, hevent, List.cons_append, List.head?_cons] at hfirst
  simp at hfirst

/-- The warning is given for the keys in order that no step leads to, and for no others. -/
theorem neverReached_mem_check_iff {s : Script} {key : String} :
    ⟨.warning, some key, "event is never reached"⟩ ∈ s.check ↔ key ∈ s.order ∧ ¬s.Reached key := by
  rw [← mem_unreached_iff]
  constructor
  · intro h
    obtain ⟨p, hp, hseverity, hmessage⟩ := mem_check_iff.1 h
    rcases mem_problems_iff.1 hp with ⟨n, -, hpn⟩ | hc | ⟨hk, -⟩
    · rcases faulty_or_of_mem_nodeProblems hpn with hf | rfl | ⟨branch, rfl⟩
      · simp [hf.severity_eq] at hseverity
      · change "dialogue has no lines and is skipped" = "event is never reached" at hmessage
        simp at hmessage
      · exact absurd hmessage (message_unmatchedBranch_ne branch)
    · obtain ⟨rest, -, rfl⟩ := mem_cycleProblems_iff.1 hc
      simp [Problem.severity] at hseverity
    · exact hk
  · intro hk
    exact mem_check_of_mem_problems (p := .neverReached)
      (mem_problems_iff.2 (Or.inr (Or.inr ⟨hk, rfl⟩)))

end Script

end Narrative
