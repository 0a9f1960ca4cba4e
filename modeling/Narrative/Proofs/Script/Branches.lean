import Narrative.Proofs.Script.Findings
import Narrative.Proofs.Script.Loaded

/-!
# Branches of a loaded choice

A loaded choice has an option for each member of its data but the question, and keeps the keys of
the branches that belong to none of them.  So each branch belongs to an option, which it then gives
a target (`option?_ofMembers`), or it is kept as unmatched (`mem_unmatched_ofMembers`); the check
warns of exactly the latter.
-/

namespace Narrative

theorem Node.ofJson_choice {j : Json} {data branches : Keyed Json}
    (htype : j.stringAt? "type" = some "choice")
    (hdata : (j.member? "data").bind Json.members? = some data)
    (hbranches : (j.member? "branches").bind Json.members? = some branches) :
    ofJson j = .choice (Choice.ofMembers j data branches) := by
  simp [ofJson, htype, Choice.nodeOfJson, hdata, hbranches]

namespace Choice

variable {j : Json} {data branches : Keyed Json} {key : String}

/-- The question is no option, whatever it holds. -/
theorem option?_ofMembers_promptKey : (ofMembers j data branches).option? promptKey = none := by
  refine List.find?_eq_none.2 fun o ho => ?_
  have hkey : o.key ∈ (data.filter fun m => m.1 ≠ promptKey).map Prod.fst := by
    rw [← keys_options_ofMembers]
    exact List.mem_map_of_mem ho
  obtain ⟨m, hm, hmkey⟩ := List.mem_map.1 hkey
  have hne := (List.mem_filter.1 hm).2
  rw [hmkey] at hne
  simpa using hne

theorem option?_ofMembers (hkey : key ≠ promptKey) :
    (ofMembers j data branches).option? key =
      (data.get? key).map (ChoiceOption.ofJson branches key) := by
  induction data with
  | nil => rfl
  | cons m data ih =>
      obtain ⟨k, value⟩ := m
      have hcons : (ofMembers j ((k, value) :: data) branches).options =
          if k = promptKey then (ofMembers j data branches).options
          else ChoiceOption.ofJson branches k value :: (ofMembers j data branches).options := by
        by_cases hk : k = promptKey <;> simp [ofMembers, hk]
      rw [option?, hcons, Keyed.get?_cons]
      by_cases hk : key = k
      · subst hk
        simp [hkey, ChoiceOption.ofJson]
      · by_cases hprompt : k = promptKey
        · simpa [hprompt, hk, hkey, option?] using ih
        · simpa [hprompt, hk, Ne.symm hk, option?, ChoiceOption.ofJson] using ih

theorem exists_option?_ofMembers (j : Json) (branches : Keyed Json)
    (h : key ≠ promptKey ∧ key ∈ data.keys) :
    ∃ o, (ofMembers j data branches).option? key = some o ∧
      o.target = (branches.get? key).bind Json.string? := by
  obtain ⟨value, hvalue⟩ := Option.isSome_iff_exists.1 ((Keyed.get?_isSome_iff data key).2 h.2)
  exact ⟨ChoiceOption.ofJson branches key value, by rw [option?_ofMembers h.1, hvalue]; rfl, rfl⟩

theorem option?_ofMembers_eq_none (h : ¬(key ≠ promptKey ∧ key ∈ data.keys)) :
    (ofMembers j data branches).option? key = none := by
  by_cases hkey : key = promptKey
  · rw [hkey, option?_ofMembers_promptKey]
  · have hnone : data.get? key = none := by
      rw [← Option.not_isSome_iff_eq_none, Keyed.get?_isSome_iff]
      exact fun hmem => h ⟨hkey, hmem⟩
    rw [option?_ofMembers hkey, hnone, Option.map_none]

theorem mem_unmatched_ofMembers :
    key ∈ (ofMembers j data branches).unmatched ↔
      key ∈ branches.keys ∧ ¬(key ≠ promptKey ∧ key ∈ data.keys) := by
  have hdata : data.has key = false ↔ key ∉ data.keys := by
    rw [← Bool.not_eq_true, Keyed.has_iff]
  by_cases hkey : key = promptKey <;> simp [ofMembers, hkey, hdata]

theorem mem_keys_options_ofMembers :
    key ∈ (ofMembers j data branches).options.map ChoiceOption.key ↔
      key ≠ promptKey ∧ key ∈ data.keys := by
  rw [keys_options_ofMembers]
  simp [Keyed.keys, and_comm]

theorem count_options_ofMembers (hdata : data.keys.Nodup) :
    ((ofMembers j data branches).options.map ChoiceOption.key).count key =
      if key ≠ promptKey ∧ key ∈ data.keys then 1 else 0 := by
  rw [(nodup_options_ofMembers hdata).count]
  exact if_congr mem_keys_options_ofMembers rfl rfl

end Choice

namespace Script

variable {s : Script}

/-- The check warns of a branch exactly if it is kept as unmatched. -/
theorem unmatchedBranch_mem_check_iff {key branch : String} {c : Choice} (hk : key ∈ s.order)
    (hn : s.node? key = some (.choice c)) :
    ⟨.warning, some key, "branch '" ++ branch ++ "' matches no option"⟩ ∈ s.check ↔
      branch ∈ c.unmatched := by
  constructor
  · intro h
    obtain ⟨p, hp, hseverity, hmessage⟩ := mem_check_iff.1 h
    rcases mem_problems_iff.1 hp with ⟨n, hentry, hpn⟩ | hc | ⟨-, rfl⟩
    · obtain rfl : .choice c = n :=
        Option.some.inj (hn.symm.trans (mem_entries_iff.1 hentry).2)
      rcases faulty_or_of_mem_choiceProblems hpn with hf | ⟨b, hb, rfl⟩
      · simp [hf.severity_eq] at hseverity
      · have hmessage : "branch '" ++ b ++ "' matches no option" =
            "branch '" ++ branch ++ "' matches no option" := hmessage
        obtain rfl : b = branch := by simpa using hmessage
        exact hb
    · obtain ⟨rest, -, rfl⟩ := mem_cycleProblems_iff.1 hc
      simp [Problem.severity] at hseverity
    · exact absurd hmessage.symm (message_unmatchedBranch_ne branch)
  · intro h
    refine mem_check_of_mem_problems (p := .unmatchedBranch branch) (mem_problems_iff.2 (Or.inl ?_))
    exact ⟨_, mem_entries_iff.2 ⟨hk, hn⟩, by simp [nodeProblems, choiceProblems, h]⟩

end Script

end Narrative
