import Narrative.Script.Journey

/-!
# Reachable events

The events that some run lands on.  From a dialogue a run goes to its successor, from a choice to
the targets of its options.
-/

namespace Narrative

namespace Script

/-- The defined events that a run may go to from an event. -/
def successors (s : Script) (key : String) : List String :=
  let named :=
    match s.node? key with
    | some (.dialogue d) => (s.successor? key d).toList
    | some (.choice c) => c.options.filterMap ChoiceOption.target
    | _ => []
  named.filter fun k => s.defines k

theorem successors_of_not_mem {s : Script} {key : String} (h : key ∉ s.nodes.keys) :
    s.successors key = [] := by
  have : s.node? key = none := by
    cases hn : s.node? key with
    | none => rfl
    | some n => exact absurd (Keyed.mem_keys_of_get? hn) h
  simp [successors, this]

/-- A key that is seen for the first time leaves fewer fresh keys or, if it is undefined, fewer
waiting ones. -/
theorem fresh_lt_or_successors_eq_nil {s : Script} {seen : List String} {key : String}
    (hs : key ∉ seen) :
    fresh s.nodes.keys (key :: seen) < fresh s.nodes.keys seen ∨ s.successors key = [] := by
  by_cases hk : key ∈ s.nodes.keys
  · exact Or.inl (fresh_cons_lt hk hs)
  · exact Or.inr (successors_of_not_mem hk)

/-- The keys seen, and those that can be reached from the waiting ones. -/
def reachFrom (s : Script) (seen : List String) : List String → List String
  | [] => seen
  | key :: waiting =>
    if key ∈ seen then s.reachFrom seen waiting
    else s.reachFrom (key :: seen) (waiting ++ s.successors key)
termination_by waiting => (fresh s.nodes.keys seen, waiting.length)
decreasing_by
  · exact Prod.Lex.right _ (Nat.lt_succ_self _)
  · rename_i hs
    rcases fresh_lt_or_successors_eq_nil (s := s) hs with h | h
    · exact Prod.Lex.left _ _ h
    · rw [h, List.append_nil]
      rcases Nat.lt_or_eq_of_le (fresh_cons_le s.nodes.keys seen key) with h | h
      · exact Prod.Lex.left _ _ h
      · rw [h]
        exact Prod.Lex.right _ (Nat.lt_succ_self _)

/-- The keys that some run lands on. -/
def reachable (s : Script) : List String := s.reachFrom [] s.first?.toList

end Script

end Narrative
