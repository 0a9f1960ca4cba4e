import Narrative.Script.Journey

/-!
# Cycles without lines

A dialogue without lines passes a run on at once, so a cycle of such dialogues never comes to
rest.  Each cycle is found once, from the first key in order that leads into it.
-/

namespace Narrative

namespace Script

/-- Whether the event is a dialogue without lines. -/
def isLineless (s : Script) (key : String) : Bool :=
  match s.node? key with
  | some (.dialogue d) => d.lines.isEmpty
  | _ => false

/-- The dialogue without lines that comes after the dialogue under a key. -/
def linelessAfter? (s : Script) (key : String) : Option String :=
  match s.node? key with
  | some (.dialogue d) => (s.successor? key d).filter fun next => s.isLineless next
  | _ => none

theorem mem_keys_of_linelessAfter? {s : Script} {key next : String}
    (h : s.linelessAfter? key = some next) : next ∈ s.nodes.keys := by
  have hl : s.isLineless next = true := by
    unfold linelessAfter? at h
    split at h
    · exact (Option.filter_eq_some_iff.1 h).2
    · simp at h
  unfold isLineless at hl
  cases hn : s.node? next with
  | none => simp [hn] at hl
  | some n => exact Keyed.mem_keys_of_get? hn

/-- The cycle that the dialogues without lines run into behind `key`.  The keys gone through
before it are given last first. -/
def cycleFrom? (s : Script) (before : List String) (key : String) : Option (List String) :=
  match h : s.linelessAfter? key with
  | none => none
  | some next =>
    if hp : next ∈ key :: before then
      some (next :: ((key :: before).takeWhile (· ≠ next)).reverse)
    else
      have := fresh_cons_lt (mem_keys_of_linelessAfter? h) hp
      s.cycleFrom? (key :: before) next
termination_by fresh s.nodes.keys (key :: before)

/-- The cycles found so far, and the one that the event runs into if it is a new one. -/
def withCycleFrom (s : Script) (found : List (List String)) (key : String) : List (List String) :=
  if s.isLineless key && !found.flatten.contains key then
    match s.cycleFrom? [] key with
    | some cycle => if cycle.any found.flatten.contains then found else found ++ [cycle]
    | none => found
  else found

/-- The cycles of dialogues without lines. -/
def linelessCycles (s : Script) : List (List String) := s.order.foldl s.withCycleFrom []

end Script

end Narrative
