import Narrative.Keyed
import Narrative.Scene.Basic

/-!
# Scripts

A script is a list of keys, in the order in which a run goes through them, and an event for each
key: a dialogue, a choice, or something that could not be understood.  The two parts of a script
may disagree: a key without an event is undefined, and an event whose key is not listed can only
be reached by name.
-/

namespace Narrative

/-- One line that somebody says, before a scene. -/
structure Line where
  speaker : String := "Narrator"
  text : String := "..."
  scene : Scene := {}
  deriving DecidableEq, Inhabited

/-- Lines, one after the other, and the event that comes after them if it is not the next one. -/
structure Dialogue where
  lines : List Line := []
  next : Option String := none
  deriving DecidableEq

/-- One way to answer a choice, and the event that it leads to. -/
structure ChoiceOption where
  key : String
  text : String
  target : Option String
  deriving DecidableEq

/-- A question with options, before a scene.  Branches that belong to no option are kept by key. -/
structure Choice where
  prompt : String := ""
  options : List ChoiceOption := []
  scene : Scene := {}
  unmatched : List String := []
  deriving DecidableEq

/-- The first option of that key. -/
def Choice.option? (c : Choice) (key : String) : Option ChoiceOption :=
  c.options.find? fun o => o.key = key

/-- An event of a script. -/
inductive Node where
  | dialogue (d : Dialogue)
  | choice (c : Choice)
  | malformed (reason : String)
  deriving DecidableEq

/-- The kind of an event, by name. -/
def Node.kind : Node → String
  | .dialogue _ => "dialogue"
  | .choice _ => "choice"
  | .malformed _ => "malformed"

/-- Keys in order, and events by key. -/
structure Script where
  order : List String := []
  nodes : Keyed Node := []
  deriving DecidableEq

namespace Script

/-- The script of some entries: a repeated key keeps its first place and its last event. -/
def ofEntries (entries : List (String × Node)) : Script :=
  let nodes := Keyed.ofEntries entries
  ⟨nodes.keys, nodes⟩

/-- The event under a key. -/
def node? (s : Script) (key : String) : Option Node := s.nodes.get? key

/-- Whether there is an event under the key. -/
def defines (s : Script) (key : String) : Bool := s.nodes.has key

/-- The key that a run starts at. -/
def first? (s : Script) : Option String := s.order.head?

/-- The key behind the first place of `key`. -/
def afterIn? (key : String) : List String → Option String
  | [] => none
  | k :: ks => if k = key then ks.head? else afterIn? key ks

/-- The key that comes after a key in order. -/
def after? (s : Script) (key : String) : Option String := afterIn? key s.order

/-- The number of keys. -/
def size (s : Script) : Nat := s.order.length

/-- The keys in order, each with its event; keys without one are left out. -/
def entries (s : Script) : List (String × Node) :=
  s.order.filterMap fun key => (s.node? key).map (key, ·)

@[simp] theorem order_ofEntries (entries : List (String × Node)) :
    (ofEntries entries).order = (ofEntries entries).nodes.keys := rfl

theorem defines_iff (s : Script) (key : String) :
    s.defines key = true ↔ key ∈ s.nodes.keys :=
  Keyed.has_iff s.nodes key

theorem defines_of_node? {s : Script} {key : String} {n : Node} (h : s.node? key = some n) :
    s.defines key = true := by
  simp only [node?] at h
  simp [defines, Keyed.has, h]

end Script

end Narrative
