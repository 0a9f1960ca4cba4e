import Mathlib.Data.List.Forall2
import Narrative.Proofs.Script.Branches

/-!
# What loading keeps

Nothing that a value holds of a script is lost, doubled or moved when the script is read from it.
`KeptFrom` says what each part of a script is read from, by the names of members and their defaults
alone: a line from an item, an option from a member of the data, a node from an event.  Reading
keeps each line, each option and each event, once and in order (`kept_of_events`).
-/

namespace Narrative

/-! ## Texts -/

namespace Json

/-- The text in the member under a name; a default if there is no such member, or if it is not a
text. -/
inductive TextOr (j : Json) (name default : String) : String → Prop
  | given {text : String} : j.member? name = some (.string text) → TextOr j name default text
  | absent : (∀ text, j.member? name ≠ some (.string text)) → TextOr j name default default

theorem string?_eq_some_iff {j : Json} {text : String} :
    j.string? = some text ↔ j = .string text := by
  cases j <;> simp [string?]

theorem stringAt?_eq_some_iff {j : Json} {name text : String} :
    j.stringAt? name = some text ↔ j.member? name = some (.string text) := by
  simp [stringAt?, Option.bind_eq_some_iff, string?_eq_some_iff]

theorem members?_eq_some_iff {j : Json} {members : Keyed Json} :
    j.members? = some members ↔ j = .object members := by
  cases j <;> simp [members?]

theorem membersAt?_eq_some_iff {j : Json} {name : String} {members : Keyed Json} :
    (j.member? name).bind Json.members? = some members ↔
      j.member? name = some (.object members) := by
  simp [Option.bind_eq_some_iff, members?_eq_some_iff]

theorem textOr_getD (j : Json) (name default : String) :
    j.TextOr name default ((j.stringAt? name).getD default) := by
  cases h : j.stringAt? name with
  | some text => exact .given (stringAt?_eq_some_iff.1 h)
  | none =>
      refine .absent fun text htext => ?_
      rw [stringAt?_eq_some_iff.2 htext] at h
      cases h

/-- The member under a name, or nothing. -/
def memberOrNull (j : Json) (name : String) : Json := (j.member? name).getD .null

theorem bind_member?_eq {α : Type} (j : Json) (name : String) {f : Json → Option α}
    (hf : f .null = none) : (j.member? name).bind f = f (j.memberOrNull name) := by
  unfold memberOrNull
  cases j.member? name with
  | none => exact hf.symm
  | some value => rfl

/-- The items of the list in the member under a name; none if it is not a list. -/
def itemsAt (j : Json) (name : String) : List Json := ((j.member? name).bind items?).getD []

end Json

/-! ## Lines -/

/-- What a scene is read from: paths and a flag, of which each may be absent. -/
structure Scene.KeptFrom (j : Json) (s : Scene) : Prop where
  background : j.TextOr "background_sprite" "" s.background
  left : j.TextOr "left_sprite" "" s.left
  right : j.TextOr "right_sprite" "" s.right
  path : (j.memberOrNull "audio").TextOr "path" "" s.audio.path
  looped : s.audio.looped = true ↔
    (j.memberOrNull "audio").member? "loop" = some (.bool true)

theorem Scene.keptFrom_ofJson (j : Json) : (ofJson j).KeptFrom j where
  background := j.textOr_getD _ _
  left := j.textOr_getD _ _
  right := j.textOr_getD _ _
  path := by
    have h := (j.memberOrNull "audio").textOr_getD "path" ""
    rwa [← Json.bind_member?_eq j "audio" (f := fun a => a.stringAt? "path") rfl] at h
  looped := by
    have h := j.bind_member?_eq "audio" (f := fun a => a.member? "loop") rfl
    simp only [ofJson, Cue.ofJson, h]
    cases (j.memberOrNull "audio").member? "loop" with
    | none => simp
    | some value => cases value <;> simp [Json.bool?]

/-- What a line is read from. -/
structure Line.KeptFrom (j : Json) (l : Line) : Prop where
  speaker : j.TextOr "speaker" "Narrator" l.speaker
  text : j.TextOr "line" "..." l.text
  scene : l.scene.KeptFrom j

theorem Line.keptFrom_ofJson (j : Json) : (ofJson j).KeptFrom j where
  speaker := j.textOr_getD _ _
  text := j.textOr_getD _ _
  scene := Scene.keptFrom_ofJson j

/-- What a dialogue is read from: each of its lines from one item of the data. -/
structure Dialogue.KeptFrom (j : Json) (d : Dialogue) : Prop where
  lines : List.Forall₂ Line.KeptFrom (j.itemsAt "data") d.lines
  next (key : String) : d.next = some key ↔ j.member? "next" = some (.string key)

theorem Dialogue.keptFrom_ofJson (j : Json) : (ofJson j).KeptFrom j where
  lines := List.forall₂_map_right_iff.2 (List.forall₂_same.2 fun item _ =>
    Line.keptFrom_ofJson item)
  next _ := Json.stringAt?_eq_some_iff

/-! ## Options -/

/-- What an option is read from: a member of the data, and the branch under the same name. -/
structure ChoiceOption.KeptFrom (branches : Keyed Json) (member : String × Json)
    (o : ChoiceOption) : Prop where
  key_eq : o.key = member.1
  text : member.2.TextOr "text" member.1 o.text
  target (key : String) : o.target = some key ↔ branches.get? member.1 = some (.string key)

theorem ChoiceOption.keptFrom_ofJson (branches : Keyed Json) (member : String × Json) :
    (ofJson branches member.1 member.2).KeptFrom branches member where
  key_eq := rfl
  text := member.2.textOr_getD _ _
  target key := by simp [ofJson, Option.bind_eq_some_iff, Json.string?_eq_some_iff]

/-- What a choice is read from: each of its options from one member of the data other than the
question; and the branches that belong to none of them. -/
structure Choice.KeptFrom (j : Json) (data branches : Keyed Json) (c : Choice) : Prop where
  prompt : ((data.get? "prompt").getD .null).TextOr "text" "" c.prompt
  options : List.Forall₂ (ChoiceOption.KeptFrom branches)
    (data.filter fun member => member.1 ≠ "prompt") c.options
  nodup_options : (c.options.map ChoiceOption.key).Nodup
  scene : c.scene.KeptFrom j
  unmatched_sublist : c.unmatched.Sublist branches.keys
  nodup_unmatched : c.unmatched.Nodup
  mem_unmatched (key : String) :
    key ∈ c.unmatched ↔ key ∈ branches.keys ∧ key ∉ c.options.map ChoiceOption.key

theorem Choice.keptFrom_ofMembers (j : Json) {data branches : Keyed Json}
    (hdata : data.keys.Nodup) (hbranches : branches.keys.Nodup) :
    (ofMembers j data branches).KeptFrom j data branches where
  prompt := by
    have h := (Json.object data).bind_member?_eq promptKey (f := fun a => a.stringAt? "text") rfl
    have htext := ((Json.object data).memberOrNull promptKey).textOr_getD "text" ""
    rwa [← h] at htext
  options :=
    List.forall₂_map_right_iff.2 (List.forall₂_same.2 fun member _ =>
      ChoiceOption.keptFrom_ofJson branches member)
  nodup_options := nodup_options_ofMembers hdata
  scene := Scene.keptFrom_ofJson j
  unmatched_sublist := List.filter_sublist
  nodup_unmatched := hbranches.sublist List.filter_sublist
  mem_unmatched key := by rw [mem_unmatched_ofMembers, mem_keys_options_ofMembers]

/-! ## Events -/

/-- The value describes a choice: it has both of the objects that a choice is read from. -/
def Json.DescribesChoice (j : Json) : Prop :=
  j.member? "type" = some (.string "choice") ∧
    (∃ data, j.member? "data" = some (.object data)) ∧
      ∃ branches, j.member? "branches" = some (.object branches)

/-- What an event is read from: a dialogue and a choice from values that describe one, a malformed
event from any other value. -/
inductive Node.KeptFrom (j : Json) : Node → Prop
  | dialogue {d : Dialogue} :
      j.member? "type" = some (.string "dialogue") → d.KeptFrom j → KeptFrom j (.dialogue d)
  | choice {data branches : Keyed Json} {c : Choice} :
      j.member? "type" = some (.string "choice") → j.member? "data" = some (.object data) →
        j.member? "branches" = some (.object branches) → c.KeptFrom j data branches →
          KeptFrom j (.choice c)
  | malformed {reason : String} :
      j.member? "type" ≠ some (.string "dialogue") → ¬j.DescribesChoice →
        KeptFrom j (.malformed reason)

theorem Choice.keptFrom_nodeOfJson {j : Json} (hj : j.Distinct)
    (htype : j.member? "type" = some (.string "choice")) : (nodeOfJson j).KeptFrom j := by
  have hdialogue : j.member? "type" ≠ some (.string "dialogue") := by simp [htype]
  unfold nodeOfJson
  split
  · rename_i hdata
    refine .malformed hdialogue ?_
    rintro ⟨-, ⟨data, h⟩, -⟩
    rw [Json.membersAt?_eq_some_iff.2 h] at hdata
    cases hdata
  · rename_i hbranches _
    refine .malformed hdialogue ?_
    rintro ⟨-, -, branches, h⟩
    rw [Json.membersAt?_eq_some_iff.2 h] at hbranches
    cases hbranches
  · rename_i data branches hdata hbranches
    exact .choice htype (Json.membersAt?_eq_some_iff.1 hdata)
      (Json.membersAt?_eq_some_iff.1 hbranches)
      (keptFrom_ofMembers j (hj.membersAt? hdata).1 (hj.membersAt? hbranches).1)

theorem Node.keptFrom_malformed {j : Json} {reason : String}
    (hdialogue : j.stringAt? "type" ≠ some "dialogue")
    (hchoice : j.stringAt? "type" ≠ some "choice") :
    (malformed reason).KeptFrom j :=
  .malformed (mt Json.stringAt?_eq_some_iff.2 hdialogue)
    fun h => hchoice (Json.stringAt?_eq_some_iff.2 h.1)

theorem Node.keptFrom_ofJson {j : Json} (hj : j.Distinct) : (ofJson j).KeptFrom j := by
  unfold ofJson
  split
  · rename_i htype
    exact .dialogue (Json.stringAt?_eq_some_iff.1 htype) (Dialogue.keptFrom_ofJson j)
  · rename_i htype
    exact Choice.keptFrom_nodeOfJson hj (Json.stringAt?_eq_some_iff.1 htype)
  · rename_i other hdialogue hchoice htype
    refine keptFrom_malformed ?_ ?_ <;> simpa [htype]
  · rename_i htype
    refine keptFrom_malformed ?_ ?_ <;> simp [htype]

/-! ## Scripts -/

namespace Script

variable {s : Script}

theorem Coherent.entries_eq (hs : s.Coherent) : s.entries = s.nodes := by
  rw [entries, hs.order_eq]
  exact Keyed.filterMap_keys_get? (hs.order_eq ▸ hs.nodup)

/-- A script that is read from a value with an object `events` has the members of this object for
its keys, once and in order, and under each of them the one event that is read from the member; so
say its order, its size, its lookups and its entries alike.  A dialogue keeps a line for each item
of its data, a choice an option for each member of its data but the question, and what is neither
is kept as malformed. -/
theorem kept_of_events {j : Json} {events : Keyed Json} (hj : j.Distinct)
    (h : j.member? "events" = some (.object events)) :
    let s := (ofJson j).value
    s.order = events.keys ∧ s.order.Nodup ∧ s.size = events.length ∧
      s.nodes.keys = s.order ∧ s.entries.map Prod.fst = s.order ∧
      (∀ key, s.defines key = true ↔ key ∈ s.order) ∧
      (∀ key, (s.node? key).isSome = true ↔ key ∈ s.order) ∧
      List.Forall₂ (fun event entry => entry.1 = event.1 ∧ s.node? event.1 = some entry.2 ∧
        entry.2.KeptFrom event.2) events s.entries := by
  intro s
  have hevents := Json.membersAt?_eq_some_iff.2 h
  have hs : s.Orderly := orderly_ofJson hj
  have hnodes : s.nodes = events.map fun e => (e.1, Node.ofJson e.2) := nodes_ofJson hj hevents
  have hkeys : s.nodes.keys = events.keys := by simp [hnodes, Keyed.keys, Function.comp_def]
  have horder : s.order = events.keys := hs.order_eq.trans hkeys
  refine ⟨horder, hs.nodup, ?_, hs.order_eq.symm, ?_, fun key => hs.mem_order_iff.symm,
    fun key => ?_, ?_⟩
  · rw [size, horder, Keyed.keys, List.length_map]
  · rw [hs.entries_eq]
    exact hs.order_eq.symm
  · rw [hs.mem_order_iff]
    rfl
  · rw [hs.entries_eq, hnodes, List.forall₂_map_right_iff, List.forall₂_same]
    intro event hevent
    have hevent' : events.get? event.1 = some event.2 :=
      Keyed.get?_of_mem (hj.membersAt? hevents).1 hevent
    refine ⟨rfl, ?_, Node.keptFrom_ofJson ((hj.membersAt? hevents).2 event hevent)⟩
    rw [node?_ofJson hj hevents, hevent', Option.map_some]

/-- A dialogue with an item that is no object, a choice with a branch that belongs to no option, and
an event that is neither. -/
def pageEvents : Keyed Json :=
  [("intro", .object [("type", .string "dialogue"),
      ("data", .list [.object [("line", .string "Hi.")], .nat 7])]),
    ("ask", .object [("type", .string "choice"),
      ("data", .object [("yes", .null), ("prompt", .null), ("no", .object [])]),
      ("branches", .object [("no", .string "intro"), ("maybe", .null)])]),
    ("odd", .list [])]

def pageJson : Json := .object [("title", .null), ("events", .object pageEvents)]

theorem distinct_pageJson : pageJson.Distinct := by
  have hitem : (Json.list [.object [("line", .string "Hi.")], .nat 7]).Distinct := by
    refine .list fun item hitem => ?_
    rcases List.mem_pair.1 hitem with rfl | rfl
    · simp [Json.distinct_object_iff, Json.Distinct.string]
    · exact .number _
  have hempty : (Json.list []).Distinct := .list (by simp)
  simp [pageJson, pageEvents, Json.distinct_object_iff, Json.Distinct.string, Json.Distinct.null,
    hitem, hempty]

theorem kept_of_events_pageJson :
    pageJson.Distinct ∧ pageJson.member? "events" = some (.object pageEvents) ∧
      let s := (ofJson pageJson).value
      s.order = ["intro", "ask", "odd"] ∧ s.size = 3 ∧
        List.Forall₂ (fun event entry => entry.1 = event.1 ∧ s.node? event.1 = some entry.2 ∧
          entry.2.KeptFrom event.2) pageEvents s.entries := by
  have hmember : pageJson.member? "events" = some (.object pageEvents) := rfl
  obtain ⟨horder, -, hsize, -, -, -, -, hkept⟩ := kept_of_events distinct_pageJson hmember
  exact ⟨distinct_pageJson, hmember, horder, hsize, hkept⟩

end Script

end Narrative
