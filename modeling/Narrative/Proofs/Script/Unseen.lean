import Mathlib.Logic.Relation
import Narrative.Proofs.Json.Loss
import Narrative.Proofs.Script.Branches

/-!
# What loading does not see

Each part of a script is read from some members of a value.  A member that the format does not
define, or an optional one of the wrong type, is not understood; a value that loses such a member,
at any depth and however often, is read as the same script (`unseen_of_loses`).  The name of an
option is all that an option needs, so an option is understood whatever its value is; a branch that
is no text is not understood where its name is that of an option.
-/

namespace Narrative

variable {understands : String → Json → Prop} {within : String → Json → Json → Prop} {j k : Json}

namespace Json

/-- No member is read further. -/
def Leaf (_ : String) (_ _ : Json) : Prop := False

theorem stringAt?_eq_none {value : Json} (h : ¬value.members?.isSome = true) (name : String) :
    value.stringAt? name = none := by
  have hnone : value.members? = none := by simpa using h
  simp [stringAt?, member?, hnone]

end Json

/-! ## Scenes and lines -/

def Cue.Understands (name : String) (value : Json) : Prop :=
  name = "path" ∧ value.string?.isSome = true ∨ name = "loop" ∧ value.bool?.isSome = true

/-- The value of a member `audio` loses something. -/
def Cue.Loses : Json → Json → Prop := Json.Loses Cue.Understands Json.Leaf

def Scene.Understands (name : String) (value : Json) : Prop :=
  name ∈ ["background_sprite", "left_sprite", "right_sprite"] ∧ value.string?.isSome = true ∨
    name = "audio" ∧ value.members?.isSome = true

def Scene.LosesWithin (name : String) (value other : Json) : Prop :=
  name = "audio" ∧ Cue.Loses value other

def Line.Understands (name : String) (value : Json) : Prop :=
  name ∈ ["speaker", "line"] ∧ value.string?.isSome = true ∨ Scene.Understands name value

/-- An item of a dialogue loses something, or is no object and gives way to an empty one. -/
inductive Line.Loses : Json → Json → Prop
  | member {j k : Json} : Json.Loses Line.Understands Scene.LosesWithin j k → Line.Loses j k
  | item {j : Json} : j.members? = none → Line.Loses j (.object [])

theorem Cue.Loses.stringAt?_path_eq (h : Cue.Loses j k) : j.stringAt? "path" = k.stringAt? "path" :=
  Json.Loses.stringAt?_eq h (fun _ htext => Or.inl ⟨rfl, htext⟩) fun _ _ h => h

theorem Cue.Loses.loop_eq (h : Cue.Loses j k) :
    (j.member? "loop").bind Json.bool? = (k.member? "loop").bind Json.bool? := by
  refine Json.Loses.bind_member?_eq h (fun value hvalue => ?_) fun _ _ h => h.elim
  simpa using fun hflag => hvalue (Or.inr ⟨rfl, hflag⟩)

/-- A scene stays the same where all that belongs to a scene is understood. -/
theorem Scene.ofJson_eq_of_loses (h : Json.Loses understands within j k)
    (hscene : ∀ name value, Scene.Understands name value → understands name value)
    (hsprite : ∀ name ∈ ["background_sprite", "left_sprite", "right_sprite"], ∀ value other,
      ¬within name value other)
    (haudio : ∀ value other, within "audio" value other → Cue.Loses value other) :
    ofJson j = ofJson k := by
  have htext : ∀ name ∈ ["background_sprite", "left_sprite", "right_sprite"],
      j.stringAt? name = k.stringAt? name := fun name hname =>
    h.stringAt?_eq (fun value hvalue => hscene name value (Or.inl ⟨hname, hvalue⟩))
      (hsprite name hname)
  have hnone : ∀ value, ¬understands "audio" value → ¬value.members?.isSome = true :=
    fun value hvalue hmembers => hvalue (hscene _ _ (Or.inr ⟨rfl, hmembers⟩))
  have hpath : (j.member? "audio").bind (Json.stringAt? · "path") =
      (k.member? "audio").bind (Json.stringAt? · "path") :=
    h.bind_member?_eq (fun value hvalue => Json.stringAt?_eq_none (hnone value hvalue) _)
      fun value other hchanges => (haudio value other hchanges).stringAt?_path_eq
  have hloop : ((j.member? "audio").bind (Json.member? · "loop")).bind Json.bool? =
      ((k.member? "audio").bind (Json.member? · "loop")).bind Json.bool? := by
    rw [Option.bind_assoc, Option.bind_assoc]
    refine h.bind_member?_eq (fun value hvalue => ?_) fun value other hchanges =>
      (haudio value other hchanges).loop_eq
    have hmembers : value.members? = none := by simpa using hnone value hvalue
    simp [Json.member?, hmembers]
  simp only [ofJson, Cue.ofJson, htext _ (.head _), htext _ (.tail _ (.head _)),
    htext _ (.tail _ (.tail _ (.head _))), hpath, hloop]

theorem Line.ofJson_eq_of_loses (h : Line.Loses j k) : ofJson j = ofJson k := by
  cases h with
  | member h =>
      have hscene : Scene.ofJson j = Scene.ofJson k :=
        Scene.ofJson_eq_of_loses h (fun _ _ => Or.inr) (by simp [Scene.LosesWithin])
          fun _ _ h => h.2
      have htext : ∀ name ∈ ["speaker", "line"], j.stringAt? name = k.stringAt? name :=
        fun name hname => h.stringAt?_eq (fun value hvalue => Or.inl ⟨hname, hvalue⟩) (by
          rintro value other ⟨rfl, -⟩
          simp at hname)
      simp only [ofJson, hscene, htext _ (.head _), htext _ (.tail _ (.head _))]
  | item h =>
      have hnone : ∀ name, j.member? name = (Json.object []).member? name := fun name => by
        rw [Json.member?, h]
        rfl
      simp [ofJson, Scene.ofJson, Cue.ofJson, Json.stringAt?, hnone]

/-! ## Dialogues -/

def Dialogue.Understands (name : String) (value : Json) : Prop :=
  name ∈ ["type", "next"] ∧ value.string?.isSome = true ∨
    name = "data" ∧ value.items?.isSome = true

/-- One item of the data loses something. -/
def Dialogue.LosesWithin (name : String) (value other : Json) : Prop :=
  name = "data" ∧ ∃ before item rest after, value = .list (before ++ item :: after) ∧
    other = .list (before ++ rest :: after) ∧ Line.Loses item rest

theorem Dialogue.lines_ofJson (j : Json) :
    (ofJson j).lines =
      ((j.member? "data").bind fun value => value.items?.map (List.map Line.ofJson)).getD [] := by
  unfold ofJson
  cases j.member? "data" with
  | none => rfl
  | some value => cases h : value.items? <;> simp [h]

theorem Dialogue.ofJson_eq_of_loses (h : Json.Loses Understands LosesWithin j k) :
    ofJson j = ofJson k := by
  have hnext : (ofJson j).next = (ofJson k).next :=
    h.stringAt?_eq (fun value hvalue => Or.inl ⟨by simp, hvalue⟩) (by simp [LosesWithin])
  have hlines : (ofJson j).lines = (ofJson k).lines := by
    rw [lines_ofJson, lines_ofJson]
    refine congrArg (Option.getD · []) (h.bind_member?_eq (fun value hvalue => ?_) ?_)
    · have hitems : value.items? = none := by
        simpa using fun hitems => hvalue (Or.inr ⟨rfl, hitems⟩)
      simp [hitems]
    · rintro value other ⟨-, before, item, rest, after, rfl, rfl, hitem⟩
      simp [Json.items?, Line.ofJson_eq_of_loses hitem]
  exact congrArg₂ Dialogue.mk hlines hnext

/-! ## Choices -/

/-- A member of an option, or of the question, is understood. -/
def ChoiceOption.Understands (name : String) (value : Json) : Prop :=
  name = "text" ∧ value.string?.isSome = true

/-- The value of an option, or of the question, loses something. -/
def ChoiceOption.Loses : Json → Json → Prop := Json.Loses ChoiceOption.Understands Json.Leaf

namespace Choice

/-- All options are understood, and a question that is an object. -/
def UnderstandsEntry (name : String) (value : Json) : Prop :=
  name = promptKey → value.members?.isSome = true

/-- The data of a choice loses something. -/
def DataLoses : Json → Json → Prop :=
  Json.Loses UnderstandsEntry fun _ => ChoiceOption.Loses

/-- A branch that belongs to an option is understood if it is a text; any other one is. -/
def UnderstandsBranch (data : Keyed Json) (name : String) (value : Json) : Prop :=
  name ≠ promptKey → name ∈ data.keys → value.string?.isSome = true

/-- The branches beside the data of a choice lose something. -/
def BranchesLose (data : Keyed Json) : Json → Json → Prop :=
  Json.Loses (UnderstandsBranch data) Json.Leaf

def Understands (name : String) (value : Json) : Prop :=
  name ∈ ["type", "data", "branches"] ∨ Scene.Understands name value

/-- The music, the data or the branches of a choice lose something. -/
def LosesWithin (j : Json) (name : String) (value other : Json) : Prop :=
  Scene.LosesWithin name value other ∨ name = "data" ∧ DataLoses value other ∨
    name = "branches" ∧ ∃ data, j.member? "data" = some (.object data) ∧
      BranchesLose data value other

variable {i : Json} {data branches others : Keyed Json}

theorem stringAt?_text_eq {value other : Json} (h : ChoiceOption.Loses value other) :
    value.stringAt? "text" = other.stringAt? "text" :=
  Json.Loses.stringAt?_eq h (fun _ htext => ⟨rfl, htext⟩) fun _ _ h => h

theorem prompt_eq_of_dataLoses (h : DataLoses (.object data) (.object others)) (i : Json)
    (branches : Keyed Json) :
    (ofMembers i data branches).prompt = (ofMembers i others branches).prompt := by
  have hprompt : ((Json.object data).member? promptKey).bind (Json.stringAt? · "text") =
      ((Json.object others).member? promptKey).bind (Json.stringAt? · "text") :=
    Json.Loses.bind_member?_eq h
      (fun value hvalue => Json.stringAt?_eq_none (fun hmembers => hvalue fun _ => hmembers) _)
      fun _ _ hentry => stringAt?_text_eq hentry
  exact congrArg (Option.getD · "") hprompt

theorem options_eq_of_dataLoses (h : DataLoses (.object data) (.object others)) (i : Json)
    (branches : Keyed Json) :
    (ofMembers i data branches).options = (ofMembers i others branches).options := by
  have hname : ∀ {name value}, ¬UnderstandsEntry name value → name = promptKey :=
    fun hvalue => by_contra fun hne => hvalue fun hprompt => absurd hprompt hne
  cases h with
  | drop _ hvalue =>
      obtain rfl := hname hvalue
      simp [ofMembers, Keyed.without]
  | alter hvalue _ =>
      obtain rfl := hname hvalue
      simp [ofMembers]
  | @inside before after name value other hentry =>
      have hoption : ChoiceOption.ofJson branches name value =
          ChoiceOption.ofJson branches name other := by
        simp only [ChoiceOption.ofJson, stringAt?_text_eq hentry]
      by_cases hprompt : name = promptKey <;> simp [ofMembers, hprompt, hoption]

/-- Branches are unmatched that belong to none of the options. -/
theorem unmatched_ofMembers (i : Json) (data branches : Keyed Json) :
    (ofMembers i data branches).unmatched = branches.keys.filter fun key =>
      key ∉ (ofMembers i data branches).options.map ChoiceOption.key := by
  refine List.filter_congr fun key _ => ?_
  have hdata : data.has key = decide (key ∈ data.keys) := by
    rw [Bool.eq_iff_iff, Keyed.has_iff, decide_eq_true_iff]
  simp only [mem_keys_options_ofMembers, hdata]
  by_cases hprompt : key = promptKey <;> simp [hprompt]

theorem ofMembers_eq_of_dataLoses (h : DataLoses (.object data) (.object others)) (i : Json)
    (branches : Keyed Json) : ofMembers i data branches = ofMembers i others branches := by
  have hunmatched : (ofMembers i data branches).unmatched =
      (ofMembers i others branches).unmatched := by
    rw [unmatched_ofMembers, unmatched_ofMembers, options_eq_of_dataLoses h]
  exact (Choice.mk.injEq ..).mpr
    ⟨prompt_eq_of_dataLoses h i branches, options_eq_of_dataLoses h i branches, rfl, hunmatched⟩

theorem ofMembers_eq_of_branchesLose (h : BranchesLose data (.object branches) (.object others))
    (i : Json) : ofMembers i data branches = ofMembers i data others := by
  have htarget : ∀ name, (branches.get? name).bind Json.string? =
      (others.get? name).bind Json.string? := by
    intro name
    refine Json.Loses.bind_member?_eq (j := .object branches) (k := .object others) h
      (fun value hvalue => ?_) fun _ _ h => h.elim
    simpa using fun htext => hvalue fun _ _ => htext
  have hoptions : (ofMembers i data branches).options = (ofMembers i data others).options := by
    simp only [ofMembers, ChoiceOption.ofJson, htarget]
  have hunmatched : (ofMembers i data branches).unmatched =
      (ofMembers i data others).unmatched := by
    rw [unmatched_ofMembers, unmatched_ofMembers, ← hoptions]
    cases h with
    | @drop _ name value _ hvalue =>
        have hoption : name ∈ (ofMembers i data branches).options.map ChoiceOption.key := by
          rw [mem_keys_options_ofMembers]
          by_contra hnot
          exact hvalue fun hne hmem => absurd ⟨hne, hmem⟩ hnot
        rw [Keyed.keys_without, List.filter_filter]
        refine List.filter_congr fun key _ => ?_
        by_cases hkey : key = name <;> simp [hkey, hoption]
    | alter => simp [Keyed.keys]
    | inside => simp [Keyed.keys]
  exact (Choice.mk.injEq ..).mpr ⟨rfl, hoptions, rfl, hunmatched⟩

theorem ofMembers_eq_of_scene (h : Scene.ofJson j = Scene.ofJson k) (data branches : Keyed Json) :
    ofMembers j data branches = ofMembers k data branches :=
  (Choice.mk.injEq ..).mpr ⟨rfl, rfl, h, rfl⟩

theorem scene_eq_of_loses (h : Json.Loses Understands (LosesWithin i) j k) :
    Scene.ofJson j = Scene.ofJson k := by
  refine Scene.ofJson_eq_of_loses h (fun _ _ => Or.inr) ?_ ?_
  · rintro name hname value other (⟨rfl, -⟩ | ⟨rfl, -⟩ | ⟨rfl, -⟩) <;> simp at hname
  · rintro value other (⟨-, h⟩ | ⟨hname, -⟩ | ⟨hname, -⟩)
    · exact h
    · simp at hname
    · simp at hname

/-- The choices that are made of the data, by their branches, stay the same. -/
theorem map_data_eq_of_loses (h : Json.Loses Understands (LosesWithin i) j k) :
    ((j.member? "data").bind Json.members?).map (ofMembers i) =
      ((k.member? "data").bind Json.members?).map (ofMembers i) := by
  refine h.map_members?_eq (fun value => Or.inl (by simp)) ?_
  rintro value other (⟨hname, -⟩ | ⟨-, hdata⟩ | ⟨hname, -⟩)
  · simp at hname
  · obtain ⟨data, others, rfl, rfl⟩ := Json.Loses.exists_members hdata
    exact ⟨data, others, rfl, rfl, funext (ofMembers_eq_of_dataLoses hdata i)⟩
  · simp at hname

theorem map_branches_eq_of_loses (h : Json.Loses Understands (LosesWithin j) j k)
    (hdata : (j.member? "data").bind Json.members? = some data) :
    ((j.member? "branches").bind Json.members?).map (ofMembers i data) =
      ((k.member? "branches").bind Json.members?).map (ofMembers i data) := by
  refine h.map_members?_eq (fun value => Or.inl (by simp)) ?_
  rintro value other (⟨hname, -⟩ | ⟨hname, -⟩ | ⟨-, data', hdata', hbranches⟩)
  · simp at hname
  · simp at hname
  · rw [hdata', Option.bind_some] at hdata
    obtain rfl := Option.some.inj hdata
    obtain ⟨branches, others, rfl, rfl⟩ := Json.Loses.exists_members hbranches
    exact ⟨branches, others, rfl, rfl, ofMembers_eq_of_branchesLose hbranches i⟩

theorem nodeOfJson_eq_of_loses (h : Json.Loses Understands (LosesWithin j) j k) :
    nodeOfJson j = nodeOfJson k := by
  have hscene := scene_eq_of_loses h
  have hdata := map_data_eq_of_loses (i := j) h
  unfold nodeOfJson
  cases hj : (j.member? "data").bind Json.members? with
  | none =>
      have hk : (k.member? "data").bind Json.members? = none := by simpa [hj] using hdata.symm
      rw [hk]
  | some data =>
      have hbranches := map_branches_eq_of_loses (i := j) h hj
      rw [hj] at hdata
      obtain ⟨others, hk, hothers⟩ := Option.map_eq_some_iff.1 hdata.symm
      rw [hk]
      cases hjb : (j.member? "branches").bind Json.members? with
      | none =>
          have hkb : (k.member? "branches").bind Json.members? = none := by
            simpa [hjb] using hbranches.symm
          rw [hkb]
      | some branches =>
          rw [hjb] at hbranches
          obtain ⟨rest, hkb, hrest⟩ := Option.map_eq_some_iff.1 hbranches.symm
          rw [hkb]
          have hchoice : ofMembers j data branches = ofMembers k others rest :=
            calc ofMembers j data branches
              _ = ofMembers j data rest := hrest.symm
              _ = ofMembers j others rest := congrFun hothers.symm rest
              _ = ofMembers k others rest := ofMembers_eq_of_scene hscene others rest
          exact congrArg Node.choice hchoice

end Choice

/-! ## Events and scripts -/

/-- An event loses something.  Of one that is neither a dialogue nor a choice, the type alone is
understood. -/
inductive Node.Loses (j k : Json) : Prop
  | dialogue : j.stringAt? "type" = some "dialogue" →
      Json.Loses Dialogue.Understands Dialogue.LosesWithin j k → Node.Loses j k
  | choice : j.stringAt? "type" = some "choice" →
      Json.Loses Choice.Understands (Choice.LosesWithin j) j k → Node.Loses j k
  | malformed : j.stringAt? "type" ≠ some "dialogue" → j.stringAt? "type" ≠ some "choice" →
      Json.Loses (fun name value => name = "type" ∧ value.string?.isSome = true) Json.Leaf j k →
        Node.Loses j k

theorem Node.ofJson_eq_of_loses (h : Node.Loses j k) : ofJson j = ofJson k := by
  cases h with
  | dialogue htype h =>
      have hk : j.stringAt? "type" = k.stringAt? "type" :=
        h.stringAt?_eq (fun _ htext => Or.inl ⟨by simp, htext⟩) (by simp [Dialogue.LosesWithin])
      simp only [ofJson, ← hk, htype, Dialogue.ofJson_eq_of_loses h]
  | choice htype h =>
      have hk : j.stringAt? "type" = k.stringAt? "type" :=
        h.stringAt?_eq (fun _ _ => Or.inl (by simp)) (by
          simp [Choice.LosesWithin, Scene.LosesWithin])
      simp only [ofJson, ← hk, htype, Choice.nodeOfJson_eq_of_loses h]
  | malformed hdialogue hchoice h =>
      have hk : j.stringAt? "type" = k.stringAt? "type" :=
        h.stringAt?_eq (fun _ htext => ⟨rfl, htext⟩) fun _ _ h => h
      unfold ofJson
      rw [← hk]
      split
      · rename_i htype
        exact absurd htype hdialogue
      · rename_i htype
        exact absurd htype hchoice
      · rfl
      · rfl

namespace Script

/-- One of the events loses something. -/
def EventsLose : Json → Json → Prop := Json.Loses (fun _ _ => True) fun _ => Node.Loses

/-- A value loses one thing that is not understood: beside its events, or within one of them. -/
def Loses : Json → Json → Prop :=
  Json.Loses (fun name _ => name = "events") fun name value other =>
    name = "events" ∧ EventsLose value other

/-- The script of some events. -/
def ofEvents (events : Keyed Json) : Logged Script := do
  return .ofEntries (← events.mapM fun e => do return (e.1, ← Node.read e.1 e.2))

theorem ofEvents_eq_of_eventsLose {events others : Keyed Json}
    (h : EventsLose (.object events) (.object others)) : ofEvents events = ofEvents others := by
  cases h with
  | drop _ hvalue => exact absurd trivial hvalue
  | alter hvalue _ => exact absurd trivial hvalue
  | @inside before after name value other hnode =>
      have hread : Node.read name value = Node.read name other := by
        unfold Node.read
        rw [Node.ofJson_eq_of_loses hnode]
      simp only [ofEvents, List.mapM_append, List.mapM_cons, hread]

theorem ofJson_eq (j : Json) : ofJson j =
    ((((j.member? "events").bind Json.members?).map ofEvents).getD do
      log .warn "Script has no 'events' object; nothing to play"
      return {}) := by
  unfold ofJson
  cases (j.member? "events").bind Json.members? <;> rfl

theorem ofJson_eq_of_loses (h : Script.Loses j k) : ofJson j = ofJson k := by
  rw [ofJson_eq, ofJson_eq]
  refine congrArg (Option.getD · _) (Json.Loses.map_members?_eq h (fun _ => rfl) ?_)
  rintro value other ⟨-, hevents⟩
  obtain ⟨events, others, rfl, rfl⟩ := Json.Loses.exists_members hevents
  exact ⟨events, others, rfl, rfl, ofEvents_eq_of_eventsLose hevents⟩

/-- A value that loses any number of things that are not understood, one after the other and
wherever they are, is read as the same script, with the same lines in the log. -/
theorem unseen_of_loses (h : Relation.ReflTransGen Script.Loses j k) : ofJson j = ofJson k := by
  induction h with
  | refl => rfl
  | tail _ hloses ih => exact ih.trans (ofJson_eq_of_loses hloses)

/-- A choice of one option, with some branches. -/
def askJson (branches : Keyed Json) : Json :=
  .object [("type", .string "choice"), ("data", .object [("yes", .null)]),
    ("branches", .object branches)]

/-- A dialogue of one item. -/
def sayJson (item : Json) : Json :=
  .object [("type", .string "dialogue"), ("data", .list [item])]

def talkEvents (branches : Keyed Json) (item : Json) : Keyed Json :=
  [("ask", askJson branches), ("say", sayJson item)]

/-- A value with a title, a branch that is no text and a line that is no object. -/
def draftJson : Json :=
  .object [("title", .null), ("events", .object (talkEvents [("yes", .null)] (.bool true)))]

def fairJson : Json := .object [("events", .object (talkEvents [] (.object [])))]

theorem loses_draftJson : Relation.ReflTransGen Script.Loses draftJson fairJson := by
  have htitle : Script.Loses draftJson
      (.object [("events", .object (talkEvents [("yes", .null)] (.bool true)))]) :=
    @Json.Loses.drop _ _ _ "title" .null rfl (by decide)
  have hbranches : Choice.BranchesLose [("yes", .null)] (.object [("yes", .null)]) (.object []) :=
    @Json.Loses.drop _ _ _ "yes" .null rfl (by simp [Choice.UnderstandsBranch, Choice.promptKey,
      Json.string?])
  have hask : Node.Loses (askJson [("yes", .null)]) (askJson []) :=
    .choice rfl (@Json.Loses.inside _ _
      [("type", .string "choice"), ("data", .object [("yes", .null)])] [] "branches" _ _
      (Or.inr (Or.inr ⟨rfl, _, rfl, hbranches⟩)))
  have hsay : Node.Loses (sayJson (.bool true)) (sayJson (.object [])) :=
    .dialogue rfl (@Json.Loses.inside _ _ [("type", .string "dialogue")] [] "data" _ _
      ⟨rfl, [], _, _, [], rfl, rfl, .item rfl⟩)
  have hfirst : EventsLose (.object (talkEvents [("yes", .null)] (.bool true)))
      (.object (talkEvents [] (.bool true))) :=
    @Json.Loses.inside _ _ [] [("say", sayJson (.bool true))] "ask" _ _ hask
  have hlast : EventsLose (.object (talkEvents [] (.bool true)))
      (.object (talkEvents [] (.object []))) :=
    @Json.Loses.inside _ _ [("ask", askJson [])] [] "say" _ _ hsay
  exact .head htitle (.head (@Json.Loses.inside _ _ [] [] "events" _ _ ⟨rfl, hfirst⟩)
    (.single (@Json.Loses.inside _ _ [] [] "events" _ _ ⟨rfl, hlast⟩)))

theorem unseen_of_loses_draftJson :
    Relation.ReflTransGen Script.Loses draftJson fairJson ∧ ofJson draftJson = ofJson fairJson :=
  ⟨loses_draftJson, unseen_of_loses loses_draftJson⟩

end Script

end Narrative
