import Narrative.Proofs.Config.File
import Narrative.Proofs.Json.Skipped

/-!
# What a document gives

Where a text can be read as a JSON value, what it gives is what stands in that value: in an object
under the names of the settings, in a list at their places (`eq_ofJson_of_gives`).
-/

namespace Narrative.Config

open Json Scan

namespace Given

/-- Gives a setting the value of a document. -/
def put (g : Given) (j : Json) : Field → Given
  | .assetRoot => { g with assetRoot := j.string? }
  | .logFilter => { g with logFilter := j.string? }
  | .debug => { g with debug := j.bool? }

/-- What the members of an object give. -/
def ofMembers (members : Keyed Json) : Given where
  assetRoot := (members.get? Field.assetRoot.name).bind Json.string?
  logFilter := (members.get? Field.logFilter.name).bind Json.string?
  debug := (members.get? Field.debug.name).bind Json.bool?

/-- What a document gives. -/
def ofJson : Json → Given
  | .object members => ofMembers members
  | .list items => ⟨items[0]?.bind Json.string?, items[1]?.bind Json.string?,
      items[2]?.bind Json.bool?⟩
  | _ => {}

theorem ofMembers_put_of_none {members : Keyed Json} {name : String} (h : field? name = none)
    (j : Json) : ofMembers (members.put name j) = ofMembers members := by
  have hname (f : Field) : f.name ≠ name := by
    have hnone := List.find?_eq_none.1 h f (by cases f <;> simp [fields])
    simpa using hnone
  simp only [ofMembers, Keyed.get?_put, if_neg (hname _)]

theorem name_of_field? {name : String} {f : Field} (h : field? name = some f) : f.name = name := by
  simpa using List.find?_some h

theorem ofMembers_put (members : Keyed Json) (f : Field) (j : Json) :
    ofMembers (members.put f.name j) = (ofMembers members).put j f := by
  cases f <;> simp [ofMembers, put, Keyed.get?_put, Field.name]

theorem foldl_put_fields (items : List Json) :
    (fields.zip items).foldl (fun g p => g.put p.2 p.1) {} = ofJson (.list items) := by
  match items with
  | [] => rfl
  | [_] => rfl
  | [_, _] => rfl
  | _ :: _ :: _ :: _ => rfl

end Given

/-! ## Scalars -/

theorem agree_stringField (list object : Scan Json) (expected : String) :
    Agree (fun j s => j = .string s) (valueWith list object) (stringField expected) := by
  intro length text j rest s rest' h h'
  obtain ⟨c, _, htoken, h⟩ := bind_eq_ok_iff.1 h
  obtain ⟨_, _, htoken', h'⟩ := bind_eq_ok_iff.1 h'
  obtain ⟨rfl, rfl⟩ := ok_unique htoken htoken'
  split at h'
  · have hstring : Agree (fun j s => j = Json.string s) (do skip; return Json.string (← string))
        (do skip; string >>= pure) := agree_seq fun _ => agree_seq fun s => agree_pure rfl
    rw [bind_pure] at hstring
    exact hstring h h'
  · exact absurd h' wrongType_ne_ok

theorem agree_boolField (list object : Scan Json) :
    Agree (fun j b => j = .bool b) (valueWith list object) boolField := by
  intro length text j rest b rest' h h'
  obtain ⟨c, _, htoken, h⟩ := bind_eq_ok_iff.1 h
  obtain ⟨_, _, htoken', h'⟩ := bind_eq_ok_iff.1 h'
  obtain ⟨rfl, rfl⟩ := ok_unique htoken htoken'
  have hword (cs : List Char) (b : Bool) : Agree (fun j b => j = Json.bool b)
      (do skip; word cs; return Json.bool b) (do skip; word cs; return b) :=
    agree_seq fun _ => agree_seq fun _ => agree_pure rfl
  split at h'
  · exact hword _ _ h h'
  · exact hword _ _ h h'
  · exact absurd h' wrongType_ne_ok

theorem exists_valueWith (depth : Nat) : ∃ list object, value depth = valueWith list object := by
  cases depth with
  | zero => exact ⟨_, _, rfl⟩
  | succ depth => exact ⟨_, _, rfl⟩

section

variable {length : Nat} {g g' final : Given} {f : Field} {isFirst : Bool} {depth : Nat} {j : Json}
  {text next next' rest rest' : Bytes}

/-- Where the value of a setting can be read as a JSON value, the setting is given that value. -/
theorem ValueGives.eq_put (h : ValueGives length g text f g' next)
    (hvalue : value depth length text = .ok (j, next')) : g' = g.put j f ∧ next' = next := by
  obtain ⟨list, object, hdepth⟩ := exists_valueWith depth
  rw [hdepth] at hvalue
  cases h with
  | assetRoot hfield =>
      obtain ⟨rfl, hnext⟩ := agree_stringField _ _ _ hvalue hfield
      exact ⟨rfl, hnext⟩
  | logFilter hfield =>
      obtain ⟨rfl, hnext⟩ := agree_stringField _ _ _ hvalue hfield
      exact ⟨rfl, hnext⟩
  | debug hfield =>
      obtain ⟨rfl, hnext⟩ := agree_boolField _ _ hvalue hfield
      exact ⟨rfl, hnext⟩

/-! ## Objects and lists -/

theorem MembersGive.eq_ofMembers {entries : List (String × Json)} {members : Keyed Json}
    (h : MembersGive length g isFirst text final rest)
    (hread : MembersRead (value depth) length isFirst text entries rest')
    (hg : g = .ofMembers members) :
    final = .ofMembers (entries.foldl (fun m e => m.put e.1 e.2) members) := by
  induction h generalizing entries members with
  | close hname =>
      cases hread with
      | close => exact hg
      | member hname' => cases (ok_unique hname hname').1
  | other hname hfield hcolon hskip _ ih =>
      cases hread with
      | close hname' => cases (ok_unique hname hname').1
      | @member _ _ _ _ _ _ _ j _ hname' hcolon' hvalue hentries =>
          obtain ⟨hsame, rfl⟩ := ok_unique hname hname'
          obtain rfl := Option.some.inj hsame
          obtain ⟨-, rfl⟩ := ok_unique hcolon hcolon'
          obtain ⟨-, rfl⟩ := agree_value _ hvalue hskip
          rw [List.foldl_cons]
          exact ih hentries (hg.trans (Given.ofMembers_put_of_none hfield j).symm)
  | setting hname hfield _ hcolon hgives _ ih =>
      cases hread with
      | close hname' => cases (ok_unique hname hname').1
      | member hname' hcolon' hvalue hentries =>
          obtain ⟨hsame, rfl⟩ := ok_unique hname hname'
          obtain rfl := Option.some.inj hsame
          obtain ⟨-, rfl⟩ := ok_unique hcolon hcolon'
          obtain ⟨rfl, rfl⟩ := hgives.eq_put hvalue
          obtain rfl := Given.name_of_field? hfield
          rw [List.foldl_cons]
          exact ih hentries (by rw [hg, Given.ofMembers_put])

theorem ItemsGive.eq_foldl {fields : List Field} {items : List Json}
    (h : ItemsGive length g isFirst fields text final rest)
    (hread : ItemsRead (value depth) length isFirst text items rest') :
    final = (fields.zip items).foldl (fun g p => g.put p.2 p.1) g := by
  induction h generalizing items with
  | close htoken =>
      cases hread with
      | close => rw [List.zip_nil_right, List.foldl_nil]
      | first htoken' hopen =>
          exact absurd (Option.some.inj (ok_unique htoken htoken').1).symm hopen
      | later htoken' => cases (ok_unique htoken htoken').1
  | first htoken hopen hgives _ ih =>
      cases hread with
      | close htoken' => exact absurd (Option.some.inj (ok_unique htoken htoken').1) hopen
      | first htoken' _ hvalue hitems =>
          obtain ⟨-, rfl⟩ := ok_unique htoken htoken'
          obtain ⟨rfl, rfl⟩ := hgives.eq_put hvalue
          exact ih hitems
  | later htoken hfirst _ hgives _ ih =>
      cases hread with
      | close htoken' => cases (ok_unique htoken htoken').1
      | later htoken' hfirst' _ hvalue hitems =>
          obtain ⟨-, rfl⟩ := ok_unique htoken htoken'
          obtain ⟨-, rfl⟩ := ok_unique hfirst hfirst'
          obtain ⟨rfl, rfl⟩ := hgives.eq_put hvalue
          exact ih hitems

end

/-- What a text gives stands in the JSON value that it holds, if it can be read as one. -/
theorem eq_ofJson_of_gives {text : String} {g : Given} {j : Json} (h : Gives text g)
    (hj : Json.ofText text = .ok j) : g = .ofJson j := by
  rw [Json.ofText, Scan.run] at hj
  split at hj
  · rename_i j' left hscan
    obtain rfl := Except.ok.inj hj
    obtain ⟨j, rest, hvalue, hscan⟩ := bind_eq_ok_iff.1 hscan
    obtain ⟨_, _, -, hscan⟩ := bind_eq_ok_iff.1 hscan
    obtain ⟨rfl, -⟩ := pure_eq_ok_iff.1 hscan
    obtain ⟨c, behind, htoken, hvalue⟩ := bind_eq_ok_iff.1 hvalue
    cases h with
    | object htoken' hmembers =>
        obtain ⟨rfl, rfl⟩ := ok_unique htoken htoken'
        simp only [skip_bind] at hvalue
        obtain ⟨taken, _, htaken, hvalue⟩ := bind_eq_ok_iff.1 hvalue
        obtain ⟨rfl, -⟩ := pure_eq_ok_iff.1 hvalue
        obtain ⟨entries, hentries, rfl⟩ := exists_membersRead htaken
        exact hmembers.eq_ofMembers hentries rfl
    | list htoken' hitems =>
        obtain ⟨rfl, rfl⟩ := ok_unique htoken htoken'
        simp only [skip_bind] at hvalue
        obtain ⟨items, _, htaken, hvalue⟩ := bind_eq_ok_iff.1 hvalue
        obtain ⟨rfl, -⟩ := pure_eq_ok_iff.1 hvalue
        rw [hitems.eq_foldl (itemsRead_of_items htaken), Given.foldl_put_fields]
  · cases hj

end Narrative.Config
