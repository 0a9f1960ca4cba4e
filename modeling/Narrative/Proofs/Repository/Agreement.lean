import Narrative.Proofs.Keyed
import Narrative.Proofs.Repository.Listing

/-!
# Scripts in files and in memory

A directory that holds some sources, each in the file of its id, answers just as the sources
themselves (`agree_of_holds`), whatever else is in the directory, if only no other name has the
extension of a script.
-/

namespace Narrative.Repository

variable {disk : Disk} {base id : String} {names : List String}
  {file? : String → Option ByteArray} {sources : Keyed String}

/-- An id that a file can have. -/
structure IsFileId (id : String) : Prop extends IsPlain id where
  no_nul : '\u0000' ∉ id.toList
  fits : (fileName id).utf8ByteSize ≤ FileTree.nameLimit

/-- Sources that files can hold: each id is there once, and a file can have it. -/
structure Storable (sources : Keyed String) : Prop where
  nodup : sources.keys.Nodup
  ids : ∀ id ∈ sources.keys, IsFileId id

/-- The entries of a directory hold some sources: each one is in the file of its id, and no other
entry has the extension of a script. -/
structure Holds (names : List String) (file? : String → Option ByteArray)
    (sources : Keyed String) : Prop extends Storable sources where
  file : ∀ id source, sources.get? id = some source → file? (fileName id) = some source.toUTF8
  others : ∀ name ∈ names, (∀ id ∈ sources.keys, name ≠ fileName id) →
    Path.extension? name ≠ some extension

/-- What there is to answer about an id by some sources. -/
def answer (sources : Keyed String) (id : String) : Except RepositoryError Script :=
  match sources.get? id with
  | some source => (Script.ofText source).value.mapError (.invalid id)
  | none => .error (.notFound id)

theorem IsFileId.isEntryName (h : IsFileId id) : FileTree.IsEntryName (fileName id) := by
  refine ⟨isName_fileName h.no_slash, ?_, h.fits⟩
  rw [toList_fileName, List.mem_append, not_or]
  exact ⟨h.no_nul, by decide⟩

/-! ## Sources in memory -/

theorem value_load_ofSources (sources : Keyed String) (id : String) :
    ((ofSources sources).load id).value = answer sources id := by
  simp only [ofSources, answer]
  cases sources.get? id with
  | none => rfl
  | some source => rfl

/-! ## Sources in a directory -/

theorem Holds.mem_names (h : Holds names file? sources) (hsees : disk.Sees base names file?)
    (hid : id ∈ sources.keys) : fileName id ∈ names := by
  obtain ⟨source, hsource⟩ := Option.isSome_iff_exists.1 ((Keyed.get?_isSome_iff sources id).2 hid)
  exact (hsees.file _ _ (h.ids id hid).isEntryName (h.file id source hsource)).1

/-- Only the file of a source is taken for a script. -/
theorem Holds.eq_fileName (h : Holds names file? sources) {name : String} (hname : name ∈ names)
    (hid : idOf? name = some id) : id ∈ sources.keys ∧ name = fileName id := by
  by_cases hfile : ∃ other ∈ sources.keys, name = fileName other
  · obtain ⟨other, hother, rfl⟩ := hfile
    rw [(h.ids other hother).idOf?_fileName] at hid
    obtain rfl := Option.some.inj hid
    exact ⟨hother, rfl⟩
  · have hother : Path.extension? name ≠ some extension :=
      h.others name hname fun other hother heq => hfile ⟨other, hother, heq⟩
    rw [idOf?_eq_none hother] at hid
    cases hid

theorem Holds.mem_listed_iff (h : Holds names file? sources) (hsees : disk.Sees base names file?) :
    id ∈ names.filterMap idOf? ↔ id ∈ sources.keys := by
  rw [List.mem_filterMap]
  constructor
  · rintro ⟨name, hname, hid⟩
    exact (h.eq_fileName hname hid).1
  · intro hid
    exact ⟨fileName id, h.mem_names hsees hid, (h.ids id hid).idOf?_fileName⟩

theorem Holds.nodup_listed (h : Holds names file? sources) (hsees : disk.Sees base names file?) :
    (names.filterMap idOf?).Nodup := by
  rw [List.Nodup, List.pairwise_filterMap]
  refine hsees.nodup.imp_of_mem fun hname hother hne id hid other hid' heq => hne ?_
  subst heq
  rw [(h.eq_fileName hname hid).2, (h.eq_fileName hother hid').2]

theorem Holds.answers_eq (h : Holds names file? sources) (hsees : disk.Sees base names file?)
    (hid : IsFileId id) :
    (ofDirectory disk base).has id = .ok (sources.has id) ∧
      ((ofDirectory disk base).load id).value = answer sources id := by
  rw [answer, Keyed.has]
  cases hsource : sources.get? id with
  | some source =>
      obtain ⟨-, hcontents, hkind⟩ := hsees.file _ _ hid.isEntryName (h.file id source hsource)
      exact ⟨has_of_kind hkind, value_load_of_text (Disk.text_of_contents hcontents)⟩
  | none =>
      have hmissing : fileName id ∉ names := by
        intro hname
        have hmem := (h.eq_fileName hname hid.idOf?_fileName).1
        rw [← Keyed.get?_isSome_iff, hsource] at hmem
        cases hmem
      obtain ⟨hcontents, hkind⟩ := hsees.missing _ hid.isEntryName hmissing
      exact ⟨has_of_missing hkind, value_load_of_missing (Disk.text_of_fault hcontents)⟩

/-- A directory that holds some sources lists the same ids as the sources in memory, and gives the
same answers to every id that a file can have. -/
theorem agree_of_holds (hsees : disk.Sees base names file?)
    (hholds : Holds names file? sources) :
    let directory := ofDirectory disk base
    let memory := ofSources sources
    (∃ ids, directory.ids = .ok ids ∧ memory.ids = .ok ids ∧ ids.Pairwise (· < ·) ∧
      ∀ id, id ∈ ids ↔ id ∈ sources.keys) ∧
    ∀ id, IsFileId id →
      directory.has id = .ok (sources.has id) ∧ memory.has id = .ok (sources.has id) ∧
        (directory.load id).value = answer sources id ∧
          (memory.load id).value = answer sources id := by
  intro directory memory
  constructor
  · refine ⟨sorted sources.keys, ?_, rfl, pairwise_lt_sorted hholds.nodup, fun id => mem_sorted⟩
    rw [ids_of_names hsees.names_eq, sorted_eq_sorted (hholds.nodup_listed hsees) hholds.nodup
      fun id => hholds.mem_listed_iff hsees]
  · intro id hid
    obtain ⟨hhas, hload⟩ := hholds.answers_eq hsees hid
    exact ⟨hhas, rfl, hload, value_load_ofSources sources id⟩

/-- Two scripts, one of which cannot be read. -/
def twoSources : Keyed String := [("a.x", "\x7b\"events\":\x7b\x7d\x7d"), (".c", "[")]

/-- The same scripts among other things. -/
def shelf : Keyed FileTree :=
  [("notes.txt", .file "Later.".toUTF8), (".c.json", .file "[".toUTF8),
    ("b", .directory [("b.json", .file "[]".toUTF8)]),
    ("a.x.json", .file "\x7b\"events\":\x7b\x7d\x7d".toUTF8), (".json", .directory [])]

/-- The shelf in its place. -/
def room : Volume where
  root := .directory [("scripts", .directory shelf)]
  directory := []

theorem agree_of_holds_shelf :
    let directory := ofDirectory room.disk "scripts/"
    let memory := ofSources twoSources
    (∃ ids, directory.ids = .ok ids ∧ memory.ids = .ok ids ∧ ids.Pairwise (· < ·) ∧
      ∀ id, id ∈ ids ↔ id ∈ ["a.x", ".c"]) ∧
    directory.has ".c" = .ok true ∧ directory.has "b" = .ok false ∧
    (directory.load ".c").value = (memory.load ".c").value ∧
    (directory.load "b").value = .error (.notFound "b") := by
  intro directory memory
  have hfind : room.find "scripts/" = .ok (.directory shelf) := rfl
  have hsees := Volume.sees_of_find hfind (by decide) (by decide +kernel)
  have hids : ∀ id ∈ ["a.x", ".c", "b"], IsFileId id := by
    intro id hid
    have hchars : ∀ id ∈ ["a.x", ".c", "b"], id ≠ "" ∧ '/' ∉ id.toList ∧ '\u0000' ∉ id.toList ∧
        (fileName id).utf8ByteSize ≤ FileTree.nameLimit := by decide +kernel
    obtain ⟨hne, hslash, hnul, hfits⟩ := hchars id hid
    exact ⟨⟨hne, hslash⟩, hnul, hfits⟩
  have hfiles : ∀ e ∈ twoSources, FileTree.file? shelf (fileName e.1) = some e.2.toUTF8 := by
    decide +kernel
  have hholds : Holds shelf.keys (FileTree.file? shelf) twoSources :=
    { nodup := by decide
      ids := fun id hid => hids id (List.mem_append_left ["b"] hid)
      file := fun id source hsource => hfiles _ (Keyed.mem_of_get? hsource)
      others := by decide +kernel }
  obtain ⟨hlist, hanswers⟩ := agree_of_holds hsees hholds
  obtain ⟨hhas, -, hload, hmemory⟩ := hanswers ".c" (hids _ (by decide))
  obtain ⟨hhas', -, hload', -⟩ := hanswers "b" (hids _ (by decide))
  exact ⟨hlist, hhas, hhas', hload.trans hmemory.symm, hload'⟩

end Narrative.Repository
