import Mathlib.Data.List.Basic
import Narrative.Proofs.Disk.Directory
import Narrative.Repository

/-!
# Ids and file names

The file of a script is its id with the extension behind it, and an id that is not empty and holds
no slash is found again in the name of its file (`IsPlain.idOf?_fileName`).  No other id is ever
found in a name (`plain_of_idOf?`).
-/

namespace Narrative.Repository

variable {disk : Disk} {base id name : String} {ids others : List String}

/-- The name of the file that holds a script. -/
def fileName (id : String) : String := id ++ "." ++ extension

/-- An id that is the whole of a name, without the extension. -/
structure IsPlain (id : String) : Prop where
  ne_empty : id ≠ ""
  no_slash : '/' ∉ id.toList

theorem toList_fileName (id : String) : (fileName id).toList = id.toList ++ ".json".toList := by
  simp [fileName, extension]

theorem isName_fileName (h : '/' ∉ id.toList) : Path.IsName (fileName id) := by
  have hlength : 5 ≤ (fileName id).toList.length := by simp [toList_fileName]
  refine ⟨?_, ?_, ?_⟩
  · simp [toList_fileName, h]
  · rw [Path.isIdle, Bool.or_eq_false_iff, decide_eq_false_iff_not, decide_eq_false_iff_not]
    constructor <;> intro h <;> simp [h] at hlength
  · intro h
    simp [h] at hlength

theorem IsPlain.splitName_fileName (h : IsPlain id) :
    Path.splitName (fileName id) = (id, some extension) :=
  Path.splitName_append h.ne_empty (by decide)

theorem IsPlain.extension?_fileName (h : IsPlain id) :
    Path.extension? (fileName id) = some extension := by
  rw [Path.extension?, (isName_fileName h.no_slash).name?_eq, Option.bind_some,
    h.splitName_fileName]

/-- From an id to the name of its file and back. -/
theorem IsPlain.idOf?_fileName (h : IsPlain id) : idOf? (fileName id) = some id := by
  rw [idOf?, if_pos h.extension?_fileName, Path.stem?, (isName_fileName h.no_slash).name?_eq,
    Option.map_some, h.splitName_fileName]

theorem idOf?_eq_none (h : Path.extension? name ≠ some extension) : idOf? name = none := if_neg h

theorem plain_of_idOf? (h : idOf? name = some id) : IsPlain id := by
  rw [idOf?] at h
  split at h
  · rename_i hextension
    cases hname : Path.name? name with
    | none => simp [Path.stem?, hname] at h
    | some last =>
        simp only [Path.extension?, Path.stem?, hname, Option.bind_some, Option.map_some]
          at hextension h
        obtain ⟨heq, hne⟩ := Path.eq_of_splitName (Prod.ext (Option.some.inj h) hextension)
        refine ⟨hne, fun hslash => ?_⟩
        apply Path.not_mem_of_mem_segments (Path.mem_segments_of_name? hname)
        rw [heq]
        simp [hslash]
  · cases h

/-! ## What a directory answers -/

theorem mapError_eq_ok_iff {ε ε' α : Type} {f : ε → ε'} {x : Except ε α} {a : α} :
    x.mapError f = .ok a ↔ x = .ok a := by
  cases x <;> simp [Except.mapError]

theorem value_load_of_text {source : String} (h : disk.text (scriptPath base id) = .ok source) :
    ((ofDirectory disk base).load id).value =
      (Script.ofText source).value.mapError (.invalid id) := by
  simp only [ofDirectory, h]
  rfl

theorem value_load_of_missing (h : disk.text (scriptPath base id) = .error .missing) :
    ((ofDirectory disk base).load id).value = .error (.notFound id) := by
  simp only [ofDirectory, h]
  rfl

theorem value_load_eq_ok_iff {s : Script} :
    ((ofDirectory disk base).load id).value = .ok s ↔
      ∃ source, disk.text (scriptPath base id) = .ok source ∧
        (Script.ofText source).value = .ok s := by
  cases htext : disk.text (scriptPath base id) with
  | ok source =>
      rw [value_load_of_text htext, mapError_eq_ok_iff]
      simp
  | error fault =>
      simp only [ofDirectory, htext]
      cases fault <;> simp

theorem has_of_kind {kind : DiskKind} (h : disk.kind (scriptPath base id) = .ok kind) :
    (ofDirectory disk base).has id = .ok true := by
  simp only [ofDirectory, h]

theorem has_of_missing (h : disk.kind (scriptPath base id) = .error .missing) :
    (ofDirectory disk base).has id = .ok false := by
  simp only [ofDirectory, h]

theorem exists_kind_of_has (h : (ofDirectory disk base).has id = .ok true) :
    ∃ kind, disk.kind (scriptPath base id) = .ok kind := by
  cases hkind : disk.kind (scriptPath base id) with
  | ok kind => exact ⟨kind, rfl⟩
  | error fault =>
      simp only [ofDirectory, hkind] at h
      cases fault <;> cases h

theorem ids_of_names {names : List String} (h : disk.names base = .ok names) :
    (ofDirectory disk base).ids = .ok (sorted (names.filterMap idOf?)) := by
  simp only [ofDirectory, h]

/-! ## Sorted ids -/

theorem mem_sorted : id ∈ sorted ids ↔ id ∈ ids := List.mem_mergeSort

theorem pairwise_sorted (ids : List String) : (sorted ids).Pairwise (· ≤ ·) := by
  have htrans : ∀ a b c : String, decide (a ≤ b) = true → decide (b ≤ c) = true →
      decide (a ≤ c) = true := by
    intro a b c hab hbc
    rw [decide_eq_true_iff] at *
    exact String.le_trans hab hbc
  have htotal : ∀ a b : String, (decide (a ≤ b) || decide (b ≤ a)) = true := by
    intro a b
    rw [Bool.or_eq_true, decide_eq_true_iff, decide_eq_true_iff]
    exact String.le_total a b
  exact (List.pairwise_mergeSort htrans htotal ids).imp of_decide_eq_true

theorem pairwise_lt_sorted (h : ids.Nodup) : (sorted ids).Pairwise (· < ·) := by
  have hnodup : (sorted ids).Nodup := (List.mergeSort_perm ids _).nodup_iff.2 h
  refine (pairwise_sorted ids).imp₂ (fun a b hle hne => ?_) hnodup
  by_contra hlt
  exact hne (String.le_antisymm hle (String.not_lt.1 hlt))

/-- Lists of the same ids, each once, are the same when sorted. -/
theorem sorted_eq_sorted (h : ids.Nodup) (hothers : others.Nodup)
    (hmem : ∀ id, id ∈ ids ↔ id ∈ others) : sorted ids = sorted others := by
  have hperm : (sorted ids).Perm (sorted others) :=
    ((List.mergeSort_perm ids _).trans ((List.perm_ext_iff_of_nodup h hothers).2 hmem)).trans
      (List.mergeSort_perm others _).symm
  exact hperm.eq_of_pairwise (fun _ _ _ _ => String.le_antisymm) (pairwise_sorted ids)
    (pairwise_sorted others)

end Narrative.Repository
