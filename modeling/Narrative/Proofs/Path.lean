import Mathlib.Data.List.Basic
import Narrative.Path

/-!
# Joined paths and the parts of a name

A name holds no slash.  Joined to a base it is the last segment behind those of the base
(`exists_segments_join`).  What stands before and behind the last dot of a name makes up the name
again (`splitName_append`, `eq_of_splitName`).
-/

namespace Narrative.Path

variable {base name path stem extension : String}

/-! ## Segments -/

theorem split_of_not_mem {cs : List Char} (h : '/' ∉ cs) : split cs = [cs] := by
  induction cs with
  | nil => rfl
  | cons c cs ih =>
      rw [List.mem_cons, not_or] at h
      rw [split, if_neg (Ne.symm h.1), ih h.2]

theorem split_append_slash (front back : List Char) :
    split (front ++ '/' :: back) = split front ++ split back := by
  induction front with
  | nil => exact split_slash back
  | cons c front ih =>
      rw [List.cons_append, split, split, ih]
      split
      · rfl
      · cases hfront : split front with
        | nil => exact absurd hfront (split_ne_nil front)
        | cons s ss => rfl

theorem not_mem_of_mem_split {cs piece : List Char} (h : piece ∈ split cs) : '/' ∉ piece := by
  induction cs generalizing piece with
  | nil =>
      obtain rfl := List.mem_singleton.1 h
      exact List.not_mem_nil
  | cons c cs ih =>
      rw [split] at h
      split at h
      · rcases List.mem_cons.1 h with rfl | h
        · exact List.not_mem_nil
        · exact ih h
      · rename_i hc
        cases hcs : split cs with
        | nil => exact absurd hcs (split_ne_nil cs)
        | cons s ss =>
            rw [hcs] at h ih
            rcases List.mem_cons.1 h with rfl | h
            · rw [List.mem_cons, not_or]
              exact ⟨Ne.symm hc, ih List.mem_cons_self⟩
            · exact ih (List.mem_cons_of_mem _ h)

theorem segments_of_not_mem (h : '/' ∉ name.toList) : segments name = [name] := by
  simp [segments, split_of_not_mem h]

theorem not_mem_of_mem_segments (h : name ∈ segments path) : '/' ∉ name.toList := by
  obtain ⟨piece, hpiece, rfl⟩ := List.mem_map.1 h
  rw [String.toList_ofList]
  exact not_mem_of_mem_split hpiece

theorem segments_append_slash (front back : String) :
    segments (front ++ "/" ++ back) = segments front ++ segments back := by
  have hlist : (front ++ "/" ++ back).toList = front.toList ++ '/' :: back.toList := by simp
  rw [segments, hlist, split_append_slash, List.map_append]
  rfl

/-! ## Joining -/

theorem isAbsolute_of_not_mem (h : '/' ∉ name.toList) : isAbsolute name = false := by
  rw [isAbsolute, decide_eq_false_iff_not]
  exact fun hhead => h (List.mem_of_head? hhead)

theorem join_eq_or (hbase : base ≠ "") (hname : '/' ∉ name.toList) :
    (∃ front, base = front ++ "/" ∧ join base name = front ++ "/" ++ name) ∨
      join base name = base ++ "/" ++ name := by
  have hfirst : ¬(isAbsolute name || decide (base = "")) = true := by
    simp [isAbsolute_of_not_mem hname, hbase]
  rw [join, if_neg hfirst]
  split
  · rename_i hlast
    obtain ⟨front, hfront⟩ := List.getLast?_eq_some_iff.1 hlast
    have hbase' : base = String.ofList front ++ "/" := by
      rw [← String.toList_inj]
      simp [hfront]
    exact Or.inl ⟨String.ofList front, hbase', by rw [hbase']⟩
  · exact Or.inr rfl

theorem isAbsolute_append (h : base ≠ "") (more : String) :
    isAbsolute (base ++ more) = isAbsolute base := by
  have hlist : base.toList ≠ [] := by simpa using h
  rw [isAbsolute, isAbsolute, String.toList_append, List.head?_append_of_ne_nil _ hlist]

theorem isAbsolute_join (hbase : base ≠ "") (hname : '/' ∉ name.toList) :
    isAbsolute (join base name) = isAbsolute base := by
  rcases join_eq_or hbase hname with ⟨front, rfl, h⟩ | h
  · rw [h, isAbsolute_append hbase]
  · rw [h, String.append_assoc, isAbsolute_append hbase]

/-- A name joined to a base stands behind the segments of the base, but for an empty one at the
end. -/
theorem exists_segments_join (hbase : base ≠ "") (hname : '/' ∉ name.toList) :
    ∃ before, segments (join base name) = before ++ [name] ∧
      (segments base = before ∨ segments base = before ++ [""]) := by
  rcases join_eq_or hbase hname with ⟨front, rfl, h⟩ | h
  · refine ⟨segments front, ?_, Or.inr ?_⟩
    · rw [h, segments_append_slash, segments_of_not_mem hname]
    · have hfront : front ++ "/" = front ++ "/" ++ "" := by simp
      rw [hfront, segments_append_slash]
      rfl
  · refine ⟨segments base, ?_, Or.inl rfl⟩
    rw [h, segments_append_slash, segments_of_not_mem hname]

theorem join_ne_empty (hbase : base ≠ "") (hname : '/' ∉ name.toList) : join base name ≠ "" := by
  rcases join_eq_or hbase hname with ⟨front, -, h⟩ | h <;> rw [h] <;> simp

theorem mem_join_iff {c : Char} (hbase : base ≠ "") (hname : '/' ∉ name.toList) (hc : c ≠ '/') :
    c ∈ (join base name).toList ↔ c ∈ base.toList ∨ c ∈ name.toList := by
  rcases join_eq_or hbase hname with ⟨front, rfl, h⟩ | h <;> rw [h] <;> simp [hc]

theorem utf8ByteSize_join_le (hbase : base ≠ "") (hname : '/' ∉ name.toList) :
    (join base name).utf8ByteSize ≤ base.utf8ByteSize + 1 + name.utf8ByteSize := by
  have hslash : "/".utf8ByteSize = 1 := rfl
  rcases join_eq_or hbase hname with ⟨front, rfl, h⟩ | h <;>
    rw [h] <;> simp only [String.utf8ByteSize_append, hslash] <;> omega

/-! ## Names -/

/-- A text that names something: a single segment, and one that leads somewhere. -/
structure IsName (name : String) : Prop where
  no_slash : '/' ∉ name.toList
  not_idle : isIdle name = false
  not_up : name ≠ ".."

theorem IsName.name?_eq (h : IsName name) : name? name = some name := by
  simp [name?, parts, segments_of_not_mem h.no_slash, h.not_idle, h.not_up]

theorem parts_fst_mem (path : String) : (parts path).1 ∈ segments path := by
  rw [parts]
  cases hpath : segments path with
  | nil => exact absurd (List.map_eq_nil_iff.1 hpath) (split_ne_nil _)
  | cons first rest => exact List.mem_cons_self

theorem mem_segments_of_mem_parts (h : name ∈ (parts path).2) : name ∈ segments path := by
  rw [parts] at h
  cases hpath : segments path with
  | nil => simp [hpath] at h
  | cons first rest =>
      rw [hpath] at h
      exact List.mem_cons_of_mem _ (List.mem_reverse.1 ((List.dropWhile_sublist isIdle).mem h))

theorem mem_segments_of_name? (h : name? path = some name) : name ∈ segments path := by
  have hfirst := parts_fst_mem path
  have hrest : ∀ last ∈ (parts path).2, last ∈ segments path :=
    fun _ => mem_segments_of_mem_parts
  rw [name?] at h
  split at h <;> rename_i hparts <;> rw [hparts] at hfirst hrest <;> split at h
  · cases h
  · obtain rfl := Option.some.inj h
    exact hrest _ List.mem_cons_self
  · cases h
  · obtain rfl := Option.some.inj h
    exact hfirst

theorem splitName_append (hstem : stem ≠ "") (hextension : '.' ∉ extension.toList) :
    splitName (stem ++ "." ++ extension) = (stem, some extension) := by
  have hback : (stem ++ "." ++ extension).toList.reverse =
      extension.toList.reverse ++ '.' :: stem.toList.reverse := by simp
  have hlast : ∀ c ∈ extension.toList.reverse, decide (c ≠ '.') = true := by
    intro c hc
    rw [decide_eq_true_iff]
    rintro rfl
    exact hextension (List.mem_reverse.1 hc)
  have hdrop : (stem ++ "." ++ extension).toList.reverse.dropWhile (· ≠ '.') =
      '.' :: stem.toList.reverse := by
    rw [hback, List.dropWhile_append_of_pos hlast]
    rfl
  have htake : (stem ++ "." ++ extension).toList.reverse.takeWhile (· ≠ '.') =
      extension.toList.reverse := by
    rw [hback, List.takeWhile_append_of_pos hlast, List.takeWhile_cons_of_neg (by simp),
      List.append_nil]
  cases hreverse : stem.toList.reverse with
  | nil => exact absurd (by simpa using hreverse) hstem
  | cons c cs =>
      have hbefore : String.ofList (c :: cs).reverse = stem := by
        rw [← hreverse]
        simp
      rw [splitName, hdrop, htake, hreverse]
      exact Prod.ext hbefore (by simp)

theorem eq_of_splitName (h : splitName name = (stem, some extension)) :
    name = stem ++ "." ++ extension ∧ stem ≠ "" := by
  have hback := List.takeWhile_append_dropWhile (p := (· ≠ '.')) (l := name.toList.reverse)
  have hdot := List.head?_dropWhile_not (· ≠ '.') name.toList.reverse
  rw [splitName] at h
  generalize name.toList.reverse.takeWhile (· ≠ '.') = behind at h hback
  split at h
  · cases h
  · cases h
  · rename_i c before hbefore hdrop
    obtain ⟨rfl, hextension⟩ := Prod.mk.inj h
    obtain rfl := Option.some.inj hextension
    rw [hdrop] at hback hdot
    obtain rfl : c = '.' := by simpa using hdot
    have hlist : name.toList = before.reverse ++ '.' :: behind.reverse := by
      rw [← List.reverse_inj, ← hback]
      simp
    constructor
    · rw [← String.toList_inj, hlist]
      simp
    · intro hstem
      exact hbefore (by simpa using hstem)

end Narrative.Path
