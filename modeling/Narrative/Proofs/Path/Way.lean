import Narrative.Proofs.Path

/-!
# The way of a path

Where a path leads is decided by where it starts and by its segments that are not idle: `SameWay`.
A path that names something is taken apart into its directory and this name; joining the two gives a
path of the same way (`sameWay_join_directory`), which is no longer than the path itself unless the
path is a single segment (`utf8ByteSize_join_directory_le`).
-/

namespace Narrative.Path

variable {base name path : String}

/-! ## Segments and paths -/

theorem ofSegments_append {front back : List String} (hfront : front ≠ []) (hback : back ≠ []) :
    ofSegments (front ++ back) = ofSegments front ++ "/" ++ ofSegments back :=
  String.intercalate_append_of_ne_nil hfront hback

theorem segments_ne_nil (path : String) : segments path ≠ [] :=
  fun h => split_ne_nil _ (List.map_eq_nil_iff.1 h)

theorem segments_ofSegments {pieces : List String} (hne : pieces ≠ [])
    (hpieces : ∀ piece ∈ pieces, '/' ∉ piece.toList) : segments (ofSegments pieces) = pieces := by
  induction pieces with
  | nil => exact absurd rfl hne
  | cons piece pieces ih =>
      rw [List.forall_mem_cons] at hpieces
      by_cases hrest : pieces = []
      · rw [hrest, ofSegments, String.intercalate_singleton, segments_of_not_mem hpieces.1]
      · rw [ofSegments, String.intercalate_cons_of_ne_nil hrest, segments_append_slash,
          segments_of_not_mem hpieces.1]
        exact congrArg _ (ih hrest hpieces.2)

theorem intercalate_split (cs : List Char) : ['/'].intercalate (split cs) = cs := by
  induction cs with
  | nil => rfl
  | cons c cs ih =>
      rw [split]
      cases hcs : split cs with
      | nil => exact absurd hcs (split_ne_nil cs)
      | cons s ss =>
          rw [hcs] at ih
          split
          · rename_i hc
            rw [List.intercalate_cons_cons, ih, hc]
            rfl
          · cases ss with
            | nil => simpa using ih
            | cons s' ss =>
                rw [List.intercalate_cons_cons] at ih ⊢
                rw [← ih]
                simp

theorem ofSegments_segments (path : String) : ofSegments (segments path) = path := by
  rw [← String.toList_inj, ofSegments, String.toList_intercalate, segments, List.map_map]
  have hpieces : (split path.toList).map (String.toList ∘ String.ofList) = split path.toList := by
    simp
  rw [hpieces]
  exact intercalate_split _

theorem mem_split_iff {cs : List Char} {c : Char} (hc : c ≠ '/') :
    c ∈ cs ↔ ∃ piece ∈ split cs, c ∈ piece := by
  induction cs with
  | nil => simp
  | cons d cs ih =>
      rw [split, List.mem_cons, ih]
      cases hcs : split cs with
      | nil => exact absurd hcs (split_ne_nil cs)
      | cons s ss =>
          split
          · rename_i hd
            simp [hd, hc]
          · simp [or_assoc]

theorem mem_segments_iff {c : Char} (hc : c ≠ '/') :
    c ∈ path.toList ↔ ∃ segment ∈ segments path, c ∈ segment.toList := by
  rw [mem_split_iff hc]
  simp [segments]

theorem isAbsolute_iff_of_segments {first : String} {rest : List String}
    (h : segments path = first :: rest) : isAbsolute path = true ↔ first = "" ∧ rest ≠ [] := by
  rw [isAbsolute, decide_eq_true_iff]
  rw [segments] at h
  cases hpath : path.toList with
  | nil =>
      obtain ⟨-, rfl⟩ := List.cons.inj (hpath ▸ h)
      simp
  | cons c cs =>
      rw [hpath, split] at h
      cases hcs : split cs with
      | nil => exact absurd hcs (split_ne_nil cs)
      | cons s ss =>
          rw [hcs] at h
          split at h
          · rename_i hc
            obtain ⟨rfl, rfl⟩ := List.cons.inj h
            simp [hc]
          · rename_i hc
            obtain ⟨rfl, rfl⟩ := List.cons.inj h
            simp [hc]

/-! ## Steps -/

/-- The segments of a path that lead somewhere. -/
def steps (path : String) : List String := (segments path).filter (!isIdle ·)

/-- Two paths lead the same way: they start in the same place and differ only in idle segments. -/
structure SameWay (path path' : String) : Prop where
  isAbsolute_eq : isAbsolute path = isAbsolute path'
  steps_eq : steps path = steps path'

theorem nul_mem_iff : '\u0000' ∈ path.toList ↔ ∃ step ∈ steps path, '\u0000' ∈ step.toList := by
  have hidle {segment : String} (h : isIdle segment = true) : '\u0000' ∉ segment.toList := by
    rcases (by simpa [isIdle] using h : segment = "" ∨ segment = ".") with rfl | rfl <;> decide
  rw [mem_segments_iff (by decide)]
  constructor
  · rintro ⟨segment, hsegment, hmem⟩
    cases hi : isIdle segment with
    | true => exact absurd hmem (hidle hi)
    | false => exact ⟨segment, List.mem_filter.2 ⟨hsegment, by simp [hi]⟩, hmem⟩
  · rintro ⟨segment, hsegment, hmem⟩
    exact ⟨segment, List.mem_of_mem_filter hsegment, hmem⟩

theorem SameWay.nul_mem_iff {path' : String} (h : SameWay path path') :
    '\u0000' ∈ path.toList ↔ '\u0000' ∈ path'.toList := by
  rw [Path.nul_mem_iff, Path.nul_mem_iff, h.steps_eq]

theorem IsName.steps_join (h : IsName name) (hbase : base ≠ "") :
    steps (join base name) = steps base ++ [name] := by
  obtain ⟨before, hjoin, hbefore⟩ := exists_segments_join hbase h.no_slash
  rw [steps, steps, hjoin, List.filter_append, List.filter_singleton, h.not_idle]
  rcases hbefore with hbefore | hbefore <;> rw [hbefore]
  · rfl
  · rw [List.filter_append]
    simp [isIdle]

/-! ## Parts -/

/-- The parts of a path leave out only idle segments at its end. -/
theorem exists_segments_eq_parts (path : String) :
    ∃ idle, (∀ segment ∈ idle, isIdle segment = true) ∧
      segments path = (parts path).1 :: ((parts path).2.reverse ++ idle) := by
  rw [parts]
  cases hpath : segments path with
  | nil => exact absurd hpath (segments_ne_nil path)
  | cons first rest =>
      refine ⟨(rest.reverse.takeWhile isIdle).reverse, fun segment h => ?_, ?_⟩
      · exact List.all_eq_true.1 List.all_takeWhile segment (List.mem_reverse.1 h)
      · rw [← List.reverse_append, List.takeWhile_append_dropWhile, List.reverse_reverse]

theorem isIdle_of_parts {last : String} {before : List String}
    (h : (parts path).2 = last :: before) : isIdle last = false := by
  rw [parts] at h
  cases hpath : segments path with
  | nil => exact absurd hpath (segments_ne_nil path)
  | cons first rest =>
      have hhead := List.head?_dropWhile_not isIdle rest.reverse
      rw [hpath] at h
      dsimp only at h
      rwa [h] at hhead

/-- A path names the last of its parts. -/
theorem parts_of_name? (h : name? path = some name) :
    IsName name ∧ ((∃ before, (parts path).2 = name :: before) ∨
      (parts path).2 = [] ∧ (parts path).1 = name) := by
  have hslash := not_mem_of_mem_segments (mem_segments_of_name? h)
  rw [name?] at h
  split at h
  · rename_i first last before hparts
    split at h
    · cases h
    · rename_i hup
      obtain rfl := Option.some.inj h
      have hlast : (parts path).2 = last :: before := by rw [hparts]
      exact ⟨⟨hslash, isIdle_of_parts hlast, hup⟩, Or.inl ⟨before, hlast⟩⟩
  · rename_i first hparts
    split at h
    · cases h
    · rename_i hfirst
      obtain rfl := Option.some.inj h
      rw [Bool.not_eq_true, Bool.or_eq_false_iff, decide_eq_false_iff_not] at hfirst
      exact ⟨⟨hslash, hfirst.1, hfirst.2⟩, Or.inr ⟨by rw [hparts], by rw [hparts]⟩⟩

/-- The parent of a path is made of the parts before the last one; at the root there is nothing
but the slash. -/
theorem parent?_of_parts {last : String} {before : List String}
    (h : (parts path).2 = last :: before) :
    parent? path = some
      (if (parts path).1 = "" ∧ before.dropWhile isIdle = [] then "/"
      else ofSegments ((parts path).1 :: (before.dropWhile isIdle).reverse)) := by
  cases hparts : parts path with
  | mk first rest =>
      rw [hparts] at h
      obtain rfl : rest = last :: before := h
      rw [parent?, hparts]
      cases hdrop : before.dropWhile isIdle with
      | nil => by_cases hfirst : first = "" <;> simp [hdrop, hfirst, ofSegments]
      | cons s ss => simp [hdrop]

/-! ## Parent and name -/

/-- The directory in which a path names something: its parent, or where one is. -/
def directory (path : String) : String :=
  let parent := (parent? path).getD ""
  if parent = "" then "." else parent

theorem directory_of_parts_nil (h : (parts path).2 = []) : directory path = "." := by
  cases hparts : parts path with
  | mk first rest =>
      rw [hparts] at h
      obtain rfl : rest = [] := h
      rw [directory, parent?, hparts]
      by_cases hfirst : first = "" <;> simp [hfirst]

theorem ofSegments_ne_empty {first : String} {rest : List String} (h : ¬(first = "" ∧ rest = [])) :
    ofSegments (first :: rest) ≠ "" := by
  by_cases hrest : rest = []
  · rw [hrest, ofSegments, String.intercalate_singleton]
    exact fun hfirst => h ⟨hfirst, hrest⟩
  · rw [ofSegments, String.intercalate_cons_of_ne_nil hrest]
    simp

theorem directory_of_parts {last : String} {before : List String}
    (h : (parts path).2 = last :: before) :
    directory path =
      if (parts path).1 = "" ∧ before.dropWhile isIdle = [] then "/"
      else ofSegments ((parts path).1 :: (before.dropWhile isIdle).reverse) := by
  rw [directory, parent?_of_parts h, Option.getD_some]
  refine if_neg ?_
  split
  · decide
  · rename_i hroot
    exact ofSegments_ne_empty (by simpa using hroot)

theorem directory_ne_empty (path : String) : directory path ≠ "" := by
  by_cases hparent : (parent? path).getD "" = "" <;> simp [directory, hparent]

theorem segments_directory {last : String} {before : List String}
    (h : (parts path).2 = last :: before) :
    segments (directory path) = (parts path).1 ::
      if (parts path).1 = "" ∧ before.dropWhile isIdle = [] then [""]
      else (before.dropWhile isIdle).reverse := by
  rw [directory_of_parts h]
  split
  · rename_i hroot
    rw [hroot.1]
    rfl
  · refine segments_ofSegments (by simp) (List.forall_mem_cons.2
      ⟨not_mem_of_mem_segments (parts_fst_mem path), fun piece hpiece => ?_⟩)
    have hbefore := (List.dropWhile_sublist isIdle).mem (List.mem_reverse.1 hpiece)
    exact not_mem_of_mem_segments (mem_segments_of_mem_parts (h ▸ List.mem_cons_of_mem _ hbefore))

theorem filter_of_idle {idle : List String} (h : ∀ segment ∈ idle, isIdle segment = true) :
    idle.filter (!isIdle ·) = [] :=
  List.filter_eq_nil_iff.2 fun segment hsegment => by simp [h segment hsegment]

theorem filter_dropWhile_isIdle (pieces : List String) :
    (pieces.dropWhile isIdle).filter (!isIdle ·) = pieces.filter (!isIdle ·) := by
  conv_rhs => rw [← List.takeWhile_append_dropWhile (p := isIdle) (l := pieces)]
  rw [List.filter_append, filter_of_idle (List.all_eq_true.1 List.all_takeWhile), List.nil_append]

theorem filter_segments_directory {last : String} {before : List String}
    (h : (parts path).2 = last :: before) :
    steps (directory path) = ((parts path).1 :: before.reverse).filter (!isIdle ·) := by
  have hback : (if (parts path).1 = "" ∧ before.dropWhile isIdle = [] then [""]
      else (before.dropWhile isIdle).reverse).filter (!isIdle ·) =
        before.reverse.filter (!isIdle ·) := by
    rw [List.filter_reverse, ← filter_dropWhile_isIdle before]
    split
    · rename_i hroot
      rw [hroot.2]
      rfl
    · rw [List.filter_reverse]
  rw [steps, segments_directory h, List.filter_cons, List.filter_cons, hback]

/-- What a path names is one step behind its directory. -/
theorem steps_eq_directory (h : name? path = some name) :
    steps path = steps (directory path) ++ [name] := by
  obtain ⟨hname, hparts⟩ := parts_of_name? h
  obtain ⟨idle, hidle, hpath⟩ := exists_segments_eq_parts path
  have hback : ([name] ++ idle).filter (!isIdle ·) = [name] := by
    simp [filter_of_idle hidle, hname.not_idle]
  rcases hparts with ⟨before, hparts⟩ | ⟨hparts, hfirst⟩
  · have hsplit : segments path = ((parts path).1 :: before.reverse) ++ ([name] ++ idle) := by
      rw [hpath, hparts]
      simp
    rw [filter_segments_directory hparts, steps, hsplit, List.filter_append, hback]
  · have hsplit : segments path = [name] ++ idle := by
      rw [hpath, hparts, hfirst]
      rfl
    rw [directory_of_parts_nil hparts, steps, hsplit, hback]
    rfl

theorem isAbsolute_directory (h : name? path = some name) :
    isAbsolute (directory path) = isAbsolute path := by
  obtain ⟨hname, hparts⟩ := parts_of_name? h
  obtain ⟨idle, hidle, hpath⟩ := exists_segments_eq_parts path
  rw [Bool.eq_iff_iff, isAbsolute_iff_of_segments hpath]
  rcases hparts with ⟨before, hparts⟩ | ⟨hparts, hfirst⟩
  · rw [isAbsolute_iff_of_segments (segments_directory hparts), hparts]
    refine and_congr_right fun hempty => iff_of_true ?_ (by simp)
    split
    · simp
    · rename_i hroot
      simpa [hempty] using hroot
  · have hne : (parts path).1 ≠ "" := by
      rintro hempty
      simpa [isIdle, ← hfirst, hempty] using hname.not_idle
    rw [directory_of_parts_nil hparts]
    exact iff_of_false (by decide) fun h => hne h.1

/-- A path and the name that it gives to something, seen from its directory, lead the same way. -/
theorem sameWay_join_directory (h : name? path = some name) :
    SameWay (join (directory path) name) path := by
  obtain ⟨hname, -⟩ := parts_of_name? h
  have hne := directory_ne_empty path
  exact ⟨by rw [isAbsolute_join hne hname.no_slash, isAbsolute_directory h],
    by rw [hname.steps_join hne, steps_eq_directory h]⟩

/-! ## Lengths -/

theorem utf8ByteSize_ofSegments_le {front : List String} (hfront : front ≠ [])
    (back : List String) :
    (ofSegments front).utf8ByteSize ≤ (ofSegments (front ++ back)).utf8ByteSize := by
  by_cases hback : back = []
  · simp [hback]
  · rw [ofSegments_append hfront hback, String.utf8ByteSize_append, String.utf8ByteSize_append]
    omega

theorem utf8ByteSize_directory_le {last : String} {before : List String}
    (h : (parts path).2 = last :: before)
    (hroot : ¬((parts path).1 = "" ∧ before.dropWhile isIdle = [])) :
    (directory path).utf8ByteSize ≤
      (ofSegments ((parts path).1 :: before.reverse)).utf8ByteSize := by
  have hbefore : before.reverse =
      (before.dropWhile isIdle).reverse ++ (before.takeWhile isIdle).reverse := by
    rw [← List.reverse_append, List.takeWhile_append_dropWhile]
  rw [directory_of_parts h, if_neg hroot, hbefore, ← List.cons_append]
  exact utf8ByteSize_ofSegments_le (List.cons_ne_nil _ _) _

/-- Put together again, a path of several segments is no longer than before. -/
theorem utf8ByteSize_join_directory_le {before : List String}
    (h : (parts path).2 = name :: before) (hname : IsName name) :
    (join (directory path) name).utf8ByteSize ≤ path.utf8ByteSize := by
  obtain ⟨idle, -, hpath⟩ := exists_segments_eq_parts path
  have hsplit : path =
      ofSegments ((parts path).1 :: before.reverse) ++ "/" ++ ofSegments ([name] ++ idle) := by
    rw [← ofSegments_append (List.cons_ne_nil _ _) (by simp)]
    conv_lhs => rw [← ofSegments_segments path, hpath, h]
    simp
  have hlength := congrArg String.utf8ByteSize hsplit
  have hback := utf8ByteSize_ofSegments_le (List.cons_ne_nil name []) idle
  have hslash : "/".utf8ByteSize = 1 := rfl
  rw [String.utf8ByteSize_append, String.utf8ByteSize_append, hslash] at hlength
  rw [ofSegments, String.intercalate_singleton] at hback
  by_cases hroot : (parts path).1 = "" ∧ before.dropWhile isIdle = []
  · have hjoin : join "/" name = "/" ++ name := by
      simp [join, isAbsolute_of_not_mem hname.no_slash]
    rw [directory_of_parts h, if_pos hroot, hjoin, String.utf8ByteSize_append, hslash]
    omega
  · have hdirectory := utf8ByteSize_directory_le h hroot
    have hjoin := utf8ByteSize_join_le (directory_ne_empty path) hname.no_slash
    omega

/-! ## Ends -/

theorem not_idle_of_ends {front : List String} {last : String}
    (h : segments path = front ++ [last]) (hfront : front ≠ []) (hslash : ¬['/'] <:+ path.toList)
    (hdot : ¬['/', '.'] <:+ path.toList) : isIdle last = false := by
  have hpath : path = ofSegments front ++ "/" ++ last := by
    rw [← ofSegments_segments path, h, ofSegments_append hfront (by simp)]
    rfl
  rw [Bool.eq_false_iff]
  intro hidle
  rcases (by simpa [isIdle] using hidle : last = "" ∨ last = ".") with rfl | rfl
  · exact hslash ⟨(ofSegments front).toList, by rw [hpath]; simp⟩
  · exact hdot ⟨(ofSegments front).toList, by rw [hpath]; simp⟩

/-- A path that ends neither with a slash nor with a slash and a dot ends with what it names. -/
theorem exists_segments_of_ends (h : name? path = some name) (hslash : ¬['/'] <:+ path.toList)
    (hdot : ¬['/', '.'] <:+ path.toList) : ∃ front, segments path = front ++ [name] := by
  obtain ⟨hname, hparts⟩ := parts_of_name? h
  obtain ⟨idle, hidle, hpath⟩ := exists_segments_eq_parts path
  obtain rfl : idle = [] := by
    rcases List.eq_nil_or_concat idle with hnil | ⟨front, last, hlast⟩
    · exact hnil
    · have hsplit : segments path =
          ((parts path).1 :: ((parts path).2.reverse ++ front)) ++ [last] := by
        rw [hpath, hlast]
        simp
      have hnot := not_idle_of_ends hsplit (List.cons_ne_nil _ _) hslash hdot
      rw [hidle last (by simp [hlast])] at hnot
      cases hnot
  rcases hparts with ⟨before, hparts⟩ | ⟨hparts, hfirst⟩
  · exact ⟨(parts path).1 :: before.reverse, by rw [hpath, hparts]; simp⟩
  · exact ⟨[], by rw [hpath, hparts, hfirst]; rfl⟩

end Narrative.Path
