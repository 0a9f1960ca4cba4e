import Narrative.Proofs.Disk.Directory
import Narrative.Proofs.Path.Way

/-!
# Walking the same way

An idle segment does not take a walk anywhere: on a directory it stays, and elsewhere every segment
fails alike.  So two paths of the same way lead to the same thing on a volume, whatever its working
directory is, if each ends with a segment that is not idle and is short enough to be walked
(`find_eq_of_sameWay`).
-/

namespace Narrative

namespace FileTree

variable {t : FileTree} {spot : Spot} {segment path : String}

/-- In front of another segment, one that is idle makes no difference. -/
theorem walk_cons_of_isIdle (hidle : Path.isIdle segment = true) {segments : List String}
    (hne : segments ≠ []) : t.walk spot (segment :: segments) = t.walk spot segments := by
  rw [walk]
  rcases t.directory_or_fault spot with ⟨es, hspot⟩ | ⟨fault, hfault⟩
  · rw [walkStep_of_isIdle hidle hspot]
    rfl
  · cases segments with
    | nil => exact absurd rfl hne
    | cons next segments =>
        rw [walk, hfault, hfault]
        rfl

theorem walk_filter {last : String} (hlast : Path.isIdle last = false) (spot : Spot)
    (front : List String) :
    t.walk spot ((front ++ [last]).filter (!Path.isIdle ·)) = t.walk spot (front ++ [last]) := by
  induction front generalizing spot with
  | nil => simp [hlast]
  | cons segment front ih =>
      rw [List.cons_append]
      cases hidle : Path.isIdle segment with
      | true =>
          rw [List.filter_cons_of_neg (by simp [hidle]), ih,
            walk_cons_of_isIdle hidle (by simp)]
      | false =>
          rw [List.filter_cons_of_pos (by simp [hidle]), walk, walk]
          exact bind_congr ih

/-- A path ends with a segment that is not idle. -/
def EndsInStep (path : String) : Prop :=
  ∃ front last, Path.segments path = front ++ [last] ∧ Path.isIdle last = false

theorem EndsInStep.ne_empty (h : EndsInStep path) : path ≠ "" := by
  rintro rfl
  obtain ⟨front, last, hsegments, hlast⟩ := h
  have hmem : last ∈ Path.segments "" := by simp [hsegments]
  obtain rfl : last = "" := List.mem_singleton.1 hmem
  cases hlast

end FileTree

namespace Volume

open FileTree

variable {v : Volume} {path path' : String}

theorem find_eq_of_endsInStep (h : EndsInStep path) (hshort : path.utf8ByteSize < pathLimit) :
    v.find path =
      if '\u0000' ∈ path.toList then .error .nulInPath
      else v.root.arrive (v.root.walk (v.start path) (Path.steps path)) := by
  obtain ⟨front, last, hsegments, hlast⟩ := id h
  rw [find_eq, if_neg h.ne_empty, if_neg (Nat.not_le.2 hshort), Path.steps, hsegments,
    walk_filter hlast]

/-- Paths that lead the same way lead to the same thing. -/
theorem find_eq_of_sameWay (h : Path.SameWay path path') (hpath : EndsInStep path)
    (hpath' : EndsInStep path') (hshort : path.utf8ByteSize < pathLimit)
    (hshort' : path'.utf8ByteSize < pathLimit) : v.find path = v.find path' := by
  rw [find_eq_of_endsInStep hpath hshort, find_eq_of_endsInStep hpath' hshort', start, start,
    h.isAbsolute_eq, h.steps_eq]
  simp only [h.nul_mem_iff]

theorem short_of_find {node : FileTree} (h : v.find path = .ok node) :
    path.utf8ByteSize < pathLimit := by
  rw [find_eq] at h
  split_ifs at h with hnul hempty hlong
  exact Nat.not_le.1 hlong

/-- The last segment of a path that leads to something is short enough for a name. -/
theorem fits_of_find {node : FileTree} {name : String} {front : List String}
    (h : v.find path = .ok node) (hsegments : Path.segments path = front ++ [name])
    (hname : Path.IsName name) : name.utf8ByteSize ≤ nameLimit := by
  obtain ⟨-, -, spot, hwalk, -⟩ := of_find_eq_ok h
  rw [hsegments, walk_append] at hwalk
  cases hfront : v.root.walk (v.start path) front with
  | error fault =>
      rw [hfront] at hwalk
      cases hwalk
  | ok before =>
      rw [hfront] at hwalk
      change v.root.walk before [name] = .ok spot at hwalk
      rw [walk_singleton] at hwalk
      obtain ⟨es, hbefore⟩ := exists_directory_of_walkStep hwalk
      rw [walkStep_name hname hbefore] at hwalk
      split at hwalk
      · cases hwalk
      · rename_i hfits
        exact Nat.not_lt.1 hfits

end Volume

end Narrative
