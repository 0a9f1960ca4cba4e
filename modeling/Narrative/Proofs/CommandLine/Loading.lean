import Narrative.CommandLine.Basic
import Narrative.Proofs.Disk.Way
import Narrative.Proofs.Player.Bound
import Narrative.Proofs.Repository.Listing

/-!
# Loading from a repository or from the file

A script with the extension of scripts is loaded from the repository that its directory is.  The
path that the repository makes of the directory and the id leads to the same file as the path that
was given (`find_scriptPath_iff`), so that it does not matter for the script how it is loaded
(`ofFile_iff_loadScript`).  Only a path that is too long for the disk is another matter: the
repository may well find a shorter one (`loads_beyond_limit`).
-/

namespace Narrative.CommandLine

variable {v : Volume} {path base id : String}

/-! ## The two paths -/

theorem name?_of_repositoryPath? (h : repositoryPath? path = some (base, id)) :
    base = Path.directory path ∧ Path.name? path = some (Repository.fileName id) := by
  rw [repositoryPath?] at h
  split at h
  · rename_i hextension
    cases hname : Path.name? path with
    | none => simp [Path.stem?, hname] at h
    | some name =>
        simp only [Path.extension?, Path.stem?, hname, Option.bind_some, Option.map_some]
          at hextension h
        obtain ⟨hbase, hid⟩ := Prod.mk.inj (Option.some.inj h)
        obtain ⟨rfl, -⟩ := Path.eq_of_splitName (Prod.ext hid hextension)
        exact ⟨hbase.symm, rfl⟩
  · cases h

/-- What a path leads to has a short path in the repository, too: that is longer than the path only
by a dot and a slash in front of a name. -/
theorem scriptPath_short {node : FileTree} {front : List String} {name : String}
    (hfind : v.find path = .ok node) (hname : Path.name? path = some name)
    (hsegments : Path.segments path = front ++ [name]) :
    (Path.join (Path.directory path) name).utf8ByteSize < FileTree.pathLimit := by
  obtain ⟨hisName, hparts⟩ := Path.parts_of_name? hname
  have hshort := Volume.short_of_find hfind
  rcases hparts with ⟨before, hparts⟩ | ⟨hparts, -⟩
  · exact Nat.lt_of_le_of_lt (Path.utf8ByteSize_join_directory_le hparts hisName) hshort
  · have hfits := Volume.fits_of_find hfind hsegments hisName
    have hbase : "." ≠ "" := by decide
    have hjoin := Path.utf8ByteSize_join_le hbase hisName.no_slash
    have hdot : ".".utf8ByteSize = 1 := rfl
    rw [Path.directory_of_parts_nil hparts]
    simp only [FileTree.nameLimit, FileTree.pathLimit] at hfits ⊢
    omega

/-- The path that the repository makes leads to the same as the path that was given, if that is not
too long. -/
theorem find_scriptPath_iff (hslash : ¬['/'] <:+ path.toList) (hdot : ¬['/', '.'] <:+ path.toList)
    (h : repositoryPath? path = some (base, id)) (node : FileTree) :
    v.find path = .ok node ↔
      v.find (Repository.scriptPath base id) = .ok node ∧
        path.utf8ByteSize < FileTree.pathLimit := by
  obtain ⟨rfl, hname⟩ := name?_of_repositoryPath? h
  obtain ⟨hisName, -⟩ := Path.parts_of_name? hname
  obtain ⟨front, hsegments⟩ := Path.exists_segments_of_ends hname hslash hdot
  obtain ⟨before, hjoin, -⟩ :=
    Path.exists_segments_join (Path.directory_ne_empty path) hisName.no_slash
  have hway := Path.sameWay_join_directory hname
  have hends : FileTree.EndsInStep path := ⟨front, _, hsegments, hisName.not_idle⟩
  have hends' : FileTree.EndsInStep (Repository.scriptPath (Path.directory path) id) :=
    ⟨before, _, hjoin, hisName.not_idle⟩
  constructor
  · intro hfind
    have hshort := Volume.short_of_find hfind
    have hshort' := scriptPath_short hfind hname hsegments
    exact ⟨by rw [← hfind, ← Volume.find_eq_of_sameWay hway hends' hends hshort' hshort]; rfl,
      hshort⟩
  · rintro ⟨hfind, hshort⟩
    have hshort' := Volume.short_of_find hfind
    rw [← hfind, ← Volume.find_eq_of_sameWay hway hends' hends hshort' hshort]
    rfl

/-! ## The script -/

theorem value_ofFile_eq_ok_iff {s : Script} :
    (Script.ofFile v.disk path).value = .ok s ↔
      ∃ source, v.disk.text path = .ok source ∧ (Script.ofText source).value = .ok s := by
  cases htext : v.disk.text path with
  | ok source => simp [Script.ofFile, htext]
  | error fault => simp [Script.ofFile, htext]

theorem value_loadScript_of_none (h : repositoryPath? path = none) {s : Script} :
    (loadScript v.disk path).value = .ok s ↔ (Script.ofFile v.disk path).value = .ok s := by
  rw [loadScript, h]
  exact Repository.mapError_eq_ok_iff

theorem value_loadScript_of_some (h : repositoryPath? path = some (base, id)) {s : Script} :
    (loadScript v.disk path).value = .ok s ↔
      ((Repository.ofDirectory v.disk base).load id).value = .ok s := by
  rw [loadScript, h]
  exact Repository.mapError_eq_ok_iff

/-- A path that ends neither with a slash nor with a slash and a dot gives a script when it is read
itself just if it gives this script when it is loaded, and is not too long for the disk; and where
it is taken apart, directory and id lead to the same file. -/
theorem ofFile_iff_loadScript (v : Volume) (path : String) (hslash : ¬['/'] <:+ path.toList)
    (hdot : ¬['/', '.'] <:+ path.toList) :
    (∀ s, (Script.ofFile v.disk path).value = .ok s ↔
      (loadScript v.disk path).value = .ok s ∧ path.utf8ByteSize < FileTree.pathLimit) ∧
    ∀ base id node, repositoryPath? path = some (base, id) →
      (v.find path = .ok node ↔
        v.find (Repository.scriptPath base id) = .ok node ∧
          path.utf8ByteSize < FileTree.pathLimit) := by
  refine ⟨fun s => ?_, fun base id node h => find_scriptPath_iff hslash hdot h node⟩
  have hshort (h : (Script.ofFile v.disk path).value = .ok s) :
      path.utf8ByteSize < FileTree.pathLimit := by
    obtain ⟨source, htext, -⟩ := value_ofFile_eq_ok_iff.1 h
    obtain ⟨bytes, hfind, -⟩ := Volume.text_eq_ok_iff.1 htext
    exact Volume.short_of_find hfind
  cases hpath : repositoryPath? path with
  | none =>
      rw [value_loadScript_of_none hpath]
      exact ⟨fun h => ⟨h, hshort h⟩, fun h => h.1⟩
  | some place =>
      obtain ⟨base, id⟩ := place
      have htext (source : String) : v.disk.text path = .ok source ↔
          v.disk.text (Repository.scriptPath base id) = .ok source ∧
            path.utf8ByteSize < FileTree.pathLimit := by
        simp only [Volume.text_eq_ok_iff, find_scriptPath_iff hslash hdot hpath]
        exact ⟨fun ⟨bytes, hfind, h⟩ => ⟨⟨bytes, hfind.1, h⟩, hfind.2⟩,
          fun ⟨⟨bytes, hfind, h⟩, hlimit⟩ => ⟨bytes, ⟨hfind, hlimit⟩, h⟩⟩
      rw [value_loadScript_of_some hpath, value_ofFile_eq_ok_iff,
        Repository.value_load_eq_ok_iff]
      simp only [htext]
      exact ⟨fun ⟨source, h, hs⟩ => ⟨⟨source, h.1, hs⟩, h.2⟩,
        fun ⟨⟨source, h, hs⟩, hlimit⟩ => ⟨source, ⟨h, hlimit⟩, hs⟩⟩

/-- A home with a directory of scripts.  There is one in it, and that is empty. -/
def shelf : Volume where
  root := .directory
    [("home", .directory [("plays", .directory [("intro.json", .file "\x7b\x7d".toUTF8)])])]
  directory := ["home"]

theorem ofFile_iff_loadScript_shelf :
    let path := "/home/./plays/../plays//intro.json"
    let base := "/home/./plays/../plays"
    ¬['/'] <:+ path.toList ∧ ¬['/', '.'] <:+ path.toList ∧
      repositoryPath? path = some (base, "intro") ∧
      (loadScript shelf.disk path).value = .ok (.ofEntries []) ∧
      (Script.ofFile shelf.disk path).value = .ok (.ofEntries []) ∧
      ∃ node, shelf.find path = .ok node ∧
        shelf.find (Repository.scriptPath base "intro") = .ok node := by
  intro path base
  have hslash : ¬['/'] <:+ path.toList := by decide
  have hdot : ¬['/', '.'] <:+ path.toList := by decide
  have hparts : repositoryPath? path = some (base, "intro") := by decide +kernel
  have hshort : path.utf8ByteSize < FileTree.pathLimit := by decide +kernel
  have hload : (loadScript shelf.disk path).value = .ok (.ofEntries []) :=
    Player.eq_ok_of_toOption (by decide +kernel)
  obtain ⟨hagree, hsame⟩ := ofFile_iff_loadScript shelf path hslash hdot
  have hthere : (shelf.find (Repository.scriptPath base "intro")).toOption.isSome = true := by
    decide +kernel
  obtain ⟨node, hnode⟩ := Option.isSome_iff_exists.1 hthere
  have hfind := Player.eq_ok_of_toOption hnode
  exact ⟨hslash, hdot, hparts, hload, (hagree _).2 ⟨hload, hshort⟩, node,
    (hsame _ _ _ hparts).2 ⟨hfind, hshort⟩, hfind⟩

/-! ## Beyond the limit -/

theorem length_le_utf8ByteSize_ofSegments (pieces : List String) :
    pieces.length ≤ (Path.ofSegments pieces).utf8ByteSize + 1 := by
  induction pieces with
  | nil => exact Nat.zero_le _
  | cons piece pieces ih =>
      by_cases hrest : pieces = []
      · simp [hrest]
      · have hslash : "/".utf8ByteSize = 1 := rfl
        rw [Path.ofSegments, String.intercalate_cons_of_ne_nil hrest, String.utf8ByteSize_append,
          String.utf8ByteSize_append, List.length_cons, hslash]
        rw [Path.ofSegments] at ih
        omega

/-- The path of the script with `n` empty segments in front of its name. -/
def slashed (n : Nat) : String :=
  Path.ofSegments ("plays" :: (List.replicate n "" ++ ["intro.json"]))

theorem segments_slashed (n : Nat) :
    Path.segments (slashed n) = "plays" :: (List.replicate n "" ++ ["intro.json"]) := by
  refine Path.segments_ofSegments (List.cons_ne_nil _ _) fun piece hpiece => ?_
  rw [List.mem_cons, List.mem_append, List.mem_singleton] at hpiece
  rcases hpiece with rfl | hempty | rfl
  · decide
  · rw [List.eq_of_mem_replicate hempty]
    decide
  · decide

theorem parts_slashed (n : Nat) :
    Path.parts (slashed n) = ("plays", "intro.json" :: List.replicate n "") := by
  have hname : Path.isIdle "intro.json" = false := by decide
  rw [Path.parts, segments_slashed]
  simp [hname]

theorem repositoryPath?_slashed (n : Nat) :
    repositoryPath? (slashed n) = some ("plays", "intro") := by
  have hname : Path.name? (slashed n) = some "intro.json" := by
    rw [Path.name?, parts_slashed]
    rfl
  have hsplit : Path.splitName "intro.json" = ("intro", some "json") := by decide +kernel
  have hdirectory : Path.directory (slashed n) = "plays" := by
    have hidle : (List.replicate n "").dropWhile Path.isIdle = [] := by simp [Path.isIdle]
    rw [Path.directory_of_parts (congrArg Prod.snd (parts_slashed n)), parts_slashed, hidle]
    rfl
  rw [repositoryPath?, Path.extension?, Path.stem?, hname, Option.bind_some, Option.map_some,
    hsplit]
  exact congrArg (fun base => some (base, "intro")) hdirectory

theorem getLast?_slashed (n : Nat) : (slashed n).toList.getLast? = some 'n' := by
  have hpath : slashed n =
      Path.ofSegments ("plays" :: List.replicate n "") ++ "/" ++ "intro.json" :=
    Path.ofSegments_append (List.cons_ne_nil _ _) (List.cons_ne_nil "intro.json" [])
  rw [hpath]
  simp

theorem lt_utf8ByteSize_slashed (n : Nat) : n < (slashed n).utf8ByteSize := by
  have hlength :=
    length_le_utf8ByteSize_ofSegments ("plays" :: (List.replicate n "" ++ ["intro.json"]))
  rw [List.length_cons, List.length_append, List.length_replicate, List.length_singleton] at hlength
  rw [slashed]
  omega

/-- A script is loaded under a path that is too long to be read. -/
theorem loads_beyond_limit :
    let path := slashed 4095
    ¬['/'] <:+ path.toList ∧ ¬['/', '.'] <:+ path.toList ∧
      (loadScript shelf.disk path).value = .ok (.ofEntries []) ∧
      ∀ s, (Script.ofFile shelf.disk path).value ≠ .ok s := by
  intro path
  have hends (c : Char) (front : List Char) (hc : c ≠ 'n') : ¬(front ++ [c]) <:+ path.toList := by
    rintro ⟨before, hbefore⟩
    have hlast : path.toList.getLast? = some 'n' := getLast?_slashed 4095
    rw [← hbefore, ← List.append_assoc, List.getLast?_concat] at hlast
    exact hc (Option.some.inj hlast)
  have hload : ((Repository.ofDirectory shelf.disk "plays").load "intro").value =
      .ok (.ofEntries []) := Player.eq_ok_of_toOption (by decide +kernel)
  refine ⟨hends '/' [] (by decide), hends '.' ['/'] (by decide),
    (value_loadScript_of_some (repositoryPath?_slashed 4095)).2 hload, fun s hs => ?_⟩
  obtain ⟨source, htext, -⟩ := value_ofFile_eq_ok_iff.1 hs
  obtain ⟨bytes, hfind, -⟩ := Volume.text_eq_ok_iff.1 htext
  have hshort : path.utf8ByteSize < 4096 := Volume.short_of_find hfind
  have hlong : 4095 < path.utf8ByteSize := lt_utf8ByteSize_slashed 4095
  omega

end Narrative.CommandLine
