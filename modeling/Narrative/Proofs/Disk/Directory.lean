import Narrative.Disk.Tree
import Narrative.Proofs.Path

/-!
# Directories

In a directory of a volume a name leads to the entry of that name, and to nothing if there is none
(`find_join`).  So the disk of the volume sees the directory as it is (`sees_of_find`): it lists the
names, reads the files, and misses everything else.
-/

namespace Narrative

/-- A text that an entry of a directory can have as its name. -/
structure FileTree.IsEntryName (name : String) : Prop extends Path.IsName name where
  no_nul : '\u0000' ∉ name.toList
  fits : name.utf8ByteSize ≤ FileTree.nameLimit

/-- A disk sees a directory as it is: it lists the names, each once, reads the files, and misses
what has another name. -/
structure Disk.Sees (d : Disk) (base : String) (names : List String)
    (file? : String → Option ByteArray) : Prop where
  names_eq : d.names base = .ok names
  nodup : names.Nodup
  file : ∀ name bytes, FileTree.IsEntryName name → file? name = some bytes → name ∈ names ∧
    d.contents (Path.join base name) = .ok bytes ∧ d.kind (Path.join base name) = .ok .file
  missing : ∀ name, FileTree.IsEntryName name → name ∉ names →
    d.contents (Path.join base name) = .error .missing ∧
      d.kind (Path.join base name) = .error .missing

theorem Disk.text_of_contents {d : Disk} {path text : String}
    (h : d.contents path = .ok text.toUTF8) : d.text path = .ok text := by
  have hvalid : text.toUTF8.IsValidUTF8 := text.isValidUTF8
  have htext : String.fromUTF8? text.toUTF8 = some text := by
    rw [String.fromUTF8?, dif_pos hvalid]
    rfl
  simp only [Disk.text, h, bind, Except.bind, htext]
  rfl

theorem Disk.text_of_fault {d : Disk} {path : String} {fault : DiskFault}
    (h : d.contents path = .error fault) : d.text path = .error fault := by
  rw [Disk.text, h]
  rfl

theorem Disk.text_eq_ok_iff {d : Disk} {path text : String} :
    d.text path = .ok text ↔
      ∃ bytes, d.contents path = .ok bytes ∧ String.fromUTF8? bytes = some text := by
  cases hcontents : d.contents path with
  | error fault => simp [text_of_fault hcontents]
  | ok bytes =>
      simp only [Disk.text, hcontents, bind, Except.bind]
      cases htext : String.fromUTF8? bytes with
      | none => simp [htext, throw, throwThe, MonadExceptOf.throw]
      | some text' => simp [htext, pure, Except.pure]

theorem DiskEntry.names_map_named (names : List String) :
    DiskEntry.names (names.map .named) = .ok names := by
  induction names with
  | nil => rfl
  | cons name names ih =>
      rw [List.map_cons, DiskEntry.names, ih]
      rfl

namespace FileTree

variable {t node : FileTree} {es : Keyed FileTree} {spot next : Spot} {name segment : String}

/-! ## Walks -/

theorem node?_append (t : FileTree) (front back : List String) :
    t.node? (front ++ back) = (t.node? front).bind (·.node? back) := by
  induction front generalizing t with
  | nil => rfl
  | cons name front ih =>
      rw [List.cons_append, node?, node?, Option.bind_assoc]
      exact Option.bind_congr fun u _ => ih u

theorem walk_append (t : FileTree) (spot : Spot) (front back : List String) :
    t.walk spot (front ++ back) = t.walk spot front >>= fun spot => t.walk spot back := by
  induction front generalizing spot with
  | nil => rfl
  | cons segment front ih =>
      rw [List.cons_append, walk, walk, bind_assoc]
      exact bind_congr ih

theorem walk_singleton (t : FileTree) (spot : Spot) (segment : String) :
    t.walk spot [segment] = t.walkStep spot segment := by
  rw [walk]
  exact bind_pure _

theorem at?_cons (h : t.at? spot = some (.directory es)) (name : String) :
    t.at? (name :: spot) = es.get? name := by
  rw [at?] at h ⊢
  rw [List.reverse_cons, node?_append, h, Option.bind_some]
  simp [node?, entries]

/-- A walk goes on from directories only; elsewhere every segment fails alike. -/
theorem directory_or_fault (t : FileTree) (spot : Spot) :
    (∃ es, t.at? spot = some (.directory es)) ∨
      ∃ fault, ∀ segment, t.walkStep spot segment = .error fault := by
  cases hspot : t.at? spot with
  | none =>
      refine Or.inr ⟨.missing, fun segment => ?_⟩
      simp only [walkStep, hspot]
      rfl
  | some node =>
      cases node with
      | file bytes =>
          refine Or.inr ⟨.notDirectory, fun segment => ?_⟩
          simp only [walkStep, hspot]
          rfl
      | directory es => exact Or.inl ⟨es, rfl⟩

theorem exists_directory_of_walkStep (h : t.walkStep spot segment = .ok next) :
    ∃ es, t.at? spot = some (.directory es) := by
  rcases t.directory_or_fault spot with hspot | ⟨fault, hfault⟩
  · exact hspot
  · rw [hfault] at h
    cases h

theorem walkStep_of_isIdle (hidle : Path.isIdle segment = true)
    (hspot : t.at? spot = some (.directory es)) : t.walkStep spot segment = .ok spot := by
  simp only [walkStep, hspot, hidle, if_pos]
  rfl

/-- An empty segment at the end does not change where a walk ends. -/
theorem walk_of_walk_append_empty {front : List String}
    (h : t.walk spot (front ++ [""]) = .ok next) : t.walk spot front = .ok next := by
  rw [walk_append] at h
  cases hfront : t.walk spot front with
  | error fault =>
      rw [hfront] at h
      cases h
  | ok last =>
      rw [hfront] at h
      change t.walk last [""] = .ok next at h
      rw [walk_singleton] at h
      obtain ⟨es, hlast⟩ := exists_directory_of_walkStep h
      rwa [walkStep_of_isIdle (by decide) hlast] at h

/-- What is there, or the fault that nothing is. -/
def found (there : Option FileTree) : Except DiskFault FileTree :=
  match there with
  | some node => .ok node
  | none => .error .missing

theorem found_eq_ok_iff {there : Option FileTree} : found there = .ok node ↔ there = some node := by
  cases there <;> simp [found]

/-- What is at the end of a walk. -/
def arrive (t : FileTree) (walked : Except DiskFault Spot) : Except DiskFault FileTree := do
  found (t.at? (← walked))

theorem arrive_ok (t : FileTree) (spot : Spot) : t.arrive (.ok spot) = found (t.at? spot) := rfl

/-! ## Names in a directory -/

/-- What a name leads to among some entries. -/
def entry (es : Keyed FileTree) (name : String) : Except DiskFault FileTree :=
  if nameLimit < name.utf8ByteSize then .error .nameTooLong
  else found (es.get? name)

theorem walkStep_name (hname : Path.IsName name) (hspot : t.at? spot = some (.directory es)) :
    t.walkStep spot name =
      if nameLimit < name.utf8ByteSize then .error .nameTooLong
      else if (es.get? name).isSome then .ok (name :: spot) else .error .missing := by
  rw [← at?_cons hspot name]
  unfold walkStep
  rw [hspot]
  change (if Path.isIdle name = true then _ else if name = ".." then _ else _) = _
  rw [if_neg (by simp [hname.not_idle]), if_neg hname.not_up]
  rfl

theorem arrive_walkStep (hname : Path.IsName name) (hspot : t.at? spot = some (.directory es)) :
    t.arrive (t.walkStep spot name) = entry es name := by
  rw [walkStep_name hname hspot, entry]
  split
  · rfl
  · cases hthere : es.get? name with
    | none => rfl
    | some u =>
        change found (t.at? (name :: spot)) = _
        rw [at?_cons hspot name, hthere]

/-- The files among some entries. -/
def file? (es : Keyed FileTree) (name : String) : Option ByteArray :=
  match es.get? name with
  | some (.file bytes) => some bytes
  | _ => none

theorem get?_of_file? {bytes : ByteArray} (h : file? es name = some bytes) :
    es.get? name = some (.file bytes) := by
  unfold file? at h
  split at h
  · rename_i hentry
    rw [hentry, Option.some.inj h]
  · cases h

end FileTree

namespace Volume

open FileTree

variable {v : Volume} {node : FileTree} {es : Keyed FileTree} {base name path : String}

/-! ## Paths -/

theorem find_eq (v : Volume) (path : String) :
    v.find path =
      if '\u0000' ∈ path.toList then .error .nulInPath
      else if path = "" then .error .missing
      else if pathLimit ≤ path.utf8ByteSize then .error .nameTooLong
      else v.root.arrive (v.root.walk (v.start path) (Path.segments path)) :=
  rfl

theorem of_find_eq_ok (h : v.find path = .ok node) :
    '\u0000' ∉ path.toList ∧ path ≠ "" ∧
      ∃ spot, v.root.walk (v.start path) (Path.segments path) = .ok spot ∧
        v.root.at? spot = some node := by
  rw [find_eq] at h
  split_ifs at h with hnul hpath hlength
  refine ⟨hnul, hpath, ?_⟩
  cases hwalk : v.root.walk (v.start path) (Path.segments path) with
  | error fault =>
      rw [hwalk] at h
      cases h
  | ok spot =>
      rw [hwalk, arrive_ok, found_eq_ok_iff] at h
      exact ⟨spot, rfl, h⟩

/-- A name joined to a base is looked up in the directory that the base leads to. -/
theorem find_join (hbase : v.find base = .ok (.directory es)) (hname : Path.IsName name) :
    v.find (Path.join base name) =
      if '\u0000' ∈ name.toList then .error .nulInPath
      else if pathLimit ≤ (Path.join base name).utf8ByteSize then .error .nameTooLong
      else entry es name := by
  obtain ⟨hnul, hpath, spot, hwalk, hspot⟩ := of_find_eq_ok hbase
  have hslash := hname.no_slash
  have hmem : '\u0000' ∈ (Path.join base name).toList ↔ '\u0000' ∈ name.toList := by
    rw [Path.mem_join_iff hpath hslash (by decide)]
    exact or_iff_right hnul
  have hstart : v.start (Path.join base name) = v.start base := by
    rw [start, start, Path.isAbsolute_join hpath hslash]
  have hbefore : v.root.walk (v.start base) (Path.segments (Path.join base name)) =
      v.root.walkStep spot name := by
    obtain ⟨before, hjoin, hsegments⟩ := Path.exists_segments_join hpath hslash
    have hfront : v.root.walk (v.start base) before = .ok spot := by
      rcases hsegments with h | h <;> rw [h] at hwalk
      · exact hwalk
      · exact walk_of_walk_append_empty hwalk
    rw [hjoin, walk_append, hfront, ← walk_singleton]
    rfl
  rw [find_eq, hstart, hbefore, arrive_walkStep hname hspot,
    if_neg (Path.join_ne_empty hpath hslash)]
  simp only [hmem]

theorem get?_of_find_join (hbase : v.find base = .ok (.directory es)) (hname : Path.IsName name)
    (h : v.find (Path.join base name) = .ok node) : es.get? name = some node := by
  rw [find_join hbase hname, entry] at h
  split_ifs at h
  exact found_eq_ok_iff.1 h

/-! ## The disk of a volume -/

theorem names_disk (hbase : v.find base = .ok (.directory es)) :
    v.disk.names base = .ok es.keys := by
  have hentries : v.disk.entries base = .ok (es.keys.map .named) := by
    simp only [disk, hbase, Keyed.keys, List.map_map]
    rfl
  simp only [Disk.names, hentries, DiskEntry.names_map_named]
  rfl

theorem exists_find_of_kind {kind : DiskKind} (h : v.disk.kind path = .ok kind) :
    ∃ node, v.find path = .ok node := by
  cases hfind : v.find path with
  | ok node => exact ⟨node, rfl⟩
  | error fault =>
      simp only [disk, hfind] at h
      cases h

theorem contents_eq_ok_iff {bytes : ByteArray} :
    v.disk.contents path = .ok bytes ↔ v.find path = .ok (.file bytes) := by
  simp only [disk, bind, Except.bind]
  cases v.find path with
  | error fault => simp
  | ok node => cases node <;> simp [pure, Except.pure, throw, throwThe, MonadExceptOf.throw]

theorem text_eq_ok_iff {text : String} :
    v.disk.text path = .ok text ↔
      ∃ bytes, v.find path = .ok (.file bytes) ∧ String.fromUTF8? bytes = some text := by
  simp only [Disk.text_eq_ok_iff, contents_eq_ok_iff]

/-- The disk of a volume sees a directory of the volume as it is. -/
theorem sees_of_find (hbase : v.find base = .ok (.directory es)) (hkeys : es.keys.Nodup)
    (hlength : base.utf8ByteSize + 1 + nameLimit < pathLimit) :
    v.disk.Sees base es.keys (file? es) := by
  obtain ⟨hnul, hpath, -⟩ := of_find_eq_ok hbase
  have hfind : ∀ name, IsEntryName name →
      v.find (Path.join base name) = found (es.get? name) := by
    intro name hname
    have hshort := Path.utf8ByteSize_join_le hpath hname.no_slash
    have hfits := hname.fits
    rw [find_join hbase hname.toIsName, if_neg hname.no_nul, if_neg (by omega), entry,
      if_neg (Nat.not_lt.2 hfits)]
  refine ⟨names_disk hbase, hkeys, fun name bytes hname hfile => ?_,
    fun name hname hmissing => ?_⟩
  · have hentry := get?_of_file? hfile
    simp only [disk, hfind name hname, hentry]
    exact ⟨Keyed.mem_keys_of_get? hentry, rfl, rfl⟩
  · have hentry : es.get? name = none := by
      rw [← Option.not_isSome_iff_eq_none, Keyed.get?_isSome_iff]
      exact hmissing
    simp only [disk, hfind name hname, hentry]
    exact ⟨rfl, rfl⟩

end Volume

end Narrative
