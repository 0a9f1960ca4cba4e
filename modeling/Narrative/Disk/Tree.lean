import Narrative.Disk.Basic
import Narrative.Keyed
import Narrative.Path

/-!
# File trees

Trees of files and directories, and the disks that they make.  Paths are walked segment by segment:
an absolute one from the root of a volume, any other from the working directory.  There are no
links, and everything may be read.
-/

namespace Narrative

/-- A file with its bytes, or a directory with its entries by name. -/
inductive FileTree where
  | file (bytes : ByteArray)
  | directory (entries : List (String × FileTree))

namespace FileTree

/-- The tree without any entry. -/
def empty : FileTree := .directory []

/-- The entries of a directory; a file has none. -/
def entries : FileTree → Keyed FileTree
  | .file _ => []
  | .directory es => es

/-- What kind of thing a tree is at its top. -/
def kind : FileTree → DiskKind
  | .file _ => .file
  | .directory _ => .directory

/-- What is under some names, one inside the other. -/
def node? (t : FileTree) : List String → Option FileTree
  | [] => some t
  | name :: names => (t.entries.get? name).bind (·.node? names)

/-- Puts a file under some names; directories on the way are made. -/
def putFile (t : FileTree) (bytes : ByteArray) : List String → FileTree
  | [] => .file bytes
  | name :: names =>
    .directory (t.entries.put name (((t.entries.get? name).getD empty).putFile bytes names))

/-- Makes directories of some names, one inside the other, where there are none. -/
def makeDirectory (t : FileTree) : List String → FileTree
  | [] => .directory t.entries
  | name :: names =>
    .directory (t.entries.put name (((t.entries.get? name).getD empty).makeDirectory names))

/-- Where a walk stands: the names that lead there, last first. -/
abbrev Spot := List String

/-- What is at a spot. -/
def at? (t : FileTree) (spot : Spot) : Option FileTree := t.node? spot.reverse

/-- How long a name may be, in bytes. -/
def nameLimit : Nat := 255

/-- How long a path has to be, in bytes, to be too long. -/
def pathLimit : Nat := 4096

/-- Goes on from a directory by one segment; the top of the tree is above itself. -/
def walkStep (t : FileTree) (spot : Spot) (segment : String) : Except DiskFault Spot := do
  match t.at? spot with
  | none => throw .missing
  | some (.file _) => throw .notDirectory
  | some (.directory _) =>
    if Path.isIdle segment then return spot
    else if segment = ".." then return spot.tail
    else if nameLimit < segment.utf8ByteSize then throw .nameTooLong
    else if (t.at? (segment :: spot)).isSome then return segment :: spot
    else throw .missing

/-- Walks some segments. -/
def walk (t : FileTree) (spot : Spot) : List String → Except DiskFault Spot
  | [] => return spot
  | segment :: segments => do (t.walk (← t.walkStep spot segment) segments)

end FileTree

/-- A tree of files in which a program works.  Its working directory is given by the names that
lead there; if nothing is there any more, a path that does not start at the root leads nowhere. -/
structure Volume where
  root : FileTree
  directory : List String

namespace Volume

/-- Where a path starts to be walked. -/
def start (v : Volume) (path : String) : FileTree.Spot :=
  if Path.isAbsolute path then [] else v.directory.reverse

/-- What a path leads to. -/
def find (v : Volume) (path : String) : Except DiskFault FileTree :=
  if '\u0000' ∈ path.toList then .error .nulInPath
  else if path = "" then .error .missing
  else if FileTree.pathLimit ≤ path.utf8ByteSize then .error .nameTooLong
  else do
    match v.root.at? (← v.root.walk (v.start path) (Path.segments path)) with
    | some node => return node
    | none => throw .missing

/-- The disk that a volume makes. -/
def disk (v : Volume) : Disk where
  contents path := do
    match ← v.find path with
    | .file bytes => return bytes
    | .directory _ => throw .isDirectory
  kind path := (v.find path).map FileTree.kind
  entries path := do
    match ← v.find path with
    | .file _ => throw .notDirectory
    | .directory es => return es.map fun e => .named e.1

end Volume

namespace FileTree

/-- The volume on which a tree is the working directory, and nothing is beside it. -/
def volume (t : FileTree) : Volume := ⟨.directory [("work", t)], ["work"]⟩

/-- The disk of a tree that is the working directory. -/
def disk (t : FileTree) : Disk := t.volume.disk

end FileTree

end Narrative
