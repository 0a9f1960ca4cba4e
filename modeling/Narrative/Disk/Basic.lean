import Narrative.Disk.Fault

/-!
# Disks

A disk answers three questions about a path: what is in the file, what kind of thing it is, and
what is in the directory.
-/

namespace Narrative

/-- What a path can lead to. -/
inductive DiskKind where
  | file
  | directory
  deriving DecidableEq

/-- What a disk tells of one entry of a directory. -/
inductive DiskEntry where
  | named (name : String)
  /-- The name is not UTF-8. -/
  | unnamed
  /-- The disk fails at this entry. -/
  | faulty (fault : DiskFault)
  deriving DecidableEq

/-- Answers about paths.  They do not change while the program runs. -/
structure Disk where
  contents : String → Except DiskFault ByteArray
  kind : String → Except DiskFault DiskKind
  /-- The entries of a directory, in no order that matters but for those that are faulty. -/
  entries : String → Except DiskFault (List DiskEntry)

/-- Why a directory cannot be listed. -/
inductive ListingFault where
  /-- The directory is refused as a whole. -/
  | whole (fault : DiskFault)
  /-- The directory is there, but the disk fails at one of its entries. -/
  | entry (fault : DiskFault)
  deriving DecidableEq

/-- The fault of the disk. -/
def ListingFault.cause : ListingFault → DiskFault
  | .whole fault | .entry fault => fault

/-- The names that are texts; the first faulty entry ends the reading. -/
def DiskEntry.names : List DiskEntry → Except DiskFault (List String)
  | [] => .ok []
  | .named name :: entries => (names entries).map (name :: ·)
  | .unnamed :: entries => names entries
  | .faulty fault :: _ => .error fault

namespace Disk

/-- The text of a file. -/
def text (d : Disk) (path : String) : Except DiskFault String := do
  match String.fromUTF8? (← d.contents path) with
  | some text => return text
  | none => throw .notText

/-- The names in a directory; those that are no texts are passed over. -/
def names (d : Disk) (path : String) : Except ListingFault (List String) :=
  match d.entries path with
  | .ok entries => (DiskEntry.names entries).mapError .entry
  | .error fault => .error (.whole fault)

end Disk

end Narrative
