import Narrative.Disk.Basic
import Narrative.Keyed

/-!
# Recorded answers

A disk that knows the answers for some paths, taken down beforehand.
-/

namespace Narrative

/-- What a disk answers about one path. -/
structure DiskAnswers where
  contents : Except DiskFault ByteArray
  kind : Except DiskFault DiskKind
  entries : Except DiskFault (List DiskEntry)

/-- Nothing is there. -/
def DiskAnswers.missing : DiskAnswers := ⟨.error .missing, .error .missing, .error .missing⟩

/-- The disk of some recorded answers; nothing else is there. -/
def Disk.ofAnswers (answers : Keyed DiskAnswers) : Disk :=
  let find (path : String) := (answers.get? path).getD .missing
  { contents := fun path => (find path).contents
    kind := fun path => (find path).kind
    entries := fun path => (find path).entries }

end Narrative
