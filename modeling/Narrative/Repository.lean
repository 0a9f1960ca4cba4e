import Narrative.Path
import Narrative.Script.Load

/-!
# Repositories

A repository knows scripts by id: the files of a directory, where the script `intro` is the file
`intro.json`, or sources in memory.
-/

namespace Narrative

/-- Why a repository has no answer. -/
inductive RepositoryError where
  | notFound (id : String)
  | unreadableScript (path : String) (fault : DiskFault)
  | uncheckedScript (id : String) (fault : DiskFault)
  | unreadableDirectory (path : String) (fault : ListingFault)
  | invalid (id : String) (error : LoadError)

/-- The error in words; the fault of the disk is told apart from it. -/
def RepositoryError.message : RepositoryError → String
  | .notFound id => "Script not found: " ++ id
  | .unreadableScript path _ => "IO error: Failed to read script file " ++ path
  | .uncheckedScript id _ => "IO error: Failed to check script '" ++ id ++ "'"
  | .unreadableDirectory path (.whole _) => "IO error: Failed to read directory " ++ path
  | .unreadableDirectory _ (.entry _) => "IO error: Failed to read directory entry"
  | .invalid id error => "Invalid script '" ++ id ++ "': " ++ error.message

/-- Scripts by id. -/
structure Repository where
  load : String → Logged (Except RepositoryError Script)
  has : String → Except RepositoryError Bool
  /-- The ids, in ascending order. -/
  ids : Except RepositoryError (List String)

namespace Repository

/-- The extension of script files. -/
def extension : String := "json"

/-- The path of a script in a directory. -/
def scriptPath (base id : String) : String := Path.join base (id ++ "." ++ extension)

/-- The id of the script in a file of that name, if it is a script file. -/
def idOf? (name : String) : Option String :=
  if Path.extension? name = some extension then Path.stem? name else none

/-- Ids in ascending order. -/
def sorted (ids : List String) : List String := ids.mergeSort fun a b => a ≤ b

/-- The script that a source holds. -/
def read (id source : String) : Logged (Except RepositoryError Script) :=
  (·.mapError (.invalid id)) <$> Script.ofText source

/-- The scripts in a directory. -/
def ofDirectory (disk : Disk) (base : String) : Repository where
  load id :=
    let path := scriptPath base id
    match disk.text path with
    | .ok source => do
      log .debug ("[Repository] loaded '" ++ id ++ "' from " ++ path)
      read id source
    | .error .missing => return .error (.notFound id)
    | .error fault => return .error (.unreadableScript path fault)
  has id :=
    match disk.kind (scriptPath base id) with
    | .ok _ => .ok true
    | .error .missing => .ok false
    | .error fault => .error (.uncheckedScript id fault)
  ids :=
    match disk.names base with
    | .ok names => .ok (sorted (names.filterMap idOf?))
    | .error fault => .error (.unreadableDirectory base fault)

/-- The scripts of some sources by id. -/
def ofSources (sources : Keyed String) : Repository where
  load id :=
    match sources.get? id with
    | some source => read id source
    | none => return .error (.notFound id)
  has id := .ok (sources.has id)
  ids := .ok (sorted sources.keys)

end Repository

end Narrative
