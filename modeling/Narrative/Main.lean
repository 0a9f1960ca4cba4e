import Narrative.CommandLine.Paths
import Narrative.Disk.Answers

/-!
# The program

The command line on a real disk and a real console.  What the program may look at on the disk is
taken down first; everything else is decided by the library.
-/

namespace Narrative.Main

/-- The fault of a system error number, which some calls negate. -/
def numberedFault (e : IO.Error) (number : UInt32) : DiskFault :=
  if number = 20 ∨ number = 0 - 20 then .notDirectory
  else if number = 21 ∨ number = 0 - 21 then .isDirectory
  else if number = 36 ∨ number = 0 - 36 then .nameTooLong
  else .other (toString e)

/-- The fault that a system error stands for. -/
def fault (e : IO.Error) : DiskFault :=
  match e with
  | .noFileOrDirectory .. => .missing
  | .inappropriateType _ number _ | .invalidArgument _ number _ => numberedFault e number
  | e => .other (toString e)

/-- The result of an action, or the fault for which it failed. -/
def attempt {α : Type} (action : IO α) : IO (Except DiskFault α) := do
  try return .ok (← action) catch e => return .error (fault e)

/-- Takes down what the disk answers about a path. -/
def answers (path : String) : IO DiskAnswers := do
  if path = "" then return .missing
  let place := (← IO.currentDir) / path
  let kind ← attempt do
    match (← place.metadata).type with
    | .file => return .file
    | _ => return .directory
  let entries ← attempt do
    return (← place.readDir).toList.map fun entry => .named entry.fileName
  return ⟨← attempt (IO.FS.readBinFile place), kind, entries⟩

/-- The disk as far as some paths go. -/
def disk (paths : List String) : IO Disk := do
  return .ofAnswers (← paths.mapM fun path => return (path, ← answers path))

/-- The variables of the environment that matter. -/
def environment : IO Environment := do
  let names := [Config.assetRootVariable, Config.logFilterVariable, Config.debugVariable]
  let values ← names.mapM fun name => return (name, ← IO.getEnv name)
  return fun name => (values.lookup name).join

/-- Writes at once. -/
def write (pieces : List Session.Piece) : IO Unit := do
  let out ← IO.getStdout
  out.putStr (Session.render pieces)
  out.flush

/-- Takes a line of input; there is none at the end of the input. -/
partial def readLine (input : IO.FS.Stream) (taken : ByteArray) : IO (Option Session.Input) := do
  let next ← input.read 1
  let taken := taken ++ next
  if next.isEmpty ∨ next.toList = [10] then
    return if taken.isEmpty then none else some (String.fromUTF8? taken)
  else readLine input taken

/-- Talks to the person at the console until the run ends. -/
partial def converse (m : Media Console) (debug : Bool) (p : Player Console) :
    IO Session.Outcome := do
  if p.position.isTerminated then return Session.close p
  write (Session.view debug p)
  match ← readLine (← IO.getStdin) .empty with
  | none => return (Session.giveUp m p).value
  | some none => return ⟨.error .notText, [], p⟩
  | some (some line) =>
    let (piece, p) := (Session.respond m line p).value
    write [piece]
    converse m debug p

/-- Plays a script. -/
def play (config : Config) (script : Script) : IO UInt32 := do
  let m := CommandLine.media (← disk (CommandLine.assetPaths config script)) config
  write [Session.banner]
  let outcome ←
    match (Player.step m .start (.ofScript script {})).value with
    | (.error e, p) => pure ⟨.error (.refused e), [], p⟩
    | (.ok progress, p) =>
      let (piece, p) := Session.report progress p
      write [piece]
      converse m config.debug p
  write outcome.pieces
  IO.eprint (Session.onLines (CommandLine.sessionErrors outcome.result))
  return CommandLine.exitCode outcome.result

end Narrative.Main

/-- The program: its arguments, without its own name. -/
def main (args : List String) : IO UInt32 := do
  let disk ← Narrative.Main.disk (Narrative.CommandLine.paths args)
  let environment ← Narrative.Main.environment
  match (Narrative.CommandLine.plan disk environment args).value with
  | .play config script => Narrative.Main.play config script
  | .exit e =>
    IO.eprint (Narrative.Session.onLines e.errors)
    IO.print (Narrative.Session.onLines e.output)
    return e.code
