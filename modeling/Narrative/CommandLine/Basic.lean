import Narrative.CommandLine.Options
import Narrative.Config.OfText
import Narrative.Repository
import Narrative.Script.Check
import Narrative.Session.Basic

/-!
# The command line

Three commands: play a script, check a script, list the scripts of a directory.
-/

namespace Narrative.CommandLine

/-- The lines that explain how the program is used. -/
def usage : List String :=
  ["shiori - Visual Novel Event Script Player",
    "",
    "USAGE:",
    "    shiori <command> [options]",
    "",
    "COMMANDS:",
    "    play <script.json>    Play a script in the terminal",
    "    check <script.json>   Report broken links and unreachable events",
    "    list <dir>            List scripts in a directory",
    "    --help, -h            Show this help message",
    "",
    "OPTIONS:",
    "    --assets <dir>     Directory asset paths are relative to",
    "    --config <file>    JSON player configuration",
    "    --debug            Show interpreter state after every step",
    "",
    "ENVIRONMENT:",
    "    SHIORI_ASSET_ROOT, SHIORI_LOG, SHIORI_DEBUG"]

/-- Why a script could not be loaded. -/
inductive ScriptError where
  | fromRepository (error : RepositoryError)
  | fromFile (error : LoadError)

/-- Why a command stops. -/
inductive Error where
  | usage (error : UsageError)
  | config (error : ConfigError)
  | script (path : String) (error : ScriptError)
  | repository (error : RepositoryError)
  | session (failure : Session.Failure)

/-- Why a script cannot be read, in words, and behind it the fault of the disk if that is why. -/
def loadChain (e : LoadError) : List String :=
  e.message ::
    match e with
    | .notJson _ => []
    | .unreadable _ fault => [fault.message]

/-- Why a repository has no answer, in words, and behind it the fault of the disk or what is wrong
with the source of the script. -/
def repositoryChain (e : RepositoryError) : List String :=
  e.message ::
    match e with
    | .notFound _ => []
    | .unreadableScript _ fault | .uncheckedScript _ fault => [fault.message]
    | .unreadableDirectory _ fault => [fault.cause.message]
    | .invalid _ error => loadChain error

/-- Why there are no settings, in words, and behind it the fault of the disk or what is wrong with
the text of the file. -/
def configChain (e : ConfigError) : List String :=
  e.message ::
    match e with
    | .unreadable _ fault => [fault.message]
    | .notConfig _ refusal => [refusal.message]
    | .invalidValue .. => []

/-- Why a command stops, in words, and in turn what caused it; a script is named in front of the
reason for which it could not be loaded. -/
def Error.chain : Error → List String
  | .usage error => [error.message]
  | .config error => configChain error
  | .script path error =>
    ("Failed to load script '" ++ path ++ "'") ::
      match error with
      | .fromRepository error => repositoryChain error
      | .fromFile error => loadChain error
  | .repository error => repositoryChain error
  | .session failure => [failure.message]

/-- The line that shows an error. -/
def Error.render (e : Error) : String := "Error: " ++ ": ".intercalate e.chain

/-- The settings: a flag stands over a variable, a variable over the file, the file over the
default. -/
def loadConfig (disk : Disk) (env : Environment) (o : Options) : Except ConfigError Config := do
  let base ←
    match o.config with
    | some path => Config.ofFile disk path
    | none => pure {}
  let c ← base.override env
  return { c with assetRoot := o.assets.getD c.assetRoot, debug := o.debug || c.debug }

/-- The directory and the id of a script file that a repository knows. -/
def repositoryPath? (path : String) : Option (String × String) :=
  if Path.extension? path = some Repository.extension then
    (Path.stem? path).map fun id =>
      let parent := (Path.parent? path).getD ""
      (if parent = "" then "." else parent, id)
  else none

/-- The script under a path: from the repository that it is in, or from the file. -/
def loadScript (disk : Disk) (path : String) : Logged (Except ScriptError Script) :=
  match repositoryPath? path with
  | some (base, id) =>
    (·.mapError .fromRepository) <$> (Repository.ofDirectory disk base).load id
  | none => (·.mapError .fromFile) <$> Script.ofFile disk path

/-- What a program run comes to. -/
structure Exit where
  code : UInt32
  output : List String := []
  errors : List String := []

/-- What the arguments come to before anything is played: an exit, or a script to play. -/
inductive Plan where
  | exit (e : Exit)
  | play (config : Config) (script : Script)

/-- The exit of a command that stops. -/
def Plan.stop (e : Error) : Plan := .exit ⟨1, [], [e.render]⟩

/-- The commands that take options. -/
inductive Command where
  | play
  | check
  | list
  deriving DecidableEq

/-- The word that calls a command. -/
def Command.name : Command → String
  | .play => "play"
  | .check => "check"
  | .list => "list"

/-- The command that a word calls. -/
def Command.ofName? (name : String) : Option Command :=
  [Command.play, .check, .list].find? fun c => c.name = name

/-- What a command comes to. -/
def Command.plan (c : Command) (disk : Disk) (env : Environment) (args : List String) :
    Logged Plan :=
  match Options.read args with
  | .error e => return .stop (.usage e)
  | .ok options =>
    match loadConfig disk env options with
    | .error e => return .stop (.config e)
    | .ok config =>
      match options.target with
      | none => return .stop (.usage (.noTarget c.name))
      | some target =>
        match c with
        | .list =>
          match (Repository.ofDirectory disk target).ids with
          | .ok ids => return .exit ⟨0, ids, []⟩
          | .error e => return .stop (.repository e)
        | .play => do
          match ← loadScript disk target with
          | .ok script => return .play config script
          | .error e => return .stop (.script target e)
        | .check => do
          match ← loadScript disk target with
          | .ok script =>
            let report := script.report
            return .exit ⟨if report.isValid then 0 else 1, report.lines script.size, []⟩
          | .error e => return .stop (.script target e)

/-- What the arguments come to. -/
def plan (disk : Disk) (env : Environment) : List String → Logged Plan
  | [] => return .exit ⟨1, usage, []⟩
  | name :: args =>
    match Command.ofName? name with
    | some c => c.plan disk env args
    | none =>
      if name = "--help" ∨ name = "-h" then return .exit ⟨0, usage, []⟩
      else return .exit ⟨1, usage, ["Error: Unknown command '" ++ name ++ "'", ""]⟩

/-- The exit code of a session. -/
def exitCode : Except Session.Failure Ending → UInt32
  | .ok .completed | .ok .cancelled => 0
  | .ok .scriptError | .error _ => 1

/-- What a session writes to the error channel at its end. -/
def sessionErrors : Except Session.Failure Ending → List String
  | .ok _ => []
  | .error failure => [(Error.session failure).render]

/-- The device and the player of a script, with assets under the root of the settings. -/
def media (disk : Disk) (config : Config) : Media Console :=
  Console.media disk (Path.join config.assetRoot)

/-- Runs the program on all of its input. -/
def run (disk : Disk) (env : Environment) (args : List String) (inputs : List Session.Input) :
    UInt32 × String × String :=
  match (plan disk env args).value with
  | .exit e => (e.code, Session.onLines e.output, Session.onLines e.errors)
  | .play config script =>
    let outcome :=
      (Session.play (media disk config) config.debug inputs (.ofScript script {})).value
    (exitCode outcome.result, Session.render outcome.pieces,
      Session.onLines (sessionErrors outcome.result))

end Narrative.CommandLine
