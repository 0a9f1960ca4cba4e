import Narrative.Disk.Fault
import Narrative.Json.Refusal
import Narrative.Text.Blank

/-!
# Settings of the player

Each setting has a default, may stand in a file and may be overridden by a variable of the
environment.
-/

namespace Narrative

/-- The settings of the console player. -/
structure Config where
  /-- The directory that relative asset paths are seen from. -/
  assetRoot : String := "."
  /-- Which log lines are wanted. -/
  logFilter : String := "warn"
  /-- Whether the state of the run is shown after every step. -/
  debug : Bool := false
  deriving DecidableEq

/-- Why there are no settings. -/
inductive ConfigError where
  | unreadable (path : String) (fault : DiskFault)
  | notConfig (path : String) (refusal : Json.Refusal)
  | invalidValue (name value : String)

/-- The error in words. -/
def ConfigError.message : ConfigError → String
  | .unreadable path fault => "cannot read config file " ++ path ++ ": " ++ fault.message
  | .notConfig path refusal => "invalid config file " ++ path ++ ": " ++ refusal.message
  | .invalidValue name value => "invalid value '" ++ value ++ "' for " ++ name

/-- The variables of the environment by name. -/
abbrev Environment := String → Option String

namespace Config

/-- The variable for the directory of assets. -/
def assetRootVariable : String := "SHIORI_ASSET_ROOT"

/-- The variable for the wanted log lines. -/
def logFilterVariable : String := "SHIORI_LOG"

/-- The variable for showing the state of the run. -/
def debugVariable : String := "SHIORI_DEBUG"

/-- A flag in words. -/
def flag? (value : String) : Option Bool :=
  let word := String.ofList ((Text.trim value).toList.map Char.toLower)
  if word ∈ ["1", "true", "yes", "on"] then some true
  else if word ∈ ["", "0", "false", "no", "off"] then some false
  else none

/-- The value of a variable, unless it is empty. -/
def nonEmpty? (value : Option String) : Option String := value.filter (· ≠ "")

/-- The settings where a variable stands for each that it is set for. -/
def override (c : Config) (env : Environment) : Except ConfigError Config :=
  let c := { c with
    assetRoot := (nonEmpty? (env assetRootVariable)).getD c.assetRoot
    logFilter := (nonEmpty? (env logFilterVariable)).getD c.logFilter }
  match env debugVariable with
  | none => .ok c
  | some value =>
    match flag? value with
    | some debug => .ok { c with debug }
    | none => .error (.invalidValue debugVariable value)

end Config

end Narrative
