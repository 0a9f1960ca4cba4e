/-!
# Options

The arguments behind the command: flags, of which some take a value, and at most one path.
-/

namespace Narrative.CommandLine

/-- What the arguments ask for. -/
structure Options where
  target : Option String := none
  assets : Option String := none
  config : Option String := none
  debug : Bool := false
  deriving DecidableEq

/-- Why arguments are refused. -/
inductive UsageError where
  | noAssets
  | noConfig
  | unknownOption (flag : String)
  | secondTarget (path : String)
  | noTarget (command : String)
  deriving DecidableEq

/-- The error in words. -/
def UsageError.message : UsageError → String
  | .noAssets => "--assets needs a directory"
  | .noConfig => "--config needs a file"
  | .unknownOption flag => "Unknown option '" ++ flag ++ "'"
  | .secondTarget path => "Unexpected argument '" ++ path ++ "'"
  | .noTarget command => "Missing path for '" ++ command ++ "'"

namespace Options

/-- Whether an argument stands in the place of a flag. -/
def isFlag (arg : String) : Bool := ['-', '-'].isPrefixOf arg.toList

/-- Reads arguments into options.  A value is taken as it is, also where it looks like a flag. -/
def readInto (o : Options) : List String → Except UsageError Options
  | [] => .ok o
  | arg :: args =>
    if arg = "--debug" then readInto { o with debug := true } args
    else if arg = "--assets" then
      match args with
      | [] => .error .noAssets
      | dir :: args => readInto { o with assets := some dir } args
    else if arg = "--config" then
      match args with
      | [] => .error .noConfig
      | file :: args => readInto { o with config := some file } args
    else if isFlag arg then .error (.unknownOption arg)
    else if o.target.isSome then .error (.secondTarget arg)
    else readInto { o with target := some arg } args

/-- The options that the arguments give. -/
def read (args : List String) : Except UsageError Options := readInto {} args

end Options

end Narrative.CommandLine
