import Narrative.Config.Basic
import Narrative.Json.Record

/-!
# Settings in JSON

Writing settings and reading them from a value.
-/

namespace Narrative

open Json (Record)

namespace Config

def encode (c : Config) : Json :=
  .object
    [("asset_root", .string c.assetRoot), ("log_filter", .string c.logFilter),
      ("debug", .bool c.debug)]

/-- The settings of a value. -/
def decode? : Json → Option Config :=
  Record.decode? do
    let c : Config := {}
    return { assetRoot := ← Record.defaulted "asset_root" Json.string? c.assetRoot
             logFilter := ← Record.defaulted "log_filter" Json.string? c.logFilter
             debug := ← Record.defaulted "debug" Json.bool? c.debug }

end Config

end Narrative
