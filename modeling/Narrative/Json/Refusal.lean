import Narrative.Decimal.Shortest
import Narrative.Json.Basic
import Narrative.Text.Quoted

/-!
# Why a text is refused

The causes for which a JSON text is refused, their wording, and the place at which reading
stopped.  Lines and columns count bytes.
-/

namespace Narrative.Json

/-- What stands where something else was expected. -/
inductive Found where
  | null
  | bool (b : Bool)
  | number (n : Number)
  | string (s : String)
  | list
  | object

/-- What was found, in words; a scalar is shown with its value. -/
def Found.describe : Found → String
  | .null => "null"
  | .bool b => "boolean `" ++ (if b then "true" else "false") ++ "`"
  | .number (.natural n) => "integer `" ++ Text.decimal n ++ "`"
  | .number (.negative n) => "integer `-" ++ Text.decimal n ++ "`"
  | .number (.real x) => "floating point `" ++ Decimal.text x ++ "`"
  | .string s => "string " ++ Text.quoted s
  | .list => "sequence"
  | .object => "map"

/-- Why a text is refused. -/
inductive Cause where
  | endInValue
  | endInString
  | endInList
  | endInObject
  | expectedValue
  | expectedIdent
  | expectedColon
  | expectedListComma
  | expectedObjectComma
  | keyNotString
  | trailingComma
  | trailingCharacters
  | invalidNumber
  | numberOutOfRange
  | invalidEscape
  | controlCharacter
  | loneSurrogate
  | endOfHexEscape
  | tooDeep
  /-- A field holds a value of another type than the expected one. -/
  | wrongType (found : Found) (expected : String)
  /-- A field is given twice. -/
  | repeatedField (name : String)

/-- The cause in words. -/
def Cause.message : Cause → String
  | .endInValue => "EOF while parsing a value"
  | .endInString => "EOF while parsing a string"
  | .endInList => "EOF while parsing a list"
  | .endInObject => "EOF while parsing an object"
  | .expectedValue => "expected value"
  | .expectedIdent => "expected ident"
  | .expectedColon => "expected `:`"
  | .expectedListComma => "expected `,` or `]`"
  | .expectedObjectComma => "expected `,` or `\x7d`"
  | .keyNotString => "key must be a string"
  | .trailingComma => "trailing comma"
  | .trailingCharacters => "trailing characters"
  | .invalidNumber => "invalid number"
  | .numberOutOfRange => "number out of range"
  | .invalidEscape => "invalid escape"
  | .controlCharacter =>
    "control character (\\u0000-\\u001F) found while parsing a string"
  | .loneSurrogate => "lone leading surrogate in hex escape"
  | .endOfHexEscape => "unexpected end of hex escape"
  | .tooDeep => "recursion limit exceeded"
  | .wrongType found expected => "invalid type: " ++ found.describe ++ ", expected " ++ expected
  | .repeatedField name => "duplicate field `" ++ name ++ "`"

/-- A place in a text: the line, from one, and the bytes of that line up to the place. -/
structure Place where
  line : Nat
  column : Nat

/-- The place behind the given bytes. -/
def Place.after (bytes : List UInt8) : Place where
  line := 1 + bytes.count 10
  column := (bytes.reverse.takeWhile (· ≠ 10)).length

/-- A refused text: why, and where. -/
structure Refusal where
  cause : Cause
  place : Place

/-- The wording of a refusal, with its place. -/
def Refusal.message (r : Refusal) : String :=
  r.cause.message ++ " at line " ++ Text.decimal r.place.line ++ " column " ++
    Text.decimal r.place.column

end Narrative.Json
