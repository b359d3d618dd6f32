import ObjectStorage.Text.Quoted
import ObjectStorage.Number.Shortest

/-!
# What can be wrong with a JSON text

`Found` names the value met where another was expected, `Error` the cause of a refusal, and
`Error.message` words it. Positions are not part of a cause.
-/
namespace ObjectStorage.Json

/-- A JSON number: an integer within 64 bits, or a signed binary magnitude. -/
inductive Number where
  | integer (value : Int)
  | float (negative : Bool) (magnitude : Binary64)
deriving DecidableEq, Repr

inductive Found where
  | null
  | boolean (value : Bool)
  | number (value : Number)
  | text (value : String)
  | sequence
  | map
deriving DecidableEq, Repr

inductive Error where
  | endInValue
  | endInList
  | endInObject
  | endInText
  | expectedColon
  | expectedListEnd
  | expectedObjectEnd
  | expectedWord
  | expectedValue
  | invalidEscape
  | invalidNumber
  | numberOutOfRange
  | invalidCodePoint
  | unpairedSurrogate
  | strayTrailingSurrogate
  | controlCharacter
  | keyNotText
  | trailingComma
  | trailingCharacters
  | tooDeep
  | invalidType (found : Found) (expected : String)
  | invalidLength (length : Nat) (expected : String)
  | missingField (key : String)
  | repeatedField (key : String)
  | noAlternative (name : String)
  | refused (reason : String)
deriving DecidableEq, Repr

def Number.text : Number → String
  | .integer v => toString v
  | .float negative m => (if negative then "-" else "") ++ Shortest.text m

def Found.describe : Found → String
  | .null => "null"
  | .boolean v => "boolean `" ++ (if v then "true" else "false") ++ "`"
  | .number (.integer v) => "integer `" ++ Number.text (.integer v) ++ "`"
  | .number (.float s m) => "floating point `" ++ Number.text (.float s m) ++ "`"
  | .text v => "string " ++ Quoted.quote v
  | .sequence => "sequence"
  | .map => "map"

def Error.message : Error → String
  | endInValue => "EOF while parsing a value"
  | endInList => "EOF while parsing a list"
  | endInObject => "EOF while parsing an object"
  | endInText => "EOF while parsing a string"
  | expectedColon => "expected `:`"
  | expectedListEnd => "expected `,` or `]`"
  | expectedObjectEnd => "expected `,` or `\x7d`"
  | expectedWord => "expected ident"
  | expectedValue => "expected value"
  | invalidEscape => "invalid escape"
  | invalidNumber => "invalid number"
  | numberOutOfRange => "number out of range"
  | invalidCodePoint => "invalid unicode code point"
  | unpairedSurrogate => "unexpected end of hex escape"
  | strayTrailingSurrogate => "lone leading surrogate in hex escape"
  | controlCharacter => "control character (\\u0000-\\u001F) found while parsing a string"
  | keyNotText => "key must be a string"
  | trailingComma => "trailing comma"
  | trailingCharacters => "trailing characters"
  | tooDeep => "recursion limit exceeded"
  | invalidType found expected => "invalid type: " ++ found.describe ++ ", expected " ++ expected
  | invalidLength length expected =>
    "invalid length " ++ toString length ++ ", expected " ++ expected
  | missingField key => "missing field `" ++ key ++ "`"
  | repeatedField key => "duplicate field `" ++ key ++ "`"
  | noAlternative name => "data did not match any variant of untagged enum " ++ name
  | refused reason => reason

end ObjectStorage.Json
