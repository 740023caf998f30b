import ClusterLaunch.Text.Quoted

/-!
Why a JSON text cannot be read as a value of some type. A text that stops short
and a text that is not JSON are told apart only as such; a text that is JSON but
does not fit the type says what was found and what was expected.
-/

namespace ClusterLaunch.Json

/-- What stands where a value of another type was expected. -/
inductive Found
  | null
  | bool (value : Bool)
  | integer (value : Int)
  /-- A number with a fraction, an exponent or too many digits, by its text. -/
  | float (text : String)
  | text (value : String)
  | sequence
  | map
  deriving DecidableEq, Repr

/-- How a value found is named in a message. -/
def Found.describe : Found → String
  | .null => "null"
  | .bool true => "boolean `true`"
  | .bool false => "boolean `false`"
  | .integer n => s!"integer `{n}`"
  | .float shown => s!"floating point `{shown}`"
  | .text value => "string " ++ Text.quoted value
  | .sequence => "sequence"
  | .map => "map"

/-- How a well-formed value fails to fit a type. -/
inductive Mismatch
  | wrongType (found : Found) (expected : String)
  | wrongValue (found : Found) (expected : String)
  | wrongLength (length : Nat) (expected : String)
  | missingField (name : String)
  | duplicateField (name : String)
  | unknownField (name : String) (known : List String)
  | unknownVariant (name : String) (known : List String)
  | durationOverflow
  deriving DecidableEq, Repr

def oneOf : List String → String
  | [] => ""
  | [a] => s!"`{a}`"
  | [a, b] => s!"`{a}` or `{b}`"
  | names => "one of " ++ ", ".intercalate (names.map fun name => s!"`{name}`")

def Mismatch.message : Mismatch → String
  | .wrongType found expected => s!"invalid type: {found.describe}, expected {expected}"
  | .wrongValue found expected => s!"invalid value: {found.describe}, expected {expected}"
  | .wrongLength length expected => s!"invalid length {length}, expected {expected}"
  | .missingField name => s!"missing field `{name}`"
  | .duplicateField name => s!"duplicate field `{name}`"
  | .unknownField name known => s!"unknown field `{name}`, expected {oneOf known}"
  | .unknownVariant name known => s!"unknown variant `{name}`, expected {oneOf known}"
  | .durationOverflow => "overflow deserializing Duration"

/-- Why a text cannot be read. -/
inductive Fault
  /-- The text ends before the value does. -/
  | ended
  /-- The text is not JSON. -/
  | malformed
  | mismatch (reason : Mismatch)
  deriving DecidableEq, Repr

def Fault.message : Fault → String
  | .ended => "EOF while parsing a value"
  | .malformed => "expected value"
  | .mismatch reason => reason.message

end ClusterLaunch.Json
