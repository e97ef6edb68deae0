import KeyVault.Decimal.Shortest
import KeyVault.Text.Quoted
/-!
What can be wrong with a JSON text that should hold a value of a known shape. Anything wrong
with the text as such is one fault; the others say how the value differs from the shape.
-/

namespace KeyVault.Json

/-- A value met where another one was expected. A floating-point number is given by its bits. -/
inductive Found where
  | integer (value : Int)
  | real (bits : UInt64)
  | text (text : String)
  | boolean (value : Bool)
  | null
  | sequence
  | map
  deriving DecidableEq, Repr

inductive Expected where
  | text
  | boolean
  | whole (bits : Nat)
  | unit
  | sequence
  | record (name : String)
  deriving DecidableEq, Repr

/-- A fault of a JSON text. -/
inductive Fault where
  | malformed
  | missingField (name : String)
  | duplicateField (name : String)
  | unknownVariant (found : String) (known : List String)
  | invalidType (found : Found) (expected : Expected)
  | invalidValue (found : Int) (expected : Expected)
  | invalidLength (found : Nat) (record : String) (elements : Nat)
  deriving DecidableEq, Repr

/-- How a value is named. -/
def Found.message : Found → String
  | .integer value => s!"integer `{value}`"
  | .real bits => s!"floating point `{Decimal.shortest bits}`"
  | .text content => "string " ++ Text.quoted content
  | .boolean value => s!"boolean `{value}`"
  | .null => "null"
  | .sequence => "sequence"
  | .map => "map"

/-- How an expectation is named. -/
def Expected.message : Expected → String
  | .text => "a string"
  | .boolean => "a boolean"
  | .whole bits => s!"u{bits}"
  | .unit => "unit"
  | .sequence => "a sequence"
  | .record name => s!"struct {name}"

/-- One choice stands alone, two are joined by a word, more make a list. -/
def alternatives (known : List String) : String :=
  let marked := known.map fun name => "`" ++ name ++ "`"
  match marked with
  | [] => "there are no variants"
  | [only] => "expected " ++ only
  | [first, second] => "expected " ++ first ++ " or " ++ second
  | _ => "expected one of " ++ ", ".intercalate marked

def Fault.message : Fault → String
  | .malformed => "malformed JSON"
  | .missingField name => s!"missing field `{name}`"
  | .duplicateField name => s!"duplicate field `{name}`"
  | .unknownVariant found known => "unknown variant `" ++ found ++ "`, " ++ alternatives known
  | .invalidType found expected => "invalid type: " ++ found.message ++ ", expected " ++ expected.message
  | .invalidValue found expected => s!"invalid value: integer `{found}`, expected " ++ expected.message
  | .invalidLength found record elements =>
    s!"invalid length {found}, expected struct {record} with {elements} element"
      ++ (if elements = 1 then "" else "s")

end KeyVault.Json
