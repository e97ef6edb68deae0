import KeyVault.Json.Fault
import KeyVault.Json.Token
/-!
The kinds of simple values that records hold, and how each is read from tokens and written
as tokens. Reading judges a value as soon as its first token is known: a value of another
type is a fault of that type, whatever stands inside or behind it.
-/

namespace KeyVault.Json

/-- A kind of value. -/
inductive Kind where
  | text
  | flag
  /-- An unsigned number of so many bits. -/
  | whole (bits : Nat)
  /-- A byte string, written as the list of its bytes. -/
  | bytes
  /-- One of several names. -/
  | choice (names : List String)
  deriving DecidableEq, Repr

def Kind.Value : Kind → Type
  | text => String
  | flag => Bool
  | whole bits => BitVec bits
  | bytes => List UInt8
  | choice names => Fin names.length

/-- The fault of a value that is not of the expected type. A number out of range and a
string without text are malformed before they are of any type.
-/
def mismatch (expected : Expected) : List Token → Fault
  | .null :: _ => .invalidType .null expected
  | .boolean value :: _ => .invalidType (.boolean value) expected
  | .number numeral :: _ =>
    match numeral.value with
    | some (.integer value) => .invalidType (.integer value) expected
    | some (.real bits) => .invalidType (.real bits) expected
    | none => .malformed
  | .string (some text) :: _ => .invalidType (.text (String.ofList text)) expected
  | .openBracket :: _ => .invalidType .sequence expected
  | .openBrace :: _ => .invalidType .map expected
  | _ => .malformed

def readText (expected : Expected) : List Token → Except Fault (String × List Token)
  | .string (some text) :: rest => .ok (String.ofList text, rest)
  | tokens => .error (mismatch expected tokens)

def readFlag : List Token → Except Fault (Bool × List Token)
  | .boolean value :: rest => .ok (value, rest)
  | tokens => .error (mismatch .boolean tokens)

/-- Reads an unsigned number. An integer that the bits cannot hold is a fault of the value,
a floating-point number one of the type.
-/
def readWhole (bits : Nat) : List Token → Except Fault (BitVec bits × List Token)
  | .number numeral :: rest =>
    match numeral.value with
    | some (.integer value) =>
      if (BitVec.ofInt bits value).toNat = value then .ok (BitVec.ofInt bits value, rest)
      else .error (.invalidValue value (.whole bits))
    | _ => .error (mismatch (.whole bits) (.number numeral :: rest))
  | tokens => .error (mismatch (.whole bits) tokens)

/-- Reads one byte from one token. -/
def readByte (token : Token) : Except Fault UInt8 :=
  (readWhole 8 [token]).map fun (byte, _) => UInt8.ofBitVec byte

/-- Reads the bytes behind the first one of a list, up to its end. -/
def readMoreBytes : List Token → Except Fault (List UInt8 × List Token)
  | .closeBracket :: rest => .ok ([], rest)
  | .comma :: token :: rest => do
    let byte ← readByte token
    let (bytes, after) ← readMoreBytes rest
    pure (byte :: bytes, after)
  | _ => .error .malformed

/-- Reads a list of bytes. -/
def readBytes : List Token → Except Fault (List UInt8 × List Token)
  | .openBracket :: .closeBracket :: rest => .ok ([], rest)
  | .openBracket :: token :: rest => do
    let byte ← readByte token
    let (bytes, after) ← readMoreBytes rest
    pure (byte :: bytes, after)
  | [.openBracket] => .error .malformed
  | tokens => .error (mismatch .sequence tokens)

/-- The place of a name among the known ones. -/
def readName (names : List String) (name : String) : Except Fault (Fin names.length) :=
  match names.finIdxOf? name with
  | some place => .ok place
  | none => .error (.unknownVariant name names)

/-- Reads one of several names: as a string, or as an object whose single member has that
name and the value null. Anything else that is neither of the two is malformed.
-/
def readChoice (names : List String) : List Token → Except Fault (Fin names.length × List Token)
  | .string (some text) :: rest => do
    let place ← readName names (String.ofList text)
    pure (place, rest)
  | .openBrace :: .string (some name) :: afterName => do
    let place ← readName names (String.ofList name)
    match afterName with
    | .colon :: .null :: .closeBrace :: rest => pure (place, rest)
    | .colon :: .null :: _ => .error .malformed
    | .colon :: value => .error (mismatch .unit value)
    | _ => .error .malformed
  | _ => .error .malformed

namespace Kind

def read : (kind : Kind) → List Token → Except Fault (kind.Value × List Token)
  | text => readText .text
  | flag => readFlag
  | whole bits => readWhole bits
  | bytes => readBytes
  | choice names => readChoice names

/-- The tokens of the bytes behind the first one of a list. -/
def moreBytes (bytes : List UInt8) : List Token :=
  bytes.flatMap fun byte => [Token.comma, .number (.ofNat byte.toNat)]

def write : (kind : Kind) → kind.Value → List Token
  | text, value => [.string (some (String.toList value))]
  | flag, value => [.boolean value]
  | whole _, value => [.number (.ofNat (BitVec.toNat value))]
  | bytes, value =>
    match value with
    | [] => [.openBracket, .closeBracket]
    | byte :: rest => .openBracket :: .number (.ofNat (UInt8.toNat byte)) :: moreBytes rest ++ [.closeBracket]
  | choice names, value => [.string (some (names.get value).toList)]

end Kind

/-- Reads a whole text with a reader: nothing but blanks may follow the value. -/
def readAll {α : Type} (read : List Token → Except Fault (α × List Token))
    (text : List Utf8.Glyph)
    : Except Fault α := do
  match ← read (Token.ofGlyphs text) with
  | (value, []) => pure value
  | _ => .error .malformed

end KeyVault.Json
