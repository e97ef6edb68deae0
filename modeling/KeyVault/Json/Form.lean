import KeyVault.Json.Record
/-!
A form says how the values of a type stand in JSON: as a simple value of some kind or as a
record.
-/

namespace KeyVault.Json

/-- How values of a type are read from tokens and written as tokens. -/
structure Form (α : Type) where
  read : List Token → Except Fault (α × List Token)
  write : α → List Token

namespace Form

variable {α : Type}

/-- Values that stand as a simple value. -/
def ofKind (kind : Kind) (ofValue : kind.Value → α) (toValue : α → kind.Value) : Form α where
  read tokens := (kind.read tokens).map fun (value, rest) => (ofValue value, rest)
  write a := kind.write (toValue a)

/-- Values that stand as a record. -/
def ofRecord (record : Record) (ofValues : Values record.fields → α)
    (toValues : α → Values record.fields)
    : Form α where
  read tokens := (record.read tokens).map fun (values, rest) => (ofValues values, rest)
  write a := record.write (toValues a)

def parse (form : Form α) (text : String) : Except Fault α :=
  readAll form.read (Utf8.glyphs text)

def parseBytes (form : Form α) (bytes : List UInt8) : Except Fault α :=
  readAll form.read (Utf8.decode bytes)

def text (form : Form α) (a : α) : String :=
  String.ofList (Token.render (form.write a))

def bytes (form : Form α) (a : α) : List UInt8 :=
  Utf8.encode (Token.render (form.write a))

end Form

end KeyVault.Json
