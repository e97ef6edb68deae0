import KeyVault.Cipher.Aead
import KeyVault.Hash.Hmac
import KeyVault.Json.Form
/-!
Pickles: objects written as JSON and sealed under a key that a passphrase gives. A pickle is
a version byte, a nonce, the encrypted body and its tag. The version and the kind of object
are authenticated, so that a pickle opens as the kind it was made as and as no other.
-/

namespace KeyVault

open Json (Form)

/-- The key that pickles are sealed under. -/
structure PickleKey where
  bytes : Aead.Key
  deriving DecidableEq

namespace PickleKey

/-- The bytes of an ASCII label or any other text. -/
def labelled (text : String) : List UInt8 :=
  Utf8.encode text.toList

def ofPassphrase (passphrase : String) : PickleKey :=
  let derived := Hmac.derive (labelled "mx-crypto-pickle-v1") (labelled passphrase) (labelled "pickle-key")
  ⟨⟨derived.toArray, by simp [derived, Hmac.length_derive]⟩⟩

/-- A key shows nothing of itself. -/
def describe (_ : PickleKey) : String :=
  "PickleKey(..)"

end PickleKey

/-- The bytes of a pickle. -/
abbrev Blob := List UInt8

inductive PickleKind where
  | account
  | session
  | inbound
  | outbound
  deriving DecidableEq, Repr

/-- The label of a kind, which is authenticated. -/
def PickleKind.label : PickleKind → String
  | account => "olm-account"
  | session => "olm-session"
  | inbound => "megolm-inbound"
  | outbound => "megolm-outbound"

/-- Why a pickle does not open. -/
inductive PickleFault where
  /-- It is too short, damaged, of another kind or sealed under another key. -/
  | undecipherable
  | version (version : UInt8)
  /-- Its body is not what an object of its kind is written as. -/
  | body (fault : Json.Fault)
  deriving DecidableEq, Repr

def PickleFault.message : PickleFault → String
  | undecipherable => "AEAD decryption failed (wrong pickle key or corrupted pickle)"
  | version number => s!"Pickle has unsupported version {number}"
  | body fault => "Serialisation error: " ++ fault.message

namespace Pickle

def version : UInt8 :=
  1

def nonceLength : Nat :=
  24

/-- The length of a pickle without its body: version, nonce and tag. -/
def overhead : Nat :=
  1 + nonceLength + Aead.tagLength

/-- What is authenticated beside the body. -/
def associated (version : UInt8) (kind : PickleKind) : List UInt8 :=
  version :: PickleKey.labelled kind.label

/-- Seals a body as a kind. -/
def sealBody (key : PickleKey) (kind : PickleKind) (nonce : Aead.Nonce) (body : List UInt8)
    : Blob :=
  version :: nonce.toList ++ Aead.encrypt key.bytes nonce (associated version kind) body

/-- The nonce of a pickle, which stands behind the version. -/
def nonceOf (blob : Blob) : Aead.Nonce :=
  Vector.ofFn fun i => blob.getD (1 + i.val) 0

/-- Opens a pickle of a kind. The length is judged first, then the version, then the tag. -/
def openBody (key : PickleKey) (kind : PickleKind) (blob : Blob)
    : Except PickleFault (List UInt8) :=
  match blob with
  | [] => .error .undecipherable
  | first :: _ =>
    if blob.length < overhead then .error .undecipherable
    else if first ≠ version then .error (.version first)
    else
      match Aead.decrypt key.bytes (nonceOf blob) (associated first kind) (blob.drop (1 + nonceLength)) with
      | none => .error .undecipherable
      | some body => .ok body

/-- Writes and seals a value. -/
def pack {α : Type} (form : Form α) (key : PickleKey) (kind : PickleKind) (nonce : Aead.Nonce)
    (a : α)
    : Blob :=
  sealBody key kind nonce (form.bytes a)

/-- Opens and reads a value. -/
def unpack {α : Type} (form : Form α) (key : PickleKey) (kind : PickleKind) (blob : Blob)
    : Except PickleFault α := do
  let body ← openBody key kind blob
  match form.parseBytes body with
  | .ok a => .ok a
  | .error fault => .error (.body fault)

/-- Damage to a pickle. -/
inductive Damage where
  /-- Flips the bits of a mask in one byte; a negative place counts from the end. -/
  | flip (place : Int) (mask : UInt8)
  /-- Keeps only the first bytes. -/
  | truncate (length : Nat)
  /-- Puts bytes behind. -/
  | append (bytes : List UInt8)
  deriving DecidableEq, Repr

/-- A pickle after damage. A place outside the pickle leaves it as it is. -/
def Damage.apply : Damage → Blob → Blob
  | flip place mask, blob =>
    let place := if place < 0 then place + blob.length else place
    if place < 0 then blob else blob.modify place.toNat (· ^^^ mask)
  | truncate length, blob => blob.take length
  | append bytes, blob => blob ++ bytes

end Pickle

end KeyVault
