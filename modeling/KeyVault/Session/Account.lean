import KeyVault.Pickle
/-!
The account of the local device: its identity state, which is opaque, and whether the
identity keys were published. Only the identity state goes into a pickle.
-/

namespace KeyVault

open Json (Form)

structure Account where
  identity : List UInt8
  shared : Bool
  deriving DecidableEq, Repr

namespace Account

def record : Json.Record where
  name := "AccountPickle"
  fields := [⟨"identity", .bytes, none⟩]

/-- The identity state stands as a record of one field. -/
def bodyForm : Form (List UInt8) :=
  .ofRecord record (fun (identity, _) => identity) (fun identity => (identity, ()))

def pickle (account : Account) (key : PickleKey) (nonce : Aead.Nonce) : Blob :=
  Pickle.pack bodyForm key .account nonce account.identity

/-- Opens an account's pickle; whether it is shared is known beside the pickle. -/
def unpickle (blob : Blob) (key : PickleKey) (shared : Bool) : Except PickleFault Account :=
  (Pickle.unpack bodyForm key .account blob).map fun identity => ⟨identity, shared⟩

/-- The text of an account in diagnostics, which keeps the identity state back. -/
def describe (account : Account) : String :=
  s!"Account \x7b shared: {account.shared}, .. \x7d"

end Account

end KeyVault
