import KeyVault.Identifier
import KeyVault.Pickle
import KeyVault.Time.Instant
/-!
One-to-one sessions with another device: an identifier, an opaque ratchet, and the times of
use. The times are kept beside a pickle and not inside it.
-/

namespace KeyVault

open Json (Form)

/-- When a session was created and last used. -/
structure SessionTimes where
  created : Instant
  encrypted : Instant
  decrypted : Instant
  deriving DecidableEq, Repr

structure Session where
  id : SessionId
  ratchet : List UInt8
  times : SessionTimes
  deriving DecidableEq, Repr

namespace Session

/-- A fresh session; all its times are now. -/
def fresh (id : SessionId) (ratchet : List UInt8) (now : Instant) : Session :=
  ⟨id, ratchet, ⟨now, now, now⟩⟩

def markEncrypted (session : Session) (time : Instant) : Session :=
  { session with times := { session.times with encrypted := time } }

def markDecrypted (session : Session) (time : Instant) : Session :=
  { session with times := { session.times with decrypted := time } }

def setRatchet (session : Session) (ratchet : List UInt8) : Session :=
  { session with ratchet }

def record : Json.Record where
  name := "SessionPickle"
  fields := [⟨"id", .text, none⟩, ⟨"ratchet", .bytes, none⟩]

/-- The identifier and the ratchet stand as a record of two fields. -/
def bodyForm : Form (SessionId × List UInt8) :=
  .ofRecord record (fun (id, ratchet, _) => (⟨id⟩, ratchet)) (fun (id, ratchet) => (id.text, ratchet, ()))

def pickle (session : Session) (key : PickleKey) (nonce : Aead.Nonce) : Blob :=
  Pickle.pack bodyForm key .session nonce (session.id, session.ratchet)

/-- Opens a session's pickle; its times are known beside the pickle. -/
def unpickle (blob : Blob) (key : PickleKey) (times : SessionTimes)
    : Except PickleFault Session :=
  (Pickle.unpack bodyForm key .session blob).map fun (id, ratchet) => ⟨id, ratchet, times⟩

/-- The text of a session in diagnostics, which keeps the ratchet back. -/
def describe (session : Session) : String :=
  "Session \x7b id: SessionId(" ++ Text.quoted session.id.text
    ++ "), times: SessionTimes \x7b creation_time: " ++ session.times.created.describe
    ++ ", last_encrypted: " ++ session.times.encrypted.describe
    ++ ", last_decrypted: " ++ session.times.decrypted.describe ++ " \x7d, .. \x7d"

end Session

end KeyVault
