import KeyVault.Identifier
import KeyVault.Trust
/-!
Cross-signing vocabulary: what a signing key is used for, the key pinned on first use, and
the ends of an edge in the graph of signatures.
-/

namespace KeyVault

/-- What a cross-signing key signs. -/
inductive Usage where
  | master
  | selfSigning
  | userSigning
  deriving DecidableEq, Repr

namespace Usage

def all : List Usage :=
  [master, selfSigning, userSigning]

/-- The name under which a usage is stored and written. -/
def tag : Usage → String
  | master => "master"
  | selfSigning => "self_signing"
  | userSigning => "user_signing"

/-- The usage with a stored name. -/
def ofTag (text : String) : Except UnknownValue Usage :=
  match all.find? (fun usage => usage.tag == text) with
  | some usage => .ok usage
  | none => .error (.usage text)

/-- Reading back the name of a usage gives the usage. -/
theorem ofTag_tag (usage : Usage) : ofTag usage.tag = .ok usage := by
  cases usage <;> rfl

end Usage

/-- The current key of a usage beside the first one that was ever seen for it. -/
structure PinnedKey where
  key : SigningKey
  first : SigningKey
  deriving DecidableEq, Repr

/-- A pinned key has changed when it is no longer the first one. -/
def PinnedKey.changed (pinned : PinnedKey) : Bool :=
  pinned.key != pinned.first

/-- One end of a signature: a user and one of the user's keys. -/
structure Signer where
  user : UserId
  key : SigningKey
  deriving DecidableEq, Repr

end KeyVault
