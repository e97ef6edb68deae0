/-!
Identifiers of the messaging network. Every one of them is opaque text; each kind has a type
of its own, so that a room cannot stand where a session is meant.
-/

namespace KeyVault

/-- The account that owns rows of the store. -/
structure AccountId where
  text : String
  deriving DecidableEq, Repr

structure UserId where
  text : String
  deriving DecidableEq, Repr

structure DeviceId where
  text : String
  deriving DecidableEq, Repr

structure RoomId where
  text : String
  deriving DecidableEq, Repr

structure EventId where
  text : String
  deriving DecidableEq, Repr

/-- The long-term key that identifies a device in key agreements. -/
structure IdentityKey where
  text : String
  deriving DecidableEq, Repr

/-- A key that signs other keys and messages. -/
structure SigningKey where
  text : String
  deriving DecidableEq, Repr

/-- A one-to-one or group session. -/
structure SessionId where
  text : String
  deriving DecidableEq, Repr

/-- The position that the synchronisation with the server has reached. -/
structure SyncToken where
  text : String
  deriving DecidableEq, Repr

/-- Users are ordered by code points, which is the order of the bytes of their UTF-8 text. -/
instance : Ord UserId where
  compare a b := compare a.text b.text

end KeyVault
