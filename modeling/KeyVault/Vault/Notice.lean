import KeyVault.Config
import KeyVault.Database.Basic
import KeyVault.Interval
/-!
What a call on the store reports beside its result: faults that end it, and notices that do
not.
-/

namespace KeyVault

/-- A column that holds the count of messages or its limit. -/
inductive CountColumn where
  | maxMessages
  | messageCount
  deriving DecidableEq, Repr

def CountColumn.name : CountColumn → String
  | maxMessages => "max_messages"
  | messageCount => "message_count"

/-- Why a call on the store fails. -/
inductive StoreFault where
  | database (fault : DatabaseFault)
  | migration (fault : MigrationFault)
  | pickle (fault : PickleFault)
  | unknownValue (value : UnknownValue)
  | outOfRange (column : CountColumn) (value : Int64)
  | interval (fault : Interval.Fault)
  | config (fault : Config.Fault)
  deriving DecidableEq, Repr

def StoreFault.message : StoreFault → String
  | database fault => "Database error: " ++ fault.message
  | migration fault => "Migration error: " ++ fault.message
  | pickle fault => "Pickle error: " ++ fault.message
  | unknownValue value => "Invalid stored value: " ++ value.message
  | outOfRange column value => s!"Column {column.name} holds out-of-range value {value}"
  | interval fault => "Interval conversion failed: " ++ fault.message
  | config fault => "Configuration error: " ++ fault.message

/-- Something that a call logs. -/
inductive Notice where
  /-- A session that is being added is cached already. -/
  | alreadyCached (session : SessionId)
  /-- A session that is being written is not cached. -/
  | cacheMissing (session : SessionId)
  /-- A session that is being written differs from the cached one. -/
  | cacheDiverged (session : SessionId)
  /-- The outbound session to be written is not stored any more. -/
  | outboundGone (room : RoomId) (session : SessionId)
  /-- Another event was seen at the same index before. -/
  | replay (sender : IdentityKey) (session : SessionId) (index : UInt32) (event : EventId)
      (timestamp : Int64)
  | keyNotStored (user : UserId) (key : SigningKey) (usage : Usage) (fault : DatabaseFault)
  | signatureNotStored (target signer : Signer) (fault : DatabaseFault)
  | signaturesNotDropped (signer : Signer) (fault : DatabaseFault)
  deriving DecidableEq, Repr

/-- How grave a notice is. -/
inductive Level where
  | warn
  | error
  deriving DecidableEq, Repr

def Level.name : Level → String
  | warn => "WARN"
  | error => "ERROR"

namespace Notice

/-- Failed writes are errors, all else is a warning. -/
def level : Notice → Level
  | keyNotStored .. | signatureNotStored .. | signaturesNotDropped .. => .error
  | _ => .warn

def signerText (signer : Signer) : String :=
  signer.user.text ++ "/" ++ signer.key.text

def message : Notice → String
  | alreadyCached session => "Cache already contains Olm session with ID " ++ session.text
  | cacheMissing session =>
    "Cached olm session with ID " ++ session.text ++ " is missing while saving it to the database"
  | cacheDiverged session =>
    "Cached olm session with ID " ++ session.text ++ " isn't equal to the one being saved to the database"
  | outboundGone .. => "outbound group session to update is no longer stored"
  | replay .. => "message index already used by a different event; possible replay"
  | keyNotStored user key usage fault =>
    "Failed to store cross-signing key " ++ user.text ++ "/" ++ key.text ++ "/" ++ usage.tag ++ ": "
      ++ fault.message
  | signatureNotStored target signer fault =>
    "Failed to store signature from " ++ signerText signer ++ " for " ++ signerText target ++ ": "
      ++ fault.message
  | signaturesNotDropped signer fault =>
    "Failed to drop old signatures made by replaced key " ++ signerText signer ++ ": " ++ fault.message

/-- The named fields of a notice, as text. -/
def fields : Notice → List (String × String)
  | outboundGone room session => [("room_id", room.text), ("session_id", session.text)]
  | replay sender session index event timestamp =>
    [("sender_key", sender.text), ("session_id", session.text), ("index", toString index),
     ("event_id", event.text), ("timestamp", toString timestamp)]
  | _ => []

end Notice

end KeyVault
