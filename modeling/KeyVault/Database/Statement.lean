import KeyVault.Chunks
import KeyVault.Database.Basic
import KeyVault.Rows
/-!
The statements that read and write the tables. Each writing statement touches one table; a
statement that replaces or removes says how many rows it met where somebody asks.
-/

namespace KeyVault.Database

def account? (db : Database) (owner : AccountId) : Option AccountRow :=
  db.accounts.find? fun row => row.owner = owner

/-- Stores an account. A row that is there keeps its device. -/
def upsertAccount (db : Database) (row : AccountRow) : Database :=
  let change (old : AccountRow) : AccountRow :=
    { old with shared := row.shared, syncToken := row.syncToken, blob := row.blob }
  { db with accounts := Rows.upsert (fun old => old.owner = row.owner) change row db.accounts }

def setDevice (db : Database) (owner : AccountId) (device : String) : Database :=
  { db with accounts := Rows.amend (fun row => row.owner = owner) (fun row => { row with device }) db.accounts }

def setSyncToken (db : Database) (owner : AccountId) (syncToken : String) : Database :=
  { db with
    accounts := Rows.amend (fun row => row.owner = owner) (fun row => { row with syncToken }) db.accounts }

/-- Removes the account, its one-to-one sessions and its outbound sessions. -/
def wipe (db : Database) (owner : AccountId) : Database :=
  { db with
    accounts := Rows.remove (fun row => row.owner = owner) db.accounts
    olm := Rows.remove (fun row => row.owner = owner) db.olm
    outbound := Rows.remove (fun row => row.owner = owner) db.outbound }

/-- The one-to-one sessions of an account with a key, in descending order of the text of
their last decryption.
-/
def olmSessions (db : Database) (owner : AccountId) (sender : IdentityKey) : List OlmRow :=
  (db.olm.filter fun row => row.sender = sender ∧ row.owner = owner).mergeSort
    fun a b => b.decrypted.stamp ≤ a.decrypted.stamp

def hasOlmSession (db : Database) (owner : AccountId) (sender : IdentityKey) : Bool :=
  db.olm.any fun row => row.sender = sender ∧ row.owner = owner

/-- Adds a one-to-one session that is not there yet. -/
def insertOlm (db : Database) (row : OlmRow) : Except DatabaseFault Database :=
  if db.olm.any fun old => old.owner = row.owner ∧ old.session = row.session then
    .error (.duplicateKey .olm)
  else .ok { db with olm := db.olm ++ [row] }

/-- Writes a one-to-one session that is there; when it was created stays. -/
def updateOlm (db : Database) (owner : AccountId) (session : SessionId) (blob : Blob)
    (encrypted decrypted : Instant) : Database :=
  { db with
    olm := Rows.amend (fun row => row.session = session ∧ row.owner = owner)
      (fun row => { row with blob, encrypted, decrypted }) db.olm }

/-- Adds an inbound session that is not there yet. -/
def insertInbound (db : Database) (row : InboundRow) : Except DatabaseFault Database :=
  if db.inbound.any fun old => old.owner = row.owner ∧ old.session = row.session then
    .error (.duplicateKey .inbound)
  else .ok { db with inbound := db.inbound ++ [row] }

/-- The inbound session of an account with an identifier, in a room and from a sender. -/
def inbound? (db : Database) (owner : AccountId) (room : RoomId) (sender : IdentityKey)
    (session : SessionId) : Option InboundRow :=
  db.inbound.find? fun row =>
    row.room = room ∧ row.sender = sender ∧ row.session = session ∧ row.owner = owner

/-- Stores the outbound session of a room, in place of the one that is there. -/
def upsertOutbound (db : Database) (row : OutboundRow) : Database :=
  { db with
    outbound := Rows.upsert (fun old => old.owner = row.owner ∧ old.room = row.room) (fun _ => row) row
      db.outbound }

/-- Whether a row is the current outbound session of a room. -/
def isOutbound (owner : AccountId) (room : RoomId) (session : SessionId) (row : OutboundRow)
    : Bool :=
  row.room = room ∧ row.session = session ∧ row.owner = owner

/-- Writes the use of an outbound session that is there. -/
def updateOutbound (db : Database) (owner : AccountId) (room : RoomId) (session : SessionId)
    (blob : Blob)
    (messageCount : Int64) (used : Instant) : Database :=
  { db with
    outbound := Rows.amend (isOutbound owner room session) (fun row => { row with blob, messageCount, used })
      db.outbound }

def outbound? (db : Database) (owner : AccountId) (room : RoomId) : Option OutboundRow :=
  db.outbound.find? fun row => row.room = room ∧ row.owner = owner

/-- Whether a row is the outbound session of an account in one of some rooms. -/
def isOutboundIn (owner : AccountId) (rooms : List RoomId) (row : OutboundRow) : Bool :=
  row.owner = owner ∧ row.room ∈ rooms

/-- Removes the outbound sessions of some rooms, and counts them. -/
def removeOutbound (db : Database) (owner : AccountId) (rooms : List RoomId) : Nat × Database :=
  (db.outbound.countP (isOutboundIn owner rooms),
    { db with outbound := Rows.remove (isOutboundIn owner rooms) db.outbound })

/-- The most names that one statement lists. -/
def listLimit : Nat :=
  500

def pin? (db : Database) (sender : IdentityKey) (session : SessionId) (index : UInt32)
    : Option Pin :=
  db.pins.find? fun pin => pin.sender = sender ∧ pin.session = session ∧ pin.index = index

def insertPin (db : Database) (pin : Pin) : Database :=
  { db with pins := db.pins ++ [pin] }

def isTracked (db : Database) (user : UserId) : Bool :=
  db.tracked.contains user

/-- The tracked users among some, each once. -/
def trackedIn (db : Database) (users : List UserId) : List UserId :=
  db.tracked.filter fun user => users.contains user

def devicesOf (db : Database) (user : UserId) : List DeviceRow :=
  db.devices.filter fun row => row.user = user

def device? (db : Database) (user : UserId) (device : DeviceId) : Option DeviceRow :=
  db.devices.find? fun row => row.user = user ∧ row.device = device

def deviceByKey? (db : Database) (user : UserId) (key : IdentityKey) : Option DeviceRow :=
  db.devices.find? fun row => row.user = user ∧ row.identityKey = key

/-- Marks a user as tracked. -/
def track (db : Database) (user : UserId) : Database :=
  if db.isTracked user then db else { db with tracked := db.tracked ++ [user] }

/-- Replaces all devices of a user, who is tracked from then on. -/
def replaceDevices (db : Database) (user : UserId) (rows : List DeviceRow) : Database :=
  let db := db.track user
  { db with devices := Rows.remove (fun row => row.user = user) db.devices ++ rows }

def keysOf (db : Database) (user : UserId) : List KeyRow :=
  db.keys.filter fun row => row.user = user

/-- Stores the current key of a usage; the first one that was seen stays. -/
def upsertKey (db : Database) (row : KeyRow) : Database :=
  { db with
    keys := Rows.upsert (fun old => old.user = row.user ∧ old.usage = row.usage)
      (fun old => { old with key := row.key }) row db.keys }

/-- Stores a signature, in place of the one between the same ends. -/
def upsertSignature (db : Database) (row : SignatureRow) : Database :=
  { db with
    signatures := Rows.upsert (fun old => old.target = row.target ∧ old.signer = row.signer)
      (fun _ => row) row db.signatures }

def isSigned (db : Database) (target signer : Signer) : Bool :=
  db.signatures.any fun row => row.target = target ∧ row.signer = signer

/-- Removes every signature of a signer, and counts them. -/
def removeSignatures (db : Database) (signer : Signer) : Nat × Database :=
  (db.signatures.countP (fun row => row.signer = signer),
    { db with signatures := Rows.remove (fun row => row.signer = signer) db.signatures })

end KeyVault.Database
