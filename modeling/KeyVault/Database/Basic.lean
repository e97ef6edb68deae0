import KeyVault.CrossSigning
import KeyVault.Identifier
import KeyVault.Pickle
import KeyVault.Time.Instant
/-!
The tables of the store. Objects with secrets are stored as pickles beside what is asked for
in queries; numbers and names are stored as they were written, which need not be what the
program would write.
-/

namespace KeyVault

/-- The row of an account. An empty device or sync position stands for none. -/
structure AccountRow where
  owner : AccountId
  device : String
  shared : Bool
  syncToken : String
  blob : Blob
  deriving DecidableEq, Repr

/-- The row of a one-to-one session; the owner and the session identify it. -/
structure OlmRow where
  owner : AccountId
  session : SessionId
  sender : IdentityKey
  blob : Blob
  created : Instant
  encrypted : Instant
  decrypted : Instant
  deriving DecidableEq, Repr

/-- The row of an inbound session; the owner and the session identify it. -/
structure InboundRow where
  owner : AccountId
  session : SessionId
  sender : IdentityKey
  signing : SigningKey
  room : RoomId
  blob : Blob
  chain : String
  deriving DecidableEq, Repr

/-- The row of an outbound session; the owner and the room identify it. The age is in
microseconds.
-/
structure OutboundRow where
  owner : AccountId
  room : RoomId
  session : SessionId
  blob : Blob
  shared : Bool
  maxMessages : Int64
  messageCount : Int64
  maxAge : Int64
  created : Instant
  used : Instant
  deriving DecidableEq, Repr

/-- The event that was first seen at an index of a sender's session. -/
structure Pin where
  sender : IdentityKey
  session : SessionId
  index : UInt32
  event : EventId
  timestamp : Int64
  deriving DecidableEq, Repr

/-- The row of a device; the user and the device identify it. -/
structure DeviceRow where
  user : UserId
  device : DeviceId
  identityKey : IdentityKey
  signingKey : SigningKey
  trust : Int64
  deleted : Bool
  name : String
  deriving DecidableEq, Repr

/-- The row of a cross-signing key; the user and the usage identify it. -/
structure KeyRow where
  user : UserId
  usage : String
  key : SigningKey
  first : SigningKey
  deriving DecidableEq, Repr

/-- The row of a signature; both ends identify it. -/
structure SignatureRow where
  target : Signer
  signer : Signer
  signature : String
  deriving DecidableEq, Repr

/-- The record of the one migration that made the tables. -/
structure Migration where
  version : Nat
  intact : Bool
  finished : Bool
  deriving DecidableEq, Repr

structure Database where
  accounts : List AccountRow
  olm : List OlmRow
  inbound : List InboundRow
  outbound : List OutboundRow
  pins : List Pin
  tracked : List UserId
  devices : List DeviceRow
  keys : List KeyRow
  signatures : List SignatureRow
  migration : Migration
  deriving DecidableEq, Repr

def Database.schemaVersion : Nat :=
  1

def Database.empty : Database :=
  ⟨[], [], [], [], [], [], [], [], [], ⟨Database.schemaVersion, true, true⟩⟩

/-- A table that refuses a second row with the same identifying columns. -/
inductive KeyedTable where
  | account
  | olm
  | inbound
  | outbound
  | crossSigningKey
  deriving DecidableEq, Repr

inductive DatabaseFault where
  | poolClosed
  /-- Somebody else writes to the tables for too long. -/
  | locked
  /-- A row with the same identifying columns is there. -/
  | duplicateKey (table : KeyedTable)
  /-- The address of the database has no scheme. -/
  | relativeAddress
  deriving DecidableEq, Repr

/-- The columns that identify a row of a table. -/
def KeyedTable.columns : KeyedTable → String
  | account => "crypto_account.account_id"
  | olm => "crypto_olm_session.account_id, crypto_olm_session.session_id"
  | inbound => "crypto_megolm_inbound_session.account_id, crypto_megolm_inbound_session.session_id"
  | outbound => "crypto_megolm_outbound_session.account_id, crypto_megolm_outbound_session.room_id"
  | crossSigningKey => "crypto_cross_signing_keys.user_id, crypto_cross_signing_keys.usage"

def DatabaseFault.message : DatabaseFault → String
  | poolClosed => "attempted to acquire a connection on a closed pool"
  | locked => "error returned from database: (code: 5) database is locked"
  | duplicateKey table =>
    "error returned from database: (code: 1555) UNIQUE constraint failed: " ++ table.columns
  | relativeAddress => "error with configuration: relative URL without a base"

/-- Why the tables cannot be used as they are. -/
inductive MigrationFault where
  | modified (version : Nat)
  | missing (version : Nat)
  | unfinished (version : Nat)
  deriving DecidableEq, Repr

def MigrationFault.message : MigrationFault → String
  | modified version => s!"migration {version} was previously applied but has been modified"
  | missing version => s!"migration {version} was previously applied but is missing in the resolved migrations"
  | unfinished version =>
    s!"migration {version} is partially applied; fix and remove row from `_sqlx_migrations` table"

/-- Judges the record of the migration: it must be finished, known and intact, in this order. -/
def Migration.check (migration : Migration) : Except MigrationFault Unit :=
  if !migration.finished then .error (.unfinished migration.version)
  else if migration.version ≠ Database.schemaVersion then .error (.missing migration.version)
  else if !migration.intact then .error (.modified migration.version)
  else .ok ()

end KeyVault
