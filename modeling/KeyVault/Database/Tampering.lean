import KeyVault.Database.Statement
/-!
Edits of the tables by somebody else: what a damaged or hostile database may hold. Each edit
says how many rows it met; one after which two rows of a table had the same identifying
columns is refused.
-/

namespace KeyVault

/-- A table whose rows belong to an account and hold a pickle. -/
inductive OwnedTable where
  | account
  | olm
  | inbound
  | outbound
  deriving DecidableEq, Repr

/-- A number beside the pickle of an outbound session. -/
inductive OutboundColumn where
  | maxMessages
  | messageCount
  | maxAge
  deriving DecidableEq, Repr

/-- An edit of the tables. -/
inductive Tampering where
  | setTrust (user : UserId) (device : DeviceId) (code : Int64)
  | setOutbound (owner : AccountId) (room : RoomId) (column : OutboundColumn) (value : Int64)
  | setChain (owner : AccountId) (session : SessionId) (chain : String)
  | addKey (row : KeyRow)
  /-- Replaces a pickle; the row is named by the session, or by the room of an outbound one. -/
  | setBlob (table : OwnedTable) (owner : AccountId) (name : String) (blob : Blob)
  | renameOlm (owner : AccountId) (session renamed : SessionId)
  | handOver (table : OwnedTable) (owner heir : AccountId)
  | migrationModified
  | migrationRenumbered (version : Nat)
  | migrationUnfinished
  deriving DecidableEq, Repr

namespace Tampering

/-- Amends the rows that meet a condition, and counts them. -/
def edit {ρ : Type} (meets : ρ → Bool) (change : ρ → ρ) (rows : List ρ) : Nat × List ρ :=
  (rows.countP meets, Rows.amend meets change rows)

def setColumn (column : OutboundColumn) (value : Int64) (row : OutboundRow) : OutboundRow :=
  match column with
  | .maxMessages => { row with maxMessages := value }
  | .messageCount => { row with messageCount := value }
  | .maxAge => { row with maxAge := value }

/-- Rows whose keys may have been changed, if they are still distinct. -/
def distinctBy {ρ κ : Type} [DecidableEq κ] (table : KeyedTable) (key : ρ → κ)
    (edited : Nat × List ρ)
    : Except DatabaseFault (Nat × List ρ) :=
  if (edited.2.map key).Nodup then .ok edited else .error (.duplicateKey table)

/-- Gives rows of an account to another account. -/
def bequeath (table : OwnedTable) (owner heir : AccountId) (db : Database)
    : Except DatabaseFault (Nat × Database) :=
  match table with
  | .account =>
    (distinctBy .account AccountRow.owner
      (edit (fun row => row.owner = owner) (fun row => { row with owner := heir }) db.accounts)).map
        fun (count, accounts) => (count, { db with accounts })
  | .olm =>
    (distinctBy .olm (fun row => (row.owner, row.session))
      (edit (fun row => row.owner = owner) (fun row => { row with owner := heir }) db.olm)).map
        fun (count, olm) => (count, { db with olm })
  | .inbound =>
    (distinctBy .inbound (fun row => (row.owner, row.session))
      (edit (fun row => row.owner = owner) (fun row => { row with owner := heir }) db.inbound)).map
        fun (count, inbound) => (count, { db with inbound })
  | .outbound =>
    (distinctBy .outbound (fun row => (row.owner, row.room))
      (edit (fun row => row.owner = owner) (fun row => { row with owner := heir }) db.outbound)).map
        fun (count, outbound) => (count, { db with outbound })

/-- Replaces the pickle of a row, and counts the rows. -/
def replaceBlob (table : OwnedTable) (owner : AccountId) (name : String) (blob : Blob)
    (db : Database)
    : Nat × Database :=
  match table with
  | .account =>
    let (count, accounts) := edit (fun row => row.owner = owner) (fun row => { row with blob }) db.accounts
    (count, { db with accounts })
  | .olm =>
    let (count, olm) :=
      edit (fun row => row.owner = owner ∧ row.session = ⟨name⟩) (fun row => { row with blob }) db.olm
    (count, { db with olm })
  | .inbound =>
    let (count, inbound) :=
      edit (fun row => row.owner = owner ∧ row.session = ⟨name⟩) (fun row => { row with blob }) db.inbound
    (count, { db with inbound })
  | .outbound =>
    let (count, outbound) :=
      edit (fun row => row.owner = owner ∧ row.room = ⟨name⟩) (fun row => { row with blob }) db.outbound
    (count, { db with outbound })

/-- The number of rows that an edit meets, and the tables after it. -/
def apply (tampering : Tampering) (db : Database) : Except DatabaseFault (Nat × Database) :=
  match tampering with
  | .setTrust user device code =>
    let (count, devices) :=
      edit (fun row => row.user = user ∧ row.device = device) (fun row => { row with trust := code }) db.devices
    .ok (count, { db with devices })
  | .setOutbound owner room column value =>
    let (count, outbound) :=
      edit (fun row => row.owner = owner ∧ row.room = room) (setColumn column value) db.outbound
    .ok (count, { db with outbound })
  | .setChain owner session chain =>
    let (count, inbound) :=
      edit (fun row => row.owner = owner ∧ row.session = session) (fun row => { row with chain }) db.inbound
    .ok (count, { db with inbound })
  | .addKey row =>
    (distinctBy .crossSigningKey (fun row => (row.user, row.usage)) (1, db.keys ++ [row])).map
      fun (count, keys) => (count, { db with keys })
  | .setBlob table owner name blob => .ok (replaceBlob table owner name blob db)
  | .renameOlm owner session renamed =>
    (distinctBy .olm (fun row => (row.owner, row.session))
      (edit (fun row => row.owner = owner ∧ row.session = session)
        (fun row => { row with session := renamed }) db.olm)).map
          fun (count, olm) => (count, { db with olm })
  | .handOver table owner heir => bequeath table owner heir db
  | .migrationModified => .ok (1, { db with migration := { db.migration with intact := false } })
  | .migrationRenumbered version => .ok (1, { db with migration := { db.migration with version } })
  | .migrationUnfinished => .ok (1, { db with migration := { db.migration with finished := false } })

end Tampering

end KeyVault
