import KeyVault.Proofs.Database.Statements
import KeyVault.Proofs.Rows.Removed
/-!
The tables without the rows of an account. Every statement about another account finds and
writes the same in them; a statement about the account itself is not seen there.
-/

namespace KeyVault

/-- The tables without the rows of an account. -/
def Database.without (db : Database) (hidden : AccountId) : Database :=
  { db with
    accounts := Rows.remove (fun row => row.owner = hidden) db.accounts
    olm := Rows.remove (fun row => row.owner = hidden) db.olm
    inbound := Rows.remove (fun row => row.owner = hidden) db.inbound
    outbound := Rows.remove (fun row => row.owner = hidden) db.outbound }

namespace Database

-----------------------------------------------------------------------------------------
-- Statements on the tables that all accounts have in common
-----------------------------------------------------------------------------------------

section Common

variable (db : Database) (hidden : AccountId) (user : UserId)

@[simp] theorem pin?_without (sender : IdentityKey) (session : SessionId) (index : UInt32)
    : (db.without hidden).pin? sender session index = db.pin? sender session index := rfl

@[simp] theorem isTracked_without : (db.without hidden).isTracked user = db.isTracked user := rfl

@[simp] theorem device?_without (device : DeviceId)
    : (db.without hidden).device? user device = db.device? user device := rfl

@[simp] theorem deviceByKey?_without (key : IdentityKey)
    : (db.without hidden).deviceByKey? user key = db.deviceByKey? user key := rfl

@[simp] theorem keysOf_without : (db.without hidden).keysOf user = db.keysOf user := rfl

@[simp] theorem replaceDevices_without (rows : List DeviceRow)
    : (db.without hidden).replaceDevices user rows
      = (db.replaceDevices user rows).without hidden := by
  unfold replaceDevices track
  rw [isTracked_without]
  split <;> rfl

end Common

-----------------------------------------------------------------------------------------
-- Statements that change or remove rows which are there
-----------------------------------------------------------------------------------------

variable (db : Database) (owner hidden : AccountId)

theorem wipe_without : (db.without hidden).wipe owner = (db.wipe owner).without hidden := by
  simp only [wipe, without, Rows.remove_comm]

theorem setDevice_without (device : String)
    : (db.without hidden).setDevice owner device = (db.setDevice owner device).without hidden := by
  simp only [setDevice, without]
  rw [Rows.remove_amend]
  intro row _
  rfl

theorem setSyncToken_without (syncToken : String)
    : (db.without hidden).setSyncToken owner syncToken
      = (db.setSyncToken owner syncToken).without hidden := by
  simp only [setSyncToken, without]
  rw [Rows.remove_amend]
  intro row _
  rfl

theorem updateOlm_without (session : SessionId) (blob : Blob) (encrypted decrypted : Instant)
    : (db.without hidden).updateOlm owner session blob encrypted decrypted
      = (db.updateOlm owner session blob encrypted decrypted).without hidden := by
  simp only [updateOlm, without]
  rw [Rows.remove_amend]
  intro row _
  rfl

theorem updateOutbound_without (room : RoomId) (session : SessionId) (blob : Blob)
    (messageCount : Int64) (used : Instant)
    : (db.without hidden).updateOutbound owner room session blob messageCount used
      = (db.updateOutbound owner room session blob messageCount used).without hidden := by
  simp only [updateOutbound, without]
  rw [Rows.remove_amend]
  intro row _
  rfl

variable {owner hidden}

-----------------------------------------------------------------------------------------
-- Statements about another account
-----------------------------------------------------------------------------------------

section Others

variable (other : owner ≠ hidden)
include other

/-- A row of the account is none of the hidden one. -/
theorem stays_of_owner {τ : Type} {column : τ → AccountId} {row : τ} (owned : column row = owner)
    : decide (column row = hidden) = false :=
  decide_eq_false fun same => other (owned.symm.trans same)

theorem account?_without : (db.without hidden).account? owner = db.account? owner := by
  apply Rows.find?_remove_of_apart
  intro row found
  exact stays_of_owner other (of_decide_eq_true found)

theorem olmSessions_without (sender : IdentityKey)
    : (db.without hidden).olmSessions owner sender = db.olmSessions owner sender := by
  simp only [olmSessions, without]
  rw [Rows.filter_remove_of_apart]
  intro row found
  exact stays_of_owner other (of_decide_eq_true found).2

theorem hasOlmSession_without (sender : IdentityKey)
    : (db.without hidden).hasOlmSession owner sender = db.hasOlmSession owner sender := by
  apply Rows.any_remove_of_apart
  intro row found
  exact stays_of_owner other (of_decide_eq_true found).2

theorem inbound?_without (room : RoomId) (sender : IdentityKey) (id : SessionId)
    : (db.without hidden).inbound? owner room sender id = db.inbound? owner room sender id := by
  apply Rows.find?_remove_of_apart
  intro row found
  exact stays_of_owner other (of_decide_eq_true found).2.2.2

theorem any_isOutbound_without (room : RoomId) (session : SessionId)
    : (db.without hidden).outbound.any (isOutbound owner room session)
      = db.outbound.any (isOutbound owner room session) := by
  apply Rows.any_remove_of_apart
  intro row found
  exact stays_of_owner other (of_decide_eq_true found).2.2

theorem outbound?_without (room : RoomId)
    : (db.without hidden).outbound? owner room = db.outbound? owner room := by
  apply Rows.find?_remove_of_apart
  intro row found
  exact stays_of_owner other (of_decide_eq_true found).2

theorem removeOutbound_without (rooms : List RoomId)
    : (db.without hidden).removeOutbound owner rooms
      = ((db.removeOutbound owner rooms).1, (db.removeOutbound owner rooms).2.without hidden) := by
  simp only [removeOutbound, without]
  rw [Rows.remove_comm, Rows.countP_remove_of_apart]
  intro row found
  exact stays_of_owner other (of_decide_eq_true found).1

end Others

-----------------------------------------------------------------------------------------
-- Statements that write a row of another account
-----------------------------------------------------------------------------------------

theorem upsertAccount_without {row : AccountRow} (other : row.owner ≠ hidden)
    : (db.without hidden).upsertAccount row = (db.upsertAccount row).without hidden := by
  simp only [upsertAccount, without]
  rw [Rows.remove_upsert]
  · intro old _
    rfl
  · intro old met
    exact stays_of_owner other (of_decide_eq_true met)
  · exact decide_eq_false other

theorem insertOlm_without {row : OlmRow} (other : row.owner ≠ hidden)
    : (db.without hidden).insertOlm row = (db.insertOlm row).map (·.without hidden) := by
  have same
      : ((db.without hidden).olm.any fun old => old.owner = row.owner ∧ old.session = row.session)
        = db.olm.any fun old => old.owner = row.owner ∧ old.session = row.session := by
    apply Rows.any_remove_of_apart
    intro old found
    exact stays_of_owner other (of_decide_eq_true found).1
  unfold insertOlm
  rw [same]
  split
  · rfl
  · simp only [Except.map, without]
    rw [Rows.remove_append]
    exact decide_eq_false other

theorem insertInbound_without {row : InboundRow} (other : row.owner ≠ hidden)
    : (db.without hidden).insertInbound row = (db.insertInbound row).map (·.without hidden) := by
  have same
      : ((db.without hidden).inbound.any fun old =>
            old.owner = row.owner ∧ old.session = row.session)
        = db.inbound.any fun old => old.owner = row.owner ∧ old.session = row.session := by
    apply Rows.any_remove_of_apart
    intro old found
    exact stays_of_owner other (of_decide_eq_true found).1
  unfold insertInbound
  rw [same]
  split
  · rfl
  · simp only [Except.map, without]
    rw [Rows.remove_append]
    exact decide_eq_false other

theorem upsertOutbound_without {row : OutboundRow} (other : row.owner ≠ hidden)
    : (db.without hidden).upsertOutbound row = (db.upsertOutbound row).without hidden := by
  simp only [upsertOutbound, without]
  rw [Rows.remove_upsert]
  · intro old met
    exact congrArg (fun owner => decide (owner = hidden)) (of_decide_eq_true met).1.symm
  · intro old met
    exact stays_of_owner other (of_decide_eq_true met).1
  · exact decide_eq_false other

-----------------------------------------------------------------------------------------
-- Statements about the account itself
-----------------------------------------------------------------------------------------

section Own

variable (hidden)

theorem without_without : (db.without hidden).without hidden = db.without hidden := by
  simp only [without, Rows.remove_remove_of_met fun _ => id]

theorem without_wipe_self : (db.wipe hidden).without hidden = db.without hidden := by
  simp only [wipe, without, Rows.remove_remove_of_met fun _ => id]

theorem without_setDevice_self (device : String)
    : (db.setDevice hidden device).without hidden = db.without hidden := by
  simp only [setDevice, without]
  rw [Rows.remove_amend_of_met (fun _ => id)]
  intro row _
  rfl

theorem without_setSyncToken_self (syncToken : String)
    : (db.setSyncToken hidden syncToken).without hidden = db.without hidden := by
  simp only [setSyncToken, without]
  rw [Rows.remove_amend_of_met (fun _ => id)]
  intro row _
  rfl

theorem without_updateOlm_self (session : SessionId) (blob : Blob) (encrypted decrypted : Instant)
    : (db.updateOlm hidden session blob encrypted decrypted).without hidden
      = db.without hidden := by
  simp only [updateOlm, without]
  rw [Rows.remove_amend_of_met]
  · intro row met
    exact decide_eq_true (of_decide_eq_true met).2
  · intro row _
    rfl

theorem without_updateOutbound_self (room : RoomId) (session : SessionId) (blob : Blob)
    (messageCount : Int64) (used : Instant)
    : (db.updateOutbound hidden room session blob messageCount used).without hidden
      = db.without hidden := by
  simp only [updateOutbound, without]
  rw [Rows.remove_amend_of_met]
  · intro row met
    exact decide_eq_true (of_decide_eq_true met).2.2
  · intro row _
    rfl

theorem without_removeOutbound_self (rooms : List RoomId)
    : { db with outbound := Rows.remove (isOutboundIn hidden rooms) db.outbound }.without hidden
      = db.without hidden := by
  simp only [without]
  rw [Rows.remove_remove_of_met]
  intro row met
  exact decide_eq_true (of_decide_eq_true met).1

variable {hidden}

theorem without_upsertAccount_self {row : AccountRow} (own : row.owner = hidden)
    : (db.upsertAccount row).without hidden = db.without hidden := by
  subst own
  simp only [upsertAccount, without]
  rw [Rows.remove_upsert_of_met (fun _ => id)]
  · intro old _
    rfl
  · exact decide_eq_true rfl

theorem without_insertOlm_self {row : OlmRow} (own : row.owner = hidden)
    : { db with olm := db.olm ++ [row] }.without hidden = db.without hidden := by
  simp only [without]
  rw [Rows.remove_append_of_met]
  exact decide_eq_true own

theorem without_insertInbound_self {row : InboundRow} (own : row.owner = hidden)
    : { db with inbound := db.inbound ++ [row] }.without hidden = db.without hidden := by
  simp only [without]
  rw [Rows.remove_append_of_met]
  exact decide_eq_true own

theorem without_upsertOutbound_self {row : OutboundRow} (own : row.owner = hidden)
    : (db.upsertOutbound row).without hidden = db.without hidden := by
  subst own
  have met (old : OutboundRow)
      (there : decide (old.owner = row.owner ∧ old.room = row.room) = true)
      : decide (old.owner = row.owner) = true :=
    decide_eq_true (of_decide_eq_true there).1
  simp only [upsertOutbound, without]
  rw [Rows.remove_upsert_of_met met]
  · intro old there
    rw [met old there]
    exact decide_eq_true rfl
  · exact decide_eq_true rfl

end Own

end Database

end KeyVault
