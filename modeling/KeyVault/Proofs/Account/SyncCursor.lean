import KeyVault.Proofs.Deployment.History
/-!
The sync position of an account's row. Storing the account writes back the position that the
vault remembers, which need not be the stored one; the device of a row that is there is
never written back.
-/

namespace KeyVault

-----------------------------------------------------------------------------------------
-- What statements do to the row of an account
-----------------------------------------------------------------------------------------

/-- The sync position that a memory gives to a row; nothing remembered gives the empty
position.
-/
def Memory.cursor (memory : Memory) : String :=
  (memory.syncToken.map SyncToken.text).getD ""

namespace Database

variable {db : Database} {owner : AccountId} {stored : AccountRow}

/-- The row that is found for an account is its own. -/
theorem owner_of_account? (there : db.account? owner = some stored) : stored.owner = owner := by
  unfold account? at there
  simpa using List.find?_some there

/-- Storing an account over its row keeps the device of the row. -/
theorem account?_upsertAccount {row : AccountRow} (there : db.account? row.owner = some stored)
    : (db.upsertAccount row).account? row.owner
      = some
          { stored with
            shared := row.shared
            syncToken := row.syncToken
            blob := row.blob } := by
  refine Rows.find?_upsert_of_some ?_ there row
  intro old
  rfl

/-- Setting the device of an account touches nothing else of its row. -/
theorem account?_setDevice (device : String) (there : db.account? owner = some stored)
    : (db.setDevice owner device).account? owner = some { stored with device } := by
  have owned := owner_of_account? there
  unfold account? at there
  unfold account? setDevice
  rw [Rows.find?_amend (by intro row; rfl), there]
  simp [owned]

section Others

variable {other : AccountId} (different : other ≠ owner)
include different

/-- A row of one account is not a row of another. -/
theorem apart_of_ne (row : AccountRow) (found : decide (row.owner = other) = true)
    : decide (row.owner = owner) = false := by
  simp_all

theorem account?_upsertAccount_of_ne {row : AccountRow} (owned : row.owner = owner)
    : (db.upsertAccount row).account? other = db.account? other := by
  unfold account? upsertAccount
  subst owned
  exact Rows.find?_upsert_of_apart (by intro row; rfl) (apart_of_ne different)
    (decide_eq_false different.symm) db.accounts

theorem account?_setDevice_of_ne (device : String)
    : (db.setDevice owner device).account? other = db.account? other := by
  unfold account? setDevice
  exact Rows.find?_amend_of_apart (by intro row; rfl) (apart_of_ne different) db.accounts

theorem account?_setSyncToken_of_ne (syncToken : String)
    : (db.setSyncToken owner syncToken).account? other = db.account? other := by
  unfold account? setSyncToken
  exact Rows.find?_amend_of_apart (by intro row; rfl) (apart_of_ne different) db.accounts

theorem account?_wipe_of_ne : (db.wipe owner).account? other = db.account? other := by
  unfold account? wipe
  exact Rows.find?_remove_of_apart (apart_of_ne different) db.accounts

end Others

end Database

-----------------------------------------------------------------------------------------
-- What operations do to the row, and what a new vault reads of it
-----------------------------------------------------------------------------------------

/-- The operations that write the sync position of a row that is there. -/
def Operation.writesCursor : Operation → Bool
  | putNextBatch _ | putAccount _ | delete => true
  | _ => false

namespace Vault

variable {vault : Vault} {nonce : Aead.Nonce} {state after : State} {operation : Operation}

/-- The operations that do not write the position of the vault's row keep it. -/
theorem Effect.syncToken (effect : vault.Effect nonce state operation after)
    (keeping : operation.writesCursor = false) {row : AccountRow}
    (there : state.database.account? vault.owner = some row)
    : (after.database.account? vault.owner).map AccountRow.syncToken = some row.syncToken := by
  cases effect
  case delete => cases keeping
  case putNextBatch => cases keeping
  case putAccount => cases keeping
  case putDeviceId device =>
    dsimp only
    rw [Database.account?_setDevice _ there]
    rfl
  all_goals exact congrArg (Option.map AccountRow.syncToken) there

/-- No operation of a vault touches the row of another account. -/
theorem Effect.account?_of_ne (effect : vault.Effect nonce state operation after)
    {other : AccountId}
    (different : other ≠ vault.owner)
    : after.database.account? other = state.database.account? other := by
  cases effect
  case delete => exact Database.account?_wipe_of_ne different
  case putDeviceId device => exact Database.account?_setDevice_of_ne different _
  case putNextBatch token => exact Database.account?_setSyncToken_of_ne different _
  case putAccount account => exact Database.account?_upsertAccount_of_ne different rfl
  all_goals rfl

/-- Storing an account over its row leaves a row with the same device and with the
remembered position; a database that is not reached keeps its row.
-/
theorem account?_putAccount (vault : Vault) (nonce : Aead.Nonce) (account : Account)
    (state : State)
    {row : AccountRow} (there : state.database.account? vault.owner = some row)
    : ∃ stored,
        (vault.putAccount nonce account state).state.database.account? vault.owner = some stored
        ∧ stored.device = row.device
        ∧ stored.syncToken = if vault.online then state.memory.cursor else row.syncToken := by
  cases online : vault.online with
  | false =>
    simp only [putAccount, online]
    exact ⟨row, there, rfl, rfl⟩
  | true =>
    simp only [putAccount, online]
    exact ⟨_, Database.account?_upsertAccount there, rfl, rfl⟩

/-- A handle that remembers nothing answers the device of the row. -/
theorem getDeviceId_result (online : vault.online = true) (forgot : state.memory.device = none)
    : (vault.getDeviceId state).result
      = .ok ((state.database.account? vault.owner).bind fun row =>
          (nonempty row.device).map DeviceId.mk) := by
  simp [getDeviceId, online, forgot, Outcome.done]

/-- A handle that remembers nothing answers the position of the row. -/
theorem getNextBatch_result (online : vault.online = true)
    (forgot : state.memory.syncToken = none)
    : (vault.getNextBatch state).result
      = .ok ((state.database.account? vault.owner).bind fun row =>
          (nonempty row.syncToken).map SyncToken.mk) := by
  simp [getNextBatch, online, forgot, Outcome.done]

/-- Two stored positions are answered alike only when they are the same; the empty one is
answered as none.
-/
theorem nonempty_syncToken_inj {first second : String}
    : (nonempty first).map SyncToken.mk = (nonempty second).map SyncToken.mk
      ↔ first = second := by
  refine ⟨?_, fun same => by rw [same]⟩
  intro same
  unfold nonempty at same
  split at same <;> split at same <;> simp_all

end Vault

namespace Deployment

/-- What a vault that was just opened on the tables answers. -/
def afresh {α : Type} (deployment : Deployment) (owner : AccountId) (key : PickleKey)
    (backend : Backend)
    (read : Vault → State → Outcome α) : Except StoreFault α :=
  let handle := Handle.fresh owner key backend
  (read (deployment.vaultOf handle) (deployment.stateOf handle)).result

variable {deployment : Deployment} {owner : AccountId} {backend : Backend} {row : AccountRow}

/-- A vault that was just opened answers the device of the row. -/
theorem afresh_getDeviceId (key : PickleKey) (online : deployment.isOnline backend = true)
    (there : deployment.database.account? owner = some row)
    : deployment.afresh owner key backend Vault.getDeviceId
      = .ok ((Vault.nonempty row.device).map DeviceId.mk) := by
  unfold afresh
  rw [Vault.getDeviceId_result online rfl]
  exact congrArg (fun found => Except.ok (Option.bind found _)) there

/-- A vault that was just opened answers the position of the row. -/
theorem afresh_getNextBatch (key : PickleKey) (online : deployment.isOnline backend = true)
    (there : deployment.database.account? owner = some row)
    : deployment.afresh owner key backend Vault.getNextBatch
      = .ok ((Vault.nonempty row.syncToken).map SyncToken.mk) := by
  unfold afresh
  rw [Vault.getNextBatch_result online rfl]
  exact congrArg (fun found => Except.ok (Option.bind found _)) there

end Deployment

-----------------------------------------------------------------------------------------
-- The position survives exactly where it is the remembered one
-----------------------------------------------------------------------------------------

/-- The position of a row survives every event but those operations of the account's own
vaults that write it.
-/
theorem Moment.syncToken_of_keeping (moment : Moment) {owner : AccountId} {row : AccountRow}
    (there : moment.met.database.account? owner = some row)
    (keeping
      : ∀ handle operation,
          moment.call? = some (handle, operation)
          → handle.owner = owner
          → operation.writesCursor = false)
    : (moment.left.database.account? owner).map AccountRow.syncToken = some row.syncToken := by
  cases called : moment.call? with
  | none =>
    rw [database_of_no_call called, there]
    rfl
  | some call =>
    obtain ⟨handle, operation⟩ := call
    have effect := moment.effect handle operation
    rw [database_of_call called]
    by_cases own : handle.owner = owner
    · subst own
      exact effect.syncToken (keeping handle operation called rfl) there
    · rw [effect.account?_of_ne (Ne.symm own)]
      exact congrArg (Option.map AccountRow.syncToken) there

/-- The position of an account's row survives the storing of the account exactly when it is
the one that the vault remembers, or when the database is not reached; the device always
survives, and what a vault that was just opened answers agrees. Apart from the vaults of the
account that set the position, store the account or delete it, nothing changes it.
-/
theorem stored_cursor_survives_iff (deployment : Deployment) (nonce : Aead.Nonce) (name : String)
    (handle : Handle) (row : AccountRow) (opened : deployment.handle? name = some handle)
    (there : deployment.database.account? handle.owner = some row)
    : (∀ account,
        let after := (deployment.step nonce (.call name (.putAccount account))).2
        let survives :=
          deployment.isOnline handle.backend = false ∨ handle.memory.cursor = row.syncToken
        ∃ stored,
          after.database.account? handle.owner = some stored
          ∧ stored.device = row.device
          ∧ (stored.syncToken = row.syncToken ↔ survives)
          ∧ ∀ key backend,
              deployment.isOnline backend = true
              → after.afresh handle.owner key backend Vault.getDeviceId
                  = deployment.afresh handle.owner key backend Vault.getDeviceId
                ∧ (after.afresh handle.owner key backend Vault.getNextBatch
                      = deployment.afresh handle.owner key backend Vault.getNextBatch
                    ↔ survives))
      ∧ ∀ event,
          (∀ other operation,
            (Moment.mk deployment nonce event).call? = some (other, operation)
            → other.owner = handle.owner
            → operation.writesCursor = false)
          → ((deployment.step nonce event).2.database.account? handle.owner).map
                AccountRow.syncToken
              = some row.syncToken := by
  refine ⟨?_, ?_⟩
  · intro account after survives
    have called
        : (Moment.mk deployment nonce (.call name (.putAccount account))).call?
          = some (handle, .putAccount account) := by
      simp [Moment.call?, opened]
    obtain ⟨stored, found, device, syncToken⟩ :=
      (deployment.vaultOf handle).account?_putAccount nonce account
        (deployment.stateOf handle) there
    have written : after.database.account? handle.owner = some stored := by
      rw [← found]
      exact congrArg (Database.account? · _) (Moment.database_of_call called)
    have kept : stored.syncToken = row.syncToken ↔ survives := by
      rw [syncToken]
      cases online : deployment.isOnline handle.backend <;>
        simp [survives, online, Deployment.vaultOf, Deployment.stateOf]
    refine ⟨stored, written, device, kept, ?_⟩
    intro key backend online
    have still : after.isOnline backend = true :=
      (Moment.isOnline_of_call called backend).trans online
    rw [Deployment.afresh_getDeviceId key still written,
      Deployment.afresh_getDeviceId key online there,
      Deployment.afresh_getNextBatch key still written,
      Deployment.afresh_getNextBatch key online there]
    refine ⟨by rw [device], Iff.trans ?_ kept⟩
    rw [Except.ok.injEq, Vault.nonempty_syncToken_inj]
  · intro event keeping
    exact (Moment.mk deployment nonce event).syncToken_of_keeping there keeping

-----------------------------------------------------------------------------------------
-- A vault that was just opened remembers nothing and loses the position
-----------------------------------------------------------------------------------------

/-- A vault stores an account and its position, and another vault is opened on the account. -/
def reopening : List (Aead.Nonce × Event) :=
  let events : List Event :=
    [.openVault "first" ⟨"@a"⟩ ⟨.replicate 32 0⟩,
     .call "first" (.putAccount ⟨[1], true⟩),
     .call "first" (.putNextBatch ⟨"s1"⟩),
     .shareVault "second" "first" ⟨"@a"⟩ ⟨.replicate 32 0⟩]
  events.map fun event => (.replicate 24 0, event)

/-- What reopening leaves: the second vault has read nothing of the account's row yet. -/
def Deployment.reopened : Deployment :=
  (Deployment.empty.run reopening).2

/-- The vault that read nothing stores the account and loses the position. -/
theorem stored_cursor_lost_when_reopened
    : Deployment.reopened.handle? "second"
        = some (.fresh ⟨"@a"⟩ ⟨.replicate 32 0⟩ (.sqlite 0))
      ∧ (Deployment.reopened.database.account? ⟨"@a"⟩).map AccountRow.syncToken = some "s1"
      ∧ ∃ stored,
          (Deployment.reopened.step (.replicate 24 0)
              (.call "second" (.putAccount ⟨[1], true⟩))).2.database.account? ⟨"@a"⟩
            = some stored
          ∧ stored.syncToken ≠ "s1" := by
  have opened
      : Deployment.reopened.handle? "second"
        = some (.fresh ⟨"@a"⟩ ⟨.replicate 32 0⟩ (.sqlite 0)) := by
    decide
  have position
      : (Deployment.reopened.database.account? ⟨"@a"⟩).map AccountRow.syncToken
        = some "s1" := by
    decide
  obtain ⟨row, there, same⟩ := Option.map_eq_some_iff.mp position
  obtain ⟨stored, found, _, survives, _⟩ :=
    (stored_cursor_survives_iff Deployment.reopened (.replicate 24 0) "second" _ row opened
      there).1 ⟨[1], true⟩
  refine ⟨opened, position, stored, found, ?_⟩
  rw [← same, ne_eq, survives, same]
  decide

/-- So storing the account does not keep the position in every deployment that a history
leaves.
-/
theorem storing_account_moves_cursor
    : ¬ ∀ history name handle row nonce account,
        let deployment := (Deployment.empty.run history).2
        deployment.handle? name = some handle
        → deployment.database.account? handle.owner = some row
        → ∃ stored,
            (deployment.step nonce (.call name (.putAccount account))).2.database.account?
                handle.owner
              = some stored
            ∧ stored.device = row.device
            ∧ stored.syncToken = row.syncToken := by
  intro keeps
  have position
      : (Deployment.reopened.database.account? ⟨"@a"⟩).map AccountRow.syncToken
        = some "s1" := by
    decide
  have lost
      : ((Deployment.reopened.step (.replicate 24 0)
            (.call "second" (.putAccount ⟨[1], true⟩))).2.database.account? ⟨"@a"⟩).map
          AccountRow.syncToken
        = some "" := by
    decide
  obtain ⟨row, there, same⟩ := Option.map_eq_some_iff.mp position
  obtain ⟨stored, found, _, kept⟩ :=
    keeps reopening "second" (.fresh ⟨"@a"⟩ ⟨.replicate 32 0⟩ (.sqlite 0)) row
      (.replicate 24 0) ⟨[1], true⟩ (by decide) there
  have written := congrArg (Option.map AccountRow.syncToken) found
  rw [Option.map_some, kept, same] at written
  exact absurd (lost.symm.trans written) (by decide)

end KeyVault
