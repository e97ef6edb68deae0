import KeyVault.Proofs.Account.SyncCursor
import KeyVault.Proofs.Deployment.Handles
import KeyVault.Proofs.Pickle.RoundTrip
/-!
The only vault of an account. What it remembers of the account's row agrees with the row from
when the account is stored until it is deleted, whatever the vault wrote and read before and
in between; so a vault that is opened in its place answers what it does.
-/

namespace KeyVault

-----------------------------------------------------------------------------------------
-- A memory that agrees with the row
-----------------------------------------------------------------------------------------

/-- The device that a memory gives to a row; nothing remembered gives the empty device. -/
def Memory.deviceText (memory : Memory) : String :=
  (memory.device.map DeviceId.text).getD ""

/-- A memory agrees with a row: it holds the account that the row's pickle opens to, and would
give the row the device and the position that it has.
-/
structure Memory.Agrees (memory : Memory) (key : PickleKey) (row : AccountRow) : Prop where
  account
    : ∃ account,
        memory.account = some account ∧ Account.unpickle row.blob key row.shared = .ok account
  device : memory.deviceText = row.device
  syncToken : memory.cursor = row.syncToken

/-- What a vault remembers mirrors its account's row: there is a row exactly when the account
is stored, and then the memory agrees with it. A vault whose account is not stored may
remember a device and a position.
-/
structure Vault.Mirrors (vault : Vault) (state : State) (stored : Prop) : Prop where
  stored : (state.database.account? vault.owner).isSome = true ↔ stored
  agrees
    : ∀ row,
        state.database.account? vault.owner = some row → state.memory.Agrees vault.key row

/-- Whether an account is stored after an operation of its vault. -/
def Operation.storing (operation : Operation) (stored : Prop) : Prop :=
  match operation with
  | putAccount _ => True
  | delete => False
  | _ => stored

/-- The operations that touch an account's row or what is remembered of it. -/
def Operation.usesAccount : Operation → Bool
  | delete | getDeviceId | putDeviceId _ | getNextBatch | putNextBatch _ | getAccount
  | putAccount _ => true
  | _ => false

-----------------------------------------------------------------------------------------
-- What statements do to the row
-----------------------------------------------------------------------------------------

namespace Database

variable (db : Database) (owner : AccountId)

/-- An amendment that keeps the owner amends the row of its account, if there is one. -/
theorem find?_amend_owner {change : AccountRow → AccountRow}
    (kept : ∀ row, (change row).owner = row.owner)
    : (Rows.amend (fun row => row.owner = owner) change db.accounts).find?
          (fun row => row.owner = owner)
      = (db.account? owner).map change := by
  rw [Rows.find?_amend (by intro row; rw [kept])]
  unfold account?
  cases there : db.accounts.find? fun row => row.owner = owner with
  | none => rfl
  | some row => exact congrArg some (if_pos (List.find?_some there))

theorem account?_setDevice_eq (device : String)
    : (db.setDevice owner device).account? owner
      = (db.account? owner).map fun row => { row with device } :=
  db.find?_amend_owner owner fun _ => rfl

theorem account?_setSyncToken_eq (syncToken : String)
    : (db.setSyncToken owner syncToken).account? owner
      = (db.account? owner).map fun row => { row with syncToken } :=
  db.find?_amend_owner owner fun _ => rfl

/-- An account is stored as it is given, or over its row, which keeps its device. -/
theorem account?_upsertAccount_eq (row : AccountRow)
    : (db.upsertAccount row).account? row.owner
      = some
          { row with
            device := ((db.account? row.owner).map AccountRow.device).getD row.device } := by
  cases there : db.account? row.owner with
  | none => exact Rows.find?_upsert_of_none there (decide_eq_true rfl)
  | some stored =>
    rw [account?_upsertAccount there, ← owner_of_account? there]
    rfl

/-- No row of an account is left when the account is wiped. -/
theorem account?_wipe : (db.wipe owner).account? owner = none :=
  Rows.find?_remove_of_met (fun _ found => found) db.accounts

end Database

-----------------------------------------------------------------------------------------
-- Every operation of the vault keeps the agreement
-----------------------------------------------------------------------------------------

namespace Vault

variable {vault : Vault} {state : State} {stored : Prop}

/-- A text that is stored from what is remembered reads as what is remembered, or as nothing
where that is empty.
-/
theorem map_nonempty {τ : Type} {make : String → τ} {text : τ → String}
    (inverse : ∀ value, make (text value) = value) {held : Option τ} {stored : String}
    (same : (held.map text).getD "" = stored)
    : (nonempty stored).map make = held.filter fun value => text value ≠ "" := by
  subst same
  cases held with
  | none => rfl
  | some value =>
    by_cases empty : text value = ""
    · simp [nonempty, empty, Option.filter]
    · simp [nonempty, empty, inverse, Option.filter]

/-- The device that is read is the one of the row where that is not empty, and else the one
that is remembered, which is empty too.
-/
theorem text_deviceRead {device : String} {memory : Memory} (same : memory.deviceText = device)
    : (((nonempty device).map DeviceId.mk <|> memory.device).map DeviceId.text).getD ""
      = device := by
  by_cases empty : device = ""
  · rw [nonempty, if_pos empty]
    exact same
  · rw [nonempty, if_neg empty]
    rfl

/-- Operations that do not use the account leave its row and what is remembered of it. -/
theorem Effect.account {nonce : Aead.Nonce} {after : State} {operation : Operation}
    (effect : vault.Effect nonce state operation after) (other : operation.usesAccount = false)
    : after.database.accounts = state.database.accounts ∧ after.memory = state.memory := by
  cases effect <;> first | exact ⟨rfl, rfl⟩ | cases other

namespace Mirrors

/-- A state with the same row and the same memory mirrors it too. -/
theorem of_same {after : State} (mirrors : vault.Mirrors state stored)
    (row : after.database.account? vault.owner = state.database.account? vault.owner)
    (memory : after.memory = state.memory)
    : vault.Mirrors after stored where
  stored := by
    rw [row]
    exact mirrors.stored
  agrees stored there := by
    rw [memory]
    exact mirrors.agrees stored (row ▸ there)

/-- A change of the row and of the memory that keeps the agreement keeps the mirror. -/
theorem of_amended {after : State} {change : AccountRow → AccountRow}
    (mirrors : vault.Mirrors state stored)
    (amended
      : after.database.account? vault.owner
        = (state.database.account? vault.owner).map change)
    (agreeing
      : ∀ row, state.memory.Agrees vault.key row → after.memory.Agrees vault.key (change row))
    : vault.Mirrors after stored where
  stored := by
    rw [amended, Option.isSome_map]
    exact mirrors.stored
  agrees row there := by
    rw [amended] at there
    obtain ⟨old, found, rfl⟩ := Option.map_eq_some_iff.mp there
    exact agreeing old (mirrors.agrees old found)

/-- What a read remembers of the row keeps the mirror where it agrees with the row. -/
theorem of_remembered {memory : Memory} (mirrors : vault.Mirrors state stored)
    (agreeing
      : ∀ row,
          state.database.account? vault.owner = some row
          → state.memory.Agrees vault.key row
          → memory.Agrees vault.key row)
    : vault.Mirrors { state with memory } stored where
  stored := mirrors.stored
  agrees row there := agreeing row there (mirrors.agrees row there)

end Mirrors

/-- A vault that is just opened mirrors a row that is not there. -/
theorem mirrors_of_absent (absent : state.database.account? vault.owner = none)
    : vault.Mirrors state False where
  stored := by simp [absent]
  agrees row there := by
    rw [absent] at there
    cases there

/-- Where the account is stored, the vault answers the one that the pickle of the row opens to. -/
theorem perform_getAccount {row : AccountRow} (agrees : state.memory.Agrees vault.key row)
    (nonce : Aead.Nonce)
    : ∃ account,
        vault.perform nonce .getAccount state = .done (.account (some account)) state
        ∧ Account.unpickle row.blob vault.key row.shared = .ok account := by
  obtain ⟨account, held, opens⟩ := agrees.account
  refine ⟨account, ?_, opens⟩
  simp only [perform, getAccount, held, Outcome.answering_done]

variable (nonce : Aead.Nonce) (online : vault.online = true)
include online

theorem delete_mirrors : vault.Mirrors (vault.delete state).state False := by
  unfold delete
  rw [if_pos online]
  exact mirrors_of_absent (state.database.account?_wipe vault.owner)

theorem getDeviceId_mirrors (mirrors : vault.Mirrors state stored)
    : vault.Mirrors (vault.getDeviceId state).state stored := by
  unfold getDeviceId
  rw [if_pos online]
  refine mirrors.of_remembered ?_
  intro row there agrees
  refine { agrees with device := ?_ }
  rw [there]
  exact text_deviceRead agrees.device

theorem putDeviceId_mirrors (mirrors : vault.Mirrors state stored) (device : DeviceId)
    : vault.Mirrors (vault.putDeviceId device state).state stored := by
  unfold putDeviceId
  rw [if_pos online]
  refine mirrors.of_amended (state.database.account?_setDevice_eq vault.owner device.text) ?_
  intro row agrees
  exact { agrees with device := rfl }

/-- The position is remembered, or else it is empty in the row. -/
theorem getNextBatch_mirrors (mirrors : vault.Mirrors state stored)
    : vault.Mirrors (vault.getNextBatch state).state stored := by
  unfold getNextBatch
  cases remembered : state.memory.syncToken with
  | some token => exact mirrors
  | none =>
    dsimp only
    rw [if_pos online]
    refine mirrors.of_remembered ?_
    intro row there agrees
    have empty : row.syncToken = "" := by
      rw [← agrees.syncToken, Memory.cursor, remembered]
      rfl
    refine { agrees with syncToken := ?_ }
    rw [there, Option.bind_some, nonempty, if_pos empty, empty]
    rfl

theorem putNextBatch_mirrors (mirrors : vault.Mirrors state stored) (token : SyncToken)
    : vault.Mirrors (vault.putNextBatch token state).state stored := by
  unfold putNextBatch
  rw [if_pos online]
  refine mirrors.of_amended (state.database.account?_setSyncToken_eq vault.owner token.text) ?_
  intro row agrees
  exact { agrees with syncToken := rfl }

/-- The account is remembered, or else there is no row to read it from. -/
theorem getAccount_mirrors (mirrors : vault.Mirrors state stored)
    : vault.Mirrors (vault.getAccount state).state stored := by
  unfold getAccount
  cases remembered : state.memory.account with
  | some account => exact mirrors
  | none =>
    dsimp only
    rw [if_pos online]
    cases there : state.database.account? vault.owner with
    | none => exact mirrors
    | some row =>
      obtain ⟨account, held, _⟩ := (mirrors.agrees row there).account
      rw [remembered] at held
      cases held

/-- A stored account is read back as it was stored; the device of the row is the one that is
remembered, whether the row was there or not.
-/
theorem putAccount_mirrors (mirrors : vault.Mirrors state stored) (account : Account)
    : vault.Mirrors (vault.putAccount nonce account state).state True := by
  unfold putAccount
  rw [if_pos online]
  let row := vault.rowOfAccount nonce account { state.memory with account := some account }
  have written := state.database.account?_upsertAccount_eq row
  have device
      : state.memory.deviceText
        = ((state.database.account? row.owner).map AccountRow.device).getD row.device := by
    cases found : state.database.account? row.owner with
    | none => rfl
    | some old => exact (mirrors.agrees old found).device
  refine ⟨iff_of_true (Option.isSome_iff_exists.mpr ⟨_, written⟩) trivial, ?_⟩
  intro found there
  cases Option.some.inj (written.symm.trans there)
  exact ⟨⟨account, rfl, account.unpickle_pickle vault.key nonce account.shared⟩, device, rfl⟩

/-- Every operation of the vault keeps the agreement of its memory with the row, by going
through those that use the account.
-/
theorem perform_mirrors (mirrors : vault.Mirrors state stored) (operation : Operation)
    : vault.Mirrors (vault.perform nonce operation state).state (operation.storing stored) := by
  have effect := vault.perform_effect nonce state operation
  cases operation
  case delete => exact delete_mirrors online
  case getDeviceId => exact getDeviceId_mirrors online mirrors
  case putDeviceId device => exact putDeviceId_mirrors online mirrors device
  case getNextBatch => exact getNextBatch_mirrors online mirrors
  case putNextBatch token => exact putNextBatch_mirrors online mirrors token
  case getAccount => exact getAccount_mirrors online mirrors
  case putAccount account => exact putAccount_mirrors nonce online mirrors account
  all_goals
    obtain ⟨rows, memory⟩ := effect.account rfl
    exact mirrors.of_same (congrArg (List.find? _) rows) memory

/-- Where the account is stored, the vault answers the device of the row, or one that is empty
like it.
-/
theorem perform_getDeviceId {row : AccountRow}
    (there : state.database.account? vault.owner = some row)
    (agrees : state.memory.Agrees vault.key row)
    : ∃ device,
        vault.perform nonce .getDeviceId state
          = .done (.device device) { state with memory := { state.memory with device } }
        ∧ (nonempty row.device).map DeviceId.mk = device.filter (·.text ≠ "") := by
  refine ⟨_, ?_, map_nonempty (fun _ => rfl) (text_deviceRead agrees.device)⟩
  simp only [perform, getDeviceId, online, if_true, there, Option.bind_some,
    Outcome.answering_done]

/-- Where the account is stored, the vault answers the position of the row, or one that is
empty like it.
-/
theorem perform_getNextBatch {row : AccountRow}
    (there : state.database.account? vault.owner = some row)
    (agrees : state.memory.Agrees vault.key row)
    : ∃ token,
        vault.perform nonce .getNextBatch state
          = .done (.syncToken token)
              { state with memory := { state.memory with syncToken := token } }
        ∧ (nonempty row.syncToken).map SyncToken.mk = token.filter (·.text ≠ "") := by
  have reads
      : (nonempty row.syncToken).map SyncToken.mk
        = state.memory.syncToken.filter fun token => token.text ≠ "" :=
    map_nonempty (fun _ => rfl) agrees.syncToken
  refine ⟨state.memory.syncToken, ?_, reads⟩
  cases remembered : state.memory.syncToken with
  | some token =>
    simp only [perform, getNextBatch, remembered, Outcome.answering_done]
    rw [← remembered]
  | none =>
    rw [remembered] at reads
    simp only [perform, getNextBatch, remembered, online, if_true, there, Option.bind_some, reads,
      Option.filter_none, Outcome.answering_done]

end Vault

-----------------------------------------------------------------------------------------
-- The only vault of an account over a history
-----------------------------------------------------------------------------------------

/-- An event that opens no vault under a name and none of an account, and that interrupts no call
of the vault under that name.
-/
structure Event.Spares (event : Event) (name : String) (owner : AccountId) : Prop where
  unopened
    : ∀ other heir key, event.opens? = some (other, heir, key) → other ≠ name ∧ heir ≠ owner
  whole : ∀ operation lost, event ≠ .call name operation (some lost)

namespace Moment

/-- Whether a moment calls a vault of an account to store the account. -/
def storesAccount (owner : AccountId) (moment : Moment) : Bool :=
  match moment.call? with
  | some (handle, .putAccount _) => handle.owner = owner
  | _ => false

/-- Whether a moment calls a vault of an account to delete the account. -/
def deletesAccount (owner : AccountId) (moment : Moment) : Bool :=
  match moment.call? with
  | some (handle, .delete) => handle.owner = owner
  | _ => false

variable {moment : Moment} {owner : AccountId}

/-- A moment that calls no vault of an account neither stores nor deletes it. -/
theorem storesAccount_deletesAccount_eq_false
    (uncalled
      : ∀ handle operation, moment.call? = some (handle, operation) → handle.owner ≠ owner)
    : moment.storesAccount owner = false ∧ moment.deletesAccount owner = false := by
  unfold storesAccount deletesAccount
  cases called : moment.call? with
  | none => exact ⟨rfl, rfl⟩
  | some call =>
    obtain ⟨handle, operation⟩ := call
    have other : decide (handle.owner = owner) = false :=
      decide_eq_false (uncalled handle operation called)
    cases operation <;> simp only [other, and_self]

/-- A call of a vault of an account decides whether the account is stored then. -/
theorem storing_iff {handle : Handle} {operation : Operation}
    (called : moment.call? = some (handle, operation)) (own : handle.owner = owner) (stored : Prop)
    : (moment.storesAccount owner = true ∨ (stored ∧ moment.deletesAccount owner = false))
      ↔ operation.storing stored := by
  unfold storesAccount deletesAccount
  cases operation <;> simp [called, own, Operation.storing]

end Moment

/-- The vault under a name is the only one of its account, and while its pool is open its
memory mirrors the row, which is there when the account was stored and not deleted since.
-/
structure OnlyVault (name : String) (owner : AccountId) (key : PickleKey) (past : List Moment)
    (deployment : Deployment)
    : Prop where
  held
    : ∃ handle,
        deployment.handle? name = some handle
        ∧ handle.owner = owner
        ∧ handle.key = key
        ∧ (deployment.isOnline handle.backend = true
          → (deployment.vaultOf handle).Mirrors (deployment.stateOf handle)
              (Lasting (Moment.storesAccount owner) (Moment.deletesAccount owner) past))
  only
    : ∀ other handle,
        deployment.handle? other = some handle → handle.owner = owner → other = name

namespace OnlyVault

variable {name : String} {owner : AccountId} {key : PickleKey} {past : List Moment}
  {moment : Moment}

/-- A vault that is opened on new tables is the only one of its account. -/
theorem start (name : String) (owner : AccountId) (key : PickleKey) (nonce : Aead.Nonce)
    : OnlyVault name owner key [⟨.empty, nonce, .openVault name owner key⟩]
        (Deployment.empty.step nonce (.openVault name owner key)).2 where
  held := by
    refine ⟨.fresh owner key (.sqlite 0), Deployment.handle?_setHandle_self .., rfl, rfl, ?_⟩
    intro _
    have idle
        : ¬ Lasting (Moment.storesAccount owner) (Moment.deletesAccount owner)
            [⟨.empty, nonce, .openVault name owner key⟩] := by
      simp [Lasting, Moment.storesAccount, Moment.call?]
    rw [eq_false idle]
    exact Vault.mirrors_of_absent rfl
  only other handle opened _ := by
    rcases Deployment.handle?_setHandle_cases _ name (.fresh owner key (.sqlite 0)) other with
      ⟨same, _⟩ | same
    · exact same
    · cases same.symm.trans opened

/-- An event that spares the account leaves its vault the only one. -/
theorem only_left (one : OnlyVault name owner key past moment.met)
    (spares : moment.event.Spares name owner) (other : String) (handle : Handle)
    (opened : moment.left.handle? other = some handle) (own : handle.owner = owner)
    : other = name := by
  rcases moment.handle?_left other with
    same | ⟨heir, _, _, opens, fresh⟩ | ⟨before, _, _, there, kept⟩
  · exact one.only other handle (same ▸ opened) own
  · cases Option.some.inj (fresh.symm.trans opened)
    exact absurd own (spares.unopened _ _ _ opens).2
  · cases Option.some.inj (kept.symm.trans opened)
    exact one.only other before there own

/-- An event that calls no vault of the account leaves its vault and its row. -/
theorem unmoved (one : OnlyVault name owner key past moment.met)
    (spares : moment.event.Spares name owner)
    (uncalled
      : ∀ handle operation, moment.call? = some (handle, operation) → handle.owner ≠ owner)
    : OnlyVault name owner key (past ++ [moment]) moment.left where
  held := by
    obtain ⟨handle, opened, own, keyed, mirrors⟩ := one.held
    have kept : moment.left.handle? name = some handle := by
      rcases moment.handle?_left name with
        same | ⟨_, _, _, opens, _⟩ | ⟨before, operation, event, there, _⟩
      · exact same.trans opened
      · exact absurd rfl (spares.unopened _ _ _ opens).1
      · have called : moment.call? = some (before, operation) := Moment.call?_of_event event there
        cases Option.some.inj (there.symm.trans opened)
        exact absurd own (uncalled _ _ called)
    refine ⟨handle, kept, own, keyed, ?_⟩
    intro online
    have row
        : moment.left.database.account? owner = moment.met.database.account? owner := by
      cases called : moment.call? with
      | none => rw [Moment.database_of_no_call called]
      | some call =>
        obtain ⟨caller, operation⟩ := call
        rw [Moment.database_of_call called]
        exact (moment.effect caller operation).account?_of_ne (Ne.symm (uncalled _ _ called))
    obtain ⟨unstored, undeleted⟩ := Moment.storesAccount_deletesAccount_eq_false uncalled
    subst own
    rw [lasting_append, unstored, undeleted]
    simp only [Bool.false_eq_true, false_or, and_true]
    obtain ⟨stored, agrees⟩ := mirrors (Moment.isOnline_met online)
    refine ⟨?_, ?_⟩
    · rw [← stored]
      exact iff_of_eq (congrArg (fun found => Option.isSome found = true) row)
    · intro found there
      exact agrees found (row ▸ there)
  only := one.only_left spares

/-- A call of the vault keeps it the only one, with a memory that mirrors the row. -/
theorem called (one : OnlyVault name owner key past moment.met)
    (spares : moment.event.Spares name owner) {handle : Handle} {operation : Operation}
    (called : moment.call? = some (handle, operation)) (own : handle.owner = owner)
    : OnlyVault name owner key (past ++ [moment]) moment.left where
  held := by
    obtain ⟨before, opened, _, keyed, mirrors⟩ := one.held
    obtain ⟨other, event, there, settled⟩ := Moment.settled_of_call called
    obtain rfl := one.only other handle there own
    have whole : moment.event.interruption = none := by
      cases lost : moment.event.interruption with
      | none => rfl
      | some interruption => exact absurd (lost ▸ event) (spares.whole operation interruption)
    obtain rfl : before = handle := Option.some.inj (opened.symm.trans there)
    refine ⟨before.keeping (moment.outcome before operation).state, ?_, own, keyed, ?_⟩
    · rw [settled]
      exact Deployment.handle?_setHandle_self ..
    · intro online
      have reachable : moment.met.isOnline before.backend = true := Moment.isOnline_met online
      have kept :=
        @Vault.perform_mirrors (moment.met.vaultOf before) _ _ moment.nonce reachable
          (mirrors reachable) operation
      rw [lasting_append, Moment.storing_iff called own, settled, Moment.outcome,
        Moment.vaultOf_of_whole whole]
      exact kept
  only := one.only_left spares

/-- Every event that spares the account keeps its vault the only one. -/
theorem further (one : OnlyVault name owner key past moment.met)
    (spares : moment.event.Spares name owner)
    : OnlyVault name owner key (past ++ [moment]) moment.left := by
  by_cases own
      : ∃ handle operation,
          moment.call? = some (handle, operation) ∧ handle.owner = owner
  · obtain ⟨handle, operation, called, own⟩ := own
    exact one.called spares called own
  · refine one.unmoved spares ?_
    intro handle operation called same
    exact own ⟨handle, operation, called, same⟩

end OnlyVault

/-- After every history that opens a vault on new tables and then spares its account, that
vault is the only one of the account, by induction over the events.
-/
theorem onlyVault_run {history : List (Aead.Nonce × Event)} {name : String} {owner : AccountId}
    (alone : ∀ entry ∈ history, entry.2.Spares name owner) (key : PickleKey) (draw : Aead.Nonce)
    : let whole := (draw, Event.openVault name owner key) :: history
      OnlyVault name owner key (Deployment.empty.moments whole) (Deployment.empty.run whole).2 := by
  intro whole
  let opening : Moment := ⟨.empty, draw, .openVault name owner key⟩
  refine @Deployment.run_induction opening.left
    (fun past deployment => OnlyVault name owner key (opening :: past) deployment) history ?_ ?_
  · exact .start name owner key draw
  · intro past moment member one
    exact one.further (alone _ member)

/-- A vault that was just opened answers the account that the pickle of the row opens to. -/
theorem Deployment.afresh_getAccount {deployment : Deployment} {owner : AccountId}
    {key : PickleKey} {backend : Backend} {row : AccountRow} {account : Account}
    (online : deployment.isOnline backend = true)
    (there : deployment.database.account? owner = some row)
    (opens : Account.unpickle row.blob key row.shared = .ok account)
    : deployment.afresh owner key backend Vault.getAccount = .ok (some account) := by
  simp [afresh, Handle.fresh, Memory.empty, vaultOf, stateOf, Vault.getAccount, online, there,
    opens, Outcome.done]

/-- A vault and one that is opened in its place read the same row. From when the only vault of an
account stored the account until it deletes it, whatever it does over an open pool, a vault that is
just opened answers the same account, device and position; a device or a position that is remembered
as empty reads as none.
-/
theorem restarted_vault_reads_same_row {history : List (Aead.Nonce × Event)} {name : String}
    {owner : AccountId} (alone : ∀ entry ∈ history, entry.2.Spares name owner) (key : PickleKey)
    (draw : Aead.Nonce)
    : let whole := (draw, Event.openVault name owner key) :: history
      let reached := (Deployment.empty.run whole).2
      ∃ handle,
        reached.handle? name = some handle
        ∧ handle.owner = owner
        ∧ handle.key = key
        ∧ (reached.isOnline handle.backend = true
          → Lasting (Moment.storesAccount owner) (Moment.deletesAccount owner)
              (Deployment.empty.moments whole)
          → ∀ nonce backend,
              reached.isOnline backend = true
              → let told (operation : Operation) : Reply :=
                  (reached.step nonce (.call name operation)).1
                ∃ account device token,
                  told .getAccount = ⟨.ok (.account (some account)), []⟩
                  ∧ reached.afresh owner key backend Vault.getAccount = .ok (some account)
                  ∧ told .getDeviceId = ⟨.ok (.device device), []⟩
                  ∧ reached.afresh owner key backend Vault.getDeviceId
                    = .ok (device.filter (·.text ≠ ""))
                  ∧ told .getNextBatch = ⟨.ok (.syncToken token), []⟩
                  ∧ reached.afresh owner key backend Vault.getNextBatch
                    = .ok (token.filter (·.text ≠ ""))) := by
  intro whole reached
  obtain ⟨handle, opened, own, keyed, mirrors⟩ := (onlyVault_run alone key draw).held
  refine ⟨handle, opened, own, keyed, ?_⟩
  intro online lasting nonce backend reachable told
  obtain ⟨stored, agrees⟩ := mirrors online
  obtain ⟨row, there⟩ := Option.isSome_iff_exists.mp (stored.mpr lasting)
  subst own keyed
  have agreeing := agrees row there
  obtain ⟨account, answers, opens⟩ := Vault.perform_getAccount agreeing nonce
  obtain ⟨device, tells, reads⟩ := Vault.perform_getDeviceId nonce online there agreeing
  obtain ⟨token, tells', reads'⟩ := Vault.perform_getNextBatch nonce online there agreeing
  refine ⟨account, device, token, Deployment.reply_of_done opened answers, ?_,
    Deployment.reply_of_done opened tells, ?_, Deployment.reply_of_done opened tells', ?_⟩
  · exact Deployment.afresh_getAccount reachable there opens
  · rw [← reads]
    exact Deployment.afresh_getDeviceId handle.key reachable there
  · rw [← reads']
    exact Deployment.afresh_getNextBatch handle.key reachable there

/-- The only vault of an account sets a device and a position before it stores the account, and
an empty position after it; meanwhile a vault of another account stores its own and deletes it.
-/
def settingEarly : List (Aead.Nonce × Event) :=
  let events : List Event :=
    [.call "only" (.putDeviceId ⟨"D"⟩),
     .call "only" (.putNextBatch ⟨"s1"⟩),
     .shareVault "other" "only" ⟨"@b"⟩ ⟨.replicate 32 0⟩,
     .call "other" (.putAccount ⟨[2], false⟩),
     .call "only" .getDeviceId,
     .call "only" (.putAccount ⟨[1], true⟩),
     .call "only" .getNextBatch,
     .call "other" .delete,
     .call "only" (.putNextBatch ⟨""⟩)]
  events.map fun event => (.replicate 24 0, event)

/-- Then the vault answers the empty position, and one that is opened in its place none; the
account and the device are the same.
-/
theorem settingEarly_reads_same_row
    : let opening : Aead.Nonce × Event :=
        (.replicate 24 0, .openVault "only" ⟨"@a"⟩ ⟨.replicate 32 0⟩)
      let reached := (Deployment.empty.run (opening :: settingEarly)).2
      let told (operation : Operation) : Reply :=
        (reached.step (.replicate 24 0) (.call "only" operation)).1
      let fresh {α : Type} (read : Vault → State → Outcome α) : Except StoreFault α :=
        reached.afresh ⟨"@a"⟩ ⟨.replicate 32 0⟩ (.sqlite 0) read
      (∀ entry ∈ settingEarly, entry.2.Spares "only" ⟨"@a"⟩)
      ∧ told .getAccount = ⟨.ok (.account (some ⟨[1], true⟩)), []⟩
      ∧ fresh Vault.getAccount = .ok (some ⟨[1], true⟩)
      ∧ told .getDeviceId = ⟨.ok (.device (some ⟨"D"⟩)), []⟩
      ∧ fresh Vault.getDeviceId = .ok (some ⟨"D"⟩)
      ∧ told .getNextBatch = ⟨.ok (.syncToken (some ⟨""⟩)), []⟩
      ∧ fresh Vault.getNextBatch = .ok none := by
  intro opening reached told fresh
  have unopened
      : ∀ entry ∈ settingEarly, ∀ other heir key,
          entry.2.opens? = some (other, heir, key) → other ≠ "only" ∧ heir ≠ ⟨"@a"⟩ := by
    simp [settingEarly, Event.opens?]
  have whole
      : ∀ entry ∈ settingEarly, ∀ operation lost,
          entry.2 ≠ .call "only" operation (some lost) := by
    simp [settingEarly]
  have alone : ∀ entry ∈ settingEarly, entry.2.Spares "only" ⟨"@a"⟩ :=
    fun entry member => ⟨unopened entry member, whole entry member⟩
  have lasting
      : Lasting (Moment.storesAccount ⟨"@a"⟩) (Moment.deletesAccount ⟨"@a"⟩)
          (Deployment.empty.moments (opening :: settingEarly)) := by
    decide
  obtain ⟨handle, opened, _, _, reads⟩ :=
    restarted_vault_reads_same_row alone ⟨.replicate 32 0⟩ (.replicate 24 0)
  have backend : (reached.handle? "only").map Handle.backend = some (.sqlite 0) := by decide
  have online : reached.isOnline handle.backend = true := by
    have same : handle.backend = .sqlite 0 := by
      rw [opened] at backend
      exact Option.some.inj backend
    rw [same]
    decide
  have reachable : reached.isOnline (.sqlite 0) = true := by decide
  obtain ⟨account, device, token, answers, opens, tells, reads, tells', reads'⟩ :=
    reads online lasting (.replicate 24 0) (.sqlite 0) reachable
  have keeps : (told .getAccount).result = .ok (.account (some ⟨[1], true⟩)) := rfl
  have names : (told .getDeviceId).result = .ok (.device (some ⟨"D"⟩)) := rfl
  have stands : (told .getNextBatch).result = .ok (.syncToken (some ⟨""⟩)) := rfl
  obtain rfl : account = ⟨[1], true⟩ := by
    cases (congrArg Reply.result answers).symm.trans keeps
    rfl
  obtain rfl : device = some ⟨"D"⟩ := by
    cases (congrArg Reply.result tells).symm.trans names
    rfl
  obtain rfl : token = some ⟨""⟩ := by
    cases (congrArg Reply.result tells').symm.trans stands
    rfl
  exact ⟨alone, answers, opens, tells, reads, tells', reads'⟩

end KeyVault
