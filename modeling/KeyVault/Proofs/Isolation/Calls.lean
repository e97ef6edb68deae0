import KeyVault.Proofs.Isolation.Sessions
import KeyVault.Proofs.Isolation.Tables
/-!
Calls without an account. A call of another account's vault returns and logs the same when
the rows and the sessions of the account are not there, and leaves the same without them; so
does a call of the account's own vault that is not about the account. What the account's
vaults do for the account alone is not seen without it.
-/

namespace KeyVault

/-- The operations on what belongs to the account of a vault alone. The others are on the ledger,
on the devices of users and on cross-signing keys, which all accounts have in common.
-/
def Operation.isScoped : Operation → Bool
  | validate _ | putDevices _ _ | getDevices _ | getDevice _ _ | findDeviceByKey _ _
  | filterTracked _ | putCrossSigningKey _ _ _ | getCrossSigningKeys _ | putSignature _ _ _
  | isKeySignedBy _ _ | dropSignatures _ => false
  | _ => true

-----------------------------------------------------------------------------------------
-- States and outcomes
-----------------------------------------------------------------------------------------

/-- A state without the rows of an account, with the shared sessions of those that are seen. -/
def State.without (state : State) (hidden : AccountId) (seen : AccountId → Bool) : State :=
  { state with
    database := state.database.without hidden
    shared := state.shared.among seen }

/-- A state in which the vault keeps something else. -/
def State.keeping (state : State) (cache : Cache) (memory : Memory) : State :=
  { state with cache, memory }

@[simp] theorem State.database_keeping (state : State) (cache : Cache) (memory : Memory)
    : (state.keeping cache memory).database = state.database := rfl

@[simp] theorem State.database_without (state : State) (hidden : AccountId)
    (seen : AccountId → Bool)
    : (state.without hidden seen).database = state.database.without hidden := rfl

@[simp] theorem State.cache_without (state : State) (hidden : AccountId)
    (seen : AccountId → Bool)
    : (state.without hidden seen).cache = state.cache := rfl

@[simp] theorem State.memory_without (state : State) (hidden : AccountId)
    (seen : AccountId → Bool)
    : (state.without hidden seen).memory = state.memory := rfl

@[simp] theorem State.shared_without (state : State) (hidden : AccountId)
    (seen : AccountId → Bool)
    : (state.without hidden seen).shared = state.shared.among seen := rfl

/-- An outcome that leaves a changed state. -/
def Outcome.leaving {α : Type} (outcome : Outcome α) (change : State → State) : Outcome α :=
  { outcome with state := change outcome.state }

/-- Naming the value of an outcome leaves the state. -/
theorem Outcome.answering_leaving {α : Type} {outcome twin : Outcome α} {change : State → State}
    (same : outcome = twin.leaving change) (answer : α → Answer)
    : outcome.answering answer = (twin.answering answer).leaving change := by
  rw [same]
  rfl

/-- A read of stored values leaves the state. -/
theorem Vault.known_leaving {α : Type} (state : State) (change : State → State)
    (value : Except UnknownValue α)
    : known (change state) value = (known state value).leaving change := by
  cases value <;> rfl

/-- Asking for pieces does the same on changed tables where every statement does, by induction over
the pieces.
-/
theorem Vault.inPieces_leaving {vault : Vault} {α β : Type}
    {ask : β → List α → Database → β × Database} {change : State → State}
    {hide : Database → Database}
    (tables
      : ∀ (left : State) database,
          change { left with database } = { change left with database := hide database })
    (asked
      : ∀ value piece db,
          ask value piece (hide db) = ((ask value piece db).1, hide (ask value piece db).2))
    (number : Nat) (pieces : List (List α)) (value : β) (state : State)
    : vault.inPieces ask number pieces value (change state)
      = (vault.inPieces ask number pieces value state).leaving change := by
  induction pieces generalizing number value state with
  | nil => rfl
  | cons piece pieces ih =>
    have hidden : (change state).database = hide state.database :=
      congrArg State.database (tables state state.database)
    by_cases here : vault.reaches number = true
    · simp only [inPieces, if_pos here, hidden, asked]
      rw [← tables]
      exact ih ..
    · simp only [inPieces, if_neg here]
      rfl

namespace Vault

variable (vault : Vault) (nonce : Aead.Nonce) (state : State) (hidden : AccountId)
  (seen : AccountId → Bool)

-----------------------------------------------------------------------------------------
-- Calls on what all accounts have in common
-----------------------------------------------------------------------------------------

/-- A call that is not about the account does the same without any account, whatever the vault
keeps, by going through these operations.
-/
theorem perform_common {operation : Operation} (common : operation.isScoped = false)
    (cache : Cache) (memory : Memory)
    : vault.perform nonce operation ((state.without hidden seen).keeping cache memory)
      = (vault.perform nonce operation state).leaving fun left =>
          (left.without hidden seen).keeping cache memory := by
  let veil (left : State) : State := (left.without hidden seen).keeping cache memory
  cases operation <;> cases common <;> refine Outcome.answering_leaving ?_ _
  case validate pin =>
    simp only [validate, State.database_keeping, State.database_without, Database.pin?_without]
    split
    · split
      · split <;> rfl
      · split <;> rfl
    · rfl
  case putDevices user devices =>
    simp only [putDevices, State.database_keeping, State.database_without,
      Database.replaceDevices_without]
    split <;> rfl
  case getDevices user =>
    unfold getDevices
    split
    · rw [State.database_keeping, State.database_without, Database.isTracked_without]
      split
      · split
        · exact known_leaving state veil _
        · rfl
      · rfl
    · rfl
  case getDevice user device =>
    simp only [getDevice, State.database_keeping, State.database_without, Database.device?_without]
    split
    · split
      · rfl
      · exact known_leaving state veil _
    · rfl
  case findDeviceByKey user key =>
    simp only [findDeviceByKey, State.database_keeping, State.database_without,
      Database.deviceByKey?_without]
    split
    · split
      · rfl
      · exact known_leaving state veil _
    · rfl
  case filterTracked users =>
    unfold filterTracked
    split
    · rfl
    · exact @inPieces_leaving _ _ _ _ veil (·.without hidden) (fun _ _ => rfl) (fun _ _ _ => rfl)
        _ _ _ state
  case getCrossSigningKeys user =>
    simp only [getCrossSigningKeys, State.database_keeping, State.database_without,
      Database.keysOf_without]
    split
    · split <;> rfl
    · rfl
  case putCrossSigningKey user usage key =>
    unfold putCrossSigningKey
    split <;> rfl
  case putSignature target signer signature =>
    unfold putSignature
    split <;> rfl
  case isKeySignedBy target signer =>
    unfold isKeySignedBy
    split <;> rfl
  case dropSignatures signer =>
    unfold dropSignatures
    split <;> rfl

-----------------------------------------------------------------------------------------
-- Calls that change or remove rows which are there
-----------------------------------------------------------------------------------------

variable {vault nonce state hidden seen}

theorem delete_without
    : vault.delete (state.without hidden seen)
      = (vault.delete state).leaving (·.without hidden seen) := by
  simp only [delete, State.database_without, Database.wipe_without]
  split <;> rfl

theorem putDeviceId_without (device : DeviceId)
    : vault.putDeviceId device (state.without hidden seen)
      = (vault.putDeviceId device state).leaving (·.without hidden seen) := by
  simp only [putDeviceId, State.database_without, Database.setDevice_without]
  split <;> rfl

theorem putNextBatch_without (token : SyncToken)
    : vault.putNextBatch token (state.without hidden seen)
      = (vault.putNextBatch token state).leaving (·.without hidden seen) := by
  simp only [putNextBatch, State.database_without, Database.setSyncToken_without]
  split <;> rfl

/-- A session is written the same where it is seen, and so is each session that is cached. -/
theorem updateSession_without (sender : IdentityKey) {ref : SessionRef}
    (given : seen ref.owner = true)
    (cached : ∀ id kept, state.cache.get? sender id = some kept → seen kept.owner = true)
    : vault.updateSession nonce sender ref (state.without hidden seen)
      = (vault.updateSession nonce sender ref state).leaving (·.without hidden seen) := by
  have noted (session : Session)
      : divergence sender ref session (state.without hidden seen)
        = divergence sender ref session state := by
    unfold divergence
    rw [State.cache_without]
    cases there : state.cache.get? sender session.id with
    | none => rfl
    | some kept =>
      have same : (state.without hidden seen).shared.get? kept = state.shared.get? kept :=
        state.shared.get?_among (cached _ _ there)
      simp only [same]
  simp only [updateSession, State.shared_without, SharedSessions.get?_among _ given, noted,
    State.database_without, Database.updateOlm_without]
  split
  · rfl
  · split <;> rfl

-----------------------------------------------------------------------------------------
-- Opening rows
-----------------------------------------------------------------------------------------

section Opening

variable (met : seen vault.owner = true)
include met

theorem openRow_without (sender : IdentityKey) (row : OlmRow)
    : vault.openRow sender row (state.without hidden seen)
      = ((vault.openRow sender row state).1,
          (vault.openRow sender row state).2.without hidden seen) := by
  simp only [openRow, State.cache_without, State.shared_without, SharedSessions.add_among _ met]
  split
  · rfl
  · split <;> rfl

/-- Opening rows opens one after the other, by induction over them. -/
theorem openRows_without (sender : IdentityKey) (rows : List OlmRow)
    : vault.openRows sender rows (state.without hidden seen)
      = ((vault.openRows sender rows state).1,
          (vault.openRows sender rows state).2.without hidden seen) := by
  induction rows generalizing state with
  | nil => rfl
  | cons row rows ih =>
    simp only [openRows, openRow_without met]
    generalize vault.openRow sender row state = first
    obtain ⟨fault | ref, between⟩ := first
    · rfl
    · simp only [ih]
      generalize vault.openRows sender rows between = rest
      obtain ⟨fault | refs, after⟩ := rest <;> rfl

end Opening

section Others

variable (other : vault.owner ≠ hidden)
include other

-----------------------------------------------------------------------------------------
-- Calls of another account on its row
-----------------------------------------------------------------------------------------

theorem getDeviceId_without
    : vault.getDeviceId (state.without hidden seen)
      = (vault.getDeviceId state).leaving (·.without hidden seen) := by
  simp only [getDeviceId, State.database_without, Database.account?_without _ other]
  split <;> rfl

theorem getNextBatch_without
    : vault.getNextBatch (state.without hidden seen)
      = (vault.getNextBatch state).leaving (·.without hidden seen) := by
  simp only [getNextBatch, State.database_without, State.memory_without,
    Database.account?_without _ other]
  split
  · rfl
  · split <;> rfl

theorem getAccount_without
    : vault.getAccount (state.without hidden seen)
      = (vault.getAccount state).leaving (·.without hidden seen) := by
  simp only [getAccount, State.database_without, State.memory_without,
    Database.account?_without _ other]
  split
  · rfl
  · split
    · split
      · rfl
      · split <;> rfl
    · rfl

theorem putAccount_without (account : Account)
    : vault.putAccount nonce account (state.without hidden seen)
      = (vault.putAccount nonce account state).leaving (·.without hidden seen) := by
  let row := vault.rowOfAccount nonce account { state.memory with account := some account }
  have written
      : (state.database.without hidden).upsertAccount row
        = (state.database.upsertAccount row).without hidden :=
    state.database.upsertAccount_without other
  simp only [putAccount, State.database_without, State.memory_without, row] at written ⊢
  rw [written]
  split <;> rfl

-----------------------------------------------------------------------------------------
-- Calls of another account on its one-to-one sessions
-----------------------------------------------------------------------------------------

theorem hasSession_without (sender : IdentityKey)
    : vault.hasSession sender (state.without hidden seen)
      = (vault.hasSession sender state).leaving (·.without hidden seen) := by
  simp only [hasSession, State.database_without, State.cache_without,
    Database.hasOlmSession_without _ other]
  split
  · rfl
  · split <;> rfl

theorem getSessions_without (met : seen vault.owner = true) (sender : IdentityKey)
    : vault.getSessions sender (state.without hidden seen)
      = (vault.getSessions sender state).leaving (·.without hidden seen) := by
  simp only [getSessions, State.database_without, Database.olmSessions_without _ other,
    openRows_without met]
  split
  · generalize vault.openRows sender _ state = opening
    obtain ⟨fault | refs, after⟩ := opening <;> rfl
  · rfl

theorem getLatestSession_without (met : seen vault.owner = true) (sender : IdentityKey)
    : vault.getLatestSession sender (state.without hidden seen)
      = (vault.getLatestSession sender state).leaving (·.without hidden seen) := by
  simp only [getLatestSession, State.database_without, Database.olmSessions_without _ other,
    openRow_without met]
  split
  · cases state.database.olmSessions vault.owner sender with
    | nil => rfl
    | cons row older =>
      dsimp only
      generalize vault.openRow sender row state = opening
      obtain ⟨fault | ref, after⟩ := opening <;> rfl
  · rfl

theorem addSession_without (met : seen vault.owner = true) (sender : IdentityKey)
    (session : Session)
    : vault.addSession nonce sender session (state.without hidden seen)
      = (vault.addSession nonce sender session state).leaving (·.without hidden seen) := by
  have inserts
      : (state.database.without hidden).insertOlm (vault.rowOfSession nonce sender session)
        = (state.database.insertOlm (vault.rowOfSession nonce sender session)).map
            (·.without hidden) :=
    state.database.insertOlm_without other
  simp only [addSession, State.database_without, State.cache_without, State.shared_without,
    SharedSessions.add_among _ met, inserts]
  split
  · generalize state.database.insertOlm (vault.rowOfSession nonce sender session) = inserted
    cases inserted <;> rfl
  · rfl

-----------------------------------------------------------------------------------------
-- Calls of another account on its group sessions
-----------------------------------------------------------------------------------------

theorem putGroupSession_without (room : RoomId) (sender : IdentityKey) (id : SessionId)
    (session : InboundSession)
    : vault.putGroupSession nonce room sender id session (state.without hidden seen)
      = (vault.putGroupSession nonce room sender id session state).leaving
          (·.without hidden seen) := by
  let row := vault.rowOfInbound nonce room sender id session
  have inserts
      : (state.database.without hidden).insertInbound row
        = (state.database.insertInbound row).map (·.without hidden) :=
    state.database.insertInbound_without other
  simp only [putGroupSession, State.database_without, row] at inserts ⊢
  rw [inserts]
  split
  · generalize state.database.insertInbound _ = inserted
    cases inserted <;> rfl
  · rfl

theorem getGroupSession_without (room : RoomId) (sender : IdentityKey) (id : SessionId)
    : vault.getGroupSession room sender id (state.without hidden seen)
      = (vault.getGroupSession room sender id state).leaving (·.without hidden seen) := by
  simp only [getGroupSession, State.database_without, Database.inbound?_without _ other]
  split
  · split
    · rfl
    · split <;> rfl
  · rfl

theorem hasGroupSession_without (room : RoomId) (sender : IdentityKey) (id : SessionId)
    : vault.hasGroupSession room sender id (state.without hidden seen)
      = (vault.hasGroupSession room sender id state).leaving (·.without hidden seen) := by
  simp only [hasGroupSession, State.database_without, Database.inbound?_without _ other]
  split <;> rfl

theorem addOutbound_without (session : OutboundSession)
    : vault.addOutbound nonce session (state.without hidden seen)
      = (vault.addOutbound nonce session state).leaving (·.without hidden seen) := by
  have written (maxAge : Int64)
      : (state.database.without hidden).upsertOutbound (vault.rowOfOutbound nonce session maxAge)
        = (state.database.upsertOutbound (vault.rowOfOutbound nonce session maxAge)).without
            hidden :=
    state.database.upsertOutbound_without other
  simp only [addOutbound, State.database_without, written]
  split
  · rfl
  · split <;> rfl

theorem updateOutbound_without (session : OutboundSession)
    : vault.updateOutbound nonce session (state.without hidden seen)
      = (vault.updateOutbound nonce session state).leaving (·.without hidden seen) := by
  unfold updateOutbound
  rw [State.database_without, Database.any_isOutbound_without _ other,
    Database.updateOutbound_without]
  split
  · split <;> rfl
  · rfl

theorem getOutbound_without (room : RoomId)
    : vault.getOutbound room (state.without hidden seen)
      = (vault.getOutbound room state).leaving (·.without hidden seen) := by
  simp only [getOutbound, State.database_without, Database.outbound?_without _ other]
  split
  · split
    · rfl
    · split
      · rfl
      · split <;> rfl
  · rfl

theorem removeOutbound_without (room : RoomId)
    : vault.removeOutbound room (state.without hidden seen)
      = (vault.removeOutbound room state).leaving (·.without hidden seen) := by
  simp only [removeOutbound, State.database_without, Database.removeOutbound_without _ other]
  split <;> rfl

theorem removeOutbounds_without (rooms : List RoomId)
    : vault.removeOutbounds rooms (state.without hidden seen)
      = (vault.removeOutbounds rooms state).leaving (·.without hidden seen) := by
  unfold removeOutbounds
  split
  · rfl
  · refine @inPieces_leaving _ _ _ _ (·.without hidden seen) (·.without hidden) (fun _ _ => rfl) ?_
      _ _ _ state
    intro removed piece db
    simp only [removeMore, Database.removeOutbound_without db other]

end Others

-----------------------------------------------------------------------------------------
-- Every call of another account
-----------------------------------------------------------------------------------------

/-- A call that is not about an account leaves what its vault keeps. -/
theorem Effect.keeping_eq {after : State} {operation : Operation}
    (effect : vault.Effect nonce state operation after)
    (common : operation.isScoped = false)
    : after.keeping state.cache state.memory = after := by
  cases effect <;> first | rfl | cases common

/-- A call of another account does the same without the account, by going through the operations;
it needs the sessions that its vault has cached, and the one that it is to write.
-/
theorem perform_without (other : vault.owner ≠ hidden) (met : seen vault.owner = true)
    {operation : Operation}
    (given : ∀ sender ref, operation = .updateSession sender ref → seen ref.owner = true)
    (cached : ∀ sender id ref, state.cache.get? sender id = some ref → seen ref.owner = true)
    : vault.perform nonce operation (state.without hidden seen)
      = (vault.perform nonce operation state).leaving (·.without hidden seen) := by
  by_cases common : operation.isScoped = false
  · have kept := (vault.perform_effect nonce state operation).keeping_eq common
    have same := vault.perform_common nonce state hidden seen common state.cache state.memory
    let outcome := vault.perform nonce operation state
    refine same.trans ?_
    exact congrArg (fun left => { outcome with state := left.without hidden seen }) kept
  · cases operation <;> first | exact absurd rfl common | refine Outcome.answering_leaving ?_ _
    case delete => exact delete_without
    case getDeviceId => exact getDeviceId_without other
    case putDeviceId => exact putDeviceId_without _
    case getNextBatch => exact getNextBatch_without other
    case putNextBatch => exact putNextBatch_without _
    case getAccount => exact getAccount_without other
    case putAccount => exact putAccount_without other _
    case hasSession => exact hasSession_without other _
    case getSessions => exact getSessions_without other met _
    case getLatestSession => exact getLatestSession_without other met _
    case addSession => exact addSession_without other met _ _
    case updateSession sender ref =>
      exact updateSession_without sender (given sender ref rfl) (cached sender)
    case putGroupSession => exact putGroupSession_without other _ _ _ _
    case getGroupSession => exact getGroupSession_without other _ _ _
    case hasGroupSession => exact hasGroupSession_without other _ _ _
    case addOutbound => exact addOutbound_without other _
    case updateOutbound => exact updateOutbound_without other _
    case getOutbound => exact getOutbound_without other _
    case removeOutbound => exact removeOutbound_without other _
    case removeOutbounds => exact removeOutbounds_without other _

-----------------------------------------------------------------------------------------
-- Every call about the own account
-----------------------------------------------------------------------------------------

/-- A call about the own account leaves the tables without it, by going through what operations
can leave.
-/
theorem Effect.database_without_owner {after : State} {operation : Operation}
    (effect : vault.Effect nonce state operation after) (about : operation.isScoped = true)
    : after.database.without vault.owner = state.database.without vault.owner := by
  cases effect
  case delete => exact Database.without_wipe_self ..
  case putDeviceId => exact Database.without_setDevice_self ..
  case putNextBatch => exact Database.without_setSyncToken_self ..
  case putAccount => exact Database.without_upsertAccount_self _ rfl
  case addSession => exact Database.without_insertOlm_self _ rfl
  case updateSession => exact Database.without_updateOlm_self ..
  case putGroupSession => exact Database.without_insertInbound_self _ rfl
  case addOutbound => exact Database.without_upsertOutbound_self _ rfl
  case updateOutbound => exact Database.without_updateOutbound_self ..
  case removeOutbound => exact Database.without_removeOutbound_self ..
  case removeOutbounds => exact Database.without_removeOutbound_self ..
  all_goals first | rfl | cases about

end Vault

end KeyVault
