import KeyVault.Proofs.Account.Deletion
import KeyVault.Proofs.Vault.Refusal
/-!
Account writes that fail. The account and the position are remembered before they are stored,
so that a failed write of either is still answered by the vault that made it, and a position
that was not stored goes into the next row that is. Over a closed pool no row is stored any
more, and then no other read tells, no table does, and no other vault.
-/

namespace KeyVault

/-- The writes that are remembered before they are stored. -/
inductive AccountWrite where
  | position (token : SyncToken)
  | account (account : Account)

namespace AccountWrite

/-- The operation that makes a write. -/
def operation : AccountWrite → Operation
  | position token => .putNextBatch token
  | account stored => .putAccount stored

/-- What is remembered once a write was called. -/
def remember : AccountWrite → Memory → Memory
  | position token, memory => { memory with syncToken := some token }
  | account stored, memory => { memory with account := some stored }

/-- The operation that reads what a write writes. -/
def readBack : AccountWrite → Operation
  | position _ => .getNextBatch
  | account _ => .getAccount

/-- What a write writes, as an answer. -/
def written : AccountWrite → Answer
  | position token => .syncToken (some token)
  | account stored => .account (some stored)

end AccountWrite

/-- The replies to those events of a history that are asked about. -/
def Deployment.repliesTo (deployment : Deployment) (asked : Event → Bool)
    (history : List (Aead.Nonce × Event)) : List Reply :=
  ((deployment.moments history).filter fun moment => asked moment.event).map Moment.reply

/-- A call of a vault that reads the row of its account. -/
def Event.readsRow (name : String) : Event → Bool
  | call other .getAccount _ | call other .getNextBatch _ | call other .getDeviceId _ =>
    other = name
  | _ => false

/-- A call of a vault that reads back what a write wrote. -/
def Event.readsBack (name : String) (write : AccountWrite) : Event → Bool
  | call other operation _ => other = name && operation = write.readBack
  | _ => false

/-- Two deployments that no history tells apart, neither by what a vault then reads of the row
of its account nor by the tables.
-/
def Deployment.ReadAlike (name : String) (deployment other : Deployment) : Prop :=
  ∀ history,
    deployment.repliesTo (Event.readsRow name) history
      = other.repliesTo (Event.readsRow name) history
    ∧ (deployment.run history).2.database = (other.run history).2.database

-----------------------------------------------------------------------------------------
-- A closed vault that remembers something else
-----------------------------------------------------------------------------------------

/-- Two memories that differ at most in what a write remembers. -/
inductive Memory.Beside (memory : Memory) : AccountWrite → Memory → Prop
  | position {token syncToken} : Beside memory (.position token) { memory with syncToken }
  | account {written account} : Beside memory (.account written) { memory with account }

/-- Memories stay so when both remember the same. -/
theorem Memory.Beside.remember {memory other : Memory} {write : AccountWrite}
    (beside : memory.Beside write other) (further : AccountWrite)
    : (further.remember memory).Beside write (further.remember other) := by
  cases beside <;> cases further
  all_goals constructor

/-- A write changes nothing but what it remembers. -/
theorem Memory.beside_remember (memory : Memory) (write : AccountWrite)
    : memory.Beside write (write.remember memory) := by
  cases write
  all_goals constructor

namespace Vault

variable {vault : Vault} {nonce : Aead.Nonce} {write : AccountWrite} {operation : Operation}
  {state : State}

/-- Over a closed pool an operation that is no such write answers alike from two memories that
agree in what it asks of them, and leaves either. By going through these operations.
-/
theorem perform_of_closed (closed : vault.online = false)
    (apart : ∀ write : AccountWrite, operation ≠ write.operation) (state : State)
    (memory : Memory)
    (account : operation = .getAccount → memory.account = state.memory.account)
    (position : operation = .getNextBatch → memory.syncToken = state.memory.syncToken)
    : vault.perform nonce operation { state with memory }
      = { vault.perform nonce operation state with state := { state with memory } } := by
  cases operation
  case putNextBatch token => exact absurd rfl (apart (.position token))
  case putAccount written => exact absurd rfl (apart (.account written))
  case getAccount =>
    dsimp only [perform, getAccount]
    rw [account rfl, closed]
    cases state.memory.account <;> rfl
  case getNextBatch =>
    dsimp only [perform, getNextBatch]
    rw [position rfl, closed]
    cases state.memory.syncToken <;> rfl
  case hasSession sender =>
    dsimp only [perform, hasSession]
    rw [closed]
    cases state.cache.hasAny sender <;> rfl
  case updateSession sender ref =>
    dsimp only [perform, updateSession]
    rw [closed]
    cases state.shared.get? ref <;> rfl
  case addOutbound session =>
    dsimp only [perform, addOutbound]
    rw [closed]
    cases encodeAge vault.scheme session.facts.maxAge <;> rfl
  case removeOutbounds rooms =>
    cases rooms with
    | nil => rfl
    | cons room rooms =>
      simp only [perform, removeOutbounds_of_offline closed (List.cons_ne_nil room rooms)]
      rfl
  case filterTracked users =>
    cases users with
    | nil => rfl
    | cons user users =>
      simp only [perform, filterTracked_of_offline closed (List.cons_ne_nil user users)]
      rfl
  all_goals
    obtain ⟨owner, key, scheme, online, further, fault⟩ := vault
    cases closed
    rfl

/-- Over a closed pool no operation but such a write changes anything. -/
theorem state_of_closed (closed : vault.online = false)
    (apart : ∀ write : AccountWrite, operation ≠ write.operation)
    : (vault.perform nonce operation state).state = state :=
  congrArg Outcome.state
    (perform_of_closed closed apart state state.memory (fun _ => rfl) fun _ => rfl)

/-- A write reports a failure where its statement is not done and nowhere else, and has then only
remembered what it was to write.
-/
theorem write_refusedWhere (nonce : Aead.Nonce) (write : AccountWrite) (state : State)
    : (vault.perform nonce write.operation state).RefusedWhere
        { state with memory := write.remember state.memory } (vault.online = false) := by
  cases write
  all_goals exact refusedWhere_reaching (by simp)

/-- Over a closed pool all writes answer alike. -/
theorem reply_write_of_closed (closed : vault.online = false)
    : (vault.perform nonce write.operation state).reply = .failed (.database vault.fault) := by
  cases write
  all_goals
    dsimp only [AccountWrite.operation, perform, putNextBatch, putAccount]
    rw [closed]
    rfl

/-- What a write remembered is what is read back, with no regard to the database. -/
theorem perform_readBack (nonce : Aead.Nonce) (write : AccountWrite) (state : State)
    : vault.perform nonce write.readBack { state with memory := write.remember state.memory }
      = .done write.written { state with memory := write.remember state.memory } := by
  cases write
  all_goals rfl

/-- Where the row of the account is gone or cannot be read, nothing is read back but what is
remembered.
-/
theorem remember_eq_of_readBack
    (unread : vault.online = false ∨ state.database.account? vault.owner = none)
    (answered : (vault.perform nonce write.readBack state).result = .ok write.written)
    : write.remember state.memory = state.memory := by
  obtain ⟨database, shared, cache, ⟨device, position, account⟩⟩ := state
  cases write with
  | position token =>
    cases position with
    | none =>
      simp only [AccountWrite.readBack, perform, getNextBatch] at answered
      rcases unread with closed | gone
      · rw [closed] at answered
        cases answered
      · rw [gone] at answered
        cases online : vault.online <;> rw [online] at answered <;> cases answered
    | some held =>
      cases answered
      rfl
  | account written =>
    cases account with
    | none =>
      simp only [AccountWrite.readBack, perform, getAccount] at answered
      rcases unread with closed | gone
      · rw [closed] at answered
        cases answered
      · rw [gone] at answered
        cases online : vault.online <;> rw [online] at answered <;> cases answered
    | some held =>
      cases answered
      rfl

/-- Over a closed pool two memories that differ in what a write remembers still differ at most
in that after any operation, and only the operation that reads it back tells them apart.
-/
theorem perform_beside (closed : vault.online = false) (state : State) {other : Memory}
    (beside : state.memory.Beside write other) (nonce : Aead.Nonce) (operation : Operation)
    : let outcome := vault.perform nonce operation state
      let twin := vault.perform nonce operation { state with memory := other }
      (operation ≠ write.readBack → outcome.reply = twin.reply)
      ∧ ∃ left leftOther : Memory,
          left.Beside write leftOther
          ∧ outcome.state = { state with memory := left }
          ∧ twin.state = { state with memory := leftOther } := by
  intro outcome twin
  by_cases writes : ∃ further : AccountWrite, operation = further.operation
  · obtain ⟨further, rfl⟩ := writes
    refine ⟨?_, _, _, beside.remember further, ?_, ?_⟩
    · intro _
      exact (reply_write_of_closed closed).trans (reply_write_of_closed closed).symm
    · exact (write_refusedWhere nonce further state).leaves closed
    · exact (write_refusedWhere nonce further { state with memory := other }).leaves closed
  · have apart : ∀ further : AccountWrite, operation ≠ further.operation :=
      fun further same => writes ⟨further, same⟩
    refine ⟨?_, _, _, beside, state_of_closed closed apart, state_of_closed closed apart⟩
    intro unread
    have same : twin = { outcome with state := { state with memory := other } } := by
      refine perform_of_closed closed apart state other ?_ ?_
      · rintro rfl
        cases beside with
        | position => rfl
        | account => exact absurd rfl unread
      · rintro rfl
        cases beside with
        | position => exact absurd rfl unread
        | account => rfl
    rw [same]
    rfl

end Vault

-----------------------------------------------------------------------------------------
-- Deployments with such a vault
-----------------------------------------------------------------------------------------

/-- Open vaults that are the same, but for a closed one under a name whose memories differ at
most in what a write remembers.
-/
def HandlesBeside (write : AccountWrite) (name : String) (online : Backend → Bool)
    (handles others : List (String × Handle))
    : Prop :=
  ∀ sought,
    Rows.get? sought handles = Rows.get? sought others
    ∨ sought = name
      ∧ ∃ handle memory,
          online handle.backend = false
          ∧ handle.memory.Beside write memory
          ∧ Rows.get? sought handles = some handle
          ∧ Rows.get? sought others = some { handle with memory }

namespace HandlesBeside

variable {write : AccountWrite} {name : String} {online : Backend → Bool}
  {handles others : List (String × Handle)}

/-- Opening the same vault in both keeps them so. -/
theorem put (vaults : HandlesBeside write name online handles others) (other : String)
    (handle : Handle)
    : HandlesBeside write name online (Rows.put other handle handles)
        (Rows.put other handle others) := by
  intro sought
  by_cases same : sought = other
  · subst same
    exact .inl ((Rows.get?_put_self ..).trans (Rows.get?_put_self ..).symm)
  · rw [Rows.get?_put_of_ne same, Rows.get?_put_of_ne same]
    exact vaults sought

/-- A closed vault may remember something else under the name. -/
theorem put_beside (vaults : HandlesBeside write name online handles others) {handle : Handle}
    {memory : Memory} (closed : online handle.backend = false)
    (beside : handle.memory.Beside write memory)
    : HandlesBeside write name online (Rows.put name handle handles)
        (Rows.put name { handle with memory } others) := by
  intro sought
  by_cases same : sought = name
  · subst same
    exact .inr
      ⟨rfl, handle, memory, closed, beside, Rows.get?_put_self .., Rows.get?_put_self ..⟩
  · rw [Rows.get?_put_of_ne same, Rows.get?_put_of_ne same]
    exact vaults sought

/-- Closing pools keeps them so. -/
theorem close (vaults : HandlesBeside write name online handles others)
    {later : Backend → Bool} (kept : ∀ backend, later backend = true → online backend = true)
    : HandlesBeside write name later handles others := by
  intro sought
  rcases vaults sought with same | ⟨rfl, handle, memory, closed, beside, here, there⟩
  · exact .inl same
  · refine .inr ⟨rfl, handle, memory, ?_, beside, here, there⟩
    refine Bool.eq_false_iff.mpr ?_
    intro reached
    simp [kept _ reached] at closed

end HandlesBeside

/-- Two deployments that differ at most in what a closed vault remembers of one write. -/
inductive Deployment.Beside (write : AccountWrite) (name : String) (deployment : Deployment)
    : Deployment → Prop
  | intro {handles : List (String × Handle)}
    (vaults : HandlesBeside write name deployment.isOnline deployment.handles handles)
    : Beside write name deployment { deployment with handles }

/-- Two answers to one event that are equal, unless the event reads back what a write wrote,
and that leave deployments that differ as before.
-/
structure AnsweredBeside (write : AccountWrite) (name : String) (event : Event)
    (answered twin : Reply × Deployment) : Prop where
  reply : event.readsBack name write = false → answered.1 = twin.1
  left : answered.2.Beside write name twin.2

namespace Deployment

variable {write : AccountWrite} {name : String} {deployment other : Deployment} {handle : Handle}

/-- A pool that is open once another was closed was open before. -/
theorem isOnline_of_close {pool : Nat} {backend : Backend}
    (online
      : ({ deployment with closed := pool :: deployment.closed } : Deployment).isOnline backend
        = true)
    : deployment.isOnline backend = true := by
  cases backend with
  | postgres => cases online
  | sqlite number =>
    simp only [isOnline, List.contains_cons, Bool.not_or, Bool.and_eq_true] at online
    exact online.2

/-- A call of the closed vault is answered alike from either memory, unless it reads back what
the write wrote.
-/
theorem call_beside {handles : List (String × Handle)} {memory : Memory}
    (vaults : HandlesBeside write name deployment.isOnline deployment.handles handles)
    (closed : deployment.isOnline handle.backend = false)
    (memories : handle.memory.Beside write memory) (nonce : Aead.Nonce) (operation : Operation)
    (interruption : Option Interruption)
    : AnsweredBeside write name (.call name operation interruption)
        (deployment.call nonce name handle operation interruption)
        (({ deployment with handles } : Deployment).call nonce name { handle with memory }
          operation interruption) := by
  let twin : Deployment := { deployment with handles }
  let remembering : Handle := { handle with memory }
  have unreached : ((deployment.vaultOf handle).during interruption).online = false :=
    Vault.online_during_of_offline closed interruption
  obtain ⟨alike, left, leftOther, memories, leaves, leavesOther⟩ :=
    Vault.perform_beside unreached (deployment.stateOf handle) memories nonce operation
  refine ⟨?_, ?_⟩
  · intro unread
    refine alike ?_
    rintro rfl
    simp [Event.readsBack] at unread
  · have settled
        : (deployment.call nonce name handle operation interruption).2
          = deployment.setHandle name { handle with memory := left } :=
      congrArg (deployment.settle name handle) leaves
    have settledTwin
        : (twin.call nonce name remembering operation interruption).2
          = twin.setHandle name { handle with memory := leftOther } :=
      congrArg (twin.settle name remembering) leavesOther
    rw [settled, settledTwin]
    exact .intro (vaults.put_beside closed memories)

/-- An event is answered alike in both, unless it reads back what the write wrote, and the two
differ as before after it.
-/
theorem step_beside (beside : deployment.Beside write name other) (nonce : Aead.Nonce)
    (event : Event)
    : AnsweredBeside write name event (deployment.step nonce event) (other.step nonce event) := by
  obtain @⟨handles, vaults⟩ := beside
  cases event with
  | openVault opening owner key =>
    simp only [step, openVault]
    cases deployment.database.migration.check with
    | error fault => exact ⟨fun _ => rfl, .intro vaults⟩
    | ok _ => exact ⟨fun _ => rfl, .intro (vaults.put opening _)⟩
  | shareVault opening source owner key =>
    rcases vaults source with same | ⟨rfl, handle, memory, _, _, here, there⟩
    · simp only [step, handle?, same]
      cases Rows.get? source handles with
      | none => exact ⟨fun _ => rfl, .intro vaults⟩
      | some shared => exact ⟨fun _ => rfl, .intro (vaults.put opening _)⟩
    · simp only [step, handle?, here, there]
      exact ⟨fun _ => rfl, .intro (vaults.put opening _)⟩
  | detachedVault opening owner key =>
    exact ⟨fun _ => rfl, .intro (vaults.put opening _)⟩
  | closePool closing =>
    rcases vaults closing with same | ⟨rfl, handle, memory, _, _, here, there⟩
    · simp only [step, handle?, same]
      rcases Rows.get? closing handles with _ | ⟨_, _, pool | _, _, _⟩
      · exact ⟨fun _ => rfl, .intro vaults⟩
      · exact ⟨fun _ => rfl, .intro (vaults.close fun _ => isOnline_of_close)⟩
      · exact ⟨fun _ => rfl, .intro vaults⟩
    · obtain ⟨owner, key, pool | _, cache, remembered⟩ := handle
      all_goals simp only [step, handle?, here, there]
      · exact ⟨fun _ => rfl, .intro (vaults.close fun _ => isOnline_of_close)⟩
      · exact ⟨fun _ => rfl, .intro vaults⟩
  | call called operation interruption =>
    rcases vaults called with same | ⟨rfl, handle, memory, closed, memories, here, there⟩
    · simp only [step, handle?, same]
      cases Rows.get? called handles with
      | none => exact ⟨fun _ => rfl, .intro vaults⟩
      | some handle => exact ⟨fun _ => rfl, .intro (vaults.put called _)⟩
    · simp only [step, handle?, here, there]
      exact call_beside vaults closed memories nonce operation interruption
  | share owner session => exact ⟨fun _ => rfl, .intro vaults⟩
  | markEncrypted ref time => exact ⟨fun _ => rfl, .intro vaults⟩
  | markDecrypted ref time => exact ⟨fun _ => rfl, .intro vaults⟩
  | setRatchet ref ratchet => exact ⟨fun _ => rfl, .intro vaults⟩

/-- The replies of a history are those of its first event, if it is asked about, and those of
the rest.
-/
theorem repliesTo_cons (asked : Event → Bool) (nonce : Aead.Nonce) (event : Event)
    (rest : List (Aead.Nonce × Event))
    : let step := deployment.step nonce event
      deployment.repliesTo asked ((nonce, event) :: rest)
      = if asked event then step.1 :: step.2.repliesTo asked rest
        else step.2.repliesTo asked rest := by
  simp only [repliesTo, moments, List.filter_cons]
  cases asked event <;> rfl

/-- The replies of two histories, one after the other, are those of the first and then those of
the second.
-/
theorem repliesTo_append (asked : Event → Bool) (earlier later : List (Aead.Nonce × Event))
    : deployment.repliesTo asked (earlier ++ later)
      = deployment.repliesTo asked earlier
        ++ (deployment.run earlier).2.repliesTo asked later := by
  simp only [repliesTo, moments_append, List.filter_append, List.map_append]

/-- Every history is answered alike in both, but for the events that read back what the write
wrote, and leaves the same tables. By induction over the history.
-/
theorem run_beside (beside : deployment.Beside write name other)
    (history : List (Aead.Nonce × Event))
    : let asked := fun event : Event => !event.readsBack name write
      deployment.repliesTo asked history = other.repliesTo asked history
      ∧ (deployment.run history).2.database = (other.run history).2.database := by
  intro asked
  induction history generalizing deployment other with
  | nil =>
    obtain ⟨_⟩ := beside
    exact ⟨rfl, rfl⟩
  | cons entry rest ih =>
    obtain ⟨nonce, event⟩ := entry
    have answered := step_beside beside nonce event
    obtain ⟨replies, tables⟩ := ih answered.left
    refine ⟨?_, tables⟩
    rw [repliesTo_cons, repliesTo_cons, replies]
    by_cases asking : asked event = true
    · have unread : event.readsBack name write = false := by simpa [asked] using asking
      rw [if_pos asking, if_pos asking, answered.reply unread]
    · rw [if_neg asking, if_neg asking]

/-- A deployment differs no more from the one in which a closed vault also remembers what it
was to write.
-/
theorem beside_setHandle (opened : deployment.handle? name = some handle)
    (closed : deployment.isOnline handle.backend = false)
    : deployment.Beside write name
        (deployment.setHandle name
          { handle with memory := write.remember handle.memory }) := by
  have same
      : HandlesBeside write name deployment.isOnline deployment.handles deployment.handles :=
    fun _ => .inl rfl
  have vaults := same.put_beside closed (handle.memory.beside_remember write)
  rw [Rows.put_of_get? opened] at vaults
  exact .intro vaults

/-- Two deployments that no history tells apart are not told apart after one either. -/
theorem ReadAlike.run (alike : deployment.ReadAlike name other)
    (earlier : List (Aead.Nonce × Event))
    : (deployment.run earlier).2.ReadAlike name (other.run earlier).2 := by
  intro later
  obtain ⟨replies, tables⟩ := alike (earlier ++ later)
  rw [repliesTo_append, repliesTo_append, (alike earlier).1] at replies
  rw [run_append, run_append] at tables
  exact ⟨List.append_cancel_left replies, tables⟩

/-- Two deployments that no history tells apart answer what a vault reads now alike. -/
theorem ReadAlike.reply_eq (alike : deployment.ReadAlike name other) {read : Operation}
    (reads : Event.readsRow name (.call name read) = true) (nonce : Aead.Nonce)
    : (deployment.step nonce (.call name read)).1 = (other.step nonce (.call name read)).1 := by
  have replies := (alike [(nonce, .call name read)]).1
  rw [repliesTo_cons, repliesTo_cons, if_pos reads, if_pos reads] at replies
  exact (List.cons.inj replies).1

/-- A vault that remembers what a write was to write answers it. -/
theorem reply_readBack
    (opened
      : deployment.handle? name
        = some { handle with memory := write.remember handle.memory })
    (nonce : Aead.Nonce) (interruption : Option Interruption)
    : (deployment.step nonce (.call name write.readBack interruption)).1
      = ⟨.ok write.written, []⟩ := by
  rw [step_call_during opened]
  exact congrArg Outcome.reply (Vault.perform_readBack nonce write (deployment.stateOf handle))

end Deployment

/-- To read a write back is to read the row of the account. -/
theorem AccountWrite.readsRow_readBack (write : AccountWrite) (name : String)
    : Event.readsRow name (.call name write.readBack) = true := by
  cases write
  all_goals exact decide_eq_true rfl

-----------------------------------------------------------------------------------------
-- A vault whose row another one deletes
-----------------------------------------------------------------------------------------

/-- A second vault of an account, on the pool of the first one, that deletes the account. -/
def Handle.deletedBeside (handle : Handle) (name second : String) : List (Aead.Nonce × Event) :=
  let events : List Event :=
    [.shareVault second name handle.owner handle.key, .call second .delete]
  events.map fun event => (.replicate 24 0, event)

/-- The first vault stays as it is, and finds no row after that or reaches none. -/
theorem Deployment.run_deletedBeside {deployment : Deployment} {name second : String}
    {handle : Handle} (opened : deployment.handle? name = some handle) (apart : name ≠ second)
    : let after := (deployment.run (handle.deletedBeside name second)).2
      after.handle? name = some handle
      ∧ (after.isOnline handle.backend = false
        ∨ after.database.account? handle.owner = none) := by
  intro after
  let fresh := Handle.fresh handle.owner handle.key handle.backend
  let shared := deployment.setHandle second fresh
  have kept : shared.handle? name = some handle := by
    rw [handle?_setHandle_of_ne _ _ _ apart, opened]
  have here : shared.handle? second = some fresh := handle?_setHandle_self ..
  have ends : after = (shared.step (.replicate 24 0) (.call second .delete)).2 := by
    simp only [after, Handle.deletedBeside, List.map_cons, run, step, opened]
    rfl
  cases online : deployment.isOnline handle.backend with
  | true =>
    rw [ends, step_delete here online]
    refine ⟨(handle?_setHandle_of_ne _ _ _ apart).trans kept, .inr ?_⟩
    exact Database.account?_wipe ..
  | false =>
    have closed : (shared.vaultOf fresh).online = false := online
    have failed
        : (shared.vaultOf fresh).perform (.replicate 24 0) .delete (shared.stateOf fresh)
          = (shared.vaultOf fresh).offline (shared.stateOf fresh) := by
      simp [Vault.perform, Vault.delete, closed]
    rw [ends, step_of_failed here failed]
    exact ⟨kept, .inl online⟩

-----------------------------------------------------------------------------------------
-- What a failed write leaves
-----------------------------------------------------------------------------------------

namespace Deployment

variable {write : AccountWrite} {name : String} {deployment : Deployment} {handle : Handle}

/-- A failed write is unseen just where the vault remembered before what it was to write: another
vault may delete the row, and then only what is remembered is read.
-/
theorem readAlike_remember_iff (opened : deployment.handle? name = some handle)
    : deployment.ReadAlike name
        (deployment.setHandle name { handle with memory := write.remember handle.memory })
      ↔ write.remember handle.memory = handle.memory := by
  let remembering : Handle := { handle with memory := write.remember handle.memory }
  let twin := deployment.setHandle name remembering
  constructor
  · intro alike
    let second := name ++ "+"
    have apart : name ≠ second := by
      intro same
      have lengths := congrArg String.length same
      simp [second] at lengths
    let history := handle.deletedBeside name second
    obtain ⟨kept, unread⟩ := run_deletedBeside opened apart
    have replaced : twin.handle? name = some remembering := handle?_setHandle_self ..
    obtain ⟨held, _⟩ := run_deletedBeside replaced apart
    have answered
        : ((deployment.run history).2.step (.replicate 24 0) (.call name write.readBack)).1
          = ⟨.ok write.written, []⟩ :=
      ((alike.run history).reply_eq (write.readsRow_readBack name) _).trans
        (reply_readBack held _ none)
    rw [step_call kept] at answered
    exact Vault.remember_eq_of_readBack unread (congrArg Reply.result answered)
  · intro remembered
    have same : remembering = handle := by simp only [remembering, remembered]
    have unmoved : deployment.setHandle name handle = deployment := settle_stateOf opened
    intro history
    dsimp only [remembering] at same
    rw [same, unmoved]
    exact ⟨rfl, rfl⟩

/-- Over an open pool a vault stores an account with what it remembers. -/
theorem database_putAccount (opened : deployment.handle? name = some handle)
    (online : deployment.isOnline handle.backend = true) (nonce : Aead.Nonce) (account : Account)
    : (deployment.step nonce (.call name (.putAccount account))).2.database
      = deployment.database.upsertAccount
          ((deployment.vaultOf handle).rowOfAccount nonce account handle.memory) := by
  have reached : (deployment.vaultOf handle).online = true := online
  rw [step_call opened]
  simp only [Vault.perform, Vault.putAccount, reached, if_true]
  rfl

end Deployment

/-- A write of the account or of the position that reports a failure was remembered and changed
nothing else. From then on it is read back, and the next row that is stored has its position; that
is unseen just where it was remembered before. Over a closed pool no row is stored, and nothing
but reading it back tells.
-/
theorem failed_account_write_is_unseen_iff {deployment : Deployment} {name : String}
    {handle : Handle} (opened : deployment.handle? name = some handle) (nonce : Aead.Nonce)
    (write : AccountWrite) (interruption : Option Interruption)
    : let step := deployment.step nonce (.call name write.operation interruption)
      let online := deployment.isOnline handle.backend
      let remembered := write.remember handle.memory
      let asked := fun event : Event => !event.readsBack name write
      (step.1.ReportsFailure ↔ online = false ∨ ∃ lost, interruption = some lost ∧ lost.done = 0)
      ∧ (step.1.ReportsFailure
          → (deployment.ReadAlike name step.2 ↔ remembered = handle.memory)
            ∧ step.2 = deployment.setHandle name { handle with memory := remembered }
            ∧ (∀ later lost,
                (step.2.step later (.call name write.readBack lost)).1 = ⟨.ok write.written, []⟩)
            ∧ (∀ later account,
                online = true
                → (step.2.step later (.call name (.putAccount account))).2.database
                  = deployment.database.upsertAccount
                      ((deployment.vaultOf handle).rowOfAccount later account remembered))
            ∧ ∀ history,
                online = false
                → deployment.repliesTo asked history = step.2.repliesTo asked history
                  ∧ (deployment.run history).2.database
                    = (step.2.run history).2.database) := by
  intro step online remembered asked
  let vault := (deployment.vaultOf handle).during interruption
  let remembering : Handle := { handle with memory := remembered }
  have performed := Deployment.step_call_during opened nonce write.operation interruption
  have refusal := vault.write_refusedWhere nonce write (deployment.stateOf handle)
  have reports : step.1.ReportsFailure ↔ vault.online = false :=
    (iff_of_eq (congrArg (fun step => step.1.ReportsFailure) performed)).trans refusal.reports
  refine ⟨reports.trans Vault.online_during_eq_false_iff, ?_⟩
  intro failed
  have settled : step.2 = deployment.setHandle name remembering :=
    (congrArg Prod.snd performed).trans
      (congrArg (deployment.settle name handle) (refusal.leaves (reports.mp failed)))
  have held : step.2.handle? name = some remembering := by
    rw [settled]
    exact Deployment.handle?_setHandle_self ..
  refine ⟨?_, settled, Deployment.reply_readBack held, ?_, ?_⟩
  · rw [settled]
    exact Deployment.readAlike_remember_iff opened
  · intro later account reached
    have kept : step.2.isOnline handle.backend = true := by
      rw [settled]
      exact reached
    rw [Deployment.database_putAccount held kept, settled]
    rfl
  · intro history closed
    rw [settled]
    exact Deployment.run_beside (Deployment.beside_setHandle opened closed) history

/-- A vault stores an account and its position, and its pool is closed. -/
def storingThenClosed : List (Aead.Nonce × Event) :=
  let events : List Event :=
    [.openVault "first" ⟨"@a"⟩ ⟨.replicate 32 0⟩,
     .call "first" (.putAccount ⟨[1], true⟩),
     .call "first" (.putNextBatch ⟨"s1"⟩),
     .closePool "first"]
  events.map fun event => (.replicate 24 0, event)

/-- What is open once the pool is closed, with the account and the position that it stored. -/
def Handle.storedThenClosed : Handle :=
  { Handle.fresh ⟨"@a"⟩ ⟨.replicate 32 0⟩ (.sqlite 0) with
    memory := ⟨none, some ⟨"s1"⟩, some ⟨[1], true⟩⟩ }

/-- A position that the closed vault fails to store is then its position. -/
theorem failed_position_is_read_back
    : let reached := (Deployment.empty.run storingThenClosed).2
      let step := reached.step (.replicate 24 0) (.call "first" (.putNextBatch ⟨"s2"⟩))
      step.1.ReportsFailure
      ∧ (∀ later,
          (step.2.step later (.call "first" .getNextBatch)).1
            = ⟨.ok (.syncToken (some ⟨"s2"⟩)), []⟩)
      ∧ ¬ reached.ReadAlike "first" step.2 := by
  intro reached step
  have opened : reached.handle? "first" = some .storedThenClosed := by decide
  obtain ⟨reports, unseen⟩ :=
    failed_account_write_is_unseen_iff opened (.replicate 24 0) (.position ⟨"s2"⟩) none
  have failed : step.1.ReportsFailure := reports.mpr (.inl (by decide))
  obtain ⟨alike, _, readBack, _⟩ := unseen failed
  exact ⟨failed, fun later => readBack later none, fun same => absurd (alike.mp same) (by decide)⟩

/-- A position that a vault failed to store goes into the row with the next account that it
stores, if the database is there again.
-/
example
    : let events : List Event :=
        [.openVault "first" ⟨"@a"⟩ ⟨.replicate 32 0⟩,
         .call "first" (.putAccount ⟨[1], true⟩),
         .call "first" (.putNextBatch ⟨"s1"⟩),
         .call "first" (.putNextBatch ⟨"s2"⟩) (some ⟨0, .locked⟩),
         .call "first" (.putAccount ⟨[1], true⟩)]
      let reached := (Deployment.empty.run (events.map fun event => (.replicate 24 0, event))).2
      (reached.database.account? ⟨"@a"⟩).map AccountRow.syncToken = some "s2" := by
  decide

/-- So not every failed write of the account or of the position is unseen. -/
theorem failed_account_write_is_seen
    : ¬ ∀ history name handle nonce (write : AccountWrite),
        let deployment := (Deployment.empty.run history).2
        let step := deployment.step nonce (.call name write.operation)
        deployment.handle? name = some handle
        → step.1.ReportsFailure
        → deployment.ReadAlike name step.2 := by
  intro unseen
  have alike :=
    unseen storingThenClosed "first" .storedThenClosed (.replicate 24 0)
      (.position ⟨"s2"⟩) (by decide) (.inl ⟨.database .poolClosed, rfl⟩)
  have reads : Event.readsRow "first" (.call "first" .getNextBatch) = true := by decide
  have same
      : (.ok (.syncToken (some ⟨"s1"⟩)) : Except StoreFault Answer)
        = .ok (.syncToken (some ⟨"s2"⟩)) :=
    congrArg Reply.result (alike.reply_eq reads (.replicate 24 0))
  simp at same

end KeyVault
