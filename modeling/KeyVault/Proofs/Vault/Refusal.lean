import KeyVault.Proofs.Olm.Writes
/-!
Writes that fail. A write reports a failure where a statement of it is not done, where it adds a
session that is stored, or where it stores an age that has no interval, and nowhere else; whatever
it would have changed is then as it was, but for the sessions of the rooms that a long removal had
come to. The two writes that remember first what they store are no such writes.
-/

namespace KeyVault

/-- The operations that write, but for those that remember what they write before they have
written it.
-/
def Operation.writesFirst : Operation → Bool
  | delete | putDeviceId _ | addSession .. | updateSession .. | putGroupSession ..
  | addOutbound _ | updateOutbound _ | removeOutbound _ | removeOutbounds _ | validate _
  | putDevices .. | putCrossSigningKey .. | putSignature .. | dropSignatures _ => true
  | _ => false

/-- A reply that reports a failure: a fault, a removal without a count, or an error that was
logged.
-/
def Reply.ReportsFailure (reply : Reply) : Prop :=
  (∃ fault, reply.result = .error fault)
  ∨ reply.result = .ok (.dropped none)
  ∨ ∃ notice ∈ reply.notices, notice.level = .error

/-- What an outcome answers. -/
def Outcome.reply (outcome : Outcome Answer) : Reply :=
  ⟨outcome.result, outcome.notices⟩

/-- Whether a write is refused: a statement of it is not done, its session is stored already, or no
interval is as long as its greatest age. To remove nothing, and to write what is no session, needs
no statement; to validate needs a second one where nothing is pinned.
-/
def Vault.Refuses (vault : Vault) (state : State) : Operation → Prop
  | .addSession _ session =>
    vault.online = false
    ∨ ∃ row ∈ state.database.olm, row.owner = vault.owner ∧ row.session = session.id
  | .putGroupSession _ _ id _ =>
    vault.online = false
    ∨ ∃ row ∈ state.database.inbound, row.owner = vault.owner ∧ row.session = id
  | .addOutbound session =>
    vault.online = false ∨ ∃ fault, encodeAge vault.scheme session.facts.maxAge = .error fault
  | .updateSession _ ref => vault.online = false ∧ state.shared.get? ref ≠ none
  | .removeOutbounds rooms =>
    ∃ number, Database.listLimit * number < rooms.length ∧ vault.reaches number = false
  | .validate pin =>
    vault.online = false
    ∨ (state.database.pin? pin.sender pin.session pin.index = none ∧ vault.reaches 1 = false)
  | _ => vault.online = false

/-- What a refused write leaves: the state as it was, but for the sessions of the rooms that a
removal reached.
-/
def Vault.refused (vault : Vault) (state : State) : Operation → State
  | .removeOutbounds rooms =>
    { state with
      database := (state.database.removeOutbound vault.owner (vault.roomsReached rooms)).2 }
  | _ => state

-----------------------------------------------------------------------------------------
-- Outcomes that report a failure and what they leave then
-----------------------------------------------------------------------------------------

namespace Outcome

/-- What is logged is logged whatever the value is called. -/
theorem answering_noting {α : Type} (outcome : Outcome α) (notices : List Notice)
    (answer : α → Answer)
    : (outcome.noting notices).answering answer = (outcome.answering answer).noting notices :=
  rfl

/-- An outcome that reports a failure where its operation is refused, and nowhere else, and that
then leaves a given state.
-/
structure RefusedWhere (outcome : Outcome Answer) (state : State) (refused : Prop) : Prop where
  reports : outcome.reply.ReportsFailure ↔ refused
  leaves : refused → outcome.state = state

variable {state after : State} {refused : Prop} {outcome : Outcome Answer}

/-- A fault is reported. -/
theorem RefusedWhere.failed (holds : refused) (fault : StoreFault)
    : (Outcome.failed fault state).RefusedWhere state refused where
  reports := iff_of_true (.inl ⟨fault, rfl⟩) holds
  leaves _ := rfl

/-- What is done without a notice reports no failure. -/
theorem RefusedWhere.done (holds : ¬ refused) {answer : Answer}
    (counted : answer ≠ .dropped none)
    : (Outcome.done answer after).RefusedWhere state refused where
  reports := by
    refine iff_of_false ?_ holds
    rintro (⟨fault, failed⟩ | uncounted | ⟨notice, logged, _⟩)
    · cases failed
    · exact counted (Except.ok.inj uncounted)
    · cases logged
  leaves here := absurd here holds

/-- A failure that is only logged is reported. -/
theorem RefusedWhere.logged (holds : refused) (answer : Answer) {notice : Notice}
    (grave : notice.level = .error)
    : ((Outcome.done answer state).noting [notice]).RefusedWhere state refused where
  reports := iff_of_true (.inr (.inr ⟨notice, List.mem_cons_self .., grave⟩)) holds
  leaves _ := rfl

/-- Warnings report no failure. -/
theorem RefusedWhere.noting (quiet : outcome.RefusedWhere state refused)
    {notices : List Notice} (warnings : ∀ notice ∈ notices, notice.level = .warn)
    : (outcome.noting notices).RefusedWhere state refused where
  reports := by
    rw [← quiet.reports]
    refine or_congr Iff.rfl (or_congr Iff.rfl ?_)
    constructor
    · rintro ⟨notice, logged, grave⟩
      rcases List.mem_append.mp logged with warned | earlier
      · cases (warnings notice warned).symm.trans grave
      · exact ⟨notice, earlier, grave⟩
    · rintro ⟨notice, logged, grave⟩
      exact ⟨notice, List.mem_append_right notices logged, grave⟩
  leaves := quiet.leaves

end Outcome

-----------------------------------------------------------------------------------------
-- Every write is refused where it fails
-----------------------------------------------------------------------------------------

namespace Vault

variable {vault : Vault} {state after : State}

/-- Where its first statement is not done, a write is refused that asks for it; else it is refused
where the rest of it is.
-/
theorem refusedWhere_asking {α : Type} {rest : Outcome α} {answer : α → Answer} {refused : Prop}
    (further : vault.online = true → (rest.answering answer).RefusedWhere state refused)
    : ((if vault.online then rest else vault.offline state : Outcome α).answering
        answer).RefusedWhere state (vault.online = false ∨ refused) := by
  by_cases online : vault.online = true
  · have reached : ¬ vault.online = false := by simp [online]
    rw [if_pos online, or_iff_right reached]
    exact further online
  · rw [if_neg online]
    exact .failed (.inl (Bool.eq_false_iff.mpr online)) _

/-- A write of one statement is refused where that is not done. -/
theorem refusedWhere_reaching {α : Type} {value : α} {answer : α → Answer}
    (counted : answer value ≠ .dropped none)
    : ((if vault.online then .done value after else vault.offline state : Outcome α).answering
        answer).RefusedWhere state (vault.online = false) := by
  rw [← or_false (vault.online = false)]
  exact refusedWhere_asking fun _ => .done not_false counted

/-- A write of one statement that logs its failure is refused where that is not done. -/
theorem refusedWhere_logging {α : Type} {value other : α} {answer : α → Answer} {notice : Notice}
    (counted : answer value ≠ .dropped none) (grave : notice.level = .error)
    : ((if vault.online then .done value after else (Outcome.done other state).noting [notice]
        : Outcome α).answering answer).RefusedWhere state (vault.online = false) := by
  by_cases online : vault.online = true
  · rw [if_pos online]
    exact .done (by simp [online]) counted
  · rw [if_neg online]
    exact .logged (Bool.eq_false_iff.mpr online) (answer other) grave

/-- Adding a session is refused where the statement is not done and where the session is stored;
that it is cached is no more than a warning.
-/
theorem addSession_refusedWhere (nonce : Aead.Nonce) (sender : IdentityKey) (session : Session)
    : (vault.perform nonce (.addSession sender session) state).RefusedWhere state
        (vault.Refuses state (.addSession sender session)) := by
  have warnings
      : ∀ notice ∈ if state.cache.contains sender session.id then
            [Notice.alreadyCached session.id]
          else [],
          notice.level = .warn := by
    cases state.cache.contains sender session.id <;> simp [Notice.level]
  dsimp only [perform, addSession, Refuses]
  rw [Outcome.answering_noting]
  refine .noting (refusedWhere_asking fun _ => ?_) warnings
  cases inserted : state.database.insertOlm (vault.rowOfSession nonce sender session) with
  | error fault => exact .failed (Database.exists_of_insertOlm_eq_error inserted) _
  | ok database =>
    refine .done ?_ (by simp)
    rintro ⟨row, stored, owned, same⟩
    exact (Database.insertOlm_eq_ok inserted).1 row stored owned same

/-- Writing a session is refused where the statement is not done and there is one to write; that
the cached one differs is no more than a warning.
-/
theorem updateSession_refusedWhere (nonce : Aead.Nonce) (sender : IdentityKey) (ref : SessionRef)
    : (vault.perform nonce (.updateSession sender ref) state).RefusedWhere state
        (vault.Refuses state (.updateSession sender ref)) := by
  dsimp only [perform, updateSession, Refuses]
  cases met : state.shared.get? ref with
  | none => exact .done (by simp) (by simp)
  | some session =>
    have warnings : ∀ notice ∈ divergence sender ref session state, notice.level = .warn := by
      unfold divergence
      cases state.cache.get? sender session.id with
      | none => simp [Notice.level]
      | some cached => by_cases same : cached = ref <;> simp [same, Notice.level]
    dsimp only
    rw [Outcome.answering_noting, and_iff_left (Option.some_ne_none session)]
    exact .noting (refusedWhere_reaching (by simp)) warnings

/-- Storing an inbound session is refused where the statement is not done and where the account has
its identifier.
-/
theorem putGroupSession_refusedWhere (nonce : Aead.Nonce) (room : RoomId) (sender : IdentityKey)
    (id : SessionId) (session : InboundSession)
    : (vault.perform nonce (.putGroupSession room sender id session) state).RefusedWhere state
        (vault.Refuses state (.putGroupSession room sender id session)) := by
  dsimp only [perform, putGroupSession, Refuses]
  refine refusedWhere_asking fun _ => ?_
  cases inserted
      : state.database.insertInbound (vault.rowOfInbound nonce room sender id session) with
  | error fault => exact .failed (Database.exists_of_insertInbound_eq_error inserted) _
  | ok database =>
    refine .done ?_ (by simp)
    rintro ⟨row, stored, owned, same⟩
    exact (Database.insertInbound_eq_ok inserted).1 row stored owned same

/-- Storing an outbound session is refused where the statement is not done and where its greatest
age has no interval, which is found first.
-/
theorem addOutbound_refusedWhere (nonce : Aead.Nonce) (session : OutboundSession)
    : (vault.perform nonce (.addOutbound session) state).RefusedWhere state
        (vault.Refuses state (.addOutbound session)) := by
  dsimp only [perform, addOutbound, Refuses]
  cases encoded : encodeAge vault.scheme session.facts.maxAge with
  | error fault => exact .failed (.inr ⟨fault, rfl⟩) _
  | ok maxAge => exact refusedWhere_asking fun _ => .done (by simp) (by simp)

/-- Writing the use of an outbound session is refused where the statement is not done; that the
session is gone is answered and no more than a warning.
-/
theorem updateOutbound_refusedWhere (nonce : Aead.Nonce) (session : OutboundSession)
    : (vault.perform nonce (.updateOutbound session) state).RefusedWhere state
        (vault.Refuses state (.updateOutbound session)) := by
  dsimp only [perform, updateOutbound, Refuses]
  rw [← or_false (vault.online = false)]
  refine refusedWhere_asking fun _ => ?_
  split
  · exact .done not_false (by simp)
  · exact .noting (.done not_false (by simp)) (by simp [Notice.level])

/-- A removal for several rooms is refused where the statement of one of their pieces is not done,
and the rooms that it reached are then without sessions.
-/
theorem removeOutbounds_refusedWhere (nonce : Aead.Nonce) (rooms : List RoomId)
    : (vault.perform nonce (.removeOutbounds rooms) state).RefusedWhere
        (vault.refused state (.removeOutbounds rooms))
        (vault.Refuses state (.removeOutbounds rooms)) := by
  dsimp only [perform, Refuses]
  rw [← reached_chunks_ne_iff]
  rcases vault.removeOutbounds_cases rooms state with ⟨all, done⟩ | ⟨part, failed⟩
  · rw [done]
    exact .done (not_not_intro all) (by simp)
  · rw [failed]
    exact .failed part _

/-- A validation is refused where the index cannot be looked up, and where it is free and cannot
be pinned.
-/
theorem validate_refusedWhere (nonce : Aead.Nonce) (pin : Pin)
    : (vault.perform nonce (.validate pin) state).RefusedWhere state
        (vault.Refuses state (.validate pin)) := by
  dsimp only [perform, validate, Refuses]
  refine refusedWhere_asking fun _ => ?_
  cases found : state.database.pin? pin.sender pin.session pin.index with
  | none =>
    dsimp only
    by_cases second : vault.reaches 1 = true
    · rw [if_pos second]
      exact .done (by simp [second]) (by simp)
    · rw [if_neg second]
      exact .failed ⟨rfl, Bool.eq_false_iff.mpr second⟩ _
  | some pinned =>
    have unasked : ¬ (some pinned = none ∧ vault.reaches 1 = false) := by simp
    dsimp only
    split
    · exact .done unasked (by simp)
    · exact .noting (.done unasked (by simp)) (by simp [Notice.level])

/-- Every write that does not remember first is refused where it fails, and leaves then what is
left of a refused write, by going through the writes.
-/
theorem perform_refusedWhere (nonce : Aead.Nonce) {operation : Operation}
    (writes : operation.writesFirst = true)
    : (vault.perform nonce operation state).RefusedWhere (vault.refused state operation)
        (vault.Refuses state operation) := by
  cases operation <;> cases writes
  case addSession sender session => exact addSession_refusedWhere nonce sender session
  case updateSession sender ref => exact updateSession_refusedWhere nonce sender ref
  case putGroupSession room sender id session =>
    exact putGroupSession_refusedWhere nonce room sender id session
  case addOutbound session => exact addOutbound_refusedWhere nonce session
  case updateOutbound session => exact updateOutbound_refusedWhere nonce session
  case removeOutbounds rooms => exact removeOutbounds_refusedWhere nonce rooms
  case validate pin => exact validate_refusedWhere nonce pin
  case putCrossSigningKey => exact refusedWhere_logging (by simp) rfl
  case putSignature => exact refusedWhere_logging (by simp) rfl
  case dropSignatures => exact refusedWhere_logging (by simp) rfl
  all_goals exact refusedWhere_reaching (by simp)

end Vault

-----------------------------------------------------------------------------------------
-- Calls of open vaults
-----------------------------------------------------------------------------------------

/-- How many statements of a call are done before one that is not. -/
def Deployment.doneBefore (deployment : Deployment) (handle : Handle)
    (interruption : Option Interruption)
    : Nat :=
  if deployment.isOnline handle.backend then interruption.elim 0 Interruption.done else 0

section Calls

variable {deployment : Deployment} {name : String} {handle : Handle}
  {interruption : Option Interruption} {rooms : List RoomId}

/-- A removal that fails has come to the rooms of the statements that were done. -/
theorem Deployment.roomsReached_of_refused
    (refused
      : ((deployment.vaultOf handle).during interruption).Refuses (deployment.stateOf handle)
          (.removeOutbounds rooms))
    : ((deployment.vaultOf handle).during interruption).roomsReached rooms
      = rooms.take (Database.listLimit * deployment.doneBefore handle interruption) := by
  unfold doneBefore
  cases online : deployment.isOnline handle.backend with
  | false =>
    have closed : ((deployment.vaultOf handle).during interruption).online = false :=
      Vault.online_during_of_offline online interruption
    rw [Vault.roomsReached, Vault.reached_of_offline closed]
    simp
  | true =>
    cases interruption with
    | some lost => exact Vault.roomsReached_during online lost rooms
    | none =>
      obtain ⟨number, _, lost⟩ := refused
      have done : ((deployment.vaultOf handle).during none).reaches number = true :=
        Vault.reaches_of_whole online rfl number
      rw [done] at lost
      cases lost

/-- What a refused write leaves of a deployment. -/
theorem Deployment.settle_refused (opened : deployment.handle? name = some handle)
    {operation : Operation}
    (refused
      : ((deployment.vaultOf handle).during interruption).Refuses (deployment.stateOf handle)
          operation)
    (short : ∀ rooms, operation = .removeOutbounds rooms → rooms.length ≤ Database.listLimit)
    : deployment.settle name handle
        (((deployment.vaultOf handle).during interruption).refused (deployment.stateOf handle)
          operation)
      = deployment := by
  by_cases removal : ∃ rooms, operation = .removeOutbounds rooms
  · obtain ⟨rooms, rfl⟩ := removal
    -- One statement removes the sessions of so few rooms, and it is the one that is not done.
    obtain ⟨number, within, lost⟩ := refused
    have first : number = 0 := by
      have few := short rooms rfl
      by_contra later
      have := Nat.mul_le_mul_left Database.listLimit (Nat.pos_of_ne_zero later)
      omega
    subst first
    have unreached
        : ((deployment.vaultOf handle).during interruption).roomsReached rooms = [] := by
      rw [Vault.roomsReached, Vault.reached_of_offline lost, List.flatten_nil]
    dsimp only [Vault.refused]
    rw [unreached, Database.removeOutbound_nil]
    exact settle_stateOf opened
  · cases operation
    case removeOutbounds rooms => exact absurd ⟨rooms, rfl⟩ removal
    all_goals exact settle_stateOf opened

/-- A write, but for the two that remember first, reports a failure just where it is refused. Then
it changes nothing of the deployment, unless it removes the sessions of more rooms than one
statement lists: those in the rooms of the statements that were done are gone, and no others.
-/
theorem failed_writes_change_nothing_iff (opened : deployment.handle? name = some handle)
    (nonce : Aead.Nonce) (operation : Operation) (writes : operation.writesFirst = true)
    (interruption : Option Interruption)
    : let vault := (deployment.vaultOf handle).during interruption
      let step := deployment.step nonce (.call name operation interruption)
      (step.1.ReportsFailure ↔ vault.Refuses (deployment.stateOf handle) operation)
      ∧ (step.1.ReportsFailure
        → (∀ rooms, operation = .removeOutbounds rooms → rooms.length ≤ Database.listLimit)
        → step.2 = deployment)
      ∧ ∀ rooms,
          operation = .removeOutbounds rooms
          → step.1.ReportsFailure
          → let gone := rooms.take (Database.listLimit * deployment.doneBefore handle interruption)
            let before := deployment.database.outbound
            let kept := Rows.remove (Database.isOutboundIn handle.owner gone) before
            step.2
              = { deployment with database := { deployment.database with outbound := kept } }
            ∧ (step.2 = deployment ↔ ∀ row ∈ before, row.owner = handle.owner → row.room ∉ gone) := by
  intro vault step
  have refusal
      : (vault.perform nonce operation (deployment.stateOf handle)).RefusedWhere
          (vault.refused (deployment.stateOf handle) operation)
          (vault.Refuses (deployment.stateOf handle) operation) :=
    vault.perform_refusedWhere nonce writes
  have performed := Deployment.step_call_during opened nonce operation interruption
  have reports : step.1.ReportsFailure ↔ vault.Refuses (deployment.stateOf handle) operation := by
    rw [← refusal.reports]
    exact iff_of_eq (congrArg (fun step => step.1.ReportsFailure) performed)
  have leaves (failed : step.1.ReportsFailure)
      : step.2
        = deployment.settle name handle (vault.refused (deployment.stateOf handle) operation) :=
    calc step.2
        = deployment.settle name handle
            (vault.perform nonce operation (deployment.stateOf handle)).state :=
          congrArg Prod.snd performed
      _ = deployment.settle name handle (vault.refused (deployment.stateOf handle) operation) := by
          rw [refusal.leaves (reports.mp failed)]
  refine ⟨reports, ?_, ?_⟩
  · intro failed short
    exact (leaves failed).trans (Deployment.settle_refused opened (reports.mp failed) short)
  · rintro rooms rfl failed gone before kept
    have removed
        : step.2 = { deployment with database := { deployment.database with outbound := kept } } := by
      rw [leaves failed, Vault.refused, Deployment.roomsReached_of_refused (reports.mp failed)]
      exact Deployment.settle_database opened _
    refine ⟨removed, ?_⟩
    rw [removed]
    have unchanged
        : { deployment with database := { deployment.database with outbound := kept } } = deployment
          ↔ kept = before := by
      constructor
      · intro same
        exact congrArg (fun deployment => deployment.database.outbound) same
      · intro same
        rw [same]
    rw [unchanged]
    simp [kept, Rows.remove, List.filter_eq_self, Database.isOutboundIn, imp_iff_not_or]

end Calls

/-- A vault adds a session, and the session is used before it is written. -/
def usingAdded : List (Aead.Nonce × Event) :=
  let events : List Event :=
    [.openVault "first" ⟨"@a"⟩ ⟨.replicate 32 0⟩,
     .call "first" (.addSession ⟨"curve"⟩ (madeSession "one")),
     .setRatchet ⟨⟨"@a"⟩, 0⟩ [2]]
  events.map fun event => (.replicate 24 0, event)

/-- Adding the session again fails and does not put the new object in the place of the cached
one, whose use is not written yet.
-/
theorem usingAdded_stays_cached
    : let reached := (Deployment.empty.run usingAdded).2
      let step :=
        reached.step (.replicate 24 0)
          (.call "first" (.addSession ⟨"curve"⟩ (madeSession "one")))
      step.1.ReportsFailure
      ∧ step.2 = reached
      ∧ (∃ handle,
          step.2.handle? "first" = some handle
          ∧ handle.cache.get? ⟨"curve"⟩ ⟨"one"⟩ = some ⟨⟨"@a"⟩, 0⟩)
      ∧ (step.2.shared.get? ⟨⟨"@a"⟩, 0⟩).map Session.ratchet = some [2] := by
  intro reached step
  let handle : Handle :=
    { Handle.fresh ⟨"@a"⟩ ⟨.replicate 32 0⟩ (.sqlite 0) with
      cache := Cache.empty.insert ⟨"curve"⟩ ⟨"one"⟩ ⟨⟨"@a"⟩, 0⟩ }
  have opened : reached.handle? "first" = some handle := by decide
  have stored
      : ∃ row ∈ reached.database.olm, row.owner = ⟨"@a"⟩ ∧ row.session = ⟨"one"⟩ := by
    decide
  obtain ⟨reports, unchanged, _⟩ :=
    failed_writes_change_nothing_iff opened (.replicate 24 0)
      (.addSession ⟨"curve"⟩ (madeSession "one")) rfl none
  have failed : step.1.ReportsFailure := reports.mpr (.inr stored)
  have same : step.2 = reached := unchanged failed nofun
  refine ⟨failed, same, ?_⟩
  rw [same]
  exact ⟨⟨handle, opened, by decide⟩, by decide⟩

/-- An account stores a session of a room. -/
def storingOfRoom : List (Aead.Nonce × Event) :=
  let events : List Event :=
    [.openVault "first" ⟨"@a"⟩ ⟨.replicate 32 0⟩,
     .call "first" (.addOutbound (.fresh ⟨"!room"⟩ ⟨"id"⟩ [1] ⟨4, 0, by decide⟩))]
  events.map fun event => (.replicate 24 0, event)

/-- A removal for more than five hundred rooms that is refused its second statement fails, and the
session is gone of a room of the first one.
-/
theorem interrupted_removal_removes_session
    : let reached := (Deployment.empty.run storingOfRoom).2
      let others := (List.range 500).map fun n => RoomId.mk ("!" ++ toString n)
      let step :=
        reached.step (.replicate 24 0)
          (.call "first" (.removeOutbounds (⟨"!room"⟩ :: others)) (some ⟨1, .locked⟩))
      step.1 = .failed (.database .locked)
      ∧ (reached.database.outbound? ⟨"@a"⟩ ⟨"!room"⟩).isSome = true
      ∧ step.2.database.outbound = [] := by
  intro reached others step
  let handle : Handle := .fresh ⟨"@a"⟩ ⟨.replicate 32 0⟩ (.sqlite 0)
  let vault := (reached.vaultOf handle).during (some ⟨1, .locked⟩)
  let rooms : List RoomId := ⟨"!room"⟩ :: others
  have opened : reached.handle? "first" = some handle := by decide
  have second
      : ∃ number, Database.listLimit * number < rooms.length ∧ vault.reaches number = false :=
    ⟨1, by simp [rooms, others, Database.listLimit], by decide⟩
  let kept :=
    Rows.remove (Database.isOutboundIn ⟨"@a"⟩ (rooms.take (500 * 1))) reached.database.outbound
  have removed
      : step
        = (.failed (.database .locked),
            { reached with database := { reached.database with outbound := kept } }) := by
    refine (Deployment.step_call_during opened _ _ _).trans ?_
    rcases vault.removeOutbounds_cases rooms (reached.stateOf handle) with
      ⟨all, _⟩ | ⟨_, failed⟩
    · exact absurd all (Vault.reached_chunks_ne_iff.mpr second)
    · rw [Vault.roomsReached_during (by decide)] at failed
      dsimp only [Vault.perform]
      rw [failed]
      exact Prod.ext rfl (Deployment.settle_database opened _)
  have stored
      : ∀ row ∈ reached.database.outbound, row.owner = ⟨"@a"⟩ ∧ row.room = ⟨"!room"⟩ := by
    decide
  rw [removed]
  refine ⟨rfl, by decide, List.filter_eq_nil_iff.mpr ?_⟩
  intro row member
  obtain ⟨owned, named⟩ := stored row member
  simp [Database.isOutboundIn, owned, named, rooms]

end KeyVault
