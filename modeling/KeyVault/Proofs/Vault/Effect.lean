import KeyVault.Proofs.Vault.Pieces
import KeyVault.Vault.Operation
/-!
What an operation can leave. Every operation either leaves the state as it was or has the
one effect of its kind; whatever an operation leaves alone is found by going through the
effects.
-/

namespace KeyVault.Vault

/-- The state after an operation: as it was, or changed in the way of the operation. A
position and an account are remembered even when they cannot be stored, and the sessions of
some rooms may be removed when those of others cannot be. Each effect says what it changes and
keeps the rest, so that whatever it leaves alone is left alone by definition.
-/
inductive Effect (vault : Vault) (nonce : Aead.Nonce) (state : State) : Operation → State → Prop
  | nothing {operation} : Effect vault nonce state operation state
  | delete
    : Effect vault nonce state .delete
        { state with
          database := state.database.wipe vault.owner
          cache := .empty
          memory := .empty }
  | getDeviceId {device}
    : Effect vault nonce state .getDeviceId { state with memory := { state.memory with device } }
  | putDeviceId {device}
    : Effect vault nonce state (.putDeviceId device)
        { state with
          database := state.database.setDevice vault.owner device.text
          memory := { state.memory with device := some device } }
  | getNextBatch {syncToken}
    : Effect vault nonce state .getNextBatch
        { state with memory := { state.memory with syncToken } }
  | rememberNextBatch {token}
    : Effect vault nonce state (.putNextBatch token)
        { state with memory := { state.memory with syncToken := some token } }
  | putNextBatch {token}
    : Effect vault nonce state (.putNextBatch token)
        { state with
          database := state.database.setSyncToken vault.owner token.text
          memory := { state.memory with syncToken := some token } }
  | getAccount {device account}
    : Effect vault nonce state .getAccount
        { state with memory := { state.memory with device, account } }
  | rememberAccount {account}
    : Effect vault nonce state (.putAccount account)
        { state with memory := { state.memory with account := some account } }
  | putAccount {account}
    : Effect vault nonce state (.putAccount account)
        { state with
          database := state.database.upsertAccount (vault.rowOfAccount nonce account state.memory)
          memory := { state.memory with account := some account } }
  | getSessions {sender result} {opened : State}
    (opens
      : vault.openRows sender (state.database.olmSessions vault.owner sender) state
        = (result, opened))
    : Effect vault nonce state (.getSessions sender)
        { state with shared := opened.shared, cache := opened.cache }
  | getLatestSession {sender row older result} {opened : State}
    (newest : state.database.olmSessions vault.owner sender = row :: older)
    (opens : vault.openRow sender row state = (result, opened))
    : Effect vault nonce state (.getLatestSession sender)
        { state with shared := opened.shared, cache := opened.cache }
  | addSession {sender session}
    (absent
      : ∀ old ∈ state.database.olm, old.owner = vault.owner → old.session ≠ session.id)
    : Effect vault nonce state (.addSession sender session)
        { state with
          database := { state.database with
            olm := state.database.olm ++ [vault.rowOfSession nonce sender session] }
          shared := (state.shared.add vault.owner session).2
          cache := state.cache.insert sender session.id (state.shared.add vault.owner session).1 }
  | updateSession {sender ref session} (met : state.shared.get? ref = some session)
    : Effect vault nonce state (.updateSession sender ref)
        { state with
          database := state.database.updateOlm vault.owner session.id
            (session.pickle vault.key nonce)
            session.times.encrypted session.times.decrypted }
  | putGroupSession {room sender id session}
    (absent : ∀ old ∈ state.database.inbound, old.owner = vault.owner → old.session ≠ id)
    : Effect vault nonce state (.putGroupSession room sender id session)
        { state with
          database := { state.database with
            inbound :=
              state.database.inbound ++ [vault.rowOfInbound nonce room sender id session] } }
  | addOutbound {session maxAge} (encoded : encodeAge vault.scheme session.facts.maxAge = .ok maxAge)
    : Effect vault nonce state (.addOutbound session)
        { state with
          database := state.database.upsertOutbound (vault.rowOfOutbound nonce session maxAge) }
  | updateOutbound {session}
    : Effect vault nonce state (.updateOutbound session)
        { state with
          database := state.database.updateOutbound vault.owner session.facts.room session.id
            (session.pickle vault.key nonce) (encodeCount session.facts.messageCount)
            session.facts.used }
  | removeOutbound {room}
    : Effect vault nonce state (.removeOutbound room)
        { state with database := (state.database.removeOutbound vault.owner [room]).2 }
  | removeOutbounds {rooms gone} (first : gone <+: rooms)
    : Effect vault nonce state (.removeOutbounds rooms)
        { state with
          database := { state.database with
            outbound :=
              Rows.remove (Database.isOutboundIn vault.owner gone) state.database.outbound } }
  | validate {pin} (unpinned : state.database.pin? pin.sender pin.session pin.index = none)
    : Effect vault nonce state (.validate pin)
        { state with database := state.database.insertPin pin }
  | putDevices {user devices}
    : Effect vault nonce state (.putDevices user devices)
        { state with
          database := { state.database with
            tracked := (state.database.track user).tracked
            devices := Rows.remove (fun row => row.user = user) state.database.devices
              ++ (distinctDevices devices).map fun (id, device) => rowOfDevice user id device } }
  | putCrossSigningKey {user usage key}
    : Effect vault nonce state (.putCrossSigningKey user usage key)
        { state with database := state.database.upsertKey ⟨user, usage.tag, key, key⟩ }
  | putSignature {target signer signature}
    : Effect vault nonce state (.putSignature target signer signature)
        { state with database := state.database.upsertSignature ⟨target, signer, signature⟩ }
  | dropSignatures {signer}
    : Effect vault nonce state (.dropSignatures signer)
        { state with database := (state.database.removeSignatures signer).2 }

-----------------------------------------------------------------------------------------
-- What opening rows and answering leaves
-----------------------------------------------------------------------------------------

/-- What opening a row gives and leaves: the session that is cached for it; or the fault of its
pickle; or what is cached under the identifier of the session that its pickle opens to, once that
one was offered.
-/
inductive Opens (vault : Vault) (sender : IdentityKey) (row : OlmRow) (state : State)
    : Except PickleFault SessionRef → State → Prop
  | cached {ref} (cached : state.cache.get? sender row.session = some ref)
    : Opens vault sender row state (.ok ref) state
  | failed {fault} (uncached : state.cache.get? sender row.session = none)
    (refused : Session.unpickle row.blob vault.key (timesOf row) = .error fault)
    : Opens vault sender row state (.error fault) state
  | opened {session} (uncached : state.cache.get? sender row.session = none)
    (opened : Session.unpickle row.blob vault.key (timesOf row) = .ok session)
    : Opens vault sender row state
        (.ok (state.cache.getOrInsert sender session.id
          (state.shared.add vault.owner session).1).1)
        { state with
          shared := (state.shared.add vault.owner session).2
          cache :=
            (state.cache.getOrInsert sender session.id
              (state.shared.add vault.owner session).1).2 }

section Outcomes

variable {α : Type} {vault : Vault} {nonce : Aead.Nonce} {state after : State}
  {operation : Operation}

/-- A call that needs the database has its effect where the database can be reached, and
none elsewhere.
-/
theorem Effect.reaching {value : α} (h : vault.Effect nonce state operation after)
    : vault.Effect nonce state operation
        (if vault.online then .done value after else vault.offline state : Outcome α).state := by
  cases vault.online with
  | true => exact h
  | false => exact .nothing

/-- Opening a row gives and leaves one of these. -/
theorem opens_of_openRow {sender : IdentityKey} {row : OlmRow}
    {result : Except PickleFault SessionRef}
    (h : vault.openRow sender row state = (result, after))
    : vault.Opens sender row state result after := by
  unfold openRow at h
  cases cached : state.cache.get? sender row.session with
  | some ref =>
    rw [cached] at h
    cases h
    exact .cached cached
  | none =>
    rw [cached] at h
    cases opens : Session.unpickle row.blob vault.key (timesOf row) with
    | error fault =>
      rw [opens] at h
      cases h
      exact .failed cached opens
    | ok session =>
      rw [opens] at h
      cases h
      exact .opened cached opens

/-- Opening a row leaves the tables and what is remembered. -/
theorem openRow_eq {sender : IdentityKey} {row : OlmRow} {result : Except PickleFault SessionRef}
    (h : vault.openRow sender row state = (result, after))
    : after = { state with shared := after.shared, cache := after.cache } := by
  cases opens_of_openRow h
  all_goals rfl

/-- What opening a row always relates is related by opening any number of rows, if it goes on
from opening to opening, by induction over the rows.
-/
theorem openRows_related {sender : IdentityKey} {R : State → State → Prop}
    (refl : ∀ state, R state state)
    (trans : ∀ {first second third}, R first second → R second third → R first third)
    (each
      : ∀ {row state result after},
          vault.openRow sender row state = (result, after) → R state after)
    {rows : List OlmRow} {result : Except PickleFault (List SessionRef)}
    (opens : vault.openRows sender rows state = (result, after))
    : R state after := by
  induction rows generalizing state result with
  | nil =>
    cases opens
    exact refl _
  | cons row rows ih =>
    unfold openRows at opens
    rcases first : vault.openRow sender row state with ⟨fault | ref, middle⟩
    · rw [first] at opens
      cases opens
      exact each first
    · rw [first] at opens
      rcases rest : vault.openRows sender rows middle with ⟨fault | refs, last⟩
      all_goals
        simp only [rest] at opens
        cases opens
        exact trans (each first) (ih rest)

/-- Opening any number of rows leaves the tables and what is remembered. -/
theorem openRows_eq {sender : IdentityKey} {rows : List OlmRow}
    {result : Except PickleFault (List SessionRef)}
    (h : vault.openRows sender rows state = (result, after))
    : after = { state with shared := after.shared, cache := after.cache } := by
  refine openRows_related
    (R := fun before after => after = { before with shared := after.shared, cache := after.cache })
    (fun _ => rfl) ?_ openRow_eq h
  intro first second third before after
  rw [after, before]

/-- Reporting opened rows leaves what opening them left. -/
theorem opened_state (result : Except PickleFault α × State)
    : (opened result).state = result.2 := by
  obtain ⟨value | fault, state⟩ := result <;> rfl

/-- A read of stored values leaves the state. -/
theorem known_state (state : State) (value : Except UnknownValue α)
    : (known state value).state = state := by
  cases value <;> rfl

end Outcomes

-----------------------------------------------------------------------------------------
-- Operations that only read
-----------------------------------------------------------------------------------------

section Reads

variable (vault : Vault) (state : State)

theorem hasSession_state (sender : IdentityKey)
    : (vault.hasSession sender state).state = state := by
  unfold hasSession
  split
  · rfl
  · split <;> rfl

theorem getGroupSession_state (room : RoomId) (sender : IdentityKey) (id : SessionId)
    : (vault.getGroupSession room sender id state).state = state := by
  unfold getGroupSession
  split
  · split
    · rfl
    · dsimp only
      split <;> rfl
  · rfl

theorem hasGroupSession_state (room : RoomId) (sender : IdentityKey) (id : SessionId)
    : (vault.hasGroupSession room sender id state).state = state := by
  unfold hasGroupSession
  split <;> rfl

theorem getOutbound_state (room : RoomId) : (vault.getOutbound room state).state = state := by
  unfold getOutbound
  split
  · split
    · rfl
    · split
      · rfl
      · split <;> rfl
  · rfl

theorem getDevices_state (user : UserId) : (vault.getDevices user state).state = state := by
  unfold getDevices
  split
  · split
    · split
      · exact known_state ..
      · rfl
    · rfl
  · rfl

theorem getDevice_state (user : UserId) (device : DeviceId)
    : (vault.getDevice user device state).state = state := by
  unfold getDevice
  split
  · split
    · rfl
    · exact known_state ..
  · rfl

theorem findDeviceByKey_state (user : UserId) (key : IdentityKey)
    : (vault.findDeviceByKey user key state).state = state := by
  unfold findDeviceByKey
  split
  · split
    · rfl
    · exact known_state ..
  · rfl

theorem filterTracked_state (users : List UserId)
    : (vault.filterTracked users state).state = state := by
  rcases vault.filterTracked_cases users state with ⟨_, done⟩ | ⟨_, failed⟩
  · rw [done]
    rfl
  · rw [failed]
    rfl

theorem getCrossSigningKeys_state (user : UserId)
    : (vault.getCrossSigningKeys user state).state = state := by
  unfold getCrossSigningKeys
  split
  · split <;> rfl
  · rfl

theorem isKeySignedBy_state (target signer : Signer)
    : (vault.isKeySignedBy target signer state).state = state := by
  unfold isKeySignedBy
  split <;> rfl

end Reads

-----------------------------------------------------------------------------------------
-- Every operation has the effect of its kind
-----------------------------------------------------------------------------------------

section Effects

variable (vault : Vault) (nonce : Aead.Nonce) (state : State)

theorem getNextBatch_effect
    : vault.Effect nonce state .getNextBatch (vault.getNextBatch state).state := by
  unfold getNextBatch
  cases state.memory.syncToken with
  | some token => exact .nothing
  | none => exact .reaching .getNextBatch

/-- The position is remembered before the database is asked. -/
theorem putNextBatch_effect (token : SyncToken)
    : vault.Effect nonce state (.putNextBatch token) (vault.putNextBatch token state).state := by
  unfold putNextBatch
  cases vault.online with
  | true => exact .putNextBatch
  | false => exact .rememberNextBatch

theorem getAccount_effect
    : vault.Effect nonce state .getAccount (vault.getAccount state).state := by
  unfold getAccount
  cases state.memory.account with
  | some account => exact .nothing
  | none =>
    cases vault.online with
    | false => exact .nothing
    | true =>
      cases state.database.account? vault.owner with
      | none => exact .nothing
      | some row =>
        dsimp only
        cases Account.unpickle row.blob vault.key row.shared with
        | error fault => exact .nothing
        | ok account => exact .getAccount

/-- The account is remembered before the database is asked. -/
theorem putAccount_effect (account : Account)
    : vault.Effect nonce state (.putAccount account)
        (vault.putAccount nonce account state).state := by
  unfold putAccount
  cases vault.online with
  | true => exact .putAccount
  | false => exact .rememberAccount

/-- Opening rows leaves the tables, also when it stops at a row that does not open. -/
theorem getSessions_effect (sender : IdentityKey)
    : vault.Effect nonce state (.getSessions sender) (vault.getSessions sender state).state := by
  unfold getSessions
  cases vault.online with
  | false => exact .nothing
  | true =>
    rw [if_pos rfl, opened_state, openRows_eq rfl]
    exact .getSessions rfl

theorem getLatestSession_effect (sender : IdentityKey)
    : vault.Effect nonce state (.getLatestSession sender)
        (vault.getLatestSession sender state).state := by
  unfold getLatestSession
  cases vault.online with
  | false => exact .nothing
  | true =>
    cases newest : state.database.olmSessions vault.owner sender with
    | nil => exact .nothing
    | cons row older =>
      rcases opens : vault.openRow sender row state with ⟨result, after⟩
      simp only [if_true, opens, opened_state]
      rw [openRow_eq opens]
      exact .getLatestSession newest opens

theorem addSession_effect (sender : IdentityKey) (session : Session)
    : vault.Effect nonce state (.addSession sender session)
        (vault.addSession nonce sender session state).state := by
  unfold addSession
  cases vault.online with
  | false => exact .nothing
  | true =>
    cases inserted : state.database.insertOlm (vault.rowOfSession nonce sender session) with
    | error fault => exact .nothing
    | ok database =>
      obtain ⟨absent, rfl⟩ := Database.insertOlm_eq_ok inserted
      exact .addSession absent

theorem updateSession_effect (sender : IdentityKey) (ref : SessionRef)
    : vault.Effect nonce state (.updateSession sender ref)
        (vault.updateSession nonce sender ref state).state := by
  unfold updateSession
  cases met : state.shared.get? ref with
  | none => exact .nothing
  | some session => exact .reaching (.updateSession met)

theorem putGroupSession_effect (room : RoomId) (sender : IdentityKey) (id : SessionId)
    (session : InboundSession)
    : vault.Effect nonce state (.putGroupSession room sender id session)
        (vault.putGroupSession nonce room sender id session state).state := by
  unfold putGroupSession
  cases vault.online with
  | false => exact .nothing
  | true =>
    cases inserted
        : state.database.insertInbound (vault.rowOfInbound nonce room sender id session) with
    | error fault => exact .nothing
    | ok database =>
      obtain ⟨absent, rfl⟩ := Database.insertInbound_eq_ok inserted
      exact .putGroupSession absent

theorem addOutbound_effect (session : OutboundSession)
    : vault.Effect nonce state (.addOutbound session)
        (vault.addOutbound nonce session state).state := by
  unfold addOutbound
  cases encoded : encodeAge vault.scheme session.facts.maxAge with
  | error fault => exact .nothing
  | ok maxAge => exact .reaching (.addOutbound encoded)

theorem updateOutbound_effect (session : OutboundSession)
    : vault.Effect nonce state (.updateOutbound session)
        (vault.updateOutbound nonce session state).state := by
  unfold updateOutbound
  cases vault.online with
  | false => exact .nothing
  | true =>
    cases state.database.outbound.any
        (Database.isOutbound vault.owner session.facts.room session.id) with
    | true => exact .updateOutbound
    | false => exact .nothing

/-- The rooms whose sessions are removed are the first ones, all of them unless the database is
lost.
-/
theorem removeOutbounds_effect (rooms : List RoomId)
    : vault.Effect nonce state (.removeOutbounds rooms)
        (vault.removeOutbounds rooms state).state := by
  have first := vault.roomsReached_prefix rooms
  rcases vault.removeOutbounds_cases rooms state with ⟨_, done⟩ | ⟨_, failed⟩
  · rw [done]
    exact .removeOutbounds first
  · rw [failed]
    exact .removeOutbounds first

theorem validate_effect (pin : Pin)
    : vault.Effect nonce state (.validate pin) (vault.validate pin state).state := by
  unfold validate
  cases vault.online with
  | false => exact .nothing
  | true =>
    cases unpinned : state.database.pin? pin.sender pin.session pin.index with
    | none =>
      cases vault.reaches 1 with
      | true => exact .validate unpinned
      | false => exact .nothing
    | some pinned =>
      rw [if_pos rfl]
      dsimp only
      split <;> exact .nothing

theorem putCrossSigningKey_effect (user : UserId) (usage : Usage) (key : SigningKey)
    : vault.Effect nonce state (.putCrossSigningKey user usage key)
        (vault.putCrossSigningKey user usage key state).state := by
  unfold putCrossSigningKey
  cases vault.online with
  | true => exact .putCrossSigningKey
  | false => exact .nothing

theorem putSignature_effect (target signer : Signer) (signature : String)
    : vault.Effect nonce state (.putSignature target signer signature)
        (vault.putSignature target signer signature state).state := by
  unfold putSignature
  cases vault.online with
  | true => exact .putSignature
  | false => exact .nothing

theorem dropSignatures_effect (signer : Signer)
    : vault.Effect nonce state (.dropSignatures signer)
        (vault.dropSignatures signer state).state := by
  unfold dropSignatures
  cases vault.online with
  | true => exact .dropSignatures
  | false => exact .nothing

/-- Every operation leaves what its kind admits, by going through the operations. -/
theorem perform_effect (operation : Operation)
    : vault.Effect nonce state operation (vault.perform nonce operation state).state := by
  cases operation <;> simp only [perform, Outcome.answering]
  case delete => exact .reaching .delete
  case getDeviceId => exact .reaching .getDeviceId
  case putDeviceId => exact .reaching .putDeviceId
  case getNextBatch => exact getNextBatch_effect ..
  case putNextBatch => exact putNextBatch_effect ..
  case getAccount => exact getAccount_effect ..
  case putAccount => exact putAccount_effect ..
  case hasSession => exact hasSession_state .. ▸ .nothing
  case getSessions => exact getSessions_effect ..
  case getLatestSession => exact getLatestSession_effect ..
  case addSession => exact addSession_effect ..
  case updateSession => exact updateSession_effect ..
  case putGroupSession => exact putGroupSession_effect ..
  case getGroupSession => exact getGroupSession_state .. ▸ .nothing
  case hasGroupSession => exact hasGroupSession_state .. ▸ .nothing
  case addOutbound => exact addOutbound_effect ..
  case updateOutbound => exact updateOutbound_effect ..
  case getOutbound => exact getOutbound_state .. ▸ .nothing
  case removeOutbound => exact .reaching .removeOutbound
  case removeOutbounds => exact removeOutbounds_effect ..
  case validate => exact validate_effect ..
  case putDevices =>
    simp only [putDevices, Database.replaceDevices_eq]
    exact .reaching .putDevices
  case getDevices => exact getDevices_state .. ▸ .nothing
  case getDevice => exact getDevice_state .. ▸ .nothing
  case findDeviceByKey => exact findDeviceByKey_state .. ▸ .nothing
  case filterTracked => exact filterTracked_state .. ▸ .nothing
  case putCrossSigningKey => exact putCrossSigningKey_effect ..
  case getCrossSigningKeys => exact getCrossSigningKeys_state .. ▸ .nothing
  case putSignature => exact putSignature_effect ..
  case isKeySignedBy => exact isKeySignedBy_state .. ▸ .nothing
  case dropSignatures => exact dropSignatures_effect ..

end Effects

end KeyVault.Vault
