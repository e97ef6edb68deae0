import KeyVault.Proofs.Sealing.Tables
import KeyVault.Vault.Operation
/-!
Calls over tables that differ only in their pickles. Under either key every operation returns
and logs the same, finds no pickle that does not open, and leaves tables that differ only in
their pickles.
-/

namespace KeyVault

-----------------------------------------------------------------------------------------
-- States and outcomes that differ only in pickles
-----------------------------------------------------------------------------------------

/-- Two states whose tables differ only in their pickles, and that are equal otherwise. -/
inductive State.Alike (first second : PickleKey) (state : State) : State → Prop
  | intro {database : Database} (tables : state.database.Alike first second database)
    : Alike first second state { state with database }

/-- Two outcomes that are equal but for the pickles in the tables, and in which every pickle
opened.
-/
structure Outcome.Alike {α : Type} (first second : PickleKey) (outcome twin : Outcome α)
    : Prop where
  result : outcome.result = twin.result
  notices : outcome.notices = twin.notices
  opened : ∀ fault, outcome.result ≠ .error (.pickle fault)
  state : outcome.state.Alike first second twin.state

namespace Outcome.Alike

variable {α β : Type} {first second : PickleKey} {state other : State} {outcome twin : Outcome α}

theorem done (value : α) (alike : state.Alike first second other)
    : (Outcome.done value state).Alike first second (.done value other) where
  result := rfl
  notices := rfl
  opened _ := nofun
  state := alike

theorem failed {fault : StoreFault} (plain : ∀ pickle, fault ≠ .pickle pickle)
    (alike : state.Alike first second other)
    : (Outcome.failed fault state : Outcome α).Alike first second (.failed fault other) where
  result := rfl
  notices := rfl
  opened pickle same := plain pickle (Except.error.inj same)
  state := alike

/-- Calls that ask for the same are alike when they are alike for both answers. -/
theorem asking {answer likewise : Bool} {outcome' twin' : Outcome α} (same : answer = likewise)
    (met : outcome.Alike first second twin) (unmet : outcome'.Alike first second twin')
    : Outcome.Alike first second (if answer then outcome else outcome')
        (if likewise then twin else twin') := by
  subst same
  split
  · exact met
  · exact unmet

/-- Calls that need the database are alike when they are alike where it can be reached. -/
theorem reaching {online : Bool} {fault : DatabaseFault} (alike : state.Alike first second other)
    (reached : outcome.Alike first second twin)
    : Outcome.Alike first second (if online then outcome else .failed (.database fault) state)
        (if online then twin else .failed (.database fault) other) :=
  .asking rfl reached (.failed (fun _ => nofun) alike)

theorem noting (alike : outcome.Alike first second twin) (notices : List Notice)
    : (outcome.noting notices).Alike first second (twin.noting notices) where
  result := alike.result
  notices := congrArg (notices ++ ·) alike.notices
  opened := alike.opened
  state := alike.state

theorem answering (alike : outcome.Alike first second twin) (answer : α → Answer)
    : (outcome.answering answer).Alike first second (twin.answering answer) where
  result := congrArg (Except.map answer) alike.result
  notices := alike.notices
  opened fault same := by
    cases result : outcome.result with
    | ok value =>
      simp only [Outcome.answering, result, Except.map, reduceCtorEq] at same
    | error other =>
      simp only [Outcome.answering, result, Except.map, Except.error.injEq] at same
      exact alike.opened fault (same ▸ result)
  state := alike.state

end Outcome.Alike

-----------------------------------------------------------------------------------------
-- Pickles that open under either key
-----------------------------------------------------------------------------------------

section Pickles

variable {first second : PickleKey}

theorem Account.unpickle_alike {row twin : AccountRow}
    (alike : AccountRow.pickles.Alike first second row twin) (shared : Bool)
    : ∃ account,
        Account.unpickle row.blob first shared = .ok account
        ∧ Account.unpickle twin.blob second shared = .ok account :=
  alike.unpickled _

theorem Session.unpickle_alike {row twin : OlmRow}
    (alike : OlmRow.pickles.Alike first second row twin) (times : SessionTimes)
    : ∃ session,
        Session.unpickle row.blob first times = .ok session
        ∧ Session.unpickle twin.blob second times = .ok session :=
  alike.unpickled _

theorem InboundSession.unpickle_alike {row twin : InboundRow}
    (alike : InboundRow.pickles.Alike first second row twin) (facts : InboundFacts)
    : ∃ session,
        InboundSession.unpickle row.blob first facts = .ok session
        ∧ InboundSession.unpickle twin.blob second facts = .ok session :=
  alike.unpickled _

theorem OutboundSession.unpickle_alike {row twin : OutboundRow}
    (alike : OutboundRow.pickles.Alike first second row twin) (facts : OutboundFacts)
    : ∃ session,
        OutboundSession.unpickle row.blob first facts = .ok session
        ∧ OutboundSession.unpickle twin.blob second facts = .ok session :=
  alike.unpickled _

end Pickles

/-- A vault with another key. -/
def Vault.under (vault : Vault) (key : PickleKey) : Vault :=
  { vault with key }

namespace Vault

/-- Columns out of range are no fault of a pickle. -/
theorem plain_of_outboundFacts {row : OutboundRow} {fault : StoreFault}
    (refused : outboundFacts row = .error fault) (pickle : PickleFault)
    : fault ≠ .pickle pickle := by
  rintro rfl
  have judged (column : CountColumn) (value : Int64)
      : decodeCount column value ≠ .error (.pickle pickle) := by
    unfold decodeCount
    split <;> nofun
  cases limit : decodeCount .maxMessages row.maxMessages with
  | error fault =>
    simp only [outboundFacts, limit, bind, Except.bind] at refused
    cases refused
    exact judged _ _ limit
  | ok maxMessages =>
    cases count : decodeCount .messageCount row.messageCount with
    | error fault =>
      simp only [outboundFacts, limit, count, bind, Except.bind] at refused
      cases refused
      exact judged _ _ count
    | ok messageCount =>
      simp only [outboundFacts, limit, count, bind, Except.bind, pure, Except.pure,
        reduceCtorEq] at refused

variable {first second : PickleKey} {state other : State}
variable (vault : Vault) (nonce draw : Aead.Nonce) (alike : state.Alike first second other)
include alike

/-- Calls that ask for the same pieces are alike when every statement answers the same and leaves
tables that are alike, by induction over the pieces.
-/
theorem inPieces_alike {α β : Type} {ask : β → List α → Database → β × Database}
    (asked
      : ∀ value piece {db twin : Database},
          db.Alike first second twin
          → (ask value piece db).1 = (ask value piece twin).1
            ∧ (ask value piece db).2.Alike first second (ask value piece twin).2)
    (number : Nat) (pieces : List (List α)) (value : β)
    : ((vault.under first).inPieces ask number pieces value state).Alike first second
        ((vault.under second).inPieces ask number pieces value other) := by
  induction pieces generalizing number value state other with
  | nil => exact .done value alike
  | cons piece pieces ih =>
    obtain ⟨tables⟩ := alike
    obtain ⟨same, left⟩ := asked value piece tables
    refine .reaching (.intro tables) ?_
    dsimp only
    rw [same]
    exact ih (.intro left) (number + 1) _

-----------------------------------------------------------------------------------------
-- The account's row
-----------------------------------------------------------------------------------------

/-- A text of the account's row is read the same from both tables. -/
theorem bind_account? {α : Type} (read : AccountRow → Option α)
    (unsealed : ∀ row blob, read { row with blob } = read row)
    : (other.database.account? vault.owner).bind read
      = (state.database.account? vault.owner).bind read := by
  obtain ⟨tables⟩ := alike
  rcases PickleColumn.found_cases (tables.account? vault.owner) with
    ⟨here, there⟩ | ⟨row, twin, here, there, rows⟩
  · rw [here, there]
  · obtain ⟨_, _⟩ := rows
    rw [here, there]
    exact unsealed row _

theorem delete_alike
    : ((vault.under first).delete state).Alike first second
        ((vault.under second).delete other) := by
  obtain ⟨tables⟩ := alike
  exact .reaching (.intro tables) (.done () (.intro (tables.wipe vault.owner)))

theorem getDeviceId_alike
    : ((vault.under first).getDeviceId state).Alike first second
        ((vault.under second).getDeviceId other) := by
  have stored := bind_account? vault alike (fun row => (nonempty row.device).map DeviceId.mk)
    (fun _ _ => rfl)
  obtain ⟨tables⟩ := alike
  refine .reaching (.intro tables) ?_
  dsimp only [under] at stored ⊢
  rw [stored]
  exact .done _ (.intro tables)

theorem putDeviceId_alike (device : DeviceId)
    : ((vault.under first).putDeviceId device state).Alike first second
        ((vault.under second).putDeviceId device other) := by
  obtain ⟨tables⟩ := alike
  exact .reaching (.intro tables) (.done () (.intro (tables.setDevice vault.owner device.text)))

theorem putNextBatch_alike (token : SyncToken)
    : ((vault.under first).putNextBatch token state).Alike first second
        ((vault.under second).putNextBatch token other) := by
  obtain ⟨tables⟩ := alike
  exact .reaching (.intro tables) (.done () (.intro (tables.setSyncToken vault.owner token.text)))

theorem getNextBatch_alike
    : ((vault.under first).getNextBatch state).Alike first second
        ((vault.under second).getNextBatch other) := by
  have stored := bind_account? vault alike
    (fun row => (nonempty row.syncToken).map SyncToken.mk) (fun _ _ => rfl)
  obtain ⟨tables⟩ := alike
  simp only [getNextBatch]
  cases state.memory.syncToken with
  | some token => exact .done _ (.intro tables)
  | none =>
    refine .reaching (.intro tables) ?_
    dsimp only [under] at stored ⊢
    rw [stored]
    exact .done _ (.intro tables)

theorem putAccount_alike (account : Account)
    : ((vault.under first).putAccount nonce account state).Alike first second
        ((vault.under second).putAccount draw account other) := by
  obtain ⟨tables⟩ := alike
  exact .reaching (.intro tables) (.done () (.intro (tables.upsertAccount (.sealed rfl draw))))

theorem getAccount_alike
    : ((vault.under first).getAccount state).Alike first second
        ((vault.under second).getAccount other) := by
  obtain ⟨tables⟩ := alike
  simp only [getAccount]
  cases state.memory.account with
  | some account => exact .done _ (.intro tables)
  | none =>
    refine .reaching (.intro tables) ?_
    dsimp only [under]
    rcases PickleColumn.found_cases (tables.account? vault.owner) with
      ⟨here, there⟩ | ⟨row, twin, here, there, rows⟩
    · rw [here, there]
      exact .done none (.intro tables)
    · obtain ⟨account, opens, likewise⟩ := Account.unpickle_alike rows row.shared
      have columns : twin.shared = row.shared ∧ twin.device = row.device := by
        cases rows
        exact ⟨rfl, rfl⟩
      rw [here, there]
      dsimp only
      rw [columns.1, columns.2, opens, likewise]
      exact .done _ (.intro tables)

-----------------------------------------------------------------------------------------
-- One-to-one sessions
-----------------------------------------------------------------------------------------

theorem hasSession_alike (sender : IdentityKey)
    : ((vault.under first).hasSession sender state).Alike first second
        ((vault.under second).hasSession sender other) := by
  obtain ⟨tables⟩ := alike
  refine .asking rfl (.done true (.intro tables)) (.reaching (.intro tables) ?_)
  dsimp only [under]
  rw [tables.hasOlmSession]
  exact .done _ (.intro tables)

/-- Rows that are alike open to one shared session. -/
theorem openRow_alike (sender : IdentityKey) {row twin : OlmRow}
    (rows : OlmRow.pickles.Alike first second row twin)
    : ∃ ref after later,
        (vault.under first).openRow sender row state = (.ok ref, after)
        ∧ (vault.under second).openRow sender twin other = (.ok ref, later)
        ∧ after.Alike first second later := by
  obtain ⟨session, opens, likewise⟩ := Session.unpickle_alike rows (timesOf row)
  have columns : twin.session = row.session ∧ timesOf twin = timesOf row := by
    cases rows
    exact ⟨rfl, rfl⟩
  obtain ⟨tables⟩ := alike
  simp only [openRow, under, columns.1, columns.2, opens, likewise]
  cases state.cache.get? sender row.session with
  | some ref => exact ⟨ref, _, _, rfl, rfl, .intro tables⟩
  | none => exact ⟨_, _, _, rfl, rfl, .intro tables⟩

/-- Rows that are alike one by one open to the same shared sessions, by induction over them. -/
theorem openRows_alike (sender : IdentityKey) {rows twins : List OlmRow}
    (related : OlmRow.pickles.AlikeAll first second rows twins)
    : ∃ refs after later,
        (vault.under first).openRows sender rows state = (.ok refs, after)
        ∧ (vault.under second).openRows sender twins other = (.ok refs, later)
        ∧ after.Alike first second later := by
  induction related generalizing state other with
  | nil => exact ⟨[], state, other, rfl, rfl, alike⟩
  | cons here _ ih =>
    obtain ⟨ref, between, beside, opens, likewise, kept⟩ := openRow_alike vault alike sender here
    obtain ⟨refs, after, later, rest, restLikewise, left⟩ := ih kept
    refine ⟨ref :: refs, after, later, ?_, ?_, left⟩
    · simp only [openRows, opens, rest]
    · simp only [openRows, likewise, restLikewise]

theorem getSessions_alike (sender : IdentityKey)
    : ((vault.under first).getSessions sender state).Alike first second
        ((vault.under second).getSessions sender other) := by
  obtain ⟨refs, after, later, opens, likewise, left⟩ :
      ∃ refs after later,
        (vault.under first).openRows sender (state.database.olmSessions vault.owner sender) state
          = (.ok refs, after)
        ∧ (vault.under second).openRows sender (other.database.olmSessions vault.owner sender)
            other
          = (.ok refs, later)
        ∧ after.Alike first second later := by
    refine openRows_alike vault alike sender ?_
    obtain ⟨tables⟩ := alike
    exact tables.olmSessions vault.owner sender
  refine .reaching alike ?_
  dsimp only [under] at opens likewise ⊢
  rw [opens, likewise]
  exact .done refs left

theorem getLatestSession_alike (sender : IdentityKey)
    : ((vault.under first).getLatestSession sender state).Alike first second
        ((vault.under second).getLatestSession sender other) := by
  have related
      : OlmRow.pickles.AlikeAll first second (state.database.olmSessions vault.owner sender)
          (other.database.olmSessions vault.owner sender) := by
    obtain ⟨tables⟩ := alike
    exact tables.olmSessions vault.owner sender
  refine .reaching alike ?_
  dsimp only [under]
  generalize state.database.olmSessions vault.owner sender = rows at related ⊢
  generalize other.database.olmSessions vault.owner sender = twins at related ⊢
  cases related with
  | nil => exact .done none alike
  | cons here _ =>
    obtain ⟨ref, after, later, opens, likewise, left⟩ := openRow_alike vault alike sender here
    dsimp only [under] at opens likewise ⊢
    rw [opens, likewise]
    exact .done (some ref) left

theorem addSession_alike (sender : IdentityKey) (session : Session)
    : ((vault.under first).addSession nonce sender session state).Alike first second
        ((vault.under second).addSession draw sender session other) := by
  obtain ⟨tables⟩ := alike
  have new
      : OlmRow.pickles.Alike first second ((vault.under first).rowOfSession nonce sender session)
          ((vault.under second).rowOfSession draw sender session) :=
    .sealed rfl draw
  refine .noting (.reaching (.intro tables) ?_) _
  rcases tables.insertOlm new with ⟨here, there⟩ | ⟨after, later, here, there, left⟩
  · dsimp only
    rw [here, there]
    exact .failed (fun _ => nofun) (.intro tables)
  · dsimp only
    rw [here, there]
    exact .done _ (.intro left)

theorem updateSession_alike (sender : IdentityKey) (ref : SessionRef)
    : ((vault.under first).updateSession nonce sender ref state).Alike first second
        ((vault.under second).updateSession draw sender ref other) := by
  obtain ⟨tables⟩ := alike
  simp only [updateSession]
  cases state.shared.get? ref with
  | none => exact .done () (.intro tables)
  | some session =>
    exact .noting
      (.reaching (.intro tables)
        (.done () (.intro (tables.updateOlm vault.owner session nonce draw _ _)))) _

-----------------------------------------------------------------------------------------
-- Group sessions
-----------------------------------------------------------------------------------------

theorem putGroupSession_alike (room : RoomId) (sender : IdentityKey) (id : SessionId)
    (session : InboundSession)
    : ((vault.under first).putGroupSession nonce room sender id session state).Alike first second
        ((vault.under second).putGroupSession draw room sender id session other) := by
  obtain ⟨tables⟩ := alike
  have new
      : InboundRow.pickles.Alike first second
          ((vault.under first).rowOfInbound nonce room sender id session)
          ((vault.under second).rowOfInbound draw room sender id session) :=
    .sealed rfl draw
  refine .reaching (.intro tables) ?_
  rcases tables.insertInbound new with ⟨here, there⟩ | ⟨after, later, here, there, left⟩
  · dsimp only
    rw [here, there]
    exact .failed (fun _ => nofun) (.intro tables)
  · dsimp only
    rw [here, there]
    exact .done () (.intro left)

theorem getGroupSession_alike (room : RoomId) (sender : IdentityKey) (id : SessionId)
    : ((vault.under first).getGroupSession room sender id state).Alike first second
        ((vault.under second).getGroupSession room sender id other) := by
  obtain ⟨tables⟩ := alike
  refine .reaching (.intro tables) ?_
  dsimp only [under]
  rcases PickleColumn.found_cases (tables.inbound? vault.owner room sender id) with
    ⟨here, there⟩ | ⟨row, twin, here, there, rows⟩
  · rw [here, there]
    exact .done none (.intro tables)
  · obtain ⟨session, opens, likewise⟩ :=
      InboundSession.unpickle_alike rows ⟨room, sender, row.signing, Chain.split row.chain⟩
    have columns : twin.signing = row.signing ∧ twin.chain = row.chain := by
      cases rows
      exact ⟨rfl, rfl⟩
    rw [here, there]
    dsimp only
    rw [columns.1, columns.2, opens, likewise]
    exact .done _ (.intro tables)

theorem hasGroupSession_alike (room : RoomId) (sender : IdentityKey) (id : SessionId)
    : ((vault.under first).hasGroupSession room sender id state).Alike first second
        ((vault.under second).hasGroupSession room sender id other) := by
  obtain ⟨tables⟩ := alike
  refine .reaching (.intro tables) ?_
  dsimp only [under]
  rcases PickleColumn.found_cases (tables.inbound? vault.owner room sender id) with
    ⟨here, there⟩ | ⟨row, twin, here, there, _⟩
  · rw [here, there]
    exact .done false (.intro tables)
  · rw [here, there]
    exact .done true (.intro tables)

theorem addOutbound_alike (session : OutboundSession)
    : ((vault.under first).addOutbound nonce session state).Alike first second
        ((vault.under second).addOutbound draw session other) := by
  obtain ⟨tables⟩ := alike
  simp only [addOutbound, under]
  cases encodeAge vault.scheme session.facts.maxAge with
  | error fault => exact .failed (fun _ => nofun) (.intro tables)
  | ok maxAge =>
    exact .reaching (.intro tables) (.done () (.intro (tables.upsertOutbound (.sealed rfl draw))))

theorem updateOutbound_alike (session : OutboundSession)
    : ((vault.under first).updateOutbound nonce session state).Alike first second
        ((vault.under second).updateOutbound draw session other) := by
  obtain ⟨tables⟩ := alike
  refine .reaching (.intro tables) (.asking ?_ ?_ ?_)
  · exact tables.any_isOutbound vault.owner session.facts.room session.id
  · exact .done true (.intro (tables.updateOutbound vault.owner session nonce draw _ _))
  · exact .noting (.done false (.intro tables)) _

theorem getOutbound_alike (room : RoomId)
    : ((vault.under first).getOutbound room state).Alike first second
        ((vault.under second).getOutbound room other) := by
  obtain ⟨tables⟩ := alike
  refine .reaching (.intro tables) ?_
  dsimp only [under]
  rcases PickleColumn.found_cases (tables.outbound? vault.owner room) with
    ⟨here, there⟩ | ⟨row, twin, here, there, rows⟩
  · rw [here, there]
    exact .done none (.intro tables)
  · have columns : outboundFacts twin = outboundFacts row := by
      cases rows
      rfl
    rw [here, there]
    dsimp only
    rw [columns]
    cases read : outboundFacts row with
    | error fault => exact .failed (plain_of_outboundFacts read) (.intro tables)
    | ok facts =>
      obtain ⟨session, opens, likewise⟩ := OutboundSession.unpickle_alike rows facts
      dsimp only
      rw [opens, likewise]
      exact .done _ (.intro tables)

theorem removeOutbound_alike (room : RoomId)
    : ((vault.under first).removeOutbound room state).Alike first second
        ((vault.under second).removeOutbound room other) := by
  obtain ⟨tables⟩ := alike
  exact .reaching (.intro tables)
    (.done () (.intro (tables.removeOutbound vault.owner [room]).2))

theorem removeOutbounds_alike (rooms : List RoomId)
    : ((vault.under first).removeOutbounds rooms state).Alike first second
        ((vault.under second).removeOutbounds rooms other) := by
  refine .asking rfl (.done 0 alike) (inPieces_alike vault alike ?_ 0 _ 0)
  intro removed piece db twin tables
  obtain ⟨counted, left⟩ := tables.removeOutbound vault.owner piece
  exact ⟨congrArg (removed + ·) counted, left⟩

-----------------------------------------------------------------------------------------
-- Tables without pickles
-----------------------------------------------------------------------------------------

theorem validate_alike (pin : Pin)
    : ((vault.under first).validate pin state).Alike first second
        ((vault.under second).validate pin other) := by
  obtain ⟨tables⟩ := alike
  refine .reaching (.intro tables) ?_
  simp only [Database.pin?, tables.pins]
  split
  · exact .reaching (.intro tables) (.done true (.intro (tables.insertPin pin)))
  · split
    · exact .done true (.intro tables)
    · exact .noting (.done false (.intro tables)) _

theorem putDevices_alike (user : UserId) (devices : List (DeviceId × DeviceIdentity))
    : ((vault.under first).putDevices user devices state).Alike first second
        ((vault.under second).putDevices user devices other) := by
  obtain ⟨tables⟩ := alike
  exact .reaching (.intro tables) (.done () (.intro (tables.replaceDevices user _)))

omit vault in
theorem known_alike {α : Type} (value : Except UnknownValue α)
    : (known state value).Alike first second (known other value) := by
  cases value with
  | ok value => exact .done value alike
  | error value => exact .failed (fun _ => nofun) alike

theorem getDevices_alike (user : UserId)
    : ((vault.under first).getDevices user state).Alike first second
        ((vault.under second).getDevices user other) := by
  obtain ⟨tables⟩ := alike
  refine .reaching (.intro tables) (.asking ?_ ?_ (.done none (.intro tables)))
  · simp only [Database.isTracked, tables.tracked]
  · simp only [Database.devicesOf, tables.devices]
    exact .reaching (.intro tables) (known_alike (.intro tables) _)

theorem getDevice_alike (user : UserId) (device : DeviceId)
    : ((vault.under first).getDevice user device state).Alike first second
        ((vault.under second).getDevice user device other) := by
  obtain ⟨tables⟩ := alike
  refine .reaching (.intro tables) ?_
  simp only [Database.device?, tables.devices]
  split
  · exact .done none (.intro tables)
  · exact known_alike (.intro tables) _

theorem findDeviceByKey_alike (user : UserId) (key : IdentityKey)
    : ((vault.under first).findDeviceByKey user key state).Alike first second
        ((vault.under second).findDeviceByKey user key other) := by
  obtain ⟨tables⟩ := alike
  refine .reaching (.intro tables) ?_
  simp only [Database.deviceByKey?, tables.devices]
  split
  · exact .done none (.intro tables)
  · exact known_alike (.intro tables) _

theorem filterTracked_alike (users : List UserId)
    : ((vault.under first).filterTracked users state).Alike first second
        ((vault.under second).filterTracked users other) := by
  refine .asking rfl (.done [] alike) (inPieces_alike vault alike ?_ 0 _ [])
  intro found piece db twin tables
  refine ⟨?_, tables⟩
  simp only [findTracked, Database.trackedIn, tables.tracked]

theorem putCrossSigningKey_alike (user : UserId) (usage : Usage) (key : SigningKey)
    : ((vault.under first).putCrossSigningKey user usage key state).Alike first second
        ((vault.under second).putCrossSigningKey user usage key other) := by
  obtain ⟨tables⟩ := alike
  exact .asking rfl (.done () (.intro (tables.upsertKey _))) (.noting (.done () (.intro tables)) _)

theorem getCrossSigningKeys_alike (user : UserId)
    : ((vault.under first).getCrossSigningKeys user state).Alike first second
        ((vault.under second).getCrossSigningKeys user other) := by
  obtain ⟨tables⟩ := alike
  refine .reaching (.intro tables) ?_
  simp only [Database.keysOf, tables.keys]
  split
  · exact .done _ (.intro tables)
  · exact .failed (fun _ => nofun) (.intro tables)

theorem putSignature_alike (target signer : Signer) (signature : String)
    : ((vault.under first).putSignature target signer signature state).Alike first second
        ((vault.under second).putSignature target signer signature other) := by
  obtain ⟨tables⟩ := alike
  exact .asking rfl (.done () (.intro (tables.upsertSignature _)))
    (.noting (.done () (.intro tables)) _)

theorem isKeySignedBy_alike (target signer : Signer)
    : ((vault.under first).isKeySignedBy target signer state).Alike first second
        ((vault.under second).isKeySignedBy target signer other) := by
  obtain ⟨tables⟩ := alike
  refine .reaching (.intro tables) ?_
  simp only [Database.isSigned, tables.signatures]
  exact .done _ (.intro tables)

theorem dropSignatures_alike (signer : Signer)
    : ((vault.under first).dropSignatures signer state).Alike first second
        ((vault.under second).dropSignatures signer other) := by
  obtain ⟨tables⟩ := alike
  obtain ⟨counted, left⟩ := tables.removeSignatures signer
  refine .asking rfl ?_ (.noting (.done none (.intro tables)) _)
  dsimp only
  rw [counted]
  exact .done _ (.intro left)

-----------------------------------------------------------------------------------------
-- Every operation
-----------------------------------------------------------------------------------------

/-- Every operation returns and logs the same under either key and leaves tables that differ
only in their pickles, by going through the operations.
-/
theorem perform_alike (operation : Operation)
    : ((vault.under first).perform nonce operation state).Alike first second
        ((vault.under second).perform draw operation other) := by
  cases operation
  case delete => exact (delete_alike vault alike).answering _
  case getDeviceId => exact (getDeviceId_alike vault alike).answering _
  case putDeviceId device => exact (putDeviceId_alike vault alike device).answering _
  case getNextBatch => exact (getNextBatch_alike vault alike).answering _
  case putNextBatch token => exact (putNextBatch_alike vault alike token).answering _
  case getAccount => exact (getAccount_alike vault alike).answering _
  case putAccount account => exact (putAccount_alike vault nonce draw alike account).answering _
  case hasSession sender => exact (hasSession_alike vault alike sender).answering _
  case getSessions sender => exact (getSessions_alike vault alike sender).answering _
  case getLatestSession sender => exact (getLatestSession_alike vault alike sender).answering _
  case addSession sender session =>
    exact (addSession_alike vault nonce draw alike sender session).answering _
  case updateSession sender ref =>
    exact (updateSession_alike vault nonce draw alike sender ref).answering _
  case putGroupSession room sender id session =>
    exact (putGroupSession_alike vault nonce draw alike room sender id session).answering _
  case getGroupSession room sender id =>
    exact (getGroupSession_alike vault alike room sender id).answering _
  case hasGroupSession room sender id =>
    exact (hasGroupSession_alike vault alike room sender id).answering _
  case addOutbound session => exact (addOutbound_alike vault nonce draw alike session).answering _
  case updateOutbound session =>
    exact (updateOutbound_alike vault nonce draw alike session).answering _
  case getOutbound room => exact (getOutbound_alike vault alike room).answering _
  case removeOutbound room => exact (removeOutbound_alike vault alike room).answering _
  case removeOutbounds rooms => exact (removeOutbounds_alike vault alike rooms).answering _
  case validate pin => exact (validate_alike vault alike pin).answering _
  case putDevices user devices => exact (putDevices_alike vault alike user devices).answering _
  case getDevices user => exact (getDevices_alike vault alike user).answering _
  case getDevice user device => exact (getDevice_alike vault alike user device).answering _
  case findDeviceByKey user key => exact (findDeviceByKey_alike vault alike user key).answering _
  case filterTracked users => exact (filterTracked_alike vault alike users).answering _
  case putCrossSigningKey user usage key =>
    exact (putCrossSigningKey_alike vault alike user usage key).answering _
  case getCrossSigningKeys user => exact (getCrossSigningKeys_alike vault alike user).answering _
  case putSignature target signer signature =>
    exact (putSignature_alike vault alike target signer signature).answering _
  case isKeySignedBy target signer =>
    exact (isKeySignedBy_alike vault alike target signer).answering _
  case dropSignatures signer => exact (dropSignatures_alike vault alike signer).answering _

end Vault

end KeyVault
