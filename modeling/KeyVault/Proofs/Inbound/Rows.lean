import KeyVault.Proofs.Deployment.Handles
import KeyVault.Proofs.Pickle.RoundTrip
import KeyVault.Proofs.Rows.Distinct
/-!
The rows of inbound sessions. Storing a session adds a row where its account has none with
the identifier, and nothing else writes the table; a row that was written from a session is
read back as that session.
-/

namespace KeyVault

/-- An inbound session with the room, the sender and the identifier that it is stored under,
which need not be its own.
-/
structure InboundFiling where
  room : RoomId
  sender : IdentityKey
  id : SessionId
  session : InboundSession
  deriving DecidableEq

/-- An operation that files an inbound session. -/
def Operation.FilesInbound (operation : Operation) : Prop :=
  ∃ filing : InboundFiling,
    operation = .putGroupSession filing.room filing.sender filing.id filing.session

/-- The session as it is read back: in the room and from the sender that it is stored under,
with its chain as the column of chains gives it back.
-/
def InboundFiling.reread (filing : InboundFiling) : InboundSession :=
  { filing.session with
    facts := { filing.session.facts with
      room := filing.room
      sender := filing.sender
      chain := Chain.split (Chain.join filing.session.facts.chain) } }

-----------------------------------------------------------------------------------------
-- Rows that hold sessions
-----------------------------------------------------------------------------------------

namespace InboundRow

/-- The account and the identifier of a row, which identify it. -/
def place (row : InboundRow) : AccountId × SessionId :=
  (row.owner, row.session)

/-- What is known of a session beside the pickle of its row. -/
def facts (row : InboundRow) : InboundFacts :=
  ⟨row.room, row.sender, row.signing, Chain.split row.chain⟩

/-- A row that holds a session where it is filed: it opens to the session as it is read back. -/
structure Holds (key : PickleKey) (row : InboundRow) (filing : InboundFiling) : Prop where
  room : row.room = filing.room
  sender : row.sender = filing.sender
  session : row.session = filing.id
  opens : InboundSession.unpickle row.blob key row.facts = .ok filing.reread

/-- The row that is written of a filed session holds it. -/
theorem Holds.rowOfInbound (vault : Vault) (nonce : Aead.Nonce) (filing : InboundFiling)
    : (vault.rowOfInbound nonce filing.room filing.sender filing.id filing.session).Holds vault.key
        filing where
  room := rfl
  sender := rfl
  session := rfl
  opens := filing.session.unpickle_pickle vault.key nonce _

end InboundRow

namespace Database

/-- No two inbound rows have one account and one identifier. -/
def InboundUnique (db : Database) : Prop :=
  (db.inbound.map InboundRow.place).Nodup

variable {db : Database} {owner : AccountId} {row : InboundRow}

/-- The row that is found is one of the account, with what was asked for. -/
theorem of_inbound? {room : RoomId} {sender : IdentityKey} {id : SessionId}
    (there : db.inbound? owner room sender id = some row)
    : row ∈ db.inbound ∧ row.owner = owner ∧ row.room = room ∧ row.sender = sender := by
  unfold inbound? at there
  have found := List.find?_some there
  obtain ⟨inRoom, sent, _, owned⟩ := of_decide_eq_true found
  exact ⟨List.mem_of_find?_eq_some there, owned, inRoom, sent⟩

/-- A row is found by its identifier in its own room and from its own sender, and nowhere
else.
-/
theorem inbound?_of_mem (unique : db.InboundUnique) (member : row ∈ db.inbound) (room : RoomId)
    (sender : IdentityKey)
    : db.inbound? row.owner room sender row.session
      = if room = row.room ∧ sender = row.sender then some row else none := by
  have only (other : InboundRow)
      (found
        : decide
            (other.room = room ∧ other.sender = sender ∧ other.session = row.session
              ∧ other.owner = row.owner)
          = true)
      : other.place = row.place := by
    obtain ⟨_, _, same, owned⟩ := of_decide_eq_true found
    exact Prod.ext owned same
  by_cases here : room = row.room ∧ sender = row.sender
  · obtain ⟨rfl, rfl⟩ := here
    rw [if_pos ⟨rfl, rfl⟩]
    exact Rows.find?_of_mem unique member (by simp) only
  · rw [if_neg here]
    apply List.find?_eq_none.mpr
    intro other there found
    -- Another row would have the account and the identifier of this one.
    cases List.inj_on_of_nodup_map unique there member (only other found)
    obtain ⟨inRoom, sent, _⟩ := of_decide_eq_true found
    exact here ⟨inRoom.symm, sent.symm⟩

/-- A row is refused when its account has one with its identifier. -/
theorem insertInbound_of_held
    (held : ∃ old ∈ db.inbound, old.owner = row.owner ∧ old.session = row.session)
    : db.insertInbound row = .error (.duplicateKey .inbound) := by
  obtain ⟨old, member, both⟩ := held
  rw [insertInbound, if_pos (List.any_eq_true.mpr ⟨old, member, decide_eq_true both⟩)]

/-- A row is added behind the others when its account has none with its identifier. -/
theorem insertInbound_of_absent
    (absent : ∀ old ∈ db.inbound, old.owner = row.owner → old.session ≠ row.session)
    : db.insertInbound row = .ok { db with inbound := db.inbound ++ [row] } := by
  rw [insertInbound, if_neg]
  intro met
  obtain ⟨old, member, both⟩ := List.any_eq_true.mp met
  obtain ⟨owned, same⟩ := of_decide_eq_true both
  exact absent old member owned same

end Database

-----------------------------------------------------------------------------------------
-- What calls answer and leave
-----------------------------------------------------------------------------------------

namespace Vault

variable {vault : Vault} {state : State} {room : RoomId} {sender : IdentityKey} {id : SessionId}

/-- A session is refused when its account has a row with the identifier, and nothing is
written.
-/
theorem perform_putGroupSession_of_held (nonce : Aead.Nonce) (online : vault.online = true)
    (held : ∃ row ∈ state.database.inbound, row.owner = vault.owner ∧ row.session = id)
    (session : InboundSession)
    : vault.perform nonce (.putGroupSession room sender id session) state
      = .failed (.database (.duplicateKey .inbound)) state := by
  have refused := @Database.insertInbound_of_held state.database
    (vault.rowOfInbound nonce room sender id session) held
  simp only [perform, putGroupSession, online, if_true, refused]
  rfl

/-- A session is stored when its account has no row with the identifier, behind the rows that
are there.
-/
theorem perform_putGroupSession_of_absent (nonce : Aead.Nonce) (online : vault.online = true)
    (absent : ∀ row ∈ state.database.inbound, row.owner = vault.owner → row.session ≠ id)
    (session : InboundSession)
    : vault.perform nonce (.putGroupSession room sender id session) state
      = .done .nothing
          { state with
            database := { state.database with
              inbound :=
                state.database.inbound ++ [vault.rowOfInbound nonce room sender id session] } } := by
  have inserted := @Database.insertInbound_of_absent state.database
    (vault.rowOfInbound nonce room sender id session) absent
  simp only [perform, putGroupSession, online, if_true, inserted]
  rfl

/-- Over a closed pool a session is refused. -/
theorem perform_putGroupSession_of_offline (nonce : Aead.Nonce) (offline : vault.online = false)
    (session : InboundSession)
    : vault.perform nonce (.putGroupSession room sender id session) state = vault.offline state := by
  simp [perform, putGroupSession, offline]

/-- Where a row is asked for that holds a session, the session is read back. -/
theorem perform_getGroupSession_of_holds (nonce : Aead.Nonce) (online : vault.online = true)
    {row : InboundRow} (found : state.database.inbound? vault.owner room sender id = some row)
    {filing : InboundFiling} (holds : row.Holds vault.key filing)
    : vault.perform nonce (.getGroupSession room sender id) state
      = .done (.inbound (some filing.reread)) state := by
  obtain ⟨_, _, rfl, rfl⟩ := Database.of_inbound? found
  have opens := holds.opens
  rw [InboundRow.facts] at opens
  simp [perform, getGroupSession, online, found, opens]

/-- Where no row is asked for, none is read. -/
theorem perform_getGroupSession_of_absent (nonce : Aead.Nonce) (online : vault.online = true)
    (absent : state.database.inbound? vault.owner room sender id = none)
    : vault.perform nonce (.getGroupSession room sender id) state
      = .done (.inbound none) state := by
  simp [perform, getGroupSession, online, absent]

/-- Whether a session is there is whether its row is found. -/
theorem perform_hasGroupSession (nonce : Aead.Nonce) (online : vault.online = true) (room : RoomId)
    (sender : IdentityKey) (id : SessionId)
    : vault.perform nonce (.hasGroupSession room sender id) state
      = .done (.flag (state.database.inbound? vault.owner room sender id).isSome) state := by
  simp [perform, hasGroupSession, online]

/-- No other operation touches the inbound sessions. -/
theorem Effect.inbound {nonce : Aead.Nonce} {after : State} {operation : Operation}
    (effect : vault.Effect nonce state operation after) (other : ¬ operation.FilesInbound)
    : after.database.inbound = state.database.inbound := by
  cases effect <;> first | rfl | exact absurd ⟨⟨_, _, _, _⟩, rfl⟩ other

end Vault

end KeyVault
