import KeyVault.Proofs.Outbound.Book
import KeyVault.Proofs.Pickle.RoundTrip
/-!
The rows of outbound sessions. No two rows have one account and one room, so that a row is
found by them; a row that was written from a session is read back as that session.
-/

namespace KeyVault

-----------------------------------------------------------------------------------------
-- No two rows of one room
-----------------------------------------------------------------------------------------

/-- The account and the room of a row, which identify it. -/
def OutboundRow.place (row : OutboundRow) : AccountId × RoomId :=
  (row.owner, row.room)

/-- No two outbound rows have one account and one room. -/
def Database.OutboundUnique (db : Database) : Prop :=
  (db.outbound.map OutboundRow.place).Nodup

/-- No operation gives two outbound rows one account and one room. -/
theorem Vault.Effect.outboundUnique {vault : Vault} {nonce : Aead.Nonce} {state after : State}
    {operation : Operation} (effect : vault.Effect nonce state operation after)
    (unique : state.database.OutboundUnique)
    : after.database.OutboundUnique := by
  cases effect
  case delete => exact Rows.nodup_map_remove _ unique
  case addOutbound session maxAge encoded =>
    refine Rows.nodup_map_upsert ?_ ?_ unique
    · intro old met
      obtain ⟨owned, same⟩ := of_decide_eq_true met
      exact Prod.ext owned.symm same.symm
    · intro old same
      obtain ⟨owned, same⟩ := Prod.mk.inj same
      exact decide_eq_true ⟨owned, same⟩
  case updateOutbound session =>
    -- Amending rows leaves their accounts and rooms.
    unfold Database.OutboundUnique
    simp only [Database.updateOutbound]
    rw [Rows.map_amend]
    · exact unique
    · intro row _
      rfl
  case removeOutbound => exact Rows.nodup_map_remove _ unique
  case removeOutbounds => exact Rows.nodup_map_remove _ unique
  all_goals exact unique

namespace Database

variable {db : Database} {owner : AccountId} {room : RoomId} {row : OutboundRow}

/-- The row that is found for a room is a row of the room. -/
theorem of_outbound? (there : db.outbound? owner room = some row)
    : row ∈ db.outbound ∧ row.owner = owner ∧ row.room = room := by
  unfold outbound? at there
  have found := List.find?_some there
  obtain ⟨same, owned⟩ := of_decide_eq_true found
  exact ⟨List.mem_of_find?_eq_some there, owned, same⟩

/-- Every row is found by its account and its room. -/
theorem outbound?_of_mem (unique : db.OutboundUnique) (member : row ∈ db.outbound)
    : db.outbound? row.owner row.room = some row := by
  cases found : db.outbound? row.owner row.room with
  | none =>
    have absent := List.find?_eq_none.mp found row member
    simp at absent
  | some other =>
    obtain ⟨there, owned, same⟩ := of_outbound? found
    exact congrArg some (List.inj_on_of_nodup_map unique there member (Prod.ext owned same))

/-- A room has a certain session as its current one when the row of the room is of it. -/
theorem any_isOutbound (unique : db.OutboundUnique) (owner : AccountId) (room : RoomId)
    (session : SessionId)
    : db.outbound.any (isOutbound owner room session)
      = (db.outbound? owner room).any fun row => row.session = session := by
  rw [Bool.eq_iff_iff, List.any_eq_true, Option.any_eq_true]
  constructor
  · rintro ⟨row, member, current⟩
    obtain ⟨rfl, same, rfl⟩ := of_decide_eq_true current
    exact ⟨row, outbound?_of_mem unique member, decide_eq_true same⟩
  · rintro ⟨row, there, same⟩
    obtain ⟨member, owned, here⟩ := of_outbound? there
    exact ⟨row, member, decide_eq_true ⟨here, of_decide_eq_true same, owned⟩⟩

/-- The rows of some rooms are as many as the different rooms among them that have one. -/
theorem countP_isOutboundIn (unique : db.OutboundUnique) (owner : AccountId)
    (rooms : List RoomId)
    : db.outbound.countP (isOutboundIn owner rooms)
      = rooms.dedup.countP fun room => (db.outbound? owner room).isSome := by
  have chosen {row : OutboundRow} (member : row ∈ db.outbound.filter (isOutboundIn owner rooms))
      : row ∈ db.outbound ∧ row.owner = owner ∧ row.room ∈ rooms := by
    obtain ⟨there, among⟩ := List.mem_filter.mp member
    exact ⟨there, of_decide_eq_true among⟩
  -- The chosen rows are of one account, so that they differ in their rooms.
  have places
      : (db.outbound.filter (isOutboundIn owner rooms)).map OutboundRow.place
        = ((db.outbound.filter (isOutboundIn owner rooms)).map OutboundRow.room).map
            fun room => (owner, room) := by
    rw [List.map_map]
    apply List.map_congr_left
    intro row member
    exact Prod.ext (chosen member).2.1 rfl
  have distinct : ((db.outbound.filter (isOutboundIn owner rooms)).map OutboundRow.room).Nodup := by
    apply List.Nodup.of_map fun room => (owner, room)
    rw [← places]
    exact unique.sublist (List.filter_sublist.map _)
  have same
      : ((db.outbound.filter (isOutboundIn owner rooms)).map OutboundRow.room).Perm
          (rooms.dedup.filter fun room => (db.outbound? owner room).isSome) := by
    refine (List.perm_ext_iff_of_nodup distinct (rooms.nodup_dedup.filter _)).mpr ?_
    intro room
    rw [List.mem_map, List.mem_filter, List.mem_dedup, Option.isSome_iff_exists]
    constructor
    · rintro ⟨row, member, rfl⟩
      obtain ⟨there, rfl, among⟩ := chosen member
      exact ⟨among, row, outbound?_of_mem unique there⟩
    · rintro ⟨among, row, found⟩
      obtain ⟨there, owned, rfl⟩ := of_outbound? found
      exact ⟨row, List.mem_filter.mpr ⟨there, decide_eq_true ⟨owned, among⟩⟩, rfl⟩
  rw [List.countP_eq_length_filter, List.countP_eq_length_filter, ← same.length_eq,
    List.length_map]

-----------------------------------------------------------------------------------------
-- What statements do to the row that is found for a room
-----------------------------------------------------------------------------------------

/-- A row that is stored is found for its room, and other rooms keep theirs. -/
theorem outbound?_upsertOutbound (db : Database) (row : OutboundRow) (owner : AccountId)
    (room : RoomId)
    : (db.upsertOutbound row).outbound? owner room
      = if owner = row.owner ∧ room = row.room then some row else db.outbound? owner room := by
  unfold outbound? upsertOutbound
  by_cases same : owner = row.owner ∧ room = row.room
  · rw [if_pos same]
    obtain ⟨rfl, rfl⟩ := same
    have turned
        : (fun old : OutboundRow => decide (old.room = row.room ∧ old.owner = row.owner))
          = fun old => decide (old.owner = row.owner ∧ old.room = row.room) := by
      funext old
      simp only [and_comm]
    rw [turned]
    exact Rows.find?_upsert_self (by simp) db.outbound
  · rw [if_neg same]
    apply Rows.find?_upsert_self_of_apart
    · intro old found
      obtain ⟨rfl, rfl⟩ := of_decide_eq_true found
      exact decide_eq_false same
    · apply decide_eq_false
      rintro ⟨rfl, rfl⟩
      exact same ⟨rfl, rfl⟩

/-- Writing the use of a session changes the row of its room if that is of the session. -/
theorem outbound?_updateOutbound (db : Database) (owner other : AccountId)
    (room place : RoomId)
    (session : SessionId) (blob : Blob) (messageCount : Int64) (used : Instant)
    : (db.updateOutbound owner room session blob messageCount used).outbound? other place
      = (db.outbound? other place).map fun row =>
          if isOutbound owner room session row then { row with blob, messageCount, used }
          else row := by
  unfold outbound? updateOutbound
  refine Rows.find?_amend ?_ db.outbound
  intro row
  rfl

/-- Removing the sessions of some rooms leaves those of other rooms and accounts. -/
theorem outbound?_remove (db : Database) (owner other : AccountId) (rooms : List RoomId)
    (room : RoomId)
    : { db with outbound := Rows.remove (isOutboundIn owner rooms) db.outbound }.outbound?
          other room
      = if other = owner ∧ room ∈ rooms then none else db.outbound? other room := by
  unfold outbound?
  by_cases gone : other = owner ∧ room ∈ rooms
  · rw [if_pos gone]
    apply Rows.find?_remove_of_met
    intro row found
    obtain ⟨rfl, rfl⟩ := of_decide_eq_true found
    exact decide_eq_true gone
  · rw [if_neg gone]
    apply Rows.find?_remove_of_apart
    intro row found
    obtain ⟨rfl, rfl⟩ := of_decide_eq_true found
    exact decide_eq_false gone

/-- Deleting an account removes the sessions of all its rooms and of no other account. -/
theorem outbound?_wipe (db : Database) (owner other : AccountId) (room : RoomId)
    : (db.wipe owner).outbound? other room
      = if other = owner then none else db.outbound? other room := by
  unfold outbound? wipe
  by_cases same : other = owner
  · rw [if_pos same]
    apply Rows.find?_remove_of_met
    intro row found
    obtain ⟨_, owned⟩ := of_decide_eq_true found
    exact decide_eq_true (owned.trans same)
  · rw [if_neg same]
    apply Rows.find?_remove_of_apart
    intro row found
    obtain ⟨_, rfl⟩ := of_decide_eq_true found
    exact decide_eq_false same

end Database

-----------------------------------------------------------------------------------------
-- Rows that hold sessions
-----------------------------------------------------------------------------------------

/-- A count is read back from its column. -/
theorem Vault.decodeCount_encodeCount (column : CountColumn) (count : UInt32)
    : decodeCount column (encodeCount count) = .ok count := by
  have small := count.toNat_lt
  have read : (encodeCount count).toInt = count.toNat :=
    Int64.toInt_ofNat_of_lt (by omega)
  have fits : 0 ≤ (count.toNat : Int) ∧ (count.toNat : Int) < UInt32.size := by
    simp only [UInt32.size]
    omega
  simp only [decodeCount, read, fits, and_self, if_true, Int.toNat_natCast, UInt32.ofNat_toNat]

/-- A row that holds a session: its columns are read as what the session keeps beside its
pickle, and its pickle opens to the rest.
-/
structure OutboundRow.Holds (key : PickleKey) (row : OutboundRow) (held : OutboundSession)
    : Prop where
  session : row.session = held.id
  facts : Vault.outboundFacts row = .ok held.facts
  opens : ∀ facts, OutboundSession.unpickle row.blob key facts = .ok { held with facts }

namespace OutboundRow.Holds

variable {key : PickleKey} {row : OutboundRow} {current : OutboundSession}

/-- The row of a session holds it, when its greatest age is read back from its column. -/
theorem rowOfOutbound (vault : Vault) (nonce : Aead.Nonce) {session : OutboundSession}
    {maxAge : Int64} (read : Interval.decodeMicros maxAge = session.facts.maxAge)
    : (vault.rowOfOutbound nonce session maxAge).Holds vault.key session where
  session := rfl
  facts := by
    simp only [Vault.outboundFacts, Vault.rowOfOutbound, Vault.decodeCount_encodeCount, read]
    rfl
  opens facts := session.unpickle_pickle vault.key nonce facts

/-- A row in which the use of a session of its identifier is written holds what it held, with
that use.
-/
theorem withUse (holds : row.Holds key current) {session : OutboundSession}
    (same : current.id = session.id) (nonce : Aead.Nonce)
    : { row with
        blob := session.pickle key nonce
        messageCount := Vault.encodeCount session.facts.messageCount
        used := session.facts.used : OutboundRow }.Holds key (current.withUse session) where
  session := holds.session
  facts := by
    have facts := holds.facts
    simp only [Vault.outboundFacts, bind, Except.bind] at facts ⊢
    cases limit : Vault.decodeCount .maxMessages row.maxMessages with
    | error fault =>
      rw [limit] at facts
      cases facts
    | ok maxMessages =>
      rw [limit] at facts
      cases count : Vault.decodeCount .messageCount row.messageCount with
      | error fault =>
        simp only [count] at facts
        cases facts
      | ok messageCount =>
        simp only [count] at facts
        have read := Except.ok.inj facts
        simp only [Vault.decodeCount_encodeCount, OutboundSession.withUse, ← read]
        rfl
  opens facts := by
    rw [session.unpickle_pickle key nonce facts]
    simp only [OutboundSession.withUse, same]

end OutboundRow.Holds

end KeyVault
