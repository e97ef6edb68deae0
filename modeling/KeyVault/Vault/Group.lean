import KeyVault.Session.Chain
import KeyVault.Session.Group
import KeyVault.Vault.Basic
/-!
Group sessions. An inbound session is stored once for its identifier and never replaced. A
room has at most one outbound session, which is replaced, written after use, and removed.
-/

namespace KeyVault.Vault

def rowOfInbound (vault : Vault) (nonce : Aead.Nonce) (room : RoomId) (sender : IdentityKey)
    (id : SessionId)
    (session : InboundSession) : InboundRow :=
  { owner := vault.owner
    session := id
    sender
    signing := session.facts.signing
    room
    blob := session.pickle vault.key nonce
    chain := Chain.join session.facts.chain }

/-- Stores an inbound session under a room, a sender and an identifier, which need not be
the session's own.
-/
def putGroupSession (vault : Vault) (nonce : Aead.Nonce) (room : RoomId) (sender : IdentityKey)
    (id : SessionId) (session : InboundSession) (state : State) : Outcome Unit :=
  if vault.online then
    match state.database.insertInbound (vault.rowOfInbound nonce room sender id session) with
    | .error fault => .failed (.database fault) state
    | .ok database => .done () { state with database }
  else vault.offline state

def getGroupSession (vault : Vault) (room : RoomId) (sender : IdentityKey) (id : SessionId)
    (state : State) : Outcome (Option InboundSession) :=
  if vault.online then
    match state.database.inbound? vault.owner room sender id with
    | none => .done none state
    | some row =>
      let facts : InboundFacts := ⟨room, sender, row.signing, Chain.split row.chain⟩
      match InboundSession.unpickle row.blob vault.key facts with
      | .error fault => .failed (.pickle fault) state
      | .ok session => .done (some session) state
  else vault.offline state

def hasGroupSession (vault : Vault) (room : RoomId) (sender : IdentityKey) (id : SessionId)
    (state : State) : Outcome Bool :=
  if vault.online then .done (state.database.inbound? vault.owner room sender id).isSome state
  else vault.offline state

/-- The microseconds under which a family of databases stores the greatest age of a session. -/
def encodeAge : Scheme → Span → Except Interval.Fault Int64
  | .sqlite, age => Interval.encodeMicros age
  | .postgres, age => (Interval.encodeCalendar age).map CalendarInterval.micros

def encodeCount (count : UInt32) : Int64 :=
  Int64.ofNat count.toNat

def decodeCount (column : CountColumn) (value : Int64) : Except StoreFault UInt32 :=
  if 0 ≤ value.toInt ∧ value.toInt < UInt32.size then .ok (UInt32.ofNat value.toInt.toNat)
  else .error (.outOfRange column value)

/-- The row of an outbound session whose greatest age is given in microseconds. -/
def rowOfOutbound (vault : Vault) (nonce : Aead.Nonce) (session : OutboundSession)
    (maxAge : Int64)
    : OutboundRow :=
  { owner := vault.owner
    room := session.facts.room
    session := session.id
    blob := session.pickle vault.key nonce
    shared := session.facts.shared
    maxMessages := encodeCount session.facts.maxMessages
    messageCount := encodeCount session.facts.messageCount
    maxAge
    created := session.facts.created
    used := session.facts.used }

/-- Stores the outbound session of a room, in place of the one that is there. -/
def addOutbound (vault : Vault) (nonce : Aead.Nonce) (session : OutboundSession) (state : State)
    : Outcome Unit :=
  match encodeAge vault.scheme session.facts.maxAge with
  | .error fault => .failed (.interval fault) state
  | .ok maxAge =>
    if vault.online then
      .done ()
        { state with
          database := state.database.upsertOutbound (vault.rowOfOutbound nonce session maxAge) }
    else vault.offline state

/-- Writes the use of an outbound session; answers whether it is still the one of its room. -/
def updateOutbound (vault : Vault) (nonce : Aead.Nonce) (session : OutboundSession)
    (state : State)
    : Outcome Bool :=
  if vault.online then
    if state.database.outbound.any
        (Database.isOutbound vault.owner session.facts.room session.id) then
      .done true
        { state with
          database := state.database.updateOutbound vault.owner session.facts.room session.id
            (session.pickle vault.key nonce) (encodeCount session.facts.messageCount) session.facts.used }
    else (Outcome.done false state).noting [.outboundGone session.facts.room session.id]
  else vault.offline state

/-- What a row keeps beside the pickle of an outbound session. The limit is judged before
the count.
-/
def outboundFacts (row : OutboundRow) : Except StoreFault OutboundFacts := do
  let maxMessages ← decodeCount .maxMessages row.maxMessages
  let messageCount ← decodeCount .messageCount row.messageCount
  pure
    { room := row.room
      shared := row.shared
      maxMessages
      messageCount
      maxAge := Interval.decodeMicros row.maxAge
      created := row.created
      used := row.used }

/-- The outbound session of a room. Its columns are judged before its pickle is opened. -/
def getOutbound (vault : Vault) (room : RoomId) (state : State)
    : Outcome (Option OutboundSession) :=
  if vault.online then
    match state.database.outbound? vault.owner room with
    | none => .done none state
    | some row =>
      match outboundFacts row with
      | .error fault => .failed fault state
      | .ok facts =>
        match OutboundSession.unpickle row.blob vault.key facts with
        | .error fault => .failed (.pickle fault) state
        | .ok session => .done (some session) state
  else vault.offline state

def removeOutbound (vault : Vault) (room : RoomId) (state : State) : Outcome Unit :=
  if vault.online then
    .done () { state with database := (state.database.removeOutbound vault.owner [room]).2 }
  else vault.offline state

/-- Removes the outbound sessions of more rooms, and adds their count. -/
def removeMore (owner : AccountId) (removed : Nat) (rooms : List RoomId) (db : Database)
    : Nat × Database :=
  let (count, db) := db.removeOutbound owner rooms
  (removed + count, db)

/-- Removes the outbound sessions of several rooms and counts them, by one statement for each
piece of the list. No rooms need no database.
-/
def removeOutbounds (vault : Vault) (rooms : List RoomId) (state : State) : Outcome Nat :=
  if rooms.isEmpty then .done 0 state
  else vault.inPieces (removeMore vault.owner) 0 (chunks Database.listLimit rooms) 0 state

end KeyVault.Vault
