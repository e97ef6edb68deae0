import KeyVault.Identifier
import KeyVault.Pickle
import KeyVault.Time.Instant
/-!
Group sessions. An inbound session decrypts the messages that one device sends to a room. An
outbound session encrypts for a room until it has been used often enough or is old enough to
be replaced.
-/

namespace KeyVault

open Json (Form)

namespace GroupPickle

/-- The body of a group session's pickle, of either direction. -/
def record : Json.Record where
  name := "GroupPickle"
  fields := [⟨"session_id", .text, none⟩, ⟨"ratchet", .bytes, none⟩]

/-- The identifier and the ratchet stand as a record of two fields. -/
def form : Form (SessionId × List UInt8) :=
  .ofRecord record (fun (id, ratchet, _) => (⟨id⟩, ratchet)) (fun (id, ratchet) => (id.text, ratchet, ()))

end GroupPickle

/-- What is kept beside the pickle of an inbound session. -/
structure InboundFacts where
  room : RoomId
  sender : IdentityKey
  signing : SigningKey
  /-- The devices that forwarded the session, oldest first. -/
  chain : List IdentityKey
  deriving DecidableEq, Repr

/-- A session that decrypts messages of a room. -/
structure InboundSession where
  id : SessionId
  facts : InboundFacts
  ratchet : List UInt8
  deriving DecidableEq, Repr

namespace InboundSession

def pickle (session : InboundSession) (key : PickleKey) (nonce : Aead.Nonce) : Blob :=
  Pickle.pack GroupPickle.form key .inbound nonce (session.id, session.ratchet)

def unpickle (blob : Blob) (key : PickleKey) (facts : InboundFacts)
    : Except PickleFault InboundSession :=
  (Pickle.unpack GroupPickle.form key .inbound blob).map fun (id, ratchet) => ⟨id, facts, ratchet⟩

/-- The text of an inbound session in diagnostics, which keeps the ratchet and the signing
key back.
-/
def describe (session : InboundSession) : String :=
  let chain := session.facts.chain.map fun key => "IdentityKey(" ++ Text.quoted key.text ++ ")"
  "InboundGroupSession \x7b session_id: SessionId(" ++ Text.quoted session.id.text
    ++ "), room_id: RoomId(" ++ Text.quoted session.facts.room.text
    ++ "), sender_key: IdentityKey(" ++ Text.quoted session.facts.sender.text
    ++ "), forwarding_chain: [" ++ ", ".intercalate chain ++ "], .. \x7d"

end InboundSession

/-- What is kept beside the pickle of an outbound session. -/
structure OutboundFacts where
  room : RoomId
  /-- Whether the session was sent to the devices of the room. -/
  shared : Bool
  maxMessages : UInt32
  messageCount : UInt32
  maxAge : Span
  created : Instant
  used : Instant
  deriving DecidableEq, Repr

/-- A session that encrypts messages for a room. -/
structure OutboundSession where
  id : SessionId
  facts : OutboundFacts
  ratchet : List UInt8
  deriving DecidableEq, Repr

namespace OutboundSession

/-- How many messages a session encrypts unless another limit is set. -/
def defaultMaxMessages : UInt32 :=
  100

/-- A fresh session, with the default limits of a hundred messages and a week. -/
def fresh (room : RoomId) (id : SessionId) (ratchet : List UInt8) (now : Instant)
    : OutboundSession :=
  ⟨id, ⟨room, false, defaultMaxMessages, 0, .week, now, now⟩, ratchet⟩

def withRotation (session : OutboundSession) (maxMessages : UInt32) (maxAge : Span)
    : OutboundSession :=
  { session with facts := { session.facts with maxMessages, maxAge } }

def setRatchet (session : OutboundSession) (ratchet : List UInt8) : OutboundSession :=
  { session with ratchet }

def setShared (session : OutboundSession) (shared : Bool) : OutboundSession :=
  { session with facts := { session.facts with shared } }

/-- One more message; the count stays at its maximum. -/
def increment (count : UInt32) : UInt32 :=
  if count = 0xffffffff then count else count + 1

/-- Counts an encrypted message. -/
def recordUse (session : OutboundSession) (now : Instant) : OutboundSession :=
  { session with
    facts := { session.facts with messageCount := increment session.facts.messageCount, used := now } }

/-- A session is due when it has encrypted enough messages or is old enough. -/
def shouldRotate (session : OutboundSession) (now : Instant) : Bool :=
  session.facts.maxMessages ≤ session.facts.messageCount
    || session.facts.maxAge.nanos ≤ (now.since session.facts.created).nanos

def pickle (session : OutboundSession) (key : PickleKey) (nonce : Aead.Nonce) : Blob :=
  Pickle.pack GroupPickle.form key .outbound nonce (session.id, session.ratchet)

def unpickle (blob : Blob) (key : PickleKey) (facts : OutboundFacts)
    : Except PickleFault OutboundSession :=
  (Pickle.unpack GroupPickle.form key .outbound blob).map fun (id, ratchet) => ⟨id, facts, ratchet⟩

/-- The text of an outbound session in diagnostics, which keeps the ratchet back. -/
def describe (session : OutboundSession) : String :=
  "OutboundGroupSession \x7b room_id: RoomId(" ++ Text.quoted session.facts.room.text
    ++ "), session_id: SessionId(" ++ Text.quoted session.id.text
    ++ s!"), shared: {session.facts.shared}, message_count: {session.facts.messageCount}"
    ++ s!", max_messages: {session.facts.maxMessages}, .. \x7d"

end OutboundSession

end KeyVault
