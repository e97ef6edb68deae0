import KeyVault.Proofs.Deployment.Handles
import KeyVault.Proofs.Interval.Micros
import Mathlib.Data.List.Dedup
/-!
The outbound sessions of an account as a book: at most one session for each room. Each
operation is said to leave a book and to answer from it, without tables and pickles.
-/

namespace KeyVault

/-- A session with the use of another one: its ratchet, how many messages it encrypted and
when it was last used.
-/
def OutboundSession.withUse (session used : OutboundSession) : OutboundSession :=
  { session with
    ratchet := used.ratchet
    facts := { session.facts with
      messageCount := used.facts.messageCount
      used := used.facts.used } }

/-- The current session of each room. -/
def OutboundBook : Type :=
  RoomId → Option OutboundSession

namespace OutboundBook

def empty : OutboundBook :=
  fun _ => none

/-- Puts a session in place of the one of its room. -/
def put (book : OutboundBook) (session : OutboundSession) : OutboundBook :=
  fun room => if room = session.facts.room then some session else book room

/-- Whether a session is the current one of its room, by its identifier. -/
def isCurrent (book : OutboundBook) (session : OutboundSession) : Bool :=
  (book session.facts.room).any fun current => current.id = session.id

/-- Writes the use of a session that is the current one of its room. -/
def use (book : OutboundBook) (session : OutboundSession) : OutboundBook :=
  fun room =>
    if room = session.facts.room ∧ book.isCurrent session then
      (book room).map fun current => current.withUse session
    else book room

/-- Takes the sessions of some rooms out. -/
def remove (book : OutboundBook) (rooms : List RoomId) : OutboundBook :=
  fun room => if room ∈ rooms then none else book room

/-- How many different rooms of a list have a session. -/
def count (book : OutboundBook) (rooms : List RoomId) : Nat :=
  rooms.dedup.countP fun room => (book room).isSome

/-- What an operation of the account leaves. A session whose greatest age is no whole number
of microseconds in range is not put in.
-/
def after (book : OutboundBook) : Operation → OutboundBook
  | .addOutbound session => if session.facts.maxAge.WholeMicros then book.put session else book
  | .updateOutbound session => book.use session
  | .removeOutbound room => book.remove [room]
  | .removeOutbounds rooms => book.remove rooms
  | .delete => empty
  | _ => book

/-- Whether a reply to an operation is the one that the book gives. Operations that do not
speak of outbound sessions may reply anything.
-/
def Answers (book : OutboundBook) (reply : Reply) : Operation → Prop
  | .addOutbound session =>
    if session.facts.maxAge.WholeMicros then reply = .nothing
    else ∃ fault, reply = .failed (.interval fault)
  | .updateOutbound session =>
    reply
    = if book.isCurrent session then ⟨.ok (.flag true), []⟩
      else ⟨.ok (.flag false), [.outboundGone session.facts.room session.id]⟩
  | .getOutbound room => reply = ⟨.ok (.outbound (book room)), []⟩
  | .removeOutbound _ => reply = .nothing
  | .removeOutbounds rooms => reply = ⟨.ok (.count (book.count rooms)), []⟩
  | .delete => reply = .nothing
  | _ => True

end OutboundBook

/-- The operations that speak of outbound sessions. -/
def Operation.speaksOfOutbound : Operation → Bool
  | addOutbound _ | updateOutbound _ | getOutbound _ | removeOutbound _ | removeOutbounds _
  | delete =>
    true
  | _ => false

/-- What a call leaves: what its operation does where its statements are done. A removal for
several rooms takes out the sessions of those that it reaches.
-/
def OutboundBook.afterCall (book : OutboundBook) (vault : Vault) : Operation → OutboundBook
  | .removeOutbounds rooms => book.remove (vault.roomsReached rooms)
  | operation => if vault.online then book.after operation else book

/-- The book after a moment: only calls of the account's own vaults write it. -/
def Moment.outboundBook (owner : AccountId) (book : OutboundBook) (moment : Moment)
    : OutboundBook :=
  match moment.call? with
  | some (handle, operation) =>
    if handle.owner = owner then book.afterCall (moment.vaultOf handle) operation else book
  | none => book

/-- The book of an account after some moments, empty at the start. -/
def outboundBook (owner : AccountId) (past : List Moment) : OutboundBook :=
  past.foldl (Moment.outboundBook owner) .empty

/-- A further moment writes the book of the moments before it. -/
theorem outboundBook_append (owner : AccountId) (past : List Moment) (moment : Moment)
    : outboundBook owner (past ++ [moment])
      = moment.outboundBook owner (outboundBook owner past) := by
  simp [outboundBook]

end KeyVault
