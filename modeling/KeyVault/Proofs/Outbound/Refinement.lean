import KeyVault.Proofs.Outbound.Removal
/-!
The outbound rows of an account hold its book. Every call answers what the book gives and
leaves rows that hold the book after it, over all histories in which the vaults of the
account have one key.
-/

namespace KeyVault

/-- The rows of an account hold a book: the row that is found for a room holds the session
that the book has for it, and there is none where the book has none.
-/
def OutboundBook.Held (book : OutboundBook) (owner : AccountId) (key : PickleKey)
    (db : Database) : Prop :=
  ∀ room, Option.Rel (OutboundRow.Holds key) (db.outbound? owner room) (book room)

/-- A session that is not the current one of its room is not written in the book. -/
theorem OutboundBook.use_of_stale {book : OutboundBook} {session : OutboundSession}
    (stale : book.isCurrent session = false)
    : book.use session = book := by
  funext room
  rw [use, stale, if_neg fun both => Bool.false_ne_true both.2]

-----------------------------------------------------------------------------------------
-- What the statements leave of a book
-----------------------------------------------------------------------------------------

namespace OutboundBook.Held

variable {book : OutboundBook} {owner : AccountId} {key : PickleKey} {db after : Database}

/-- Tables without outbound rows of the account hold the empty book. -/
theorem of_empty (absent : ∀ room, db.outbound? owner room = none) : empty.Held owner key db := by
  intro room
  rw [absent room]
  exact .none

/-- Rows that stay where they are hold the book. -/
theorem of_same (held : book.Held owner key db)
    (same : ∀ room, after.outbound? owner room = db.outbound? owner room)
    : book.Held owner key after := by
  intro room
  rw [same room]
  exact held room

/-- A room has neither a row nor a session in the book, or a row that holds the session. -/
theorem found_cases (held : book.Held owner key db) (room : RoomId)
    : (db.outbound? owner room = none ∧ book room = none)
      ∨ ∃ row session,
          db.outbound? owner room = some row
          ∧ book room = some session
          ∧ row.Holds key session := by
  have related := held room
  generalize db.outbound? owner room = found at related ⊢
  generalize book room = entry at related ⊢
  cases related with
  | none => exact .inl ⟨rfl, rfl⟩
  | some holds => exact .inr ⟨_, _, rfl, rfl, holds⟩

/-- The row of a session's room is of the session exactly when the book has the session as
its current one.
-/
theorem any_isOutbound (held : book.Held owner key db) (unique : db.OutboundUnique)
    (session : OutboundSession)
    : db.outbound.any (Database.isOutbound owner session.facts.room session.id)
      = book.isCurrent session := by
  rw [Database.any_isOutbound unique, OutboundBook.isCurrent]
  rcases held.found_cases session.facts.room with
    ⟨absent, without⟩ | ⟨row, current, there, has, holds⟩
  · rw [absent, without]
    rfl
  · rw [there, has, Option.any_some, Option.any_some, holds.session]

/-- As many rows are in some rooms as sessions in the book. -/
theorem countP_isOutboundIn (held : book.Held owner key db) (unique : db.OutboundUnique)
    (rooms : List RoomId)
    : db.outbound.countP (Database.isOutboundIn owner rooms) = book.count rooms := by
  rw [Database.countP_isOutboundIn unique, OutboundBook.count]
  congr 1
  funext room
  rcases held.found_cases room with ⟨absent, without⟩ | ⟨row, session, there, has, _⟩
  · rw [absent, without]
    rfl
  · rw [there, has]
    rfl

/-- Storing a row that holds a session puts the session in the book. -/
theorem put (held : book.Held owner key db) {row : OutboundRow} {session : OutboundSession}
    (owned : row.owner = owner) (placed : row.room = session.facts.room)
    (holds : row.Holds key session)
    : (book.put session).Held owner key (db.upsertOutbound row) := by
  intro room
  rw [Database.outbound?_upsertOutbound, OutboundBook.put, owned, placed]
  by_cases here : room = session.facts.room
  · subst here
    rw [if_pos ⟨rfl, rfl⟩, if_pos rfl]
    exact .some holds
  · rw [if_neg fun both => here both.2, if_neg here]
    exact held room

/-- Writing the use of a current session writes it in the book. -/
theorem use (held : book.Held owner key db) {session : OutboundSession}
    (current : book.isCurrent session = true) (nonce : Aead.Nonce)
    : (book.use session).Held owner key
        (db.updateOutbound owner session.facts.room session.id (session.pickle key nonce)
          (Vault.encodeCount session.facts.messageCount) session.facts.used) := by
  intro room
  rw [Database.outbound?_updateOutbound, OutboundBook.use]
  rcases held.found_cases room with ⟨absent, without⟩ | ⟨row, had, there, has, holds⟩
  · rw [absent, without, Option.map_none, Option.map_none, ite_self]
    exact .none
  · obtain ⟨_, owned, placed⟩ := Database.of_outbound? there
    rw [there, has, Option.map_some, Option.map_some]
    by_cases here : room = session.facts.room
    · subst here
      have same : had.id = session.id := by
        rw [OutboundBook.isCurrent, has] at current
        exact of_decide_eq_true current
      have met : Database.isOutbound owner session.facts.room session.id row = true :=
        decide_eq_true ⟨placed, holds.session.trans same, owned⟩
      rw [if_pos met, if_pos ⟨rfl, current⟩]
      exact .some (holds.withUse same nonce)
    · have unmet : ¬ Database.isOutbound owner session.facts.room session.id row = true := by
        intro met
        obtain ⟨elsewhere, _⟩ := of_decide_eq_true met
        exact here (placed.symm.trans elsewhere)
      rw [if_neg unmet, if_neg fun both => here both.1]
      exact .some holds

/-- Removing the rows of some rooms takes their sessions out of the book. -/
theorem remove (held : book.Held owner key db) (rooms : List RoomId)
    : (book.remove rooms).Held owner key (db.removeOutbound owner rooms).2 := by
  intro room
  rw [Database.removeOutbound, Database.outbound?_remove, OutboundBook.remove]
  by_cases among : room ∈ rooms
  · rw [if_pos ⟨rfl, among⟩, if_pos among]
    exact .none
  · rw [if_neg fun both => among both.2, if_neg among]
    exact held room

end OutboundBook.Held

-----------------------------------------------------------------------------------------
-- What a call answers and leaves
-----------------------------------------------------------------------------------------

namespace Vault

variable {vault : Vault} {nonce : Aead.Nonce} {state after : State} {operation : Operation}
variable {book : OutboundBook}

/-- An operation that does not speak of outbound sessions leaves them. -/
theorem Effect.outbound_of_silent (effect : vault.Effect nonce state operation after)
    (silent : operation.speaksOfOutbound = false)
    : after.database.outbound = state.database.outbound := by
  cases effect <;> first | rfl | cases silent

/-- An operation leaves the outbound sessions of other accounts. -/
theorem Effect.outbound?_of_ne (effect : vault.Effect nonce state operation after)
    {owner : AccountId} (other : owner ≠ vault.owner) (room : RoomId)
    : after.database.outbound? owner room = state.database.outbound? owner room := by
  cases effect
  case delete => rw [Database.outbound?_wipe, if_neg other]
  case addOutbound session maxAge encoded =>
    rw [Database.outbound?_upsertOutbound, if_neg fun both => other both.1]
  case updateOutbound session =>
    rw [Database.outbound?_updateOutbound]
    cases there : state.database.outbound? owner room with
    | none => rfl
    | some row =>
      obtain ⟨_, owned, _⟩ := Database.of_outbound? there
      have unmet
          : ¬ Database.isOutbound vault.owner session.facts.room session.id row = true := by
        intro met
        obtain ⟨_, _, own⟩ := of_decide_eq_true met
        exact other (owned.symm.trans own)
      rw [Option.map_some, if_neg unmet]
  case removeOutbound removed =>
    rw [Database.removeOutbound, Database.outbound?_remove, if_neg fun both => other both.1]
  case removeOutbounds rooms =>
    rw [Database.outbound?_remove, if_neg fun both => other both.1]
  all_goals rfl

/-- What a call returns, logs and leaves is what the book of its account says: the reply is
the one that the book gives, and the rows hold the book after the operation.
-/
structure Follows (vault : Vault) (book : OutboundBook) (operation : Operation)
    (outcome : Outcome Answer) : Prop where
  answers : book.Answers ⟨outcome.result, outcome.notices⟩ operation
  held : (book.after operation).Held vault.owner vault.key outcome.state.database

section Calls

variable (nonce) (online : vault.online = true)
variable (held : book.Held vault.owner vault.key state.database)
include online held

/-- A session is put in the book when its greatest age is stored, and else refused. -/
theorem addOutbound_follows (sqlite : vault.scheme = .sqlite) (session : OutboundSession)
    : vault.Follows book (.addOutbound session)
        (vault.perform nonce (.addOutbound session) state) := by
  by_cases whole : session.facts.maxAge.WholeMicros
  · obtain ⟨micros, encoded, decoded⟩ := Interval.encodeMicros_of_whole whole
    have performed
        : vault.perform nonce (.addOutbound session) state
          = .done .nothing
              { state with
                database :=
                  state.database.upsertOutbound (vault.rowOfOutbound nonce session micros) } := by
      simp [perform, addOutbound, sqlite, encodeAge, encoded, online]
    rw [performed]
    constructor
    · rw [OutboundBook.Answers, if_pos whole]
      rfl
    · rw [OutboundBook.after, if_pos whole]
      exact held.put rfl rfl (.rowOfOutbound vault nonce decoded)
  · obtain ⟨fault, refused⟩ := Interval.encodeMicros_of_not_whole whole
    have performed
        : vault.perform nonce (.addOutbound session) state = .failed (.interval fault) state := by
      simp only [perform, addOutbound, sqlite, encodeAge, refused]
      rfl
    rw [performed]
    constructor
    · rw [OutboundBook.Answers, if_neg whole]
      exact ⟨fault, rfl⟩
    · rw [OutboundBook.after, if_neg whole]
      exact held

/-- The use of a session is written when it is the current one of its room, and a session that
was replaced or removed is reported as gone.
-/
theorem updateOutbound_follows (unique : state.database.OutboundUnique)
    (session : OutboundSession)
    : vault.Follows book (.updateOutbound session)
        (vault.perform nonce (.updateOutbound session) state) := by
  have stored := held.any_isOutbound unique session
  cases current : book.isCurrent session with
  | true =>
    have performed
        : vault.perform nonce (.updateOutbound session) state
          = .done (.flag true)
              { state with
                database := state.database.updateOutbound vault.owner session.facts.room session.id
                  (session.pickle vault.key nonce) (encodeCount session.facts.messageCount)
                  session.facts.used } := by
      simp [perform, updateOutbound, online, stored, current]
    rw [performed]
    constructor
    · rw [OutboundBook.Answers, if_pos current]
      rfl
    · exact held.use current nonce
  | false =>
    have performed
        : vault.perform nonce (.updateOutbound session) state
          = ⟨.ok (.flag false), [.outboundGone session.facts.room session.id], state⟩ := by
      simp [perform, updateOutbound, online, stored, current, Outcome.noting, Outcome.answering,
        Outcome.done, Except.map]
    rw [performed]
    constructor
    · rw [OutboundBook.Answers, current]
      rfl
    · rw [OutboundBook.after, OutboundBook.use_of_stale current]
      exact held

/-- The session of a room is read whole. -/
theorem getOutbound_follows (room : RoomId)
    : vault.Follows book (.getOutbound room) (vault.perform nonce (.getOutbound room) state) := by
  have performed
      : vault.perform nonce (.getOutbound room) state = .done (.outbound (book room)) state := by
    rcases held.found_cases room with ⟨absent, without⟩ | ⟨row, session, there, has, holds⟩
    · simp [perform, getOutbound, online, absent, without]
    · simp [perform, getOutbound, online, there, has, holds.facts, holds.opens session.facts]
  rw [performed]
  exact ⟨rfl, held⟩

theorem removeOutbound_follows (room : RoomId)
    : vault.Follows book (.removeOutbound room)
        (vault.perform nonce (.removeOutbound room) state) := by
  rw [perform_removeOutbound nonce online]
  exact ⟨rfl, held.remove [room]⟩

/-- The sessions of the rooms that are named are taken out and counted. -/
theorem removeOutbounds_follows (unique : state.database.OutboundUnique)
    (whole : vault.further = none) (rooms : List RoomId)
    : vault.Follows book (.removeOutbounds rooms)
        (vault.perform nonce (.removeOutbounds rooms) state) := by
  have counted : (state.database.removeOutbound vault.owner rooms).1 = book.count rooms :=
    held.countP_isOutboundIn unique rooms
  rw [perform_removeOutbounds nonce whole (.inl online), counted]
  exact ⟨rfl, held.remove rooms⟩

omit held in
/-- Deleting the account empties its book. -/
theorem delete_follows : vault.Follows book .delete (vault.perform nonce .delete state) := by
  have performed
      : vault.perform nonce .delete state
        = .done .nothing
            { state with
              database := state.database.wipe vault.owner
              cache := .empty
              memory := .empty } := by
    simp [perform, delete, online]
  rw [performed]
  refine ⟨rfl, .of_empty ?_⟩
  intro room
  exact (Database.outbound?_wipe _ _ _ _).trans (if_pos rfl)

/-- Every call that is not interrupted follows the book of its account over an open pool. To be
interrupted matters only for a removal of several rooms.
-/
theorem perform_follows (unique : state.database.OutboundUnique) (sqlite : vault.scheme = .sqlite)
    (operation : Operation)
    (whole : ∀ rooms, operation = .removeOutbounds rooms → vault.further = none)
    : vault.Follows book operation (vault.perform nonce operation state) := by
  have silently (silent : operation.speaksOfOutbound = false) (room : RoomId)
      : (vault.perform nonce operation state).state.database.outbound? vault.owner room
        = state.database.outbound? vault.owner room := by
    have same := (vault.perform_effect nonce state operation).outbound_of_silent silent
    simp only [Database.outbound?, same]
  cases operation
  case addOutbound session => exact addOutbound_follows nonce online held sqlite session
  case updateOutbound session => exact updateOutbound_follows nonce online held unique session
  case getOutbound room => exact getOutbound_follows nonce online held room
  case removeOutbound room => exact removeOutbound_follows nonce online held room
  case removeOutbounds rooms =>
    exact removeOutbounds_follows nonce online held unique (whole rooms rfl) rooms
  case delete => exact delete_follows nonce online
  all_goals exact ⟨trivial, held.of_same (silently rfl)⟩

end Calls

/-- A call of the outbound sessions over a closed pool fails and leaves the tables; only the
removal of no rooms, which asks for nothing, succeeds.
-/
theorem offline_of_speaks (offline : vault.online = false)
    (speaks : operation.speaksOfOutbound = true)
    : let outcome := vault.perform nonce operation state
      outcome.state.database = state.database
      ∧ ((∃ fault, outcome.result = .error fault)
        ∨ (operation = .removeOutbounds [] ∧ outcome.result = .ok (.count 0))) := by
  cases operation <;> simp only [Operation.speaksOfOutbound, reduceCtorEq] at speaks
  case addOutbound session =>
    simp only [perform, addOutbound, offline]
    split
    · exact ⟨rfl, .inl ⟨_, rfl⟩⟩
    · exact ⟨rfl, .inl ⟨_, rfl⟩⟩
  case removeOutbounds rooms =>
    cases rooms with
    | nil => exact ⟨rfl, .inr ⟨rfl, rfl⟩⟩
    | cons room rooms =>
      rw [perform_removeOutbounds_of_offline nonce offline (List.cons_ne_nil room rooms)]
      exact ⟨rfl, .inl ⟨_, rfl⟩⟩
  case delete =>
    simp only [perform, delete, offline]
    exact ⟨rfl, .inl ⟨_, rfl⟩⟩
  case updateOutbound session =>
    simp only [perform, updateOutbound, offline]
    exact ⟨rfl, .inl ⟨_, rfl⟩⟩
  case getOutbound room =>
    simp only [perform, getOutbound, offline]
    exact ⟨rfl, .inl ⟨_, rfl⟩⟩
  case removeOutbound room =>
    simp only [perform, removeOutbound, offline]
    exact ⟨rfl, .inl ⟨_, rfl⟩⟩

/-- What a call leaves of the rows of its account holds what the call leaves of its book. -/
theorem held_afterCall (held : book.Held vault.owner vault.key state.database)
    (unique : state.database.OutboundUnique) (nonce : Aead.Nonce) (operation : Operation)
    (sqlite : vault.online = true → vault.scheme = .sqlite)
    : (book.afterCall vault operation).Held vault.owner vault.key
        (vault.perform nonce operation state).state.database := by
  by_cases removal : ∃ rooms, operation = .removeOutbounds rooms
  · obtain ⟨rooms, rfl⟩ := removal
    rw [perform, Outcome.answering, database_removeOutbounds]
    exact held.remove (vault.roomsReached rooms)
  · have single (rooms : List RoomId) (same : operation = .removeOutbounds rooms)
        : vault.further = none :=
      absurd ⟨rooms, same⟩ removal
    have written
        : book.afterCall vault operation = if vault.online then book.after operation else book := by
      cases operation <;> first | rfl | exact absurd ⟨_, rfl⟩ removal
    rw [written]
    cases online : vault.online with
    | true =>
      rw [if_pos rfl]
      exact (perform_follows nonce online held unique (sqlite online) operation single).held
    | false =>
      rw [if_neg Bool.false_ne_true]
      refine held.of_same ?_
      intro room
      cases speaks : operation.speaksOfOutbound with
      | true => rw [(offline_of_speaks online speaks).1]
      | false =>
        have same := (vault.perform_effect nonce state operation).outbound_of_silent speaks
        simp only [Database.outbound?, same]

end Vault

-----------------------------------------------------------------------------------------
-- Histories
-----------------------------------------------------------------------------------------

/-- The state of a history: the vaults of the account have one key, no two rows are of one
room, and the rows of the account hold the book that the moments so far wrote.
-/
structure FollowsBook (owner : AccountId) (key : PickleKey) (past : List Moment)
    (reached : Deployment) : Prop where
  keyed : reached.Keyed owner key
  unique : reached.database.OutboundUnique
  held : (outboundBook owner past).Held owner key reached.database

namespace FollowsBook

variable {owner : AccountId} {key : PickleKey} {past : List Moment} {moment : Moment}

theorem start : FollowsBook owner key [] .empty where
  keyed _ _ opened _ := nomatch opened
  unique := List.nodup_nil
  held := .of_empty fun _ => rfl

/-- What a call leaves of the rows of an account holds what the call leaves of its book; calls of
other accounts leave both.
-/
theorem held_of_call (follows : FollowsBook owner key past moment.met) {handle : Handle}
    {operation : Operation} (called : moment.call? = some (handle, operation))
    : (moment.outboundBook owner (outboundBook owner past)).Held owner key
        moment.left.database := by
  have effect := moment.effect handle operation
  rw [Moment.database_of_call called]
  simp only [Moment.outboundBook, called]
  by_cases own : handle.owner = owner
  · subst own
    cases Moment.key_of_call follows.keyed called
    rw [if_pos rfl]
    exact
      Vault.held_afterCall follows.held follows.unique moment.nonce operation fun online =>
        Deployment.scheme_of_isOnline (Moment.isOnline_of_vaultOf online)
  · rw [if_neg own]
    exact follows.held.of_same (effect.outbound?_of_ne (Ne.symm own))

/-- A further event that opens no vault of the account with another key follows the book. -/
theorem further (follows : FollowsBook owner key past moment.met)
    (opening : moment.event.Keyed owner key)
    : FollowsBook owner key (past ++ [moment]) moment.left where
  keyed := moment.keyed_left follows.keyed opening
  unique := Moment.keeps_database Vault.Effect.outboundUnique follows.unique
  held := by
    rw [outboundBook_append]
    cases called : moment.call? with
    | some call => exact follows.held_of_call called
    | none =>
      rw [Moment.database_of_no_call called]
      simp only [Moment.outboundBook, called]
      exact follows.held

end FollowsBook

/-- After every history on new tables that opens the vaults of an account with one key, the
rows of the account hold its book, by induction over the events.
-/
theorem followsBook_run {history : List (Aead.Nonce × Event)} {owner : AccountId}
    {key : PickleKey} (keyed : ∀ entry ∈ history, entry.2.Keyed owner key)
    : FollowsBook owner key (Deployment.empty.moments history) (Deployment.empty.run history).2 := by
  refine Deployment.run_induction history .start ?_
  intro past moment member follows
  exact follows.further (keyed _ member)

/-- The outbound sessions of an account are a map from rooms to sessions: over every history that
opens the vaults of the account with one key, a call that speaks of outbound sessions replies what
the book of the account gives. Over a closed pool it fails, unless it is to remove no rooms.
-/
theorem outbound_sessions_follow_book {history : List (Aead.Nonce × Event)}
    {owner : AccountId} {key : PickleKey}
    (keyed : ∀ entry ∈ history, entry.2.Keyed owner key) {name : String} {handle : Handle}
    (opened : (Deployment.empty.run history).2.handle? name = some handle)
    (own : handle.owner = owner) (nonce : Aead.Nonce) {operation : Operation}
    (speaks : operation.speaksOfOutbound = true)
    : let reached := (Deployment.empty.run history).2
      let reply := (reached.step nonce (.call name operation)).1
      if reached.isOnline handle.backend then
        (outboundBook owner (Deployment.empty.moments history)).Answers reply operation
      else
        (∃ fault, reply.result = .error fault)
        ∨ (operation = .removeOutbounds [] ∧ reply.result = .ok (.count 0)) := by
  intro reached reply
  have follows := followsBook_run keyed
  let moment : Moment := ⟨reached, nonce, .call name operation⟩
  have called : moment.call? = some (handle, operation) := by
    simp only [moment, Moment.call?, reached, opened, Option.map_some]
  have replied
      : reply
        = ⟨(moment.outcome handle operation).result,
            (moment.outcome handle operation).notices⟩ :=
    Moment.reply_of_call called
  subst own
  cases Moment.key_of_call follows.keyed called
  rw [replied]
  cases online : reached.isOnline handle.backend with
  | true =>
    have sqlite : (reached.vaultOf handle).scheme = .sqlite := Deployment.scheme_of_isOnline online
    rw [if_pos rfl]
    exact
      (Vault.perform_follows nonce online follows.held follows.unique sqlite operation
        fun _ _ => rfl).answers
  | false =>
    rw [if_neg Bool.false_ne_true]
    exact (Vault.offline_of_speaks online speaks).2

/-- A session of a room that was made a second after 1970 started and was not used yet. -/
def madeOutbound (id : String) : OutboundSession :=
  .fresh ⟨"!room"⟩ ⟨id⟩ [1] ⟨1, 0, by decide⟩

/-- Two vaults of an account encrypt for a room: the second one replaces the session of the
first one and uses its own, and then the first one writes its use too late.
-/
def rotatingTogether : List (Aead.Nonce × Event) :=
  let events : List Event :=
    [.openVault "first" ⟨"@a"⟩ ⟨.replicate 32 0⟩,
     .shareVault "second" "first" ⟨"@a"⟩ ⟨.replicate 32 0⟩,
     .call "first" (.addOutbound (madeOutbound "old")),
     .call "second" (.addOutbound (madeOutbound "new")),
     .call "second" (.updateOutbound ((madeOutbound "new").setRatchet [2])),
     .call "first" (.updateOutbound ((madeOutbound "old").setRatchet [3]))]
  events.map fun event => (.replicate 24 0, event)

/-- The first vault is then given the session of the second one as that one used it, and is
told again that its own is gone.
-/
theorem rotatingTogether_follows_book
    : let reached := (Deployment.empty.run rotatingTogether).2
      let handle := Handle.fresh ⟨"@a"⟩ ⟨.replicate 32 0⟩ (.sqlite 0)
      let reply (operation : Operation) : Reply :=
        (reached.step (.replicate 24 0) (.call "first" operation)).1
      (∀ entry ∈ rotatingTogether, entry.2.Keyed ⟨"@a"⟩ ⟨.replicate 32 0⟩)
      ∧ reached.handle? "first" = some handle
      ∧ reached.isOnline handle.backend = true
      ∧ reply (.getOutbound ⟨"!room"⟩)
        = ⟨.ok (.outbound (some ((madeOutbound "new").setRatchet [2]))), []⟩
      ∧ reply (.updateOutbound (madeOutbound "old"))
        = ⟨.ok (.flag false), [.outboundGone ⟨"!room"⟩ ⟨"old"⟩]⟩ := by
  intro reached handle reply
  have keyed : ∀ entry ∈ rotatingTogether, entry.2.Keyed ⟨"@a"⟩ ⟨.replicate 32 0⟩ := by
    simp [rotatingTogether, Event.Keyed, Event.opens?]
  have opened : reached.handle? "first" = some handle := by decide
  have online : reached.isOnline handle.backend = true := by decide
  let book := outboundBook ⟨"@a"⟩ (Deployment.empty.moments rotatingTogether)
  have current : book ⟨"!room"⟩ = some ((madeOutbound "new").setRatchet [2]) := by decide
  have stale : book.isCurrent (madeOutbound "old") = false := by decide
  refine ⟨keyed, opened, online, ?_, ?_⟩
  · have follows :=
      @outbound_sessions_follow_book _ _ _ keyed _ _ opened rfl (.replicate 24 0)
        (.getOutbound ⟨"!room"⟩) rfl
    rw [if_pos online] at follows
    rw [← current]
    exact follows
  · have follows :=
      @outbound_sessions_follow_book _ _ _ keyed _ _ opened rfl (.replicate 24 0)
        (.updateOutbound (madeOutbound "old")) rfl
    rw [if_pos online, OutboundBook.Answers, stale] at follows
    exact follows

end KeyVault
