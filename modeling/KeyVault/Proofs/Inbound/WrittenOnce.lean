import KeyVault.Proofs.Inbound.Rows
/-!
Inbound sessions are written once. What was stored under an identifier stays there and is
read back where it was filed and nowhere else, over all histories in which the vaults of the
account have one key.
-/

namespace KeyVault

-----------------------------------------------------------------------------------------
-- The sessions that a history filed
-----------------------------------------------------------------------------------------

/-- What an operation of the account that succeeds leaves of its filed sessions. Nothing is
promised of them when the account is deleted.
-/
def InboundFiling.after (filed : List InboundFiling) : Operation → List InboundFiling
  | .putGroupSession room sender id session => filed ++ [⟨room, sender, id, session⟩]
  | .delete => []
  | _ => filed

/-- The filed sessions of an account after a moment: only calls of its own vaults that
succeed count.
-/
def Moment.filedSessions (owner : AccountId) (filed : List InboundFiling) (moment : Moment)
    : List InboundFiling :=
  match moment.call?, moment.reply.result with
  | some (handle, operation), .ok _ =>
    if handle.owner = owner then InboundFiling.after filed operation else filed
  | _, _ => filed

/-- The sessions that were stored for an account since it was last deleted. -/
def filedSessions (owner : AccountId) (past : List Moment) : List InboundFiling :=
  past.foldl (Moment.filedSessions owner) []

/-- A further moment changes what the moments before it filed. -/
theorem filedSessions_append (owner : AccountId) (past : List Moment) (moment : Moment)
    : filedSessions owner (past ++ [moment])
      = moment.filedSessions owner (filedSessions owner past) := by
  simp [filedSessions]

namespace Moment

variable {moment : Moment} {handle : Handle} {operation : Operation} {owner : AccountId}

/-- A moment that stores no session files none. -/
theorem filedSessions_subset
    (other
      : ∀ handle operation, moment.call? = some (handle, operation) → ¬ operation.FilesInbound)
    (filed : List InboundFiling)
    : moment.filedSessions owner filed ⊆ filed := by
  unfold filedSessions
  cases called : moment.call? with
  | none => exact List.Subset.refl _
  | some call =>
    obtain ⟨handle, operation⟩ := call
    cases moment.reply.result with
    | error fault => exact List.Subset.refl _
    | ok answer =>
      dsimp only
      by_cases own : handle.owner = owner
      · rw [if_pos own]
        cases operation
        case putGroupSession room sender id session =>
          exact absurd ⟨⟨room, sender, id, session⟩, rfl⟩ (other _ _ called)
        case delete => exact List.nil_subset _
        all_goals exact List.Subset.refl _
      · rw [if_neg own]
        exact List.Subset.refl _

/-- A call that fails files no session. -/
theorem filedSessions_of_error (called : moment.call? = some (handle, operation))
    {fault : StoreFault} (failed : (moment.outcome handle operation).result = .error fault)
    (filed : List InboundFiling)
    : moment.filedSessions owner filed = filed := by
  simp only [filedSessions, called, reply_of_call called, failed]

/-- A call that succeeds files what its operation leaves, if it is one of the account. -/
theorem filedSessions_of_ok (called : moment.call? = some (handle, operation))
    {answer : Answer} (succeeded : (moment.outcome handle operation).result = .ok answer)
    (filed : List InboundFiling)
    : moment.filedSessions owner filed
      = if handle.owner = owner then InboundFiling.after filed operation else filed := by
  simp only [filedSessions, called, reply_of_call called, succeeded]

end Moment

-----------------------------------------------------------------------------------------
-- The rows keep what was filed
-----------------------------------------------------------------------------------------

/-- The state of a history: the vaults of the account have one key, no two rows have one
account and one identifier, every row of the account holds a session, and every session that
was filed since the account was last deleted is held by a row.
-/
structure KeepsFiled (owner : AccountId) (key : PickleKey) (past : List Moment)
    (reached : Deployment) : Prop where
  keyed : reached.Keyed owner key
  unique : reached.database.InboundUnique
  readable
    : ∀ row ∈ reached.database.inbound, row.owner = owner → ∃ filing, row.Holds key filing
  stored
    : ∀ filing ∈ filedSessions owner past,
        ∃ row ∈ reached.database.inbound, row.owner = owner ∧ row.Holds key filing

namespace KeepsFiled

variable {owner : AccountId} {key : PickleKey} {past : List Moment} {moment : Moment}

theorem start : KeepsFiled owner key [] .empty where
  keyed _ _ opened _ := nomatch opened
  unique := List.nodup_nil
  readable _ member := absurd member List.not_mem_nil
  stored _ member := absurd member List.not_mem_nil

/-- A moment that leaves the rows and files no session keeps what was filed. -/
theorem unmoved (keeps : KeepsFiled owner key past moment.met)
    (opening : moment.event.Keyed owner key)
    (same : moment.left.database.inbound = moment.met.database.inbound)
    (silent
      : moment.filedSessions owner (filedSessions owner past) ⊆ filedSessions owner past)
    : KeepsFiled owner key (past ++ [moment]) moment.left where
  keyed := moment.keyed_left keeps.keyed opening
  unique := by
    unfold Database.InboundUnique
    rw [same]
    exact keeps.unique
  readable := by
    rw [same]
    exact keeps.readable
  stored := by
    rw [same, filedSessions_append]
    intro filing member
    exact keeps.stored filing (silent member)

/-- A row of a new session is held beside the rows of the others: it is the account's own
and files the session, or it is of another account and files nothing here.
-/
theorem filed (keeps : KeepsFiled owner key past moment.met)
    (opening : moment.event.Keyed owner key) {handle : Handle} {filing : InboundFiling}
    (called
      : moment.call?
        = some (handle, .putGroupSession filing.room filing.sender filing.id filing.session))
    (absent
      : ∀ row ∈ moment.met.database.inbound,
          row.owner = handle.owner → row.session ≠ filing.id)
    (online : (moment.vaultOf handle).online = true)
    : KeepsFiled owner key (past ++ [moment]) moment.left := by
  let vault := moment.vaultOf handle
  let row :=
    vault.rowOfInbound moment.nonce filing.room filing.sender filing.id filing.session
  have performed :=
    @Vault.perform_putGroupSession_of_absent vault (moment.met.stateOf handle) filing.room
      filing.sender filing.id moment.nonce online absent filing.session
  have written : moment.left.database.inbound = moment.met.database.inbound ++ [row] := by
    rw [Moment.database_of_call called, Moment.outcome, performed]
    rfl
  have holds (own : handle.owner = owner) : row.Holds key filing := by
    subst own
    cases Moment.key_of_call keeps.keyed called
    exact .rowOfInbound vault moment.nonce filing
  refine
    { keyed := moment.keyed_left keeps.keyed opening
      unique := ?_
      readable := ?_
      stored := ?_ }
  · unfold Database.InboundUnique
    rw [written]
    refine Rows.nodup_map_concat keeps.unique ?_
    intro old member same
    obtain ⟨owned, same⟩ := Prod.mk.inj same
    exact absent old member owned same
  · rw [written]
    intro other member owned
    rcases List.mem_append.mp member with old | new
    · exact keeps.readable other old owned
    · cases List.mem_singleton.mp new
      exact ⟨filing, holds owned⟩
  · rw [written, filedSessions_append]
    intro other member
    have succeeded
        : (moment.outcome handle
              (.putGroupSession filing.room filing.sender filing.id filing.session)).result
          = .ok .nothing := by
      rw [Moment.outcome, performed]
      rfl
    have earlier (there : other ∈ filedSessions owner past)
        : ∃ old ∈ moment.met.database.inbound ++ [row],
            old.owner = owner ∧ old.Holds key other := by
      obtain ⟨old, member, held⟩ := keeps.stored other there
      exact ⟨old, List.mem_append_left _ member, held⟩
    rw [Moment.filedSessions_of_ok called succeeded] at member
    by_cases own : handle.owner = owner
    · rw [if_pos own] at member
      rcases List.mem_append.mp member with there | new
      · exact earlier there
      · cases List.mem_singleton.mp new
        exact ⟨row, List.mem_append_right _ (List.mem_singleton_self _), own, holds own⟩
    · rw [if_neg own] at member
      exact earlier member

/-- A further event that opens no vault of the account with another key keeps what was filed.
Witness: a call that stores a session finds a row with its identifier, or none, or a closed
pool, and every other event leaves the rows.
-/
theorem further (keeps : KeepsFiled owner key past moment.met)
    (opening : moment.event.Keyed owner key)
    : KeepsFiled owner key (past ++ [moment]) moment.left := by
  rcases moment.calls_or_leaves Database.inbound Vault.Effect.inbound with
    ⟨handle, _, called, filing, rfl⟩ | ⟨silent, same⟩
  · have refused (fault : StoreFault)
        (performed
          : moment.outcome handle
              (.putGroupSession filing.room filing.sender filing.id filing.session)
            = .failed fault (moment.met.stateOf handle))
        : KeepsFiled owner key (past ++ [moment]) moment.left := by
      refine keeps.unmoved opening ?_ ?_
      · rw [Moment.database_of_call called, performed]
        rfl
      · rw [Moment.filedSessions_of_error called (congrArg Outcome.result performed)]
        exact List.Subset.refl _
    cases online : (moment.vaultOf handle).online with
    | false => exact refused _ (Vault.perform_putGroupSession_of_offline _ online _)
    | true =>
      by_cases held
          : ∃ row ∈ moment.met.database.inbound,
              row.owner = handle.owner ∧ row.session = filing.id
      · exact refused _ (Vault.perform_putGroupSession_of_held _ online held _)
      · refine keeps.filed opening called ?_ online
        intro row member owned same
        exact held ⟨row, member, owned, same⟩
  · exact keeps.unmoved opening same (Moment.filedSessions_subset silent _)

end KeepsFiled

/-- What a history on new tables filed is kept, when it opens the vaults of the account with
one key, by induction over the events.
-/
theorem keepsFiled_run {history : List (Aead.Nonce × Event)} {owner : AccountId}
    {key : PickleKey} (keyed : ∀ entry ∈ history, entry.2.Keyed owner key)
    : KeepsFiled owner key (Deployment.empty.moments history) (Deployment.empty.run history).2 := by
  refine Deployment.run_induction history .start ?_
  intro past moment member keeps
  exact keeps.further (keyed _ member)

-----------------------------------------------------------------------------------------
-- What a call answers
-----------------------------------------------------------------------------------------

section Calls

variable {reached : Deployment} {name : String} {handle : Handle}
variable (opened : reached.handle? name = some handle) (nonce : Aead.Nonce)
variable {room : RoomId} {sender : IdentityKey} {id : SessionId}
include opened

namespace KeepsFiled

variable {past : List Moment} (keeps : KeepsFiled handle.owner handle.key past reached)
variable (online : reached.isOnline handle.backend = true)
include keeps online

/-- The two reads agree: whether a session is there is answered with yes exactly when it is
read.
-/
theorem exists_reply_reads
    : ∃ session,
        (reached.step nonce (.call name (.getGroupSession room sender id))).1
          = ⟨.ok (.inbound session), []⟩
        ∧ (reached.step nonce (.call name (.hasGroupSession room sender id))).1
          = ⟨.ok (.flag session.isSome), []⟩ := by
  have asked
      : (reached.step nonce (.call name (.hasGroupSession room sender id))).1
        = ⟨.ok (.flag (reached.database.inbound? handle.owner room sender id).isSome), []⟩ :=
    Deployment.reply_of_done opened (Vault.perform_hasGroupSession nonce online room sender id)
  cases found : reached.database.inbound? handle.owner room sender id with
  | none =>
    rw [found] at asked
    refine ⟨none, ?_, asked⟩
    exact Deployment.reply_of_done opened
      (Vault.perform_getGroupSession_of_absent nonce online found)
  | some row =>
    rw [found] at asked
    obtain ⟨member, owned, _⟩ := Database.of_inbound? found
    obtain ⟨filing, holds⟩ := keeps.readable row member owned
    refine ⟨some filing.reread, ?_, asked⟩
    exact Deployment.reply_of_done opened
      (Vault.perform_getGroupSession_of_holds nonce online found holds)

/-- A filed session is read back under its identifier in its room and from its sender, and
nothing is found there in another room or from another sender.
-/
theorem reply_getGroupSession {filing : InboundFiling}
    (filed : filing ∈ filedSessions handle.owner past) (room : RoomId) (sender : IdentityKey)
    : (reached.step nonce (.call name (.getGroupSession room sender filing.id))).1
      = ⟨.ok (.inbound
            (if room = filing.room ∧ sender = filing.sender then some filing.reread else none)),
          []⟩ := by
  obtain ⟨row, member, owned, holds⟩ := keeps.stored filing filed
  have found := Database.inbound?_of_mem keeps.unique member room sender
  rw [owned, holds.room, holds.sender, holds.session] at found
  by_cases here : room = filing.room ∧ sender = filing.sender
  · rw [if_pos here] at found ⊢
    exact Deployment.reply_of_done opened
      (Vault.perform_getGroupSession_of_holds nonce online found holds)
  · rw [if_neg here] at found ⊢
    exact Deployment.reply_of_done opened
      (Vault.perform_getGroupSession_of_absent nonce online found)

end KeepsFiled

end Calls

/-- Inbound sessions are written once, over every history that opens the vaults of an account with
one key. A session is stored just where the account has no row with its identifier, and is then read
back where it was stored and nowhere else, until the account is deleted. A call that fails changes
nothing, and a session is said to be there just where it is read.
-/
theorem inbound_sessions_are_written_once {history : List (Aead.Nonce × Event)}
    {owner : AccountId} {key : PickleKey}
    (keyed : ∀ entry ∈ history, entry.2.Keyed owner key) {name : String} {handle : Handle}
    (opened : (Deployment.empty.run history).2.handle? name = some handle)
    (own : handle.owner = owner) (nonce : Aead.Nonce)
    : let reached := (Deployment.empty.run history).2
      let step (operation : Operation) : Reply × Deployment :=
        reached.step nonce (.call name operation)
      if reached.isOnline handle.backend then
        (∀ room sender id session,
          if ∃ row ∈ reached.database.inbound, row.owner = owner ∧ row.session = id then
            step (.putGroupSession room sender id session)
            = (.failed (.database (.duplicateKey .inbound)), reached)
          else (step (.putGroupSession room sender id session)).1 = .nothing)
        ∧ (∀ filing ∈ filedSessions owner (Deployment.empty.moments history),
            ∀ room sender,
              (step (.getGroupSession room sender filing.id)).1
              = ⟨.ok (.inbound
                    (if room = filing.room ∧ sender = filing.sender then some filing.reread
                    else none)),
                  []⟩)
        ∧ ∀ room sender id,
            ∃ session,
              (step (.getGroupSession room sender id)).1 = ⟨.ok (.inbound session), []⟩
              ∧ (step (.hasGroupSession room sender id)).1 = ⟨.ok (.flag session.isSome), []⟩
      else
        ∀ room sender id session,
          step (.putGroupSession room sender id session)
          = (.failed (.database .poolClosed), reached) := by
  intro reached step
  have keeps := keepsFiled_run keyed
  subst own
  cases keeps.keyed name handle opened rfl
  cases online : reached.isOnline handle.backend with
  | false =>
    rw [if_neg Bool.false_ne_true]
    intro room sender id session
    exact Deployment.step_of_failed opened
      (Vault.perform_putGroupSession_of_offline nonce online session)
  | true =>
    rw [if_pos rfl]
    refine ⟨?_, ?_, ?_⟩
    · intro room sender id session
      by_cases held : ∃ row ∈ reached.database.inbound, row.owner = handle.owner ∧ row.session = id
      · rw [if_pos held]
        exact Deployment.step_of_failed opened
          (Vault.perform_putGroupSession_of_held nonce online held session)
      · rw [if_neg held]
        have free
            : ∀ row ∈ reached.database.inbound, row.owner = handle.owner → row.session ≠ id := by
          intro row member owned same
          exact held ⟨row, member, owned, same⟩
        exact Deployment.reply_of_done opened
          (Vault.perform_putGroupSession_of_absent nonce online free session)
    · intro filing filed room sender
      exact keeps.reply_getGroupSession opened nonce online filed room sender
    · intro room sender id
      exact keeps.exists_reply_reads opened nonce online

/-- A session that says it is of another room and sender than it is stored under, with a comma
in its chain.
-/
def forwardedSession : InboundSession :=
  ⟨⟨"one"⟩, ⟨⟨"!other"⟩, ⟨"elsewhere"⟩, ⟨"ed"⟩, [⟨"far,near"⟩]⟩, [1]⟩

/-- Two vaults of an account store a session: the second one is refused, though it names
another room.
-/
def filingTwice : List (Aead.Nonce × Event) :=
  let events : List Event :=
    [.openVault "first" ⟨"@a"⟩ ⟨.replicate 32 0⟩,
     .shareVault "second" "first" ⟨"@a"⟩ ⟨.replicate 32 0⟩,
     .call "first" (.putGroupSession ⟨"!room"⟩ ⟨"curve"⟩ ⟨"one"⟩ forwardedSession),
     .call "second" (.putGroupSession ⟨"!other"⟩ ⟨"curve"⟩ ⟨"one"⟩ forwardedSession)]
  events.map fun event => (.replicate 24 0, event)

/-- The second vault then reads the session where the first one stored it, with its chain cut
at the comma, finds nothing in the room that it named itself, and is refused again.
-/
theorem filingTwice_written_once
    : let reached := (Deployment.empty.run filingTwice).2
      let handle := Handle.fresh ⟨"@a"⟩ ⟨.replicate 32 0⟩ (.sqlite 0)
      let step (operation : Operation) : Reply × Deployment :=
        reached.step (.replicate 24 0) (.call "second" operation)
      (∀ entry ∈ filingTwice, entry.2.Keyed ⟨"@a"⟩ ⟨.replicate 32 0⟩)
      ∧ reached.handle? "second" = some handle
      ∧ reached.isOnline handle.backend = true
      ∧ (step (.getGroupSession ⟨"!room"⟩ ⟨"curve"⟩ ⟨"one"⟩)).1
        = ⟨.ok (.inbound (some
              ⟨⟨"one"⟩, ⟨⟨"!room"⟩, ⟨"curve"⟩, ⟨"ed"⟩, [⟨"far"⟩, ⟨"near"⟩]⟩, [1]⟩)),
            []⟩
      ∧ (step (.getGroupSession ⟨"!other"⟩ ⟨"curve"⟩ ⟨"one"⟩)).1 = ⟨.ok (.inbound none), []⟩
      ∧ step (.putGroupSession ⟨"!other"⟩ ⟨"curve"⟩ ⟨"one"⟩ forwardedSession)
        = (.failed (.database (.duplicateKey .inbound)), reached) := by
  intro reached handle step
  have keyed : ∀ entry ∈ filingTwice, entry.2.Keyed ⟨"@a"⟩ ⟨.replicate 32 0⟩ := by
    simp [filingTwice, Event.Keyed, Event.opens?]
  have opened : reached.handle? "second" = some handle := by decide
  have online : reached.isOnline handle.backend = true := by decide
  let filing : InboundFiling := ⟨⟨"!room"⟩, ⟨"curve"⟩, ⟨"one"⟩, forwardedSession⟩
  have filed : filing ∈ filedSessions ⟨"@a"⟩ (Deployment.empty.moments filingTwice) := by decide
  have reread
      : filing.reread
        = ⟨⟨"one"⟩, ⟨⟨"!room"⟩, ⟨"curve"⟩, ⟨"ed"⟩, [⟨"far"⟩, ⟨"near"⟩]⟩, [1]⟩ := by
    decide
  have held
      : ∃ row ∈ reached.database.inbound, row.owner = ⟨"@a"⟩ ∧ row.session = ⟨"one"⟩ := by
    decide
  have once := @inbound_sessions_are_written_once _ _ _ keyed _ _ opened rfl (.replicate 24 0)
  rw [if_pos online] at once
  obtain ⟨put, get, _⟩ := once
  refine ⟨keyed, opened, online, ?_, ?_, ?_⟩
  · have there := get filing filed ⟨"!room"⟩ ⟨"curve"⟩
    rw [if_pos ⟨rfl, rfl⟩, reread] at there
    exact there
  · have elsewhere := get filing filed ⟨"!other"⟩ ⟨"curve"⟩
    rw [if_neg (by decide)] at elsewhere
    exact elsewhere
  · have again := put ⟨"!other"⟩ ⟨"curve"⟩ ⟨"one"⟩ forwardedSession
    rw [if_pos held] at again
    exact again

end KeyVault
