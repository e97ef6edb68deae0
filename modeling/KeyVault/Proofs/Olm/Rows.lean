import KeyVault.Proofs.Olm.Writes
import KeyVault.Proofs.Pickle.RoundTrip
import KeyVault.Proofs.Rows.Related
/-!
The rows of an account's one-to-one sessions follow its writes: each row opens to the
session that the writes say is stored there, and there is one row for each of these.
-/

namespace KeyVault

-----------------------------------------------------------------------------------------
-- The rows of an account and the operations that write them
-----------------------------------------------------------------------------------------

/-- The rows of the one-to-one sessions of an account. -/
def Database.olmOf (db : Database) (owner : AccountId) : List OlmRow :=
  db.olm.filter fun row => row.owner = owner

namespace Database

variable (db : Database) (owner : AccountId)

/-- The rows that are read for a key are the account's rows of the key. -/
theorem mem_olmSessions {db : Database} {owner : AccountId} {sender : IdentityKey} {row : OlmRow}
    : row ∈ db.olmSessions owner sender ↔ row ∈ db.olmOf owner ∧ row.sender = sender := by
  rw [olmSessions, olmOf, List.mem_mergeSort, List.mem_filter, List.mem_filter,
    decide_eq_true_iff, decide_eq_true_iff, and_comm (a := row.sender = sender), and_assoc]

/-- Whether there is a row of a key is told by the account's rows. -/
theorem hasOlmSession_iff {db : Database} {owner : AccountId} {sender : IdentityKey}
    : db.hasOlmSession owner sender = true ↔ ∃ row ∈ db.olmOf owner, row.sender = sender := by
  simp only [hasOlmSession, olmOf, List.any_eq_true, List.mem_filter, decide_eq_true_iff]
  constructor
  · rintro ⟨row, member, under, owned⟩
    exact ⟨row, ⟨member, owned⟩, under⟩
  · rintro ⟨row, ⟨member, owned⟩, under⟩
    exact ⟨row, member, under, owned⟩

/-- The row of an account stands behind its others when it is inserted. -/
theorem olmOf_append {row : OlmRow} (owned : row.owner = owner)
    : { db with olm := db.olm ++ [row] }.olmOf owner = db.olmOf owner ++ [row] := by
  simp [olmOf, owned]

theorem olmOf_wipe : (db.wipe owner).olmOf owner = [] := by
  simp [olmOf, wipe, Rows.remove]

/-- Writing a session of an account amends its row among those of the account. -/
theorem olmOf_updateOlm (session : SessionId) (blob : Blob) (encrypted decrypted : Instant)
    : (db.updateOlm owner session blob encrypted decrypted).olmOf owner
      = Rows.amend (fun row => row.session = session)
          (fun row => { row with blob, encrypted, decrypted }) (db.olmOf owner) := by
  unfold olmOf updateOlm
  rw [Rows.filter_amend (by intro row; rfl)]
  apply List.map_congr_left
  intro row member
  have owned : row.owner = owner := of_decide_eq_true (List.mem_filter.mp member).2
  simp only [owned, and_true]

variable {owner} {other : AccountId} (different : other ≠ owner)
include different

theorem olmOf_wipe_of_ne : (db.wipe owner).olmOf other = db.olmOf other := by
  unfold olmOf wipe
  apply Rows.filter_remove_of_apart
  intro row found
  simp_all

theorem olmOf_updateOlm_of_ne (session : SessionId) (blob : Blob) (encrypted decrypted : Instant)
    : (db.updateOlm owner session blob encrypted decrypted).olmOf other = db.olmOf other := by
  unfold olmOf updateOlm
  rw [Rows.filter_amend (by intro row; rfl), Rows.amend_of_none]
  intro row member
  have owned := (List.mem_filter.mp member).2
  simp_all

end Database

/-- The operations that write one-to-one sessions. -/
def Operation.writesOlm : Operation → Bool
  | delete | addSession _ _ | updateSession _ _ => true
  | _ => false

namespace Vault

variable {vault : Vault} {nonce : Aead.Nonce} {state after : State} {operation : Operation}

/-- The other operations leave the one-to-one sessions of all accounts. -/
theorem Effect.olm (effect : vault.Effect nonce state operation after)
    (keeping : operation.writesOlm = false)
    : after.database.olm = state.database.olm := by
  cases effect <;> first | rfl | cases keeping

/-- No operation of a vault touches the one-to-one sessions of another account. -/
theorem Effect.olmOf_of_ne (effect : vault.Effect nonce state operation after) {other : AccountId}
    (different : other ≠ vault.owner)
    : after.database.olmOf other = state.database.olmOf other := by
  cases effect
  case delete => exact Database.olmOf_wipe_of_ne _ different
  case addSession sender session absent =>
    simp [Database.olmOf, rowOfSession, Ne.symm different]
  case updateSession sender ref session met => exact Database.olmOf_updateOlm_of_ne _ different ..
  all_goals rfl

end Vault

-----------------------------------------------------------------------------------------
-- Rows that store sessions
-----------------------------------------------------------------------------------------

/-- An opened session has the times that stood beside its pickle. -/
theorem Session.times_of_unpickle {blob : Blob} {key : PickleKey} {times : SessionTimes}
    {session : Session}
    (opens : Session.unpickle blob key times = .ok session)
    : session.times = times := by
  unfold unpickle at opens
  cases unpacked : Pickle.unpack bodyForm key .session blob with
  | error fault =>
    rw [unpacked] at opens
    cases opens
  | ok value =>
    rw [unpacked] at opens
    cases opens
    rfl

/-- A row that stores a session under a key: it opens to the session, with the times beside
the pickle.
-/
structure OlmRow.Holds (key : PickleKey) (row : OlmRow) (entry : IdentityKey × Session)
    : Prop where
  sender : row.sender = entry.1
  session : row.session = entry.2.id
  opens : Session.unpickle row.blob key (Vault.timesOf row) = .ok entry.2

namespace OlmRow.Holds

variable {key : PickleKey} {row : OlmRow} {sender : IdentityKey} {old : Session}

/-- The row of an added session stores it. -/
theorem rowOfSession (vault : Vault) (nonce : Aead.Nonce) (sender : IdentityKey)
    (session : Session)
    : (vault.rowOfSession nonce sender session).Holds vault.key (sender, session) where
  sender := rfl
  session := rfl
  opens := Session.unpickle_pickle session vault.key nonce session.times

/-- A row that is written with a session of its identifier stores that session from then on,
created when it was created.
-/
theorem amended (holds : row.Holds key (sender, old)) {session : Session}
    (same : old.id = session.id) (nonce : Aead.Nonce)
    : { row with
        blob := session.pickle key nonce
        encrypted := session.times.encrypted
        decrypted := session.times.decrypted : OlmRow }.Holds key
        (sender,
          { old with
            ratchet := session.ratchet
            times := { session.times with created := old.times.created } }) where
  sender := holds.sender
  session := holds.session
  opens := by
    have created : old.times.created = row.created :=
      congrArg SessionTimes.created (Session.times_of_unpickle holds.opens)
    rw [Session.unpickle_pickle, same, created]
    rfl

end OlmRow.Holds

/-- Shares a session as a new object of an account, and caches it for a key under its
identifier.
-/
def State.share (state : State) (owner : AccountId) (sender : IdentityKey) (session : Session)
    : SessionRef × State :=
  let (ref, shared) := state.shared.add owner session
  (ref, { state with shared, cache := state.cache.insert sender session.id ref })

/-- The new object has the value of the session. -/
theorem State.get?_share (state : State) (owner : AccountId) (sender : IdentityKey)
    (session : Session)
    : (state.share owner sender session).2.shared.get? (state.share owner sender session).1
      = some session := by
  simp only [share, SharedSessions.get?_add, if_true]

/-- A row that is not cached is opened as a new object, which is cached. -/
theorem Vault.openRow_of_uncached {vault : Vault} {sender : IdentityKey} {state : State}
    {row : OlmRow} {entry : IdentityKey × Session} (stored : row.Holds vault.key entry)
    (uncached : state.cache.get? sender row.session = none)
    : vault.openRow sender row state
      = (.ok (state.share vault.owner sender entry.2).1,
          (state.share vault.owner sender entry.2).2) := by
  have free : state.cache.get? sender entry.2.id = none := stored.session ▸ uncached
  simp only [openRow, uncached, stored.opens, Cache.getOrInsert, free, State.share]

-----------------------------------------------------------------------------------------
-- Each call changes the rows in the way of what it writes
-----------------------------------------------------------------------------------------

/-- How a write changes the rows of an account's one-to-one sessions. What is stored is
sealed with the account's key.
-/
inductive OlmChange (key : PickleKey) (rows : List OlmRow)
    : Option OlmWrite → List OlmRow → Prop
  | nothing : OlmChange key rows none rows
  | wiped : OlmChange key rows (some .wiped) []
  | added {sender session row} (holds : row.Holds key (sender, session))
    (absent : ∀ old ∈ rows, old.session ≠ session.id)
    : OlmChange key rows (some (.added sender session)) (rows ++ [row])
  | updated {session} (nonce : Aead.Nonce)
    : OlmChange key rows (some (.updated session))
        (Rows.amend (fun row => row.session = session.id)
          (fun row =>
            { row with
              blob := session.pickle key nonce
              encrypted := session.times.encrypted
              decrypted := session.times.decrypted })
          rows)

/-- Without a deletion no row is lost, and each stays the row of its session under its key. -/
theorem OlmChange.kept {key : PickleKey} {rows after : List OlmRow} {write : Option OlmWrite}
    (change : OlmChange key rows write after) (undeleted : write ≠ some .wiped)
    : ∀ row ∈ rows, ∃ later ∈ after, later.session = row.session ∧ later.sender = row.sender := by
  intro row member
  cases change with
  | nothing => exact ⟨row, member, rfl, rfl⟩
  | wiped => exact absurd rfl undeleted
  | added stored absent => exact ⟨row, List.mem_append_left _ member, rfl, rfl⟩
  | updated nonce =>
    refine ⟨_, List.mem_map_of_mem member, ?_⟩
    dsimp only
    split <;> exact ⟨rfl, rfl⟩

namespace Vault

variable (vault : Vault) (nonce : Aead.Nonce) (state : State)

/-- What a call of an operation wrote of the one-to-one sessions of the vault's account:
nothing when it failed.
-/
def olmWrite? (operation : Operation) : Option OlmWrite :=
  match (vault.perform nonce operation state).result with
  | .ok _ => operation.olmWrite? state.shared
  | .error _ => none

theorem delete_olmChange
    : OlmChange vault.key (state.database.olmOf vault.owner)
        (vault.olmWrite? nonce state .delete)
        ((vault.perform nonce .delete state).state.database.olmOf vault.owner) := by
  simp only [olmWrite?, perform, Outcome.answering, delete]
  cases vault.online with
  | false => exact .nothing
  | true =>
    simp only [if_true, Outcome.done, Except.map]
    rw [Database.olmOf_wipe]
    exact .wiped

theorem addSession_olmChange (sender : IdentityKey) (session : Session)
    : OlmChange vault.key (state.database.olmOf vault.owner)
        (vault.olmWrite? nonce state (.addSession sender session))
        ((vault.perform nonce (.addSession sender session) state).state.database.olmOf
          vault.owner) := by
  simp only [olmWrite?, perform, Outcome.answering, addSession, Outcome.noting]
  cases vault.online with
  | false => exact .nothing
  | true =>
    cases inserted : state.database.insertOlm (vault.rowOfSession nonce sender session) with
    | error fault => exact .nothing
    | ok database =>
      obtain ⟨absent, rfl⟩ := Database.insertOlm_eq_ok inserted
      have own : (vault.rowOfSession nonce sender session).owner = vault.owner := rfl
      simp only [if_true, Outcome.done, Except.map, Operation.olmWrite?,
        Database.olmOf_append _ _ own]
      refine .added (.rowOfSession vault nonce sender session) ?_
      intro old member
      obtain ⟨member, owned⟩ := List.mem_filter.mp member
      exact absent old member (of_decide_eq_true owned)

theorem updateSession_olmChange (sender : IdentityKey) (ref : SessionRef)
    : OlmChange vault.key (state.database.olmOf vault.owner)
        (vault.olmWrite? nonce state (.updateSession sender ref))
        ((vault.perform nonce (.updateSession sender ref) state).state.database.olmOf
          vault.owner) := by
  simp only [olmWrite?, perform, Outcome.answering, updateSession, Operation.olmWrite?]
  cases met : state.shared.get? ref with
  | none => exact .nothing
  | some session =>
    cases vault.online with
    | false => exact .nothing
    | true =>
      simp only [if_true, Outcome.done, Outcome.noting, Except.map, Option.map_some,
        Database.olmOf_updateOlm]
      exact .updated nonce

/-- The other operations write nothing and change no row. -/
theorem keeping_olmChange {operation : Operation} (keeping : operation.writesOlm = false)
    : OlmChange vault.key (state.database.olmOf vault.owner)
        (vault.olmWrite? nonce state operation)
        ((vault.perform nonce operation state).state.database.olmOf vault.owner) := by
  have kept := (vault.perform_effect nonce state operation).olm keeping
  have silent : vault.olmWrite? nonce state operation = none := by
    unfold olmWrite?
    split
    · cases operation <;> first | rfl | cases keeping
    · rfl
  rw [silent, Database.olmOf, Database.olmOf, kept]
  exact .nothing

/-- Every call changes the rows of its account's one-to-one sessions in the way of what it
wrote.
-/
theorem perform_olmChange (operation : Operation)
    : OlmChange vault.key (state.database.olmOf vault.owner)
        (vault.olmWrite? nonce state operation)
        ((vault.perform nonce operation state).state.database.olmOf vault.owner) := by
  cases operation
  case delete => exact vault.delete_olmChange nonce state
  case addSession sender session => exact vault.addSession_olmChange nonce state sender session
  case updateSession sender ref => exact vault.updateSession_olmChange nonce state sender ref
  all_goals exact vault.keeping_olmChange nonce state rfl

end Vault

/-- What a moment writes is what its call wrote, when that was of a vault of the account. -/
theorem Moment.olmWrite?_of_call {moment : Moment} {handle : Handle} {operation : Operation}
    (called : moment.call? = some (handle, operation)) (owner : AccountId)
    : moment.olmWrite? owner
      = if handle.owner = owner then
          (moment.vaultOf handle).olmWrite? moment.nonce (moment.met.stateOf handle) operation
        else none := by
  have reply := congrArg Reply.result (reply_of_call called)
  unfold olmWrite? Vault.olmWrite?
  rw [called, reply]
  cases result : (moment.outcome handle operation).result with
  | error fault =>
    rw [outcome] at result
    simp only [result, ite_self]
  | ok answer =>
    rw [outcome] at result
    simp only [result]
    rfl

/-- A moment writes nothing of an account's one-to-one sessions and leaves their rows, or a
vault of the account is called and changes them in the way of what it wrote, with its key.
-/
theorem Moment.olmChange_cases (moment : Moment) (owner : AccountId)
    : (moment.olmWrite? owner = none
        ∧ moment.left.database.olmOf owner = moment.met.database.olmOf owner)
      ∨ ∃ handle operation,
          moment.call? = some (handle, operation)
          ∧ handle.owner = owner
          ∧ OlmChange handle.key (moment.met.database.olmOf owner) (moment.olmWrite? owner)
              (moment.left.database.olmOf owner) := by
  cases called : moment.call? with
  | none => exact .inl ⟨by simp [olmWrite?, called], by rw [database_of_no_call called]⟩
  | some call =>
    obtain ⟨handle, operation⟩ := call
    rw [database_of_call called, olmWrite?_of_call called]
    by_cases own : handle.owner = owner
    · subst own
      refine .inr ⟨handle, operation, rfl, rfl, ?_⟩
      rw [if_pos rfl]
      exact
        (moment.vaultOf handle).perform_olmChange moment.nonce (moment.met.stateOf handle)
          operation
    · refine .inl ⟨if_neg own, ?_⟩
      rw [(moment.effect handle operation).olmOf_of_ne (Ne.symm own)]
      rfl

/-- Every moment changes the rows of an account's one-to-one sessions in the way of what it
wrote of them, where all vaults of the account have one key.
-/
theorem Moment.olmChange (moment : Moment) {owner : AccountId} {key : PickleKey}
    (keyed : moment.met.Keyed owner key)
    : OlmChange key (moment.met.database.olmOf owner) (moment.olmWrite? owner)
        (moment.left.database.olmOf owner) := by
  rcases moment.olmChange_cases owner with ⟨silent, same⟩ | ⟨handle, _, called, rfl, change⟩
  · rw [silent, same]
    exact .nothing
  · exact key_of_call keyed called ▸ change

-----------------------------------------------------------------------------------------
-- The rows follow the writes of a history
-----------------------------------------------------------------------------------------

/-- A way in which rows stand for sessions under keys: the row of an added session stands for
it, and a row that is written with a session of its identifier stands for that session from
then on, created when it was created.
-/
structure KeptByWrites (key : PickleKey) (stands : OlmRow → IdentityKey × Session → Prop)
    : Prop where
  session : ∀ {row : OlmRow} {entry}, stands row entry → row.session = entry.2.id
  added : ∀ {row sender session}, row.Holds key (sender, session) → stands row (sender, session)
  written
    : ∀ {row : OlmRow} {sender : IdentityKey} {old session : Session},
        stands row (sender, old)
        → old.id = session.id
        → ∀ nonce,
            stands
              { row with
                blob := session.pickle key nonce
                encrypted := session.times.encrypted
                decrypted := session.times.decrypted }
              (sender,
                { old with
                  ratchet := session.ratchet
                  times := { session.times with created := old.times.created } })

/-- Rows that store sessions go on storing them. -/
theorem OlmRow.Holds.keptByWrites (key : PickleKey) : KeptByWrites key (OlmRow.Holds key) where
  session := OlmRow.Holds.session
  added stored := stored
  written stored same nonce := stored.amended same nonce

section Standing

variable {key : PickleKey} {stands : OlmRow → IdentityKey × Session → Prop}
variable {rows after : List OlmRow} {entries : List (IdentityKey × Session)}

/-- Writing a session to the row with its identifier makes it stand for that session, and the
other rows stand for what they stood for.
-/
theorem KeptByWrites.updated (kept : KeptByWrites key stands) (session : Session)
    (nonce : Aead.Nonce) (each : List.Forall₂ stands rows entries)
    : List.Forall₂ stands
        (Rows.amend (fun row => row.session = session.id)
          (fun row =>
            { row with
              blob := session.pickle key nonce
              encrypted := session.times.encrypted
              decrypted := session.times.decrypted })
          rows)
        (entries.map fun (sender, old) =>
          if old.id = session.id then
            (sender,
              { old with
                ratchet := session.ratchet
                times := { session.times with created := old.times.created } })
          else (sender, old)) := by
  unfold Rows.amend
  rw [List.forall₂_map_left_iff, List.forall₂_map_right_iff]
  refine each.imp ?_
  rintro row ⟨sender, old⟩ stood
  have id : row.session = old.id := kept.session stood
  by_cases same : old.id = session.id
  · simpa [id, same] using kept.written stood same nonce
  · simpa [id, same] using stood

/-- Rows that stand for what some writes say stand for what they say with a further write. -/
theorem KeptByWrites.further (kept : KeptByWrites key stands) {writes : List OlmWrite}
    {write : Option OlmWrite}
    (each : List.Forall₂ stands rows (OlmWrite.current (OlmWrite.sinceWiped writes)))
    (change : OlmChange key rows write after)
    : List.Forall₂ stands after
        (OlmWrite.current (OlmWrite.sinceWiped (writes ++ write.toList))) := by
  cases change with
  | nothing =>
    rw [Option.toList_none, List.append_nil]
    exact each
  | wiped =>
    rw [Option.toList_some, OlmWrite.sinceWiped_append_wiped]
    exact .nil
  | @added sender session row stored absent =>
    rw [Option.toList_some, OlmWrite.sinceWiped_append_of_ne (by simp),
      OlmWrite.current_append_added]
    · exact List.rel_append each (.cons (kept.added stored) .nil)
    · intro entry member same
      -- The identifiers of what was written are those of the rows, among which it is new.
      have id : entry.2.id ∈ rows.map OlmRow.session := by
        have ids
            : rows.map OlmRow.session
              = (OlmWrite.current (OlmWrite.sinceWiped writes)).map fun entry => entry.2.id :=
          Rows.map_eq_map (fun _ _ => kept.session) each
        rw [ids]
        exact List.mem_map_of_mem member
      obtain ⟨old, member, owns⟩ := List.mem_map.mp id
      exact absent old member (owns.trans same)
  | @updated session nonce =>
    rw [Option.toList_some, OlmWrite.sinceWiped_append_of_ne (by simp),
      OlmWrite.current_append_updated]
    exact kept.updated session nonce each

/-- A change gives no two rows one identifier. -/
theorem OlmChange.nodup_session {write : Option OlmWrite} (change : OlmChange key rows write after)
    (distinct : (rows.map OlmRow.session).Nodup)
    : (after.map OlmRow.session).Nodup := by
  cases change with
  | nothing => exact distinct
  | wiped => exact List.nodup_nil
  | added stored absent =>
    refine Rows.nodup_map_concat distinct ?_
    intro old member
    rw [stored.session]
    exact absent old member
  | updated nonce =>
    rw [Rows.map_amend]
    · exact distinct
    · intro row _
      rfl

end Standing

/-- The rows that store some sessions under their keys: one row for each session, and no two
sessions with one identifier.
-/
structure HoldsOlm (key : PickleKey) (rows : List OlmRow) (entries : List (IdentityKey × Session))
    : Prop where
  opened : List.Forall₂ (OlmRow.Holds key) rows entries
  distinct : (entries.map fun entry => entry.2.id).Nodup

namespace HoldsOlm

variable {key : PickleKey} {rows after : List OlmRow} {entries : List (IdentityKey × Session)}

/-- Every row stores a session. -/
theorem exists_holds (holds : HoldsOlm key rows entries) {row : OlmRow} (member : row ∈ rows)
    : ∃ entry, row.Holds key entry := by
  have opened := holds.opened
  clear holds
  induction opened with
  | nil => cases member
  | cons first _ ih =>
    rcases List.mem_cons.mp member with rfl | later
    · exact ⟨_, first⟩
    · exact ih later

/-- The rows have the identifiers of the sessions. -/
theorem map_session (holds : HoldsOlm key rows entries)
    : rows.map OlmRow.session = entries.map fun entry => entry.2.id :=
  Rows.map_eq_map (fun _ _ => OlmRow.Holds.session) holds.opened

/-- Rows that store what some writes say store what they say with a further write. -/
theorem further {writes : List OlmWrite} {write : Option OlmWrite}
    (holds : HoldsOlm key rows (OlmWrite.current (OlmWrite.sinceWiped writes)))
    (change : OlmChange key rows write after)
    : HoldsOlm key after (OlmWrite.current (OlmWrite.sinceWiped (writes ++ write.toList))) := by
  have opened := (OlmRow.Holds.keptByWrites key).further holds.opened change
  have distinct : (rows.map OlmRow.session).Nodup := by
    rw [holds.map_session]
    exact holds.distinct
  have ids
      : after.map OlmRow.session
        = (OlmWrite.current (OlmWrite.sinceWiped (writes ++ write.toList))).map
            fun entry => entry.2.id :=
    Rows.map_eq_map (fun _ _ => OlmRow.Holds.session) opened
  exact ⟨opened, ids ▸ change.nodup_session distinct⟩

end HoldsOlm

/-- A further moment adds what it writes. -/
theorem olmSessionsWritten_append (owner : AccountId) (past : List Moment) (moment : Moment)
    : olmSessionsWritten owner (past ++ [moment])
      = OlmWrite.current (OlmWrite.sinceWiped
          (past.filterMap (Moment.olmWrite? owner) ++ (moment.olmWrite? owner).toList)) := by
  unfold olmSessionsWritten
  rw [List.filterMap_append]
  cases write : moment.olmWrite? owner <;> simp [List.filterMap, write]

/-- A deployment whose tables follow the writes of some moments, where all vaults of the
account have one key.
-/
structure FollowsWrites (owner : AccountId) (key : PickleKey) (past : List Moment)
    (deployment : Deployment)
    : Prop where
  keyed : deployment.Keyed owner key
  holds : HoldsOlm key (deployment.database.olmOf owner) (olmSessionsWritten owner past)

namespace FollowsWrites

variable {owner : AccountId} {key : PickleKey}

/-- New tables hold no session, and no vault is open on them. -/
theorem start (owner : AccountId) (key : PickleKey)
    : FollowsWrites owner key [] Deployment.empty where
  keyed name handle opened := by cases opened
  holds := ⟨.nil, .nil⟩

/-- A further moment that opens vaults of the account with its key keeps the tables
following.
-/
theorem further {past : List Moment} {moment : Moment}
    (follows : FollowsWrites owner key past moment.met)
    (opening : moment.event.Keyed owner key)
    : FollowsWrites owner key (past ++ [moment]) moment.left where
  keyed := Moment.keyed_left follows.keyed opening
  holds := by
    rw [olmSessionsWritten_append]
    exact follows.holds.further (moment.olmChange follows.keyed)

end FollowsWrites

/-- The tables follow every history on new tables that opens the vaults of an account with
one key, by induction over the moments.
-/
theorem followsWrites_run {owner : AccountId} {key : PickleKey}
    {history : List (Aead.Nonce × Event)}
    (keyed : ∀ entry ∈ history, entry.2.Keyed owner key)
    : FollowsWrites owner key (Deployment.empty.moments history)
        (Deployment.empty.run history).2 := by
  refine Deployment.run_induction history (motive := FollowsWrites owner key)
    (.start owner key) ?_
  intro past moment member follows
  exact follows.further (keyed _ member)

end KeyVault
