import KeyVault.Proofs.Olm.Rows
/-!
What a vault has cached of its one-to-one sessions is filed: it is a shared session of the
identifier under which it is cached, and the account has a row of it under the same key. A
call that does not delete the account loses nothing of this, and caches what it hands out.
-/

namespace KeyVault

-----------------------------------------------------------------------------------------
-- Shared sessions are never lost
-----------------------------------------------------------------------------------------

/-- Every shared session stays where it is, with its identifier. -/
def SharedSessions.Keeps (before after : SharedSessions) : Prop :=
  ∀ ref session,
    before.get? ref = some session
    → ∃ later, after.get? ref = some later ∧ later.id = session.id

namespace SharedSessions.Keeps

theorem refl (shared : SharedSessions) : shared.Keeps shared :=
  fun _ session there => ⟨session, there, rfl⟩

theorem trans {first second third : SharedSessions} (before : first.Keeps second)
    (after : second.Keeps third)
    : first.Keeps third := by
  intro ref session there
  obtain ⟨next, there, same⟩ := before ref session there
  obtain ⟨last, there, still⟩ := after ref next there
  exact ⟨last, there, still.trans same⟩

/-- A further session takes a reference that no session has. -/
theorem add (shared : SharedSessions) (owner : AccountId) (session : Session)
    : shared.Keeps (shared.add owner session).2 := by
  intro ref old there
  exact ⟨old, get?_add_of_some owner session there, rfl⟩

/-- A session that is changed in place keeps its identifier if the change does. -/
theorem modify (shared : SharedSessions) (ref : SessionRef) {change : Session → Session}
    (kept : ∀ session, (change session).id = session.id)
    : shared.Keeps (shared.modify ref change) := by
  intro other session there
  rw [get?_modify]
  split
  · exact ⟨change session, by simp [there], kept session⟩
  · exact ⟨session, there, rfl⟩

end SharedSessions.Keeps

-----------------------------------------------------------------------------------------
-- What is cached is filed, and stays filed as nothing is lost
-----------------------------------------------------------------------------------------

namespace State

/-- A reference to a shared session with an identifier, of which an account has a row under
a key.
-/
def Filed (state : State) (owner : AccountId) (sender : IdentityKey) (id : SessionId)
    (ref : SessionRef)
    : Prop :=
  (∃ session, state.shared.get? ref = some session ∧ session.id = id)
  ∧ ∃ row ∈ state.database.olmOf owner, row.session = id ∧ row.sender = sender

/-- Everything that is cached is filed under its key and its identifier. -/
def Filing (state : State) (owner : AccountId) : Prop :=
  ∀ sender id ref, state.cache.get? sender id = some ref → state.Filed owner sender id ref

/-- Nothing that was shared, stored or cached is lost. -/
structure Extends (owner : AccountId) (before after : State) : Prop where
  shared : before.shared.Keeps after.shared
  rows
    : ∀ row ∈ before.database.olmOf owner,
        ∃ later ∈ after.database.olmOf owner,
          later.session = row.session ∧ later.sender = row.sender
  cached
    : ∀ sender id ref,
        before.cache.get? sender id = some ref → after.cache.get? sender id = some ref

namespace Extends

variable {owner : AccountId} {before between after : State}

theorem refl (owner : AccountId) (state : State) : state.Extends owner state where
  shared := .refl state.shared
  rows row member := ⟨row, member, rfl, rfl⟩
  cached _ _ _ there := there

theorem trans (first : before.Extends owner between) (second : between.Extends owner after)
    : before.Extends owner after where
  shared := first.shared.trans second.shared
  rows row member := by
    obtain ⟨next, member, session, sender⟩ := first.rows row member
    obtain ⟨last, member, session', sender'⟩ := second.rows next member
    exact ⟨last, member, session'.trans session, sender'.trans sender⟩
  cached sender id ref there := second.cached sender id ref (first.cached sender id ref there)

/-- What is filed stays filed. -/
theorem filed (grown : before.Extends owner after) {sender : IdentityKey} {id : SessionId}
    {ref : SessionRef} (filed : before.Filed owner sender id ref)
    : after.Filed owner sender id ref := by
  obtain ⟨⟨session, there, own⟩, row, member, session', sender'⟩ := filed
  obtain ⟨later, there, same⟩ := grown.shared ref session there
  obtain ⟨next, member, still, under⟩ := grown.rows row member
  exact ⟨⟨later, there, same.trans own⟩, next, member, still.trans session', under.trans sender'⟩

/-- A cache that did not change stays filed. -/
theorem filing_of_eq (grown : before.Extends owner after) (same : after.cache = before.cache)
    (filing : before.Filing owner)
    : after.Filing owner := by
  intro sender id ref there
  rw [same] at there
  exact grown.filed (filing sender id ref there)

/-- A cache in which one more reference is filed, under an identifier that is free, stays
filed.
-/
theorem filing_of_insert (grown : before.Extends owner after) {sender : IdentityKey}
    {id : SessionId}
    {ref : SessionRef} (inserted : after.cache = before.cache.insert sender id ref)
    (filed : after.Filed owner sender id ref) (filing : before.Filing owner)
    : after.Filing owner := by
  intro other otherId otherRef there
  rw [inserted, Cache.get?_insert] at there
  by_cases here : other = sender ∧ otherId = id
  · rw [if_pos here] at there
    obtain ⟨rfl, rfl⟩ := here
    cases there
    exact filed
  · rw [if_neg here] at there
    exact grown.filed (filing other otherId otherRef there)

/-- Sharing a session under an identifier that is free loses nothing. -/
theorem share {state : State} {sender : IdentityKey} {session : Session}
    (free : state.cache.get? sender session.id = none)
    : state.Extends owner (state.share owner sender session).2 where
  shared := .add state.shared owner session
  rows row member := ⟨row, member, rfl, rfl⟩
  cached _ _ _ there := Cache.get?_insert_of_free free _ there

end Extends

/-- What was shared is cached for its key under its identifier. -/
theorem get?_cache_share (state : State) (owner : AccountId) (sender : IdentityKey)
    (session : Session)
    : (state.share owner sender session).2.cache.get? sender session.id
      = some (state.share owner sender session).1 := by
  simp only [State.share, Cache.get?_insert, and_self, if_true]

/-- Sharing a session of which the account has a row leaves all filed. -/
theorem Filing.share {state : State} {owner : AccountId} {session : Session} {row : OlmRow}
    (filing : state.Filing owner) (member : row ∈ state.database.olmOf owner)
    (stored : row.session = session.id) (free : state.cache.get? row.sender session.id = none)
    : (state.share owner row.sender session).2.Filing owner :=
  (Extends.share free).filing_of_insert rfl
    ⟨⟨session, state.get?_share .., rfl⟩, row, member, stored, rfl⟩ filing

end State

-----------------------------------------------------------------------------------------
-- Opening rows hands out what is cached afterwards
-----------------------------------------------------------------------------------------

namespace Vault

variable {vault : Vault} {nonce : Aead.Nonce} {sender : IdentityKey} {state : State}

/-- A row that can be read for a key: it is of the account and the key, and it stores a
session.
-/
structure Readable (vault : Vault) (sender : IdentityKey) (state : State) (row : OlmRow)
    : Prop where
  member : row ∈ state.database.olmOf vault.owner
  under : row.sender = sender
  stored : ∃ entry, row.Holds vault.key entry

/-- Opening a row hands out what is cached for it afterwards. What was cached stays, and
what is opened is cached under its own identifier.
-/
theorem openRow_extends {row : OlmRow} (readable : vault.Readable sender state row)
    (filing : state.Filing vault.owner)
    : ∃ ref after,
        vault.openRow sender row state = (.ok ref, after)
        ∧ after.database = state.database
        ∧ state.Extends vault.owner after
        ∧ after.Filing vault.owner
        ∧ after.cache.get? sender row.session = some ref := by
  cases cached : state.cache.get? sender row.session with
  | some ref =>
    refine ⟨ref, state, ?_, rfl, .refl .., filing, cached⟩
    simp only [openRow, cached]
  | none =>
    obtain ⟨entry, stored⟩ := readable.stored
    have opens := openRow_of_uncached stored cached
    have free : state.cache.get? sender entry.2.id = none := stored.session ▸ cached
    have own : row.sender = sender := readable.under
    subst own
    refine ⟨_, _, opens, rfl, .share free,
      filing.share readable.member stored.session free, ?_⟩
    rw [stored.session]
    exact State.get?_cache_share ..

/-- Opening rows hands out what is cached afterwards, by induction over the rows. -/
theorem openRows_extends {rows : List OlmRow}
    (readable : ∀ row ∈ rows, vault.Readable sender state row)
    (filing : state.Filing vault.owner)
    : ∃ refs after,
        vault.openRows sender rows state = (.ok refs, after)
        ∧ after.database = state.database
        ∧ state.Extends vault.owner after
        ∧ after.Filing vault.owner
        ∧ ∀ ref ∈ refs, ∃ id, after.cache.get? sender id = some ref := by
  induction rows generalizing state with
  | nil => exact ⟨[], state, rfl, rfl, .refl .., filing, by simp⟩
  | cons row rows ih =>
    obtain ⟨ref, between, opens, same, first, filing, cached⟩ :=
      openRow_extends (readable row (List.mem_cons_self ..)) filing
    have later : ∀ row ∈ rows, vault.Readable sender between row := by
      intro other member
      obtain ⟨member, under, stored⟩ := readable other (List.mem_cons_of_mem _ member)
      exact ⟨same ▸ member, under, stored⟩
    obtain ⟨refs, after, reads, still, rest, filing, all⟩ := ih later filing
    refine ⟨ref :: refs, after, ?_, still.trans same, first.trans rest, filing, ?_⟩
    · simp only [openRows, opens, reads]
    · intro other member
      rcases List.mem_cons.mp member with rfl | member
      · exact ⟨row.session, rest.cached _ _ _ cached⟩
      · exact all other member

/-- The rows that are read for a key can be read. -/
theorem readable_of_mem (vault : Vault) {entries : List (IdentityKey × Session)}
    (sender : IdentityKey)
    (holds : HoldsOlm vault.key (state.database.olmOf vault.owner) entries)
    : ∀ row ∈ state.database.olmSessions vault.owner sender, vault.Readable sender state row := by
  intro row member
  obtain ⟨own, under⟩ := Database.mem_olmSessions.mp member
  exact ⟨own, under, holds.exists_holds own⟩

end Vault

-----------------------------------------------------------------------------------------
-- Every call but a deletion leaves all filed
-----------------------------------------------------------------------------------------

/-- The references that an answer to an operation hands out, with the key that they are
handed out for.
-/
def Operation.handsOut (operation : Operation) (result : Except StoreFault Answer)
    : List (IdentityKey × SessionRef) :=
  match operation, result with
  | addSession sender _, .ok (.session ref) => [(sender, ref)]
  | getSessions sender, .ok (.sessions refs) => refs.map fun ref => (sender, ref)
  | getLatestSession sender, .ok (.latest (some ref)) => [(sender, ref)]
  | _, _ => []

namespace Vault

/-- What a call leaves of the one-to-one sessions that a vault has cached: nothing is lost,
all is filed, and what was handed out is cached under its key.
-/
structure LeavesFiled (vault : Vault) (state : State) (operation : Operation)
    (outcome : Outcome Answer)
    : Prop where
  grown : state.Extends vault.owner outcome.state
  filing : outcome.state.Filing vault.owner
  cached
    : ∀ entry ∈ operation.handsOut outcome.result,
        ∃ id, outcome.state.cache.get? entry.1 id = some entry.2

variable {vault : Vault} {nonce : Aead.Nonce} {sender : IdentityKey} {state : State}
variable {entries : List (IdentityKey × Session)}

/-- A call that hands out nothing and leaves the shared sessions, the rows and the cache
leaves all filed.
-/
theorem LeavesFiled.of_unchanged {operation : Operation} {outcome : Outcome Answer}
    (filing : state.Filing vault.owner) (grown : state.Extends vault.owner outcome.state)
    (kept : outcome.state.cache = state.cache) (silent : operation.handsOut outcome.result = [])
    : vault.LeavesFiled state operation outcome where
  grown := grown
  filing := grown.filing_of_eq kept filing
  cached := by simp [silent]

theorem getSessions_leavesFiled
    (holds : HoldsOlm vault.key (state.database.olmOf vault.owner) entries)
    (filing : state.Filing vault.owner)
    : vault.LeavesFiled state (.getSessions sender)
        (vault.perform nonce (.getSessions sender) state) := by
  cases online : vault.online with
  | false =>
    have failed : vault.perform nonce (.getSessions sender) state = vault.offline state := by
      simp [perform, getSessions, online]
    rw [failed]
    exact .of_unchanged filing (.refl ..) rfl rfl
  | true =>
    obtain ⟨refs, after, reads, _, grown, filed, all⟩ :=
      openRows_extends (vault.readable_of_mem sender holds) filing
    have performed
        : vault.perform nonce (.getSessions sender) state = .done (.sessions refs) after := by
      simp [perform, getSessions, online, reads, opened]
    rw [performed]
    refine ⟨grown, filed, ?_⟩
    intro entry member
    obtain ⟨ref, among, rfl⟩ := List.mem_map.mp member
    exact all ref among

theorem getLatestSession_leavesFiled
    (holds : HoldsOlm vault.key (state.database.olmOf vault.owner) entries)
    (filing : state.Filing vault.owner)
    : vault.LeavesFiled state (.getLatestSession sender)
        (vault.perform nonce (.getLatestSession sender) state) := by
  cases online : vault.online with
  | false =>
    have failed : vault.perform nonce (.getLatestSession sender) state = vault.offline state := by
      simp [perform, getLatestSession, online]
    rw [failed]
    exact .of_unchanged filing (.refl ..) rfl rfl
  | true =>
    have readable := vault.readable_of_mem sender holds
    cases rows : state.database.olmSessions vault.owner sender with
    | nil =>
      have performed
          : vault.perform nonce (.getLatestSession sender) state
            = .done (.latest none) state := by
        simp [perform, getLatestSession, online, rows]
      rw [performed]
      exact .of_unchanged filing (.refl ..) rfl rfl
    | cons row older =>
      rw [rows] at readable
      obtain ⟨ref, after, opens, _, grown, filed, cached⟩ :=
        openRow_extends (readable row (List.mem_cons_self ..)) filing
      have performed
          : vault.perform nonce (.getLatestSession sender) state
            = .done (.latest (some ref)) after := by
        simp [perform, getLatestSession, online, rows, opens, opened, Except.map]
      rw [performed]
      refine ⟨grown, filed, ?_⟩
      intro entry member
      cases List.mem_singleton.mp member
      exact ⟨_, cached⟩

/-- A session that can be added has no row, so that nothing is cached under its identifier. -/
theorem uncached_of_absent {id : SessionId} (filing : state.Filing vault.owner)
    (absent : ∀ old ∈ state.database.olm, old.owner = vault.owner → old.session ≠ id)
    (sender : IdentityKey)
    : state.cache.get? sender id = none := by
  cases cached : state.cache.get? sender id with
  | none => rfl
  | some ref =>
    obtain ⟨_, row, member, same, _⟩ := filing sender id ref cached
    obtain ⟨member, owned⟩ := List.mem_filter.mp member
    exact absurd same (absent row member (of_decide_eq_true owned))

/-- Adding a session fails and leaves everything, or succeeds without a notice and files the
new object.
-/
theorem addSession_cases (nonce : Aead.Nonce) (sender : IdentityKey) (session : Session)
    (filing : state.Filing vault.owner)
    : (∃ fault,
        (vault.addSession nonce sender session state).result = .error fault
        ∧ (vault.addSession nonce sender session state).state = state)
      ∨ ∃ ref after,
          vault.addSession nonce sender session state = .done ref after
          ∧ state.Extends vault.owner after
          ∧ after.Filing vault.owner
          ∧ after.cache.get? sender session.id = some ref := by
  unfold addSession Outcome.noting
  cases online : vault.online with
  | false => exact .inl ⟨_, rfl, rfl⟩
  | true =>
    cases inserted : state.database.insertOlm (vault.rowOfSession nonce sender session) with
    | error fault => exact .inl ⟨_, rfl, rfl⟩
    | ok database =>
      obtain ⟨absent, rfl⟩ := Database.insertOlm_eq_ok inserted
      have free : state.cache.get? sender session.id = none :=
        uncached_of_absent filing absent sender
      -- The row is inserted first, so that what is then shared is filed under it.
      let stored : State :=
        { state with
          database := { state.database with
            olm := state.database.olm ++ [vault.rowOfSession nonce sender session] } }
      have rows
          : stored.database.olmOf vault.owner
            = state.database.olmOf vault.owner ++ [vault.rowOfSession nonce sender session] :=
        Database.olmOf_append _ _ rfl
      have grown : state.Extends vault.owner stored :=
        { shared := .refl _
          rows := by
            intro row member
            exact ⟨row, rows ▸ List.mem_append_left _ member, rfl, rfl⟩
          cached := fun _ _ _ there => there }
      have member
          : vault.rowOfSession nonce sender session ∈ stored.database.olmOf vault.owner := by
        rw [rows]
        exact List.mem_append_right _ (List.mem_singleton.mpr rfl)
      refine .inr ⟨(stored.share vault.owner sender session).1,
        (stored.share vault.owner sender session).2, ?_, grown.trans (.share free),
        (grown.filing_of_eq rfl filing).share member rfl free, State.get?_cache_share ..⟩
      simp [Cache.contains, free, Outcome.done, State.share, stored]

theorem addSession_leavesFiled (session : Session) (filing : state.Filing vault.owner)
    : vault.LeavesFiled state (.addSession sender session)
        (vault.perform nonce (.addSession sender session) state) := by
  simp only [perform, Outcome.answering]
  rcases addSession_cases nonce sender session filing with
    ⟨fault, failed, same⟩ | ⟨ref, after, added, grown, filed, cached⟩
  · rw [failed, same]
    exact .of_unchanged filing (.refl ..) rfl rfl
  · rw [added]
    refine ⟨grown, filed, ?_⟩
    intro entry member
    cases List.mem_singleton.mp member
    exact ⟨_, cached⟩

/-- The operations that hand out no session and leave what is shared and what is cached. -/
theorem Effect.cache {after : State} {operation : Operation}
    (effect : vault.Effect nonce state operation after) (notDeleting : operation ≠ .delete)
    (notReading : ∀ sender, operation ≠ .getSessions sender)
    (notReadingLatest : ∀ sender, operation ≠ .getLatestSession sender)
    (notAdding : ∀ sender session, operation ≠ .addSession sender session)
    : after.cache = state.cache ∧ after.shared = state.shared := by
  cases effect
  case delete => exact absurd rfl notDeleting
  case getSessions => exact absurd rfl (notReading _)
  case getLatestSession => exact absurd rfl (notReadingLatest _)
  case addSession => exact absurd rfl (notAdding _ _)
  all_goals exact ⟨rfl, rfl⟩

/-- Every call that does not delete the account leaves all filed. -/
theorem perform_leavesFiled (nonce : Aead.Nonce) (operation : Operation)
    (holds : HoldsOlm vault.key (state.database.olmOf vault.owner) entries)
    (filing : state.Filing vault.owner)
    (undeleted : vault.olmWrite? nonce state operation ≠ some .wiped)
    : vault.LeavesFiled state operation (vault.perform nonce operation state) := by
  have rows := (vault.perform_olmChange nonce state operation).kept undeleted
  have effect := vault.perform_effect nonce state operation
  cases operation
  case getSessions => exact getSessions_leavesFiled holds filing
  case getLatestSession => exact getLatestSession_leavesFiled holds filing
  case addSession => exact addSession_leavesFiled _ filing
  case delete =>
    cases online : vault.online with
    | false =>
      have failed : vault.perform nonce .delete state = vault.offline state := by
        simp [perform, delete, online]
      rw [failed]
      exact .of_unchanged filing (.refl ..) rfl rfl
    | true =>
      refine absurd ?_ undeleted
      simp only [olmWrite?, perform, delete, online, if_true, Outcome.answering_done]
      rfl
  all_goals
    obtain ⟨cache, shared⟩ := effect.cache (by simp) (by simp) (by simp) (by simp)
    refine .of_unchanged filing ⟨shared ▸ .refl _, rows, ?_⟩ cache rfl
    intro sender id ref there
    rw [cache]
    exact there

-----------------------------------------------------------------------------------------
-- No event loses a shared session
-----------------------------------------------------------------------------------------

/-- Opening a row keeps the shared sessions. -/
theorem openRow_keeps {row : OlmRow} {result : Except PickleFault SessionRef} {after : State}
    (opens : vault.openRow sender row state = (result, after))
    : state.shared.Keeps after.shared := by
  cases opens_of_openRow opens with
  | cached => exact .refl _
  | failed => exact .refl _
  | opened => exact .add _ _ _

/-- Opening rows keeps the shared sessions. -/
theorem openRows_keeps {rows : List OlmRow} {result : Except PickleFault (List SessionRef)}
    {after : State}
    (opens : vault.openRows sender rows state = (result, after))
    : state.shared.Keeps after.shared :=
  openRows_related (R := fun before after => before.shared.Keeps after.shared)
    (fun state => .refl state.shared) .trans openRow_keeps opens

/-- No operation loses a shared session. -/
theorem Effect.keeps {after : State} {operation : Operation}
    (effect : vault.Effect nonce state operation after)
    : state.shared.Keeps after.shared := by
  cases effect
  case getSessions opens =>
    have kept := openRows_keeps opens
    exact kept
  case getLatestSession opens =>
    have kept := openRow_keeps opens
    exact kept
  case addSession => exact .add _ _ _
  all_goals exact .refl _

end Vault

namespace Moment

/-- No event loses a shared session. -/
theorem keeps (moment : Moment) : moment.met.shared.Keeps moment.left.shared := by
  cases called : moment.call? with
  | some call =>
    obtain ⟨handle, operation⟩ := call
    obtain ⟨name, _, _, settled⟩ := settled_of_call called
    rw [settled]
    exact (moment.effect handle operation).keeps
  | none =>
    obtain ⟨met, nonce, event⟩ := moment
    cases event with
    | call name operation =>
      have closed : met.handle? name = none := by simpa [call?] using called
      simp only [left, Deployment.step, closed]
      exact .refl _
    | openVault name owner key =>
      simp only [left, Deployment.step, Deployment.openVault]
      split <;> exact .refl _
    | shareVault name source owner key =>
      simp only [left, Deployment.step]
      split <;> exact .refl _
    | closePool name =>
      simp only [left, Deployment.step]
      split <;> exact .refl _
    | detachedVault name owner key => exact .refl _
    | share owner session => exact .add _ _ _
    | markEncrypted ref time => exact .modify _ _ fun _ => rfl
    | markDecrypted ref time => exact .modify _ _ fun _ => rfl
    | setRatchet ref ratchet => exact .modify _ _ fun _ => rfl

end Moment

end KeyVault
