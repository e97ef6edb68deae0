import KeyVault.Proofs.Olm.Columns
import KeyVault.Proofs.Olm.Filing
/-!
Reading the sessions of a key. They are handed out in descending order of the instants that
were last written as those of their last decryption, whatever vault wrote them and whatever
the reading vault has cached.
-/

namespace KeyVault

-----------------------------------------------------------------------------------------
-- What is cached has the identifier under which it is cached
-----------------------------------------------------------------------------------------

/-- Everything that is cached is a shared session of the identifier that it is cached under. -/
def Cache.Labels (cache : Cache) (shared : SharedSessions) : Prop :=
  ∀ sender id ref,
    cache.get? sender id = some ref → ∃ session, shared.get? ref = some session ∧ session.id = id

namespace Cache.Labels

variable {cache : Cache} {shared : SharedSessions}

theorem empty (shared : SharedSessions) : Cache.empty.Labels shared := by
  intro sender id ref there
  cases there

/-- What is cached keeps its identifier as long as no shared session is lost. -/
theorem keeps {later : SharedSessions} (labels : cache.Labels shared) (kept : shared.Keeps later)
    : cache.Labels later := by
  intro sender id ref there
  obtain ⟨session, found, own⟩ := labels sender id ref there
  obtain ⟨next, found, same⟩ := kept ref session found
  exact ⟨next, found, same.trans own⟩

/-- A session is cached under its own identifier. -/
theorem insert (labels : cache.Labels shared) (sender : IdentityKey) {ref : SessionRef}
    {session : Session} (there : shared.get? ref = some session)
    : (cache.insert sender session.id ref).Labels shared := by
  intro other id kept found
  rw [Cache.get?_insert] at found
  by_cases here : other = sender ∧ id = session.id
  · rw [if_pos here] at found
    cases found
    exact ⟨session, there, here.2.symm⟩
  · rw [if_neg here] at found
    exact labels other id kept found

/-- A session is cached under its own identifier when none is cached there. -/
theorem getOrInsert (labels : cache.Labels shared) (sender : IdentityKey) {ref : SessionRef}
    {session : Session} (there : shared.get? ref = some session)
    : (cache.getOrInsert sender session.id ref).2.Labels shared := by
  unfold Cache.getOrInsert
  cases cache.get? sender session.id with
  | some kept => exact labels
  | none => exact labels.insert sender there

end Cache.Labels

/-- A session that is shared is found under its new reference. -/
theorem SharedSessions.get?_add_self (shared : SharedSessions) (owner : AccountId)
    (session : Session)
    : (shared.add owner session).2.get? (shared.add owner session).1 = some session := by
  rw [get?_add, if_pos rfl]

namespace Vault

variable {vault : Vault} {nonce : Aead.Nonce} {sender : IdentityKey} {state after : State}

/-- Opening a row caches what it opens to under its own identifier. -/
theorem openRow_labels {row : OlmRow} {result : Except PickleFault SessionRef}
    (opens : vault.openRow sender row state = (result, after))
    (labels : state.cache.Labels state.shared)
    : after.cache.Labels after.shared := by
  have kept := openRow_keeps opens
  cases opens_of_openRow opens with
  | cached => exact labels
  | failed => exact labels
  | opened => exact (labels.keeps kept).getOrInsert sender (SharedSessions.get?_add_self ..)

/-- So does opening rows. -/
theorem openRows_labels {rows : List OlmRow} {result : Except PickleFault (List SessionRef)}
    (opens : vault.openRows sender rows state = (result, after))
    (labels : state.cache.Labels state.shared)
    : after.cache.Labels after.shared :=
  openRows_related
    (R := fun before after =>
      before.cache.Labels before.shared → after.cache.Labels after.shared)
    (fun _ labels => labels) (fun before after labels => after (before labels)) openRow_labels opens
    labels

/-- Every operation leaves in the cache what has the identifier that it is cached under. -/
theorem Effect.labels {operation : Operation} (effect : vault.Effect nonce state operation after)
    (labels : state.cache.Labels state.shared)
    : after.cache.Labels after.shared := by
  cases effect
  case delete => exact .empty _
  case getSessions opens =>
    have opened := openRows_labels opens labels
    exact opened
  case getLatestSession opens =>
    have opened := openRow_labels opens labels
    exact opened
  case addSession session _ =>
    have kept := SharedSessions.Keeps.add state.shared vault.owner session
    exact (labels.keeps kept).insert _ (SharedSessions.get?_add_self ..)
  all_goals exact labels

end Vault

/-- Every open vault has cached sessions under their identifiers. -/
def Deployment.LabelledCaches (deployment : Deployment) : Prop :=
  ∀ name handle, deployment.handle? name = some handle → handle.cache.Labels deployment.shared

/-- Every event leaves the caches with sessions under their identifiers: no shared session is
lost, and a call caches what it opens under its identifier.
-/
theorem Moment.labelledCaches_left {moment : Moment} (labelled : moment.met.LabelledCaches)
    : moment.left.LabelledCaches := by
  intro name handle opened
  rcases moment.handle?_left name with
    same | ⟨owner, key, backend, _, fresh⟩ | ⟨before, operation, event, there, kept⟩
  · exact (labelled name handle (same ▸ opened)).keeps moment.keeps
  · cases Option.some.inj (fresh.symm.trans opened)
    exact .empty _
  · cases Option.some.inj (kept.symm.trans opened)
    have called : moment.call? = some (before, operation) := call?_of_event event there
    obtain ⟨_, _, _, settled⟩ := settled_of_call called
    rw [settled]
    exact (moment.effect before operation).labels (labelled name before there)

/-- So does every history on new tables, by induction over its events. -/
theorem labelledCaches_run (history : List (Aead.Nonce × Event))
    : (Deployment.empty.run history).2.LabelledCaches := by
  refine Deployment.run_induction history (motive := fun _ deployment =>
    deployment.LabelledCaches) (fun _ _ opened => nomatch opened) ?_
  intro past moment _ before
  exact Moment.labelledCaches_left before

-----------------------------------------------------------------------------------------
-- Rows that a vault can hand out
-----------------------------------------------------------------------------------------

/-- A row that can be handed out: a session is cached for it, or else it opens with the key to
the session that it is the row of.
-/
def OlmRow.Available (row : OlmRow) (key : PickleKey) (cache : Cache) : Prop :=
  (∃ ref, cache.get? row.sender row.session = some ref) ∨ ∃ entry, row.Holds key entry

namespace Vault

variable {vault : Vault} {sender : IdentityKey} {state : State}

/-- Opening such a row hands out what is cached for it afterwards, and loses nothing. -/
theorem openRow_of_available {row : OlmRow} (available : row.Available vault.key state.cache)
    : ∃ ref after,
        vault.openRow row.sender row state = (.ok ref, after)
        ∧ state.Extends vault.owner after
        ∧ after.cache.get? row.sender row.session = some ref := by
  cases cached : state.cache.get? row.sender row.session with
  | some ref => exact ⟨ref, state, by simp only [openRow, cached], .refl .., cached⟩
  | none =>
    rcases available with ⟨ref, there⟩ | ⟨entry, stored⟩
    · cases cached.symm.trans there
    · have free : state.cache.get? row.sender entry.2.id = none := stored.session ▸ cached
      refine ⟨_, _, openRow_of_uncached stored cached, .share free, ?_⟩
      rw [stored.session]
      exact State.get?_cache_share ..

/-- Opening such rows hands out sessions of their identifiers one by one, by induction over the
rows. What is cached on the way stays cached, so that the later rows can still be handed out.
-/
theorem openRows_of_available {rows : List OlmRow}
    (available : ∀ row ∈ rows, row.sender = sender ∧ row.Available vault.key state.cache)
    (labels : state.cache.Labels state.shared)
    : ∃ refs after,
        vault.openRows sender rows state = (.ok refs, after)
        ∧ state.Extends vault.owner after
        ∧ refs.map (fun ref => (after.shared.get? ref).map Session.id)
          = rows.map fun row => some row.session := by
  induction rows generalizing state with
  | nil => exact ⟨[], state, rfl, .refl .., rfl⟩
  | cons row rows ih =>
    obtain ⟨rfl, here⟩ := available row (List.mem_cons_self ..)
    obtain ⟨ref, between, opens, first, cached⟩ := openRow_of_available here
    have labels := openRow_labels opens labels
    have later
        : ∀ other ∈ rows,
            other.sender = row.sender ∧ other.Available vault.key between.cache := by
      intro other member
      obtain ⟨under, ⟨kept, there⟩ | opening⟩ := available other (List.mem_cons_of_mem _ member)
      · exact ⟨under, .inl ⟨kept, first.cached _ _ _ there⟩⟩
      · exact ⟨under, .inr opening⟩
    obtain ⟨refs, after, reads, rest, ids⟩ := ih later labels
    obtain ⟨session, there, own⟩ := labels _ _ _ cached
    obtain ⟨last, there, same⟩ := rest.shared ref session there
    refine ⟨ref :: refs, after, by simp only [openRows, opens, reads], first.trans rest, ?_⟩
    rw [List.map_cons, List.map_cons, ids, there, Option.map_some, same, own]

/-- Over an open pool the sessions of the rows that are read for a key are handed out one by one,
where all rows of the account under the key can be handed out.
-/
theorem perform_getSessions_of_available (nonce : Aead.Nonce) (online : vault.online = true)
    (labels : state.cache.Labels state.shared)
    (available
      : ∀ row ∈ state.database.olmOf vault.owner,
          row.sender = sender → row.Available vault.key state.cache)
    : ∃ refs after,
        vault.perform nonce (.getSessions sender) state = .done (.sessions refs) after
        ∧ refs.map (fun ref => (after.shared.get? ref).map Session.id)
          = (state.database.olmSessions vault.owner sender).map fun row => some row.session := by
  have served
      : ∀ row ∈ state.database.olmSessions vault.owner sender,
          row.sender = sender ∧ row.Available vault.key state.cache := by
    intro row member
    obtain ⟨own, under⟩ := Database.mem_olmSessions.mp member
    exact ⟨under, available row own under⟩
  obtain ⟨refs, after, reads, _, ids⟩ := openRows_of_available served labels
  exact ⟨refs, after, by simp [perform, getSessions, online, reads, opened], ids⟩

end Vault

/-- Where all vaults of an account have one key, all its rows can be handed out. -/
theorem available_of_keyed {history : List (Aead.Nonce × Event)} {owner : AccountId}
    {key : PickleKey} (keyed : ∀ entry ∈ history, entry.2.Keyed owner key) (cache : Cache)
    : ∀ row ∈ (Deployment.empty.run history).2.database.olmOf owner, row.Available key cache := by
  intro row member
  exact .inr ((followsWrites_run keyed).holds.exists_holds member)

-----------------------------------------------------------------------------------------
-- What a vault reads for a key
-----------------------------------------------------------------------------------------

/-- The sessions of a key come newest first: over an open pool, where every row is cached or opens,
they are those that were added since the account was last deleted, in descending order of the last
decryption that was written. Rows stand in the order of texts, which in years of four digits is
the order in time.
-/
theorem sessions_come_newest_first {history : List (Aead.Nonce × Event)} {name : String}
    {handle : Handle} (opened : (Deployment.empty.run history).2.handle? name = some handle)
    (online : (Deployment.empty.run history).2.isOnline handle.backend = true)
    (nonce : Aead.Nonce) {sender : IdentityKey}
    (dated
      : ∀ entry ∈ olmSessionsWritten handle.owner (Deployment.empty.moments history),
          entry.1 = sender → entry.2.times.decrypted.FourDigitYear)
    (available
      : ∀ row ∈ (Deployment.empty.run history).2.database.olmOf handle.owner,
          row.sender = sender → row.Available handle.key handle.cache)
    : let written := olmSessionsWritten handle.owner (Deployment.empty.moments history)
      let after :=
        (Deployment.empty.run history).2.step nonce (.call name (.getSessions sender))
      (∃ (refs : List SessionRef) (listed : List Session),
        after.1 = ⟨.ok (.sessions refs), []⟩
        ∧ refs.map (fun ref => (after.2.shared.get? ref).map Session.id)
          = listed.map (fun session => some session.id)
        ∧ listed.Perm ((written.filter fun entry => entry.1 = sender).map Prod.snd)
        ∧ listed.Pairwise fun newer older =>
            older.times.decrypted ≤ newer.times.decrypted)
      ∧ ∀ first later : Instant,
          first.FourDigitYear
          → later.FourDigitYear
          → (first.stamp ≤ later.stamp ↔ first ≤ later) := by
  intro written after
  refine ⟨?_, fun first later fits fits' => Instant.stamp_le_stamp_iff fits fits'⟩
  let reached := (Deployment.empty.run history).2
  have labels : handle.cache.Labels reached.shared := labelledCaches_run history name handle opened
  obtain ⟨listed, ids, same, order⟩ := exists_newest_first (records_run history handle.owner) dated
  obtain ⟨refs, state, performed, handed⟩ :=
    @Vault.perform_getSessions_of_available (reached.vaultOf handle) sender (reached.stateOf handle)
      nonce online labels available
  have settled : after = (⟨.ok (.sessions refs), []⟩, reached.settle name handle state) := by
    refine (Deployment.step_call opened nonce (.getSessions sender)).trans ?_
    rw [performed]
    rfl
  -- The rows that are read have the identifiers of the listed sessions.
  have named := congrArg (List.map some) ids
  rw [List.map_map, List.map_map] at named
  refine ⟨refs, listed, congrArg Prod.fst settled, ?_, same, order⟩
  rw [settled]
  exact handed.trans named

/-- A vault adds two sessions just before 1970 starts. The first one decrypts as it starts, which
another vault writes; the second one decrypts a second after that, which nobody writes.
-/
def decryptingTogether : List (Aead.Nonce × Event) :=
  let before : Instant := ⟨-2, 500_000_000, by decide⟩
  let later : Instant := ⟨-2, 750_000_000, by decide⟩
  let events : List Event :=
    [.openVault "first" ⟨"@a"⟩ ⟨.replicate 32 0⟩,
     .shareVault "second" "first" ⟨"@a"⟩ ⟨.replicate 32 0⟩,
     .call "first" (.addSession ⟨"curve"⟩ (.fresh ⟨"one"⟩ [1] before)),
     .call "first" (.addSession ⟨"curve"⟩ (.fresh ⟨"two"⟩ [1] later)),
     .markDecrypted ⟨⟨"@a"⟩, 0⟩ ⟨-1, 0, by decide⟩,
     .call "second" (.updateSession ⟨"curve"⟩ ⟨⟨"@a"⟩, 0⟩),
     .markDecrypted ⟨⟨"@a"⟩, 1⟩ ⟨-1, 250_000_000, by decide⟩]
  events.map fun event => (.replicate 24 0, event)

/-- The second vault, which has cached neither, then reads the first session in front. -/
theorem decryptingTogether_newest_first
    : let reached := (Deployment.empty.run decryptingTogether).2
      let handle := Handle.fresh ⟨"@a"⟩ ⟨.replicate 32 0⟩ (.sqlite 0)
      let after := reached.step (.replicate 24 0) (.call "second" (.getSessions ⟨"curve"⟩))
      reached.handle? "second" = some handle
      ∧ reached.isOnline handle.backend = true
      ∧ (∀ entry ∈ olmSessionsWritten ⟨"@a"⟩ (Deployment.empty.moments decryptingTogether),
          entry.1 = ⟨"curve"⟩ → entry.2.times.decrypted.FourDigitYear)
      ∧ (∀ row ∈ reached.database.olmOf ⟨"@a"⟩,
          row.sender = ⟨"curve"⟩ → row.Available handle.key handle.cache)
      ∧ ∃ refs : List SessionRef,
          after.1 = ⟨.ok (.sessions refs), []⟩
          ∧ refs.map (fun ref => (after.2.shared.get? ref).map Session.id)
            = [some ⟨"one"⟩, some ⟨"two"⟩] := by
  intro reached handle after
  have opened : reached.handle? "second" = some handle := by decide
  have online : reached.isOnline handle.backend = true := by decide
  have keyed : ∀ entry ∈ decryptingTogether, entry.2.Keyed ⟨"@a"⟩ ⟨.replicate 32 0⟩ := by
    simp [decryptingTogether, Event.Keyed, Event.opens?]
  have available
      : ∀ row ∈ reached.database.olmOf ⟨"@a"⟩,
          row.sender = ⟨"curve"⟩ → row.Available handle.key handle.cache :=
    fun row member _ => available_of_keyed keyed handle.cache row member
  have dated
      : ∀ entry ∈ olmSessionsWritten ⟨"@a"⟩ (Deployment.empty.moments decryptingTogether),
          entry.1 = ⟨"curve"⟩ → entry.2.times.decrypted.FourDigitYear := by
    decide +kernel
  obtain ⟨⟨refs, listed, answered, handed, same, order⟩, _⟩ :=
    sessions_come_newest_first opened online (.replicate 24 0) dated available
  let mark (session : Session) : Instant × SessionId := (session.times.decrypted, session.id)
  let marks : List (Instant × SessionId) :=
    [(⟨-1, 0, by decide⟩, ⟨"one"⟩), (⟨-2, 750_000_000, by decide⟩, ⟨"two"⟩)]
  have written
      : (((olmSessionsWritten ⟨"@a"⟩ (Deployment.empty.moments decryptingTogether)).filter
            fun entry => entry.1 = ⟨"curve"⟩).map Prod.snd).map mark
        = marks := by
    decide
  have among : (listed.map mark).Perm marks := written ▸ same.map mark
  have sorted : (listed.map mark).Pairwise fun newer older => older.1 ≤ newer.1 :=
    List.pairwise_map.mpr order
  -- The two instants differ, so that only one order of the two sessions is descending.
  have apart : ∀ newer ∈ marks, ∀ older ∈ marks,
      older.1 ≤ newer.1 → newer.1 ≤ older.1 → newer = older := by
    decide
  have listing : listed.map mark = marks :=
    List.Perm.eq_of_pairwise
      (fun newer older there there' => apart newer (among.subset there) older there') sorted
      (by decide) among
  have ids := congrArg (List.map fun entry : Instant × SessionId => some entry.2) listing
  rw [List.map_map] at ids
  exact ⟨opened, online, dated, available, refs, answered, handed.trans ids⟩

end KeyVault
