import KeyVault.Proofs.Deployment.Handles
import KeyVault.Proofs.Rows.Distinct
/-!
Trust on first use. The first key that was put for a usage of a user stays beside the last
one, over all histories, whatever else is put, fails or is deleted.
-/

namespace KeyVault

-----------------------------------------------------------------------------------------
-- The keys that a history put
-----------------------------------------------------------------------------------------

/-- An operation that puts a cross-signing key. -/
def Operation.PutsKey (operation : Operation) : Prop :=
  ∃ user usage key, operation = .putCrossSigningKey user usage key

/-- The key that a moment puts for a usage of a user: a call of an open vault that logs no
failure. Putting a key never fails for the caller.
-/
def Moment.keyPut? (user : UserId) (usage : Usage) (moment : Moment) : Option SigningKey :=
  match moment.call?, moment.reply.notices with
  | some (_, .putCrossSigningKey other purpose key), [] =>
    if other = user ∧ purpose = usage then some key else none
  | _, _ => none

/-- The keys that were put for a usage of a user, in the order in which they were. -/
def keysPut (user : UserId) (usage : Usage) (past : List Moment) : List SigningKey :=
  past.filterMap (Moment.keyPut? user usage)

/-- A further moment adds the key that it puts. -/
theorem keysPut_append (user : UserId) (usage : Usage) (past : List Moment) (moment : Moment)
    : keysPut user usage (past ++ [moment])
      = keysPut user usage past ++ (moment.keyPut? user usage).toList := by
  unfold keysPut
  rw [List.filterMap_append]
  cases put : moment.keyPut? user usage <;> simp [List.filterMap, put]

namespace PinnedKey

/-- The last of the keys that were put, with the first one pinned. -/
def ofPut? (put : List SigningKey) : Option PinnedKey :=
  put.head?.bind fun first => put.getLast?.map fun key => ⟨key, first⟩

variable {put : List SigningKey} {pinned : PinnedKey}

/-- A key is pinned once one was put. -/
theorem isSome_ofPut? : (ofPut? put).isSome = true ↔ put ≠ [] := by
  cases put <;> simp [ofPut?, List.getLast?_cons]

/-- What is pinned is the first key, and what is current the last one. -/
theorem ofPut?_eq_some
    : ofPut? put = some pinned
      ↔ put.head? = some pinned.first ∧ put.getLast? = some pinned.key := by
  obtain ⟨key, first⟩ := pinned
  simp only [ofPut?, Option.bind_eq_some_iff, Option.map_eq_some_iff, mk.injEq]
  constructor
  · rintro ⟨_, head, _, last, rfl, rfl⟩
    exact ⟨head, last⟩
  · rintro ⟨head, last⟩
    exact ⟨_, head, _, last, rfl, rfl⟩

/-- A further key is the current one, and pinned if it is the first. -/
theorem ofPut?_concat (put : List SigningKey) (key : SigningKey)
    : ofPut? (put ++ [key]) = some ⟨key, ((ofPut? put).map PinnedKey.first).getD key⟩ := by
  cases put with
  | nil => rfl
  | cons first rest => simp [ofPut?, List.getLast?_cons]

/-- A key has changed when the first key is not the last one. -/
theorem changed_iff (pins : ofPut? put = some pinned)
    : pinned.changed = true ↔ put.head? ≠ put.getLast? := by
  obtain ⟨head, last⟩ := ofPut?_eq_some.mp pins
  rw [head, last, changed, bne_iff_ne, ne_comm, Ne, Ne, Option.some.injEq]

end PinnedKey

/-- Usages have different names. -/
theorem Usage.tag_inj {usage other : Usage} : usage.tag = other.tag ↔ usage = other := by
  constructor
  · intro same
    have read := other.ofTag_tag
    rw [← same, usage.ofTag_tag] at read
    exact Except.ok.inj read
  · rintro rfl
    rfl

-----------------------------------------------------------------------------------------
-- The rows of keys
-----------------------------------------------------------------------------------------

namespace KeyRow

/-- The user and the usage of a row, which identify it. -/
def place (row : KeyRow) : UserId × String :=
  (row.user, row.usage)

/-- The key of a row with the one that is pinned. -/
def pinned (row : KeyRow) : PinnedKey :=
  ⟨row.key, row.first⟩

end KeyRow

namespace Database

/-- The row of a usage of a user. -/
def keyRow? (db : Database) (user : UserId) (usage : Usage) : Option KeyRow :=
  db.keys.find? fun row => row.user = user ∧ row.usage = usage.tag

variable (db : Database) (user : UserId) (usage : Usage) (key : SigningKey)

/-- A key is put beside the one that is pinned, or pinned itself where none is. -/
theorem pinned_upsertKey_self
    : ((db.upsertKey ⟨user, usage.tag, key, key⟩).keyRow? user usage).map KeyRow.pinned
      = some
          ⟨key, (((db.keyRow? user usage).map KeyRow.pinned).map PinnedKey.first).getD key⟩ := by
  cases there : db.keyRow? user usage with
  | none =>
    have added
        : (db.upsertKey ⟨user, usage.tag, key, key⟩).keyRow? user usage
          = some ⟨user, usage.tag, key, key⟩ :=
      Rows.find?_upsert_of_none there (by simp)
    rw [added]
    rfl
  | some old =>
    have amended
        : (db.upsertKey ⟨user, usage.tag, key, key⟩).keyRow? user usage
          = some { old with key } :=
      Rows.find?_upsert_of_some (by intro row; rfl) there _
    rw [amended]
    rfl

/-- A key of another usage or of another user leaves the row. -/
theorem keyRow?_upsertKey_of_apart {other : UserId} {purpose : Usage}
    (apart : ¬ (other = user ∧ purpose = usage))
    : (db.upsertKey ⟨other, purpose.tag, key, key⟩).keyRow? user usage = db.keyRow? user usage := by
  have different : ¬ (user = other ∧ usage.tag = purpose.tag) := by
    rintro ⟨rfl, same⟩
    exact apart ⟨rfl, (Usage.tag_inj.mp same).symm⟩
  refine Rows.find?_upsert_of_apart (by intro row; rfl) ?_ ?_ db.keys
  · intro row found
    obtain ⟨rfl, named⟩ := of_decide_eq_true found
    exact decide_eq_false (named ▸ different)
  · refine decide_eq_false ?_
    rintro ⟨rfl, same⟩
    exact different ⟨rfl, same.symm⟩

end Database

/-- The state of a history: no two rows have one user and one usage, every row names a usage,
and of every usage of every user the first key that was put is pinned and the last one is
current.
-/
structure PinsFirst (past : List Moment) (db : Database) : Prop where
  unique : (db.keys.map KeyRow.place).Nodup
  named : ∀ row ∈ db.keys, ∃ usage : Usage, row.usage = usage.tag
  pinned
    : ∀ user usage,
        (db.keyRow? user usage).map KeyRow.pinned = PinnedKey.ofPut? (keysPut user usage past)

-----------------------------------------------------------------------------------------
-- What calls answer and leave
-----------------------------------------------------------------------------------------

namespace Vault

variable {vault : Vault} {state : State}

/-- Over an open pool a key is stored. -/
theorem perform_putCrossSigningKey (nonce : Aead.Nonce) (online : vault.online = true)
    (user : UserId) (usage : Usage) (key : SigningKey)
    : vault.perform nonce (.putCrossSigningKey user usage key) state
      = .done .nothing
          { state with database := state.database.upsertKey ⟨user, usage.tag, key, key⟩ } := by
  simp [perform, putCrossSigningKey, online]

/-- Over a closed pool it is logged that a key is not stored. -/
theorem perform_putCrossSigningKey_of_offline (nonce : Aead.Nonce)
    (offline : vault.online = false) (user : UserId) (usage : Usage) (key : SigningKey)
    : vault.perform nonce (.putCrossSigningKey user usage key) state
      = (Outcome.done .nothing state).noting [.keyNotStored user key usage vault.fault] := by
  simp only [perform, putCrossSigningKey, offline, Bool.false_eq_true, if_false]
  rfl

/-- Over a closed pool no keys are read. -/
theorem perform_getCrossSigningKeys_of_offline (nonce : Aead.Nonce)
    (offline : vault.online = false) (user : UserId)
    : vault.perform nonce (.getCrossSigningKeys user) state = vault.offline state := by
  simp [perform, getCrossSigningKeys, offline]

/-- No other operation touches the cross-signing keys. -/
theorem Effect.keys {nonce : Aead.Nonce} {after : State} {operation : Operation}
    (effect : vault.Effect nonce state operation after) (other : ¬ operation.PutsKey)
    : after.database.keys = state.database.keys := by
  cases effect <;> first | rfl | exact absurd ⟨_, _, _, rfl⟩ other

/-- Rows that name usages are read back in their order, each usage as its first row has it,
by induction over the rows.
-/
theorem exists_mapM_pinnedOfRow {rows : List KeyRow}
    (named : ∀ row ∈ rows, ∃ usage : Usage, row.usage = usage.tag)
    : ∃ list,
        rows.mapM pinnedOfRow = .ok list
        ∧ (list.map Prod.fst).map Usage.tag = rows.map KeyRow.usage
        ∧ ∀ usage,
            Rows.get? usage list
            = (rows.find? fun row => row.usage = usage.tag).map KeyRow.pinned := by
  induction rows with
  | nil => exact ⟨[], rfl, rfl, fun _ => rfl⟩
  | cons row rest ih =>
    obtain ⟨usage, tagged⟩ := named row List.mem_cons_self
    obtain ⟨list, reads, tags, found⟩ :=
      ih fun row later => named row (List.mem_cons_of_mem _ later)
    have read : pinnedOfRow row = .ok (usage, row.pinned) := by
      rw [pinnedOfRow, tagged, usage.ofTag_tag]
      rfl
    refine ⟨(usage, row.pinned) :: list, ?_, ?_, ?_⟩
    · rw [List.mapM_cons, read, reads]
      rfl
    · rw [List.map_cons, List.map_cons, List.map_cons, tags, tagged]
    · intro other
      have here : row.usage = other.tag ↔ usage = other := by rw [tagged, Usage.tag_inj]
      rw [Rows.get?, List.find?_cons, List.find?_cons]
      by_cases same : usage = other
      · simp [same, here.mpr same]
      · have apart : row.usage ≠ other.tag := fun equal => same (here.mp equal)
        simpa [same, apart, Rows.get?] using found other

end Vault

namespace PinsFirst

variable {past : List Moment} {db : Database}

/-- A user has no two rows with one usage. -/
theorem nodup_usage_keysOf (pins : PinsFirst past db) (user : UserId)
    : ((db.keysOf user).map KeyRow.usage).Nodup := by
  have places
      : ((db.keysOf user).map KeyRow.usage).map (Prod.mk user)
        = (db.keysOf user).map KeyRow.place := by
    rw [List.map_map]
    apply List.map_congr_left
    intro row member
    have own : row.user = user := of_decide_eq_true (List.mem_filter.mp member).2
    rw [Function.comp, KeyRow.place, own]
  have distinct : ((db.keysOf user).map KeyRow.place).Nodup :=
    pins.unique.sublist (List.filter_sublist.map KeyRow.place)
  exact List.Nodup.of_map _ (places ▸ distinct)

/-- The keys of a user are read with each usage once, as they are pinned. -/
theorem exists_perform_getCrossSigningKeys {vault : Vault} {state : State}
    (pins : PinsFirst past state.database) (nonce : Aead.Nonce) (online : vault.online = true)
    (user : UserId)
    : ∃ list,
        vault.perform nonce (.getCrossSigningKeys user) state = .done (.keys list) state
        ∧ (list.map Prod.fst).Nodup
        ∧ ∀ usage, Rows.get? usage list = PinnedKey.ofPut? (keysPut user usage past) := by
  have named : ∀ row ∈ state.database.keysOf user, ∃ usage : Usage, row.usage = usage.tag := by
    intro row member
    exact pins.named row (List.mem_of_mem_filter member)
  obtain ⟨list, reads, tags, found⟩ := Vault.exists_mapM_pinnedOfRow named
  refine ⟨list, ?_, ?_, ?_⟩
  · simp [Vault.perform, Vault.getCrossSigningKeys, online, reads]
  · have distinct := pins.nodup_usage_keysOf user
    rw [← tags] at distinct
    exact List.Nodup.of_map _ distinct
  · intro usage
    rw [found, ← pins.pinned, Database.keyRow?, Database.keysOf, List.find?_filter]
    simp

/-- Tables with the same keys keep what is pinned. -/
theorem of_same {after : Database} (pins : PinsFirst past db) (same : after.keys = db.keys)
    {present : List Moment}
    (put : ∀ user usage, keysPut user usage present = keysPut user usage past)
    : PinsFirst present after where
  unique := by
    rw [same]
    exact pins.unique
  named := by
    rw [same]
    exact pins.named
  pinned user usage := by
    unfold Database.keyRow?
    rw [same, put]
    exact pins.pinned user usage

/-- Storing a key adds it to those that were put for its usage of its user. -/
theorem upsertKey (pins : PinsFirst past db) {present : List Moment} (user : UserId)
    (usage : Usage) (key : SigningKey)
    (put
      : ∀ other purpose,
          keysPut other purpose present
          = keysPut other purpose past
            ++ (if user = other ∧ usage = purpose then some key else none).toList)
    : PinsFirst present (db.upsertKey ⟨user, usage.tag, key, key⟩) where
  unique := by
    refine Rows.nodup_map_upsert (by intro old _; rfl) ?_ pins.unique
    intro old same
    exact decide_eq_true (Prod.mk.inj same)
  named := by
    intro row member
    simp only [Database.upsertKey, Rows.upsert] at member
    split at member
    · obtain ⟨old, there, rfl⟩ := List.mem_map.mp member
      obtain ⟨purpose, tagged⟩ := pins.named old there
      refine ⟨purpose, ?_⟩
      split <;> exact tagged
    · rcases List.mem_append.mp member with there | added
      · exact pins.named row there
      · cases List.mem_singleton.mp added
        exact ⟨usage, rfl⟩
  pinned other purpose := by
    rw [put]
    by_cases same : user = other ∧ usage = purpose
    · obtain ⟨rfl, rfl⟩ := same
      rw [if_pos ⟨rfl, rfl⟩, Option.toList_some, PinnedKey.ofPut?_concat, ← pins.pinned]
      exact db.pinned_upsertKey_self user usage key
    · rw [if_neg same, Option.toList_none, List.append_nil, ← pins.pinned,
        Database.keyRow?_upsertKey_of_apart _ _ _ _ same]

end PinsFirst

namespace Moment

variable {moment : Moment} {handle : Handle} {user : UserId} {usage : Usage} {key : SigningKey}

/-- A moment that is no put puts no key. -/
theorem keyPut?_eq_none
    (other
      : ∀ handle operation, moment.call? = some (handle, operation) → ¬ operation.PutsKey)
    (user : UserId) (usage : Usage)
    : moment.keyPut? user usage = none := by
  unfold keyPut?
  cases called : moment.call? with
  | none => rfl
  | some call =>
    obtain ⟨handle, operation⟩ := call
    cases operation
    case putCrossSigningKey => exact absurd ⟨_, _, _, rfl⟩ (other _ _ called)
    all_goals rfl

/-- Over an open pool a key is put for its usage of its user. -/
theorem keyPut?_of_online
    (called : moment.call? = some (handle, .putCrossSigningKey user usage key))
    (online : (moment.vaultOf handle).online = true) (other : UserId) (purpose : Usage)
    : moment.keyPut? other purpose = if user = other ∧ usage = purpose then some key else none := by
  have performed :=
    @Vault.perform_putCrossSigningKey (moment.vaultOf handle) (moment.met.stateOf handle)
      moment.nonce online user usage key
  simp only [keyPut?, called, reply_of_call called, outcome, performed, Outcome.done]

/-- Over a closed pool no key is put. -/
theorem keyPut?_of_offline
    (called : moment.call? = some (handle, .putCrossSigningKey user usage key))
    (offline : (moment.vaultOf handle).online = false) (other : UserId) (purpose : Usage)
    : moment.keyPut? other purpose = none := by
  have performed :=
    @Vault.perform_putCrossSigningKey_of_offline (moment.vaultOf handle)
      (moment.met.stateOf handle) moment.nonce offline user usage key
  simp only [keyPut?, called, reply_of_call called, outcome, performed, Outcome.done,
    Outcome.noting, List.append_nil]

/-- A moment that leaves the keys and puts none keeps what is pinned. -/
theorem pinsFirst_unmoved {past : List Moment} (pins : PinsFirst past moment.met.database)
    (same : moment.left.database.keys = moment.met.database.keys)
    (silent : ∀ user usage, moment.keyPut? user usage = none)
    : PinsFirst (past ++ [moment]) moment.left.database := by
  refine pins.of_same same ?_
  intro user usage
  rw [keysPut_append, silent, Option.toList_none, List.append_nil]

/-- A moment keeps what is pinned: it stores a key and puts it, or leaves the keys and puts
none.
-/
theorem pinsFirst {past : List Moment} (pins : PinsFirst past moment.met.database)
    : PinsFirst (past ++ [moment]) moment.left.database := by
  rcases moment.calls_or_leaves Database.keys Vault.Effect.keys with
    ⟨handle, _, called, user, usage, key, rfl⟩ | ⟨silent, same⟩
  · cases online : (moment.vaultOf handle).online with
    | true =>
      rw [database_of_call called, outcome, Vault.perform_putCrossSigningKey _ online]
      refine pins.upsertKey user usage key ?_
      intro other purpose
      rw [keysPut_append, keyPut?_of_online called online]
    | false =>
      refine pinsFirst_unmoved pins ?_ (keyPut?_of_offline called online)
      rw [database_of_call called, outcome, Vault.perform_putCrossSigningKey_of_offline _ online]
      rfl
  · exact pinsFirst_unmoved pins same (keyPut?_eq_none silent)

end Moment

/-- After every history on new tables they pin the first key of every usage, by induction over
the events.
-/
theorem pinsFirst_run (history : List (Aead.Nonce × Event))
    : PinsFirst (Deployment.empty.moments history) (Deployment.empty.run history).2.database := by
  refine Deployment.run_induction history (motive := fun past deployment =>
    PinsFirst past deployment.database) ?_ ?_
  · exact ⟨List.nodup_nil, fun _ member => absurd member List.not_mem_nil, fun _ _ => rfl⟩
  · intro past moment _ pins
    exact moment.pinsFirst pins

/-- Trust on first use is never rewritten, over every history of any vaults. A user has a key for a
usage just where one was put without failure; then the first of these is pinned and the last one is
current, so that the key has changed just where these two differ. Over a closed pool no key is put,
which is logged.
-/
theorem first_keys_stay_pinned {history : List (Aead.Nonce × Event)} {name : String}
    {handle : Handle} (opened : (Deployment.empty.run history).2.handle? name = some handle)
    (nonce : Aead.Nonce) (user : UserId)
    : let reached := (Deployment.empty.run history).2
      let step (operation : Operation) : Reply × Deployment :=
        reached.step nonce (.call name operation)
      if reached.isOnline handle.backend then
        (∃ list,
          (step (.getCrossSigningKeys user)).1 = ⟨.ok (.keys list), []⟩
          ∧ (list.map Prod.fst).Nodup
          ∧ ∀ usage,
              let put := keysPut user usage (Deployment.empty.moments history)
              ((Rows.get? usage list).isSome = true ↔ put ≠ [])
              ∧ ∀ pinned ∈ Rows.get? usage list,
                  put.head? = some pinned.first
                  ∧ put.getLast? = some pinned.key
                  ∧ (pinned.changed = true ↔ put.head? ≠ put.getLast?))
        ∧ ∀ usage key, (step (.putCrossSigningKey user usage key)).1 = .nothing
      else
        step (.getCrossSigningKeys user) = (.failed (.database .poolClosed), reached)
        ∧ ∀ usage key,
            step (.putCrossSigningKey user usage key)
            = (⟨.ok .nothing, [.keyNotStored user key usage .poolClosed]⟩, reached) := by
  intro reached step
  have pins := pinsFirst_run history
  cases online : reached.isOnline handle.backend with
  | true =>
    rw [if_pos rfl]
    refine ⟨?_, ?_⟩
    · obtain ⟨list, performed, distinct, found⟩ :=
        @PinsFirst.exists_perform_getCrossSigningKeys _ (reached.vaultOf handle)
          (reached.stateOf handle) pins nonce online user
      refine ⟨list, Deployment.reply_of_done opened performed, distinct, ?_⟩
      intro usage
      rw [found]
      refine ⟨PinnedKey.isSome_ofPut?, ?_⟩
      intro pinned there
      obtain ⟨first, last⟩ := PinnedKey.ofPut?_eq_some.mp there
      exact ⟨first, last, PinnedKey.changed_iff there⟩
    · intro usage key
      exact Deployment.reply_of_done opened
        (Vault.perform_putCrossSigningKey nonce online user usage key)
  | false =>
    rw [if_neg Bool.false_ne_true]
    refine ⟨?_, ?_⟩
    · exact Deployment.step_of_failed opened
        (Vault.perform_getCrossSigningKeys_of_offline nonce online user)
    · intro usage key
      have performed :=
        @Vault.perform_putCrossSigningKey_of_offline (reached.vaultOf handle)
          (reached.stateOf handle) nonce online user usage key
      refine (Deployment.step_call opened nonce _).trans ?_
      rw [performed]
      exact Prod.ext rfl (Deployment.settle_stateOf opened)

/-- Two accounts put keys of a user and of another one; the first account is deleted, and the
second one puts a key over a closed pool.
-/
def pinningTogether : List (Aead.Nonce × Event) :=
  let events : List Event :=
    [.openVault "first" ⟨"@a"⟩ ⟨.replicate 32 0⟩,
     .openVault "second" ⟨"@b"⟩ ⟨.replicate 32 0⟩,
     .call "first" (.putCrossSigningKey ⟨"@user"⟩ .master ⟨"k1"⟩),
     .call "first" (.putCrossSigningKey ⟨"@user"⟩ .selfSigning ⟨"k5"⟩),
     .call "second" (.putCrossSigningKey ⟨"@user"⟩ .master ⟨"k2"⟩),
     .call "second" (.putCrossSigningKey ⟨"@other"⟩ .master ⟨"k3"⟩),
     .call "first" .delete,
     .closePool "second",
     .call "second" (.putCrossSigningKey ⟨"@user"⟩ .master ⟨"k4"⟩)]
  events.map fun event => (.replicate 24 0, event)

/-- The first account then reads the key that it put itself as the pinned one, beside the one
that the second account put last; the key of the other usage has not changed, and there is
none of the third.
-/
theorem pinningTogether_stays_pinned
    : let reached := (Deployment.empty.run pinningTogether).2
      let handle := Handle.fresh ⟨"@a"⟩ ⟨.replicate 32 0⟩ (.sqlite 0)
      reached.handle? "first" = some handle
      ∧ reached.isOnline handle.backend = true
      ∧ ∃ list,
          (reached.step (.replicate 24 0) (.call "first" (.getCrossSigningKeys ⟨"@user"⟩))).1
          = ⟨.ok (.keys list), []⟩
          ∧ (∃ pinned,
              Rows.get? .master list = some pinned
              ∧ pinned = ⟨⟨"k2"⟩, ⟨"k1"⟩⟩
              ∧ pinned.changed = true)
          ∧ (∃ pinned, Rows.get? .selfSigning list = some pinned ∧ pinned.changed = false)
          ∧ (Rows.get? .userSigning list).isSome = false := by
  intro reached handle
  have opened : reached.handle? "first" = some handle := by decide
  have online : reached.isOnline handle.backend = true := by decide
  let past := Deployment.empty.moments pinningTogether
  have masters : keysPut ⟨"@user"⟩ .master past = [⟨"k1"⟩, ⟨"k2"⟩] := by decide
  have selves : keysPut ⟨"@user"⟩ .selfSigning past = [⟨"k5"⟩] := by decide
  have users : keysPut ⟨"@user"⟩ .userSigning past = [] := by decide
  have stays := first_keys_stay_pinned opened (.replicate 24 0) ⟨"@user"⟩
  rw [if_pos online] at stays
  obtain ⟨⟨list, read, _, found⟩, _⟩ := stays
  refine ⟨opened, online, list, read, ?_, ?_, ?_⟩
  · obtain ⟨there, pins⟩ := found .master
    rw [masters] at there pins
    obtain ⟨pinned, current⟩ := Option.isSome_iff_exists.mp (there.mpr (List.cons_ne_nil _ _))
    obtain ⟨first, last, changed⟩ := pins pinned current
    refine ⟨pinned, current, ?_, changed.mpr (by decide)⟩
    cases pinned
    cases first
    cases last
    rfl
  · obtain ⟨there, pins⟩ := found .selfSigning
    rw [selves] at there pins
    obtain ⟨pinned, current⟩ := Option.isSome_iff_exists.mp (there.mpr (List.cons_ne_nil _ _))
    obtain ⟨_, _, changed⟩ := pins pinned current
    exact ⟨pinned, current, eq_false_of_ne_true fun met => changed.mp met rfl⟩
  · obtain ⟨there, _⟩ := found .userSigning
    exact eq_false_of_ne_true fun met => there.mp met users

end KeyVault
