import KeyVault.Proofs.Olm.Opening
import KeyVault.Proofs.Olm.OneObject
import Mathlib.Data.List.Nodup
/-!
No stored session of a key is skipped. All rows of the key are read, in the order of their last
decryption, and a row that can neither be taken from the cache nor opened is reported.
-/

namespace KeyVault

-----------------------------------------------------------------------------------------
-- The rows of a key and their order
-----------------------------------------------------------------------------------------

/-- The rows of the one-to-one sessions of an account with a key. -/
def Database.olmUnder (db : Database) (owner : AccountId) (sender : IdentityKey) : List OlmRow :=
  (db.olmOf owner).filter fun row => row.sender = sender

namespace Database

/-- The tables with other pickles in the rows of one-to-one sessions. -/
def resealed (db : Database) (reseal : OlmRow → Blob) : Database :=
  { db with olm := db.olm.map fun row => { row with blob := reseal row } }

/-- All rows of an account with a key, in descending order of the texts of their last
decryption. Among years of four digits this is the order in time.
-/
structure Lists (db : Database) (owner : AccountId) (sender : IdentityKey) (rows : List OlmRow)
    : Prop where
  all : rows.Perm (db.olmUnder owner sender)
  descending
    : rows.Pairwise fun newer older => older.decrypted.stamp < newer.decrypted.stamp
  timely
    : rows.Pairwise fun newer older =>
        newer.decrypted.FourDigitYear
        → older.decrypted.FourDigitYear
        → older.decrypted < newer.decrypted

/-- The row of an account with a key whose last decryption stands after that of every other. -/
structure IsNewest (db : Database) (owner : AccountId) (sender : IdentityKey) (row : OlmRow)
    : Prop where
  member : row ∈ db.olmUnder owner sender
  newest
    : ∀ other ∈ db.olmUnder owner sender,
        other ≠ row → other.decrypted.stamp < row.decrypted.stamp

variable {db : Database} {owner : AccountId} {sender : IdentityKey}

/-- The rows that are read for a key are listed, where no two have the same last decryption. -/
theorem lists_olmSessions (dated : ((db.olmUnder owner sender).map OlmRow.decrypted).Nodup)
    : db.Lists owner sender (db.olmSessions owner sender) := by
  have all : (db.olmSessions owner sender).Perm (db.olmUnder owner sender) :=
    Vault.olmSessions_perm db owner sender
  have texts := List.pairwise_map.mp (db.pairwise_stamp_olmSessions owner sender)
  have apart : ((db.olmSessions owner sender).map OlmRow.decrypted).Nodup :=
    (all.map OlmRow.decrypted).nodup_iff.mpr dated
  have descending
      : (db.olmSessions owner sender).Pairwise fun newer older =>
          older.decrypted.stamp < newer.decrypted.stamp := by
    refine (texts.and (List.pairwise_map.mp apart)).imp ?_
    rintro newer older ⟨text, different⟩
    exact lt_of_le_of_ne text fun same => different (Instant.stamp_injective same).symm
  refine ⟨all, descending, descending.imp ?_⟩
  intro newer older text fits fits'
  by_contra behind
  have order := (Instant.stamp_le_stamp_iff fits fits').mpr (Instant.not_lt.mp behind)
  exact String.not_le.mpr text order

/-- A row of a year of five digits stands behind every row of a year of four, though it is later. -/
theorem Lists.long_behind {rows : List OlmRow} (lists : db.Lists owner sender rows)
    : rows.Pairwise fun front behind =>
        ¬ (9999 < front.decrypted.date.year ∧ behind.decrypted.FourDigitYear) := by
  refine lists.descending.imp ?_
  rintro front behind text ⟨long, fits⟩
  exact String.lt_asymm text (Instant.stamp_lt_stamp_of_long fits long)

/-- So where a year has five digits, the order of the texts is not the order in time. -/
theorem lists_later_behind
    : let row (id : String) (decrypted : Instant) : OlmRow :=
        ⟨⟨"@a"⟩, ⟨id⟩, ⟨"curve"⟩, [], decrypted, decrypted, decrypted⟩
      let last := row "one" ⟨253_402_300_799, 0, by decide⟩
      let next := row "two" ⟨253_402_300_800, 0, by decide⟩
      let db : Database := { Database.empty with olm := [next, last] }
      db.Lists ⟨"@a"⟩ ⟨"curve"⟩ [last, next] ∧ last.decrypted < next.decrypted := by
  intro row last next db
  have fits : last.decrypted.FourDigitYear := by decide
  have long : 9999 < next.decrypted.date.year := by decide
  have text : next.decrypted.stamp < last.decrypted.stamp :=
    Instant.stamp_lt_stamp_of_long fits long
  refine ⟨⟨.swap .., List.pairwise_pair.mpr text, List.pairwise_pair.mpr ?_⟩, by decide⟩
  intro _ short
  exact absurd short.2 (Int.not_le.mpr long)

/-- The newest row is read in front. -/
theorem IsNewest.olmSessions {row : OlmRow} (newest : db.IsNewest owner sender row)
    : ∃ rest, db.olmSessions owner sender = row :: rest := by
  have all : (db.olmSessions owner sender).Perm (db.olmUnder owner sender) :=
    Vault.olmSessions_perm db owner sender
  have texts := List.pairwise_map.mp (db.pairwise_stamp_olmSessions owner sender)
  cases listed : db.olmSessions owner sender with
  | nil =>
    rw [listed] at all
    cases all.nil_eq ▸ newest.member
  | cons first rest =>
    rw [listed] at all texts
    refine ⟨rest, ?_⟩
    by_cases same : first = row
    · rw [same]
    · have before := newest.newest first (all.subset (List.mem_cons_self ..)) same
      have behind : row ∈ rest := by
        rcases List.mem_cons.mp (all.symm.subset newest.member) with equal | behind
        · exact absurd equal.symm same
        · exact behind
      exact absurd before (String.not_lt.mpr (List.rel_of_pairwise_cons texts behind))

end Database

-----------------------------------------------------------------------------------------
-- Reading all sessions
-----------------------------------------------------------------------------------------

namespace Vault

variable {vault : Vault} {sender : IdentityKey} {state : State} {rows : List OlmRow}

/-- What reading rows in order answers. It succeeds just when every row is served, and hands out
an object of its own for each of them; otherwise it tells why the first one that fails does.
-/
structure ReadsAll (vault : Vault) (sender : IdentityKey) (state : State) (rows : List OlmRow)
    (outcome : Outcome Answer) : Prop where
  succeeds
    : (∃ answer, outcome.result = .ok answer) ↔ ∀ row ∈ rows, vault.Serves sender state row
  handed
    : ∀ answer,
        outcome.result = .ok answer
        → ∃ refs,
            answer = .sessions refs
            ∧ refs.Nodup
            ∧ List.Forall₂ (vault.HandsOut sender state outcome.state) rows refs
  failed
    : ∀ reason,
        outcome.result = .error reason
        → ∃ fault, vault.StopsWith sender state rows fault ∧ reason = .pickle fault

/-- Rows for which something is handed out are served. -/
theorem serves_of_handsOut {after : State} {refs : List SessionRef}
    (each : List.Forall₂ (vault.HandsOut sender state after) rows refs)
    : ∀ row ∈ rows, vault.Serves sender state row := by
  have both := each.imp fun _ _ hands => And.intro hands.serves hands
  exact ((List.forall₂_and_left _ _).mp both).1

/-- What is handed out for rows of different identifiers are different objects, since each has
the identifier of its row.
-/
theorem nodup_of_handsOut {after : State} {refs : List SessionRef}
    (each : List.Forall₂ (vault.HandsOut sender state after) rows refs)
    (distinct : (rows.map OlmRow.session).Nodup)
    : refs.Nodup := by
  have ids
      : rows.map (fun row => some row.session)
        = refs.map fun ref => (after.shared.get? ref).map Session.id := by
    refine Rows.map_eq_map ?_ each
    intro row ref hands
    obtain ⟨session, there, own, _⟩ := hands.value
    rw [there, Option.map_some, own]
  have named := distinct.map (Option.some_injective SessionId)
  rw [List.map_map] at named
  exact .of_map _ (ids ▸ named)

/-- Over an open pool all sessions of a key are read by opening their rows in order. -/
theorem readsAll_getSessions (nonce : Aead.Nonce) (online : vault.online = true)
    (apart : vault.TellsApart (state.database.olmSessions vault.owner sender))
    (labels : state.cache.Labels state.shared)
    : vault.ReadsAll sender state (state.database.olmSessions vault.owner sender)
        (vault.perform nonce (.getSessions sender) state) := by
  rcases openRows_cases sender apart labels with
    ⟨refs, after, reads, each⟩ | ⟨fault, after, reads, stops⟩
  · have performed
        : vault.perform nonce (.getSessions sender) state = .done (.sessions refs) after := by
      simp [perform, getSessions, online, reads, opened]
    rw [performed]
    refine ⟨⟨fun _ => serves_of_handsOut each, fun _ => ⟨_, rfl⟩⟩, ?_, by simp [Outcome.done]⟩
    intro answer same
    exact ⟨refs, (Except.ok.inj same).symm, nodup_of_handsOut each apart.distinct, each⟩
  · have performed
        : vault.perform nonce (.getSessions sender) state = .failed (.pickle fault) after := by
      simp only [perform, getSessions, online, reads, opened, if_true]
      rfl
    rw [performed]
    refine ⟨⟨by simp [Outcome.failed], fun all => absurd all stops.not_all_served⟩,
      by simp [Outcome.failed], ?_⟩
    intro reason same
    exact ⟨fault, stops, (Except.error.inj same).symm⟩

-----------------------------------------------------------------------------------------
-- Reading the newest session
-----------------------------------------------------------------------------------------

/-- What reading the first of some rows answers, beside what reading all of them does. It finds
none just when there are no rows; what is handed out or reported is that of the first row; and
where all rows are read, it is the first of what is handed out for them, with the same value.
-/
structure ReadsFirst (vault : Vault) (sender : IdentityKey) (state : State) (rows : List OlmRow)
    (sessions latest : Outcome Answer) : Prop where
  absent : latest.result = .ok (.latest none) ↔ rows = []
  handed
    : ∀ answer,
        latest.result = .ok answer
        → ∃ found,
            answer = .latest found
            ∧ Option.Rel (vault.HandsOut sender state latest.state) rows.head? found
  failed
    : ∀ reason,
        latest.result = .error reason
        → ∃ row fault,
            rows.head? = some row
            ∧ vault.Fails sender state row fault
            ∧ reason = .pickle fault
  agrees
    : ∀ refs,
        sessions.result = .ok (.sessions refs)
        → latest.result = .ok (.latest refs.head?)
          ∧ ∀ ref ∈ refs.head?,
              latest.state.shared.get? ref = sessions.state.shared.get? ref

/-- Opening rows hands out for the first one what opening it alone does. -/
theorem openRows_cons_eq_ok {row : OlmRow} {refs : List SessionRef} {after : State}
    (reads : vault.openRows sender (row :: rows) state = (.ok refs, after))
    : ∃ ref between rest,
        refs = ref :: rest
        ∧ vault.openRow sender row state = (.ok ref, between)
        ∧ vault.openRows sender rows between = (.ok rest, after) := by
  unfold openRows at reads
  rcases first : vault.openRow sender row state with ⟨_ | ref, between⟩
  · rw [first] at reads
    cases reads
  · rw [first] at reads
    rcases rest : vault.openRows sender rows between with ⟨_ | others, last⟩
    · simp only [rest] at reads
      cases reads
    · simp only [rest] at reads
      cases reads
      exact ⟨ref, between, others, rfl, rfl, rest⟩

/-- All sessions are read when their rows are opened. -/
theorem openRows_of_getSessions {nonce : Aead.Nonce} {refs : List SessionRef}
    (online : vault.online = true)
    (answered : (vault.perform nonce (.getSessions sender) state).result = .ok (.sessions refs))
    : vault.openRows sender (state.database.olmSessions vault.owner sender) state
      = (.ok refs, (vault.perform nonce (.getSessions sender) state).state) := by
  simp only [perform, getSessions, online, if_true] at answered ⊢
  generalize vault.openRows sender (state.database.olmSessions vault.owner sender) state = opening
    at answered ⊢
  obtain ⟨_ | found, after⟩ := opening
  · cases answered
  · cases answered
    rfl

/-- Where all sessions are read, the first one is handed out by opening the first row, and the
other rows only add to what that leaves.
-/
theorem exists_openRow_of_getSessions {nonce : Aead.Nonce} {row : OlmRow} {refs : List SessionRef}
    (online : vault.online = true)
    (listed : state.database.olmSessions vault.owner sender = row :: rows)
    (answered : (vault.perform nonce (.getSessions sender) state).result = .ok (.sessions refs))
    : ∃ ref between,
        vault.openRow sender row state = (.ok ref, between)
        ∧ refs.head? = some ref
        ∧ between.Adds (vault.perform nonce (.getSessions sender) state).state := by
  have reads := openRows_of_getSessions online answered
  rw [listed] at reads
  obtain ⟨ref, between, others, rfl, opens, rest⟩ := openRows_cons_eq_ok reads
  exact ⟨ref, between, opens, rfl, openRows_adds rest⟩

/-- Over an open pool the newest session of a key is read by opening the first of these rows. -/
theorem readsFirst_getLatestSession (nonce : Aead.Nonce) (online : vault.online = true)
    (apart : vault.TellsApart (state.database.olmSessions vault.owner sender))
    (labels : state.cache.Labels state.shared)
    : vault.ReadsFirst sender state (state.database.olmSessions vault.owner sender)
        (vault.perform nonce (.getSessions sender) state)
        (vault.perform nonce (.getLatestSession sender) state) := by
  cases listed : state.database.olmSessions vault.owner sender with
  | nil =>
    have performed
        : vault.perform nonce (.getLatestSession sender) state = .done (.latest none) state := by
      simp [perform, getLatestSession, online, listed]
    rw [performed]
    refine ⟨by simp [Outcome.done], ?_, by simp [Outcome.done], ?_⟩
    · intro answer same
      exact ⟨none, (Except.ok.inj same).symm, .none⟩
    · intro refs answered
      have reads := openRows_of_getSessions online answered
      rw [listed] at reads
      cases Except.ok.inj (congrArg Prod.fst reads)
      exact ⟨rfl, by simp⟩
  | cons row rest =>
    rw [listed] at apart
    rcases openRow_cases sender labels (apart.named row (List.mem_cons_self ..)) with
      ⟨ref, after, opens, hands, _⟩ | ⟨fault, opens, fails⟩
    · have performed
          : vault.perform nonce (.getLatestSession sender) state
            = .done (.latest (some ref)) after := by
        simp [perform, getLatestSession, online, listed, opens, opened, Except.map]
      rw [performed]
      refine ⟨by simp [Outcome.done], ?_, by simp [Outcome.done], ?_⟩
      · intro answer same
        exact ⟨some ref, (Except.ok.inj same).symm, .some hands⟩
      · intro refs answered
        obtain ⟨first, between, opens', head, adds⟩ :=
          exists_openRow_of_getSessions online listed answered
        cases opens.symm.trans opens'
        rw [head]
        refine ⟨rfl, ?_⟩
        rintro _ ⟨⟩
        obtain ⟨session, there, _⟩ := hands.value
        exact there.trans (adds.shared _ _ there).symm
    · have performed
          : vault.perform nonce (.getLatestSession sender) state
            = .failed (.pickle fault) state := by
        simp only [perform, getLatestSession, online, listed, opens, if_true]
        rfl
      rw [performed]
      refine ⟨by simp [Outcome.failed], by simp [Outcome.failed], ?_, ?_⟩
      · intro reason same
        exact ⟨row, fault, rfl, fails, (Except.error.inj same).symm⟩
      · intro refs answered
        obtain ⟨first, between, opens', _⟩ := exists_openRow_of_getSessions online listed answered
        cases opens.symm.trans opens'

/-- The tables do not matter for opening a row. -/
theorem openRow_of_database (row : OlmRow) (other : Database)
    : vault.openRow sender row { state with database := other }
      = ((vault.openRow sender row state).1,
          { (vault.openRow sender row state).2 with database := other }) := by
  cases cached : state.cache.get? sender row.session with
  | some ref => simp only [openRow, cached]
  | none =>
    cases opens : Session.unpickle row.blob vault.key (timesOf row) <;>
      simp only [openRow, cached, opens]

/-- The newest row alone decides what the newest session is, whatever the tables hold beside. -/
theorem perform_getLatestSession_of_isNewest (nonce : Aead.Nonce) {row : OlmRow}
    {other : Database} (newest : state.database.IsNewest vault.owner sender row)
    (newest' : other.IsNewest vault.owner sender row)
    : let latest := vault.perform nonce (.getLatestSession sender) state
      vault.perform nonce (.getLatestSession sender) { state with database := other }
      = { latest with state := { latest.state with database := other } } := by
  obtain ⟨rest, listed⟩ := newest.olmSessions
  obtain ⟨rest', listed'⟩ := newest'.olmSessions
  cases online : vault.online with
  | false =>
    simp only [perform, getLatestSession, online]
    rfl
  | true =>
    simp only [perform, getLatestSession, online, listed, listed', openRow_of_database, if_true]
    generalize vault.openRow sender row state = opening
    obtain ⟨_ | _, _⟩ := opening <;> rfl

-----------------------------------------------------------------------------------------
-- Whether there is a session
-----------------------------------------------------------------------------------------

/-- Whether there is a session is answered from what is cached and from the columns of the
rows, and changes nothing.
-/
theorem perform_hasSession (nonce : Aead.Nonce) (online : vault.online = true)
    : ∃ value,
        vault.perform nonce (.hasSession sender) state = .done (.flag value) state
        ∧ (value = true
            ↔ (∃ id ref, state.cache.get? sender id = some ref)
              ∨ ∃ row ∈ state.database.olmOf vault.owner, row.sender = sender) := by
  refine ⟨state.cache.hasAny sender || state.database.hasOlmSession vault.owner sender, ?_, ?_⟩
  · cases any : state.cache.hasAny sender <;> simp [perform, hasSession, any, online]
  · rw [Bool.or_eq_true, Cache.hasAny_iff, Database.hasOlmSession_iff]

/-- Neither the pickles nor the key matter for whether there is a session. -/
theorem perform_hasSession_of_resealed (nonce : Aead.Nonce) (key : PickleKey)
    (reseal : OlmRow → Blob)
    : ({ vault with key } : Vault).perform nonce (.hasSession sender)
          { state with database := state.database.resealed reseal }
      = { vault.perform nonce (.hasSession sender) state with
          state := { state with database := state.database.resealed reseal } } := by
  have same
      : (state.database.resealed reseal).hasOlmSession vault.owner sender
        = state.database.hasOlmSession vault.owner sender := by
    simp [Database.resealed, Database.hasOlmSession, Function.comp_def]
  cases any : state.cache.hasAny sender <;> cases online : vault.online <;>
    simp [perform, hasSession, any, online, same] <;> rfl

/-- Over a closed pool only what is cached is told. -/
theorem perform_olm_reads_of_offline (nonce : Aead.Nonce) (offline : vault.online = false)
    : vault.perform nonce (.getSessions sender) state = vault.offline state
      ∧ vault.perform nonce (.getLatestSession sender) state = vault.offline state
      ∧ vault.perform nonce (.hasSession sender) state
        = if state.cache.hasAny sender then .done (.flag true) state else vault.offline state := by
  refine ⟨by simp [perform, getSessions, offline], by simp [perform, getLatestSession, offline], ?_⟩
  cases any : state.cache.hasAny sender <;> simp [perform, hasSession, any, offline]

end Vault

-----------------------------------------------------------------------------------------
-- What the rows and the cache decide
-----------------------------------------------------------------------------------------

/-- No stored session is skipped, whatever the pickles of the rows hold and whatever is cached: all
sessions of a key are read just when every row is cached or opens, and otherwise the first row
that fails is reported. The newest row alone decides what the newest session is, and no pickle
whether there is one.
-/
theorem no_stored_session_is_skipped {vault : Vault} {sender : IdentityKey} {state : State}
    (nonce : Aead.Nonce)
    (apart : vault.TellsApart (state.database.olmUnder vault.owner sender))
    (dated : ((state.database.olmUnder vault.owner sender).map OlmRow.decrypted).Nodup)
    (labels : state.cache.Labels state.shared)
    : let sessions := vault.perform nonce (.getSessions sender) state
      let latest := vault.perform nonce (.getLatestSession sender) state
      let known := vault.perform nonce (.hasSession sender) state
      if vault.online then
        ∃ rows value,
          state.database.Lists vault.owner sender rows
          ∧ vault.ReadsAll sender state rows sessions
          ∧ vault.ReadsFirst sender state rows sessions latest
          ∧ (∀ row other,
              state.database.IsNewest vault.owner sender row
              → other.IsNewest vault.owner sender row
              → vault.perform nonce (.getLatestSession sender) { state with database := other }
                = { latest with state := { latest.state with database := other } })
          ∧ known = .done (.flag value) state
          ∧ (value = true ↔ (∃ id ref, state.cache.get? sender id = some ref) ∨ rows ≠ [])
          ∧ ∀ key reseal,
              (({ vault with key } : Vault).perform nonce (.hasSession sender)
                { state with database := state.database.resealed reseal }).result
              = .ok (.flag value)
      else
        sessions = vault.offline state
        ∧ latest = vault.offline state
        ∧ known
          = if state.cache.hasAny sender then .done (.flag true) state else vault.offline state := by
  intro sessions latest known
  by_cases online : vault.online = true
  · rw [if_pos online]
    have lists := Database.lists_olmSessions dated
    have apart := apart.perm lists.all.symm
    obtain ⟨value, answered, told⟩ := Vault.perform_hasSession nonce online
    refine ⟨_, value, lists, Vault.readsAll_getSessions nonce online apart labels,
      Vault.readsFirst_getLatestSession nonce online apart labels, ?_, answered, ?_, ?_⟩
    · intro row other newest newest'
      exact Vault.perform_getLatestSession_of_isNewest nonce newest newest'
    · simp only [told, ne_eq, List.eq_nil_iff_forall_not_mem, not_forall_not,
        Database.mem_olmSessions]
    · intro key reseal
      rw [Vault.perform_hasSession_of_resealed, answered]
      rfl
  · rw [if_neg online]
    exact Vault.perform_olm_reads_of_offline nonce (eq_false_of_ne_true online)

/-- A vault of an account. -/
def maskingVault : Vault :=
  ⟨⟨"@a"⟩, ⟨.replicate 32 0⟩, .sqlite, true, none, .poolClosed⟩

/-- A row of the account that is sealed with the key of the vault. -/
def sealedRow : OlmRow :=
  maskingVault.rowOfSession (.replicate 24 0) ⟨"curve"⟩ (madeSession "one")

/-- A later row of the account, with a damaged pickle. -/
def damagedRow : OlmRow :=
  { sealedRow with
    session := ⟨"two"⟩
    blob := []
    decrypted := ⟨3, 0, by decide⟩ }

/-- The vault has cached the session of the damaged row. -/
def maskingState : State :=
  let tables : Database := { Database.empty with olm := [sealedRow, damagedRow] }
  (State.share ⟨tables, .empty, .empty, .empty⟩ ⟨"@a"⟩ ⟨"curve"⟩ (madeSession "two")).2

/-- So it hands out the cached session and opens the other one. -/
theorem maskingState_skips_no_session
    : let sessions := maskingVault.perform (.replicate 24 0) (.getSessions ⟨"curve"⟩) maskingState
      let latest :=
        maskingVault.perform (.replicate 24 0) (.getLatestSession ⟨"curve"⟩) maskingState
      let rows := maskingState.database.olmUnder maskingVault.owner ⟨"curve"⟩
      maskingVault.TellsApart rows
      ∧ (rows.map OlmRow.decrypted).Nodup
      ∧ maskingState.cache.Labels maskingState.shared
      ∧ maskingVault.openPickle damagedRow = .error .undecipherable
      ∧ latest.result = .ok (.latest (some ⟨⟨"@a"⟩, 0⟩))
      ∧ ∃ ref,
          sessions.result = .ok (.sessions [⟨⟨"@a"⟩, 0⟩, ref])
          ∧ sessions.state.shared.get? ref = some (madeSession "one") := by
  intro sessions latest rows
  have listed : rows = [sealedRow, damagedRow] := rfl
  have opens : maskingVault.openPickle sealedRow = .ok (madeSession "one") :=
    (OlmRow.Holds.rowOfSession maskingVault _ _ (madeSession "one")).opens
  have damaged : maskingVault.openPickle damagedRow = .error .undecipherable := by rfl
  have apart : maskingVault.TellsApart rows := by
    rw [listed]
    refine ⟨by decide, ?_⟩
    intro row member session opens'
    simp only [List.mem_cons, List.not_mem_nil, or_false] at member
    rcases member with rfl | rfl
    · cases opens.symm.trans opens'
      rfl
    · cases damaged.symm.trans opens'
  have dated : (rows.map OlmRow.decrypted).Nodup := by
    rw [listed]
    decide
  have labels : maskingState.cache.Labels maskingState.shared :=
    ((Cache.Labels.empty _).keeps (.add _ _ _)).insert _ (SharedSessions.get?_add_self ..)
  have settled :=
    no_stored_session_is_skipped (.replicate 24 0) apart dated labels
  rw [if_pos (by rfl)] at settled
  obtain ⟨order, value, lists, all, first, _⟩ := settled
  -- The damaged row is the later one, so that it stands in front.
  have newest : order = [damagedRow, sealedRow] := by
    have among : order.Perm [damagedRow, sealedRow] :=
      lists.all.trans (.swap damagedRow sealedRow [])
    refine List.Perm.eq_of_pairwise ?_ lists.descending (by decide) among
    intro newer older _ _ before after
    exact absurd before (String.lt_asymm after)
  subst newest
  have cached : maskingState.cache.get? ⟨"curve"⟩ damagedRow.session = some ⟨⟨"@a"⟩, 0⟩ := by
    decide
  have uncached : maskingState.cache.get? ⟨"curve"⟩ sealedRow.session = none := by decide
  have served
      : ∀ row ∈ [damagedRow, sealedRow], maskingVault.Serves ⟨"curve"⟩ maskingState row := by
    intro row member
    simp only [List.mem_cons, List.not_mem_nil, or_false] at member
    rcases member with rfl | rfl
    · exact .inl ⟨_, cached⟩
    · exact .inr ⟨_, opens⟩
  obtain ⟨answer, answered⟩ := all.succeeds.mpr served
  obtain ⟨refs, rfl, _, each⟩ := all.handed answer answered
  obtain ⟨masked, _, hands, others, rfl⟩ := List.forall₂_cons_left_iff.mp each
  obtain ⟨ref, _, hands', last, rfl⟩ := List.forall₂_cons_left_iff.mp others
  cases last
  have same : masked = ⟨⟨"@a"⟩, 0⟩ := by
    obtain ⟨_, _, _, ⟨kept, _⟩ | ⟨free, _⟩⟩ := hands.value
    · exact Option.some.inj (kept.symm.trans cached)
    · cases cached.symm.trans free
  subst same
  obtain ⟨session, there, _, ⟨kept, _⟩ | ⟨_, _, opens'⟩⟩ := hands'.value
  · cases kept.symm.trans uncached
  · cases opens.symm.trans opens'
    exact ⟨apart, dated, labels, damaged, (first.agrees _ answered).1, ref, answered, there⟩

end KeyVault
