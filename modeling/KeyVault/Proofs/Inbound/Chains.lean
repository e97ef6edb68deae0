import KeyVault.Proofs.Inbound.Rows
/-!
Forwarding chains in their column. Which chains come back as they were stored, and that every
column comes back as it was, so that writing a session again does not change it.
-/

namespace KeyVault

namespace Chain

/-- A chain that is stored without loss: no key has a comma in it, and the chain is not one
empty key, which is stored as no key at all is.
-/
def Storable (chain : List IdentityKey) : Prop :=
  (∀ key ∈ chain, ',' ∉ key.text.toList) ∧ chain ≠ [⟨""⟩]

-----------------------------------------------------------------------------------------
-- Texts between commas
-----------------------------------------------------------------------------------------

/-- The pieces of a text are what it is split into at its commas. -/
theorem pieces_eq_splitOn (text : List Char) : pieces text = text.splitOn ',' := by
  induction text with
  | nil => rfl
  | cons c rest ih =>
    have cuts : pieces rest ≠ [] := ih ▸ List.splitOn_ne_nil ',' rest
    rw [pieces, List.splitOn_cons_eq_if_modifyHead, ← ih]
    by_cases comma : c = ','
    · simp [comma]
    · cases cut : pieces rest with
      | nil => exact absurd cut cuts
      | cons first others => simp [comma]

/-- No piece has a comma in it, by induction over the text: a comma starts a new piece, and any
other character goes into the first one.
-/
theorem comma_notMem_of_mem_pieces {text piece : List Char} (member : piece ∈ pieces text)
    : ',' ∉ piece := by
  induction text generalizing piece with
  | nil =>
    cases List.mem_singleton.mp member
    exact List.not_mem_nil
  | cons c rest ih =>
    unfold pieces at member
    by_cases comma : c = ','
    · rw [if_pos comma] at member
      rcases List.mem_cons.mp member with rfl | later
      · exact List.not_mem_nil
      · exact ih later
    · rw [if_neg comma] at member
      cases cut : pieces rest with
      | nil =>
        rw [cut] at member
        cases List.mem_singleton.mp member
        simpa using Ne.symm comma
      | cons first others =>
        rw [cut] at member
        rcases List.mem_cons.mp member with rfl | later
        · have plain := ih (cut ▸ List.mem_cons_self)
          exact List.not_mem_cons_of_ne_of_not_mem (Ne.symm comma) plain
        · exact ih (cut ▸ List.mem_cons_of_mem first later)

/-- Only no text and one empty text are joined to the empty text. -/
theorem joined_eq_nil_iff {texts : List (List Char)}
    : joined texts = [] ↔ texts = [] ∨ texts = [[]] := by
  cases texts with
  | nil => simp [joined]
  | cons first rest =>
    cases rest with
    | nil => simp [joined]
    | cons second rest => simp [joined, List.intercalate_cons_cons]

-----------------------------------------------------------------------------------------
-- Chains and columns
-----------------------------------------------------------------------------------------

/-- A column is written as it was read. -/
theorem join_split (column : String) : join (split column) = column := by
  unfold split
  by_cases empty : column = ""
  · rw [if_pos empty, empty]
    rfl
  · rw [if_neg empty]
    have texts
        : ((pieces column.toList).map fun piece => (⟨String.ofList piece⟩ : IdentityKey)).map
            (fun key => key.text.toList)
          = pieces column.toList := by
      simp [List.map_map, Function.comp_def]
    rw [join, texts, joined, pieces_eq_splitOn, List.intercalate_splitOn, String.ofList_toList]

/-- No key that is read off a column has a comma in it. -/
theorem comma_notMem_of_mem_split {column : String} {key : IdentityKey}
    (member : key ∈ split column)
    : ',' ∉ key.text.toList := by
  unfold split at member
  by_cases empty : column = ""
  · rw [if_pos empty] at member
    cases member
  · rw [if_neg empty] at member
    obtain ⟨piece, there, rfl⟩ := List.mem_map.mp member
    rw [String.toList_ofList]
    exact comma_notMem_of_mem_pieces there

/-- A chain that is stored without loss is read as it was written. -/
theorem split_join {chain : List IdentityKey} (storable : Storable chain)
    : split (join chain) = chain := by
  obtain ⟨plain, kept⟩ := storable
  by_cases empty : chain = []
  · rw [empty]
    rfl
  · have filled : chain.map (fun key => key.text.toList) ≠ [] := by simpa using empty
    have apart : ∀ text ∈ chain.map (fun key => key.text.toList), ',' ∉ text := by
      intro text member
      obtain ⟨key, there, rfl⟩ := List.mem_map.mp member
      exact plain key there
    have written : join chain ≠ "" := by
      intro nothing
      have blank := joined_eq_nil_iff.mp (String.ofList_eq_empty_iff.mp nothing)
      rcases blank with nil | one
      · exact filled nil
      · obtain ⟨⟨text⟩, rfl, blank⟩ := List.map_eq_singleton_iff.mp one
        obtain rfl : text = "" := String.toList_eq_nil_iff.mp blank
        exact kept rfl
    rw [split, if_neg written, join, String.toList_ofList, pieces_eq_splitOn, joined,
      List.splitOn_intercalate ',' apart filled]
    simp [List.map_map, Function.comp_def]

/-- Exactly the chains that are stored without loss are read as they were written. -/
theorem split_join_iff (chain : List IdentityKey)
    : split (join chain) = chain ↔ Storable chain := by
  refine ⟨fun same => ⟨?_, ?_⟩, split_join⟩
  · intro key member
    rw [← same] at member
    exact comma_notMem_of_mem_split member
  · rintro rfl
    exact absurd same (by decide)

end Chain

-----------------------------------------------------------------------------------------
-- Sessions that are stored and read
-----------------------------------------------------------------------------------------

/-- A session with the room, the sender and the identifier that are its own. -/
def InboundSession.filing (session : InboundSession) : InboundFiling :=
  ⟨session.facts.room, session.facts.sender, session.id, session⟩

/-- A session that is filed under what is its own comes back when its chain does. -/
theorem InboundSession.reread_filing_eq_iff (session : InboundSession)
    : session.filing.reread = session ↔ Chain.Storable session.facts.chain := by
  rw [← Chain.split_join_iff]
  constructor
  · intro same
    exact congrArg (fun session => session.facts.chain) same
  · intro same
    simp only [InboundFiling.reread, filing, same]

/-- What is kept beside a pickle comes back with the session that is opened with it. -/
theorem InboundSession.facts_of_unpickle {blob : Blob} {key : PickleKey} {facts : InboundFacts}
    {session : InboundSession} (opens : unpickle blob key facts = .ok session)
    : session.facts = facts := by
  unfold unpickle at opens
  cases unpacked : Pickle.unpack GroupPickle.form key .inbound blob with
  | error fault =>
    rw [unpacked] at opens
    cases opens
  | ok held =>
    rw [unpacked] at opens
    cases opens
    rfl

/-- A row that is added where its account has none with its identifier is found in its room
and from its sender.
-/
theorem Database.inbound?_append_of_absent {db : Database} {row : InboundRow}
    (absent : ∀ old ∈ db.inbound, old.owner = row.owner → old.session ≠ row.session)
    : ({ db with inbound := db.inbound ++ [row] } : Database).inbound? row.owner row.room row.sender
        row.session
      = some row := by
  have earlier : db.inbound? row.owner row.room row.sender row.session = none := by
    apply List.find?_eq_none.mpr
    intro old member found
    obtain ⟨_, _, same, owned⟩ := of_decide_eq_true found
    exact absent old member owned same
  unfold inbound? at earlier ⊢
  rw [List.find?_append, earlier]
  simp

/-- What is read is read off a row, and its chain is written as the column of that row. -/
theorem Vault.exists_column_of_getGroupSession {vault : Vault} {state : State}
    (nonce : Aead.Nonce) {room : RoomId} {sender : IdentityKey} {id : SessionId}
    {session : InboundSession}
    (read
      : (vault.perform nonce (.getGroupSession room sender id) state).result
        = .ok (.inbound (some session)))
    : ∃ row,
        state.database.inbound? vault.owner room sender id = some row
        ∧ Chain.join session.facts.chain = row.chain := by
  simp only [perform, getGroupSession] at read
  cases online : vault.online with
  | false =>
    rw [online] at read
    cases read
  | true =>
    rw [if_pos online] at read
    cases found : state.database.inbound? vault.owner room sender id with
    | none =>
      rw [found] at read
      cases read
    | some row =>
      refine ⟨row, rfl, ?_⟩
      rw [found] at read
      dsimp only at read
      cases opens : InboundSession.unpickle row.blob vault.key
          ⟨room, sender, row.signing, Chain.split row.chain⟩ with
      | error fault =>
        rw [opens] at read
        cases read
      | ok back =>
        rw [opens] at read
        cases read
        rw [InboundSession.facts_of_unpickle opens]
        exact Chain.join_split row.chain

namespace Deployment

variable {deployment : Deployment} {name : String} {handle : Handle}
variable (opened : deployment.handle? name = some handle) (nonce : Aead.Nonce)
variable {room : RoomId} {sender : IdentityKey} {id : SessionId}
include opened

/-- A session is stored over an open pool when its account has no row with the identifier. -/
theorem step_putGroupSession_of_absent (online : deployment.isOnline handle.backend = true)
    (absent
      : ∀ row ∈ deployment.database.inbound, row.owner = handle.owner → row.session ≠ id)
    (session : InboundSession)
    : let row := (deployment.vaultOf handle).rowOfInbound nonce room sender id session
      let inbound := deployment.database.inbound ++ [row]
      deployment.step nonce (.call name (.putGroupSession room sender id session))
      = (.nothing, { deployment with database := { deployment.database with inbound } }) :=
  step_of_done opened (Vault.perform_putGroupSession_of_absent nonce online absent session)

/-- It is stored in no other case. -/
theorem result_putGroupSession_eq_ok_iff (session : InboundSession)
    : (deployment.step nonce (.call name (.putGroupSession room sender id session))).1.result
        = .ok .nothing
      ↔ deployment.isOnline handle.backend = true
        ∧ ∀ row ∈ deployment.database.inbound, row.owner = handle.owner → row.session ≠ id := by
  constructor
  · intro succeeded
    cases online : deployment.isOnline handle.backend with
    | false =>
      rw [step_of_failed opened
        (Vault.perform_putGroupSession_of_offline nonce online session)] at succeeded
      cases succeeded
    | true =>
      refine ⟨rfl, ?_⟩
      intro row member owned same
      rw [step_of_failed opened (Vault.perform_putGroupSession_of_held nonce online
        ⟨row, member, owned, same⟩ session)] at succeeded
      cases succeeded
  · rintro ⟨online, absent⟩
    rw [step_putGroupSession_of_absent opened nonce online absent]
    rfl

/-- A session that was stored under its own room, sender and identifier is read there, with
its chain as the column gives it back.
-/
theorem reply_getGroupSession_of_stored (get : Aead.Nonce) {session : InboundSession}
    (online : deployment.isOnline handle.backend = true)
    (absent
      : ∀ row ∈ deployment.database.inbound,
          row.owner = handle.owner → row.session ≠ session.id)
    : let room := session.facts.room
      let sender := session.facts.sender
      let stored :=
        (deployment.step nonce (.call name (.putGroupSession room sender session.id session))).2
      (stored.step get (.call name (.getGroupSession room sender session.id))).1
      = ⟨.ok (.inbound (some session.filing.reread)), []⟩ := by
  intro room sender stored
  let row := (deployment.vaultOf handle).rowOfInbound nonce room sender session.id session
  have left
      : stored
        = { deployment with
            database := { deployment.database with
              inbound := deployment.database.inbound ++ [row] } } :=
    congrArg Prod.snd (step_putGroupSession_of_absent opened nonce online absent session)
  have found : stored.database.inbound? handle.owner room sender session.id = some row := by
    rw [left]
    have free
        : ∀ old ∈ deployment.database.inbound,
            old.owner = row.owner → old.session ≠ row.session :=
      absent
    exact Database.inbound?_append_of_absent free
  have holds : row.Holds handle.key session.filing :=
    .rowOfInbound (deployment.vaultOf handle) nonce session.filing
  have still : stored.handle? name = some handle := left ▸ opened
  have reached : stored.isOnline handle.backend = true := left ▸ online
  exact reply_of_done still (Vault.perform_getGroupSession_of_holds get reached found holds)

/-- The chain of a session that is read is written as the column that it was read from. -/
theorem exists_column_of_getGroupSession {session : InboundSession}
    (read
      : (deployment.step nonce (.call name (.getGroupSession room sender id))).1.result
        = .ok (.inbound (some session)))
    : ∃ row,
        deployment.database.inbound? handle.owner room sender id = some row
        ∧ Chain.join session.facts.chain = row.chain := by
  rw [step_call opened] at read
  exact Vault.exists_column_of_getGroupSession nonce read

end Deployment

/-- A forwarding chain is read as it was written exactly when no key of it has a comma in it and it
is not one empty key, and a column is written as it was read. A session that is stored under its own
room, sender and identifier is then read there, and is equal to the one that was stored exactly when
its chain is such a chain.
-/
theorem forwarding_chains_come_back_iff
    : (∀ chain,
        Chain.split (Chain.join chain) = chain
        ↔ (∀ key ∈ chain, ',' ∉ key.text.toList) ∧ chain ≠ [⟨""⟩])
      ∧ (∀ column, Chain.join (Chain.split column) = column)
      ∧ ∀ (deployment : Deployment) (name : String) (handle : Handle),
          deployment.handle? name = some handle
          → (∀ nonce room sender id session,
              (deployment.step nonce (.call name (.getGroupSession room sender id))).1.result
                = .ok (.inbound (some session))
              → ∃ row,
                  deployment.database.inbound? handle.owner room sender id = some row
                  ∧ Chain.join session.facts.chain = row.chain)
            ∧ ∀ (put get : Aead.Nonce) (session : InboundSession),
                let room := session.facts.room
                let sender := session.facts.sender
                let chain := session.facts.chain
                let storing :=
                  deployment.step put (.call name (.putGroupSession room sender session.id session))
                let reading :=
                  (storing.2.step get (.call name (.getGroupSession room sender session.id))).1
                (storing.1.result = .ok .nothing
                  ↔ deployment.isOnline handle.backend = true
                    ∧ ∀ row ∈ deployment.database.inbound,
                        row.owner = handle.owner → row.session ≠ session.id)
                ∧ (storing.1.result = .ok .nothing
                  → (∃ back, reading = ⟨.ok (.inbound (some back)), []⟩)
                    ∧ (reading.result = .ok (.inbound (some session))
                      ↔ (∀ key ∈ chain, ',' ∉ key.text.toList) ∧ chain ≠ [⟨""⟩])) := by
  refine ⟨Chain.split_join_iff, Chain.join_split, ?_⟩
  intro deployment name handle opened
  refine ⟨?_, ?_⟩
  · intro nonce room sender id session read
    exact Deployment.exists_column_of_getGroupSession opened nonce read
  · intro put get session room sender chain storing reading
    have stores
        : storing.1.result = .ok .nothing
          ↔ deployment.isOnline handle.backend = true
            ∧ ∀ row ∈ deployment.database.inbound,
                row.owner = handle.owner → row.session ≠ session.id :=
      Deployment.result_putGroupSession_eq_ok_iff opened put session
    refine ⟨stores, ?_⟩
    intro succeeded
    obtain ⟨online, absent⟩ := stores.mp succeeded
    have read : reading = ⟨.ok (.inbound (some session.filing.reread)), []⟩ :=
      Deployment.reply_getGroupSession_of_stored opened put get online absent
    refine ⟨⟨_, read⟩, ?_⟩
    rw [read, Except.ok.injEq, Answer.inbound.injEq, Option.some.injEq]
    exact session.reread_filing_eq_iff

/-- A session that came through some devices. -/
def relayedSession (chain : List IdentityKey) : InboundSession :=
  ⟨⟨"one"⟩, ⟨⟨"!room"⟩, ⟨"curve"⟩, ⟨"ed"⟩, chain⟩, [1]⟩

/-- A vault that was just opened reads a session that it stored as it was with an empty key
behind another one, but not with an empty key alone.
-/
theorem relayedSession_comes_back
    : let nonce : Aead.Nonce := .replicate 24 0
      let deployment :=
        (Deployment.empty.run [(nonce, .openVault "first" ⟨"@a"⟩ ⟨.replicate 32 0⟩)]).2
      let storing (session : InboundSession) : Reply × Deployment :=
        deployment.step nonce
          (.call "first" (.putGroupSession ⟨"!room"⟩ ⟨"curve"⟩ ⟨"one"⟩ session))
      let reading (session : InboundSession) : Reply :=
        ((storing session).2.step nonce
          (.call "first" (.getGroupSession ⟨"!room"⟩ ⟨"curve"⟩ ⟨"one"⟩))).1
      let kept := relayedSession [⟨"far"⟩, ⟨""⟩]
      let lost := relayedSession [⟨""⟩]
      deployment.handle? "first" = some (.fresh ⟨"@a"⟩ ⟨.replicate 32 0⟩ (.sqlite 0))
      ∧ (storing kept).1.result = .ok .nothing
      ∧ (reading kept).result = .ok (.inbound (some kept))
      ∧ (storing lost).1.result = .ok .nothing
      ∧ (reading lost).result ≠ .ok (.inbound (some lost)) := by
  intro nonce deployment storing reading kept lost
  have opened
      : deployment.handle? "first" = some (.fresh ⟨"@a"⟩ ⟨.replicate 32 0⟩ (.sqlite 0)) := by
    decide
  have free
      : ∀ row ∈ deployment.database.inbound, row.owner = ⟨"@a"⟩ → row.session ≠ ⟨"one"⟩ := by
    decide
  obtain ⟨_, comesBack⟩ := forwarding_chains_come_back_iff.2.2 deployment "first" _ opened
  obtain ⟨storesKept, readsKept⟩ := comesBack nonce nonce kept
  obtain ⟨storesLost, readsLost⟩ := comesBack nonce nonce lost
  have keptStored := storesKept.mpr ⟨by decide, free⟩
  have lostStored := storesLost.mpr ⟨by decide, free⟩
  refine ⟨opened, keptStored, (readsKept keptStored).2.mpr (by decide), lostStored, ?_⟩
  exact fun same => absurd ((readsLost lostStored).2.mp same) (by decide)

end KeyVault
