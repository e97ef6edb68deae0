import KeyVault.Proofs.Olm.Rows
/-!
Writing a one-to-one session after use. Where the account has a row of the session, the row
takes its use; where it has none, nothing is written, and the call succeeds all the same.
-/

namespace KeyVault

-----------------------------------------------------------------------------------------
-- What the statement does to the rows of the account
-----------------------------------------------------------------------------------------

/-- A row that keeps the use of a session: it opens to the identifier and the ratchet of the
session, whatever times stand beside it, and the times of its last use do stand beside it.
-/
structure OlmRow.KeepsUse (key : PickleKey) (used : Session) (row : OlmRow) : Prop where
  session : row.session = used.id
  opens : ∀ times, Session.unpickle row.blob key times = .ok { used with times }
  encrypted : row.encrypted = used.times.encrypted
  decrypted : row.decrypted = used.times.decrypted

namespace Database

variable {db : Database} {owner : AccountId} {key : PickleKey} {nonce : Aead.Nonce}
variable {session : Session}

/-- The row of a session keeps its use when it is written. -/
theorem exists_keepsUse_updateOlm {row : OlmRow} (member : row ∈ db.olmOf owner)
    (same : row.session = session.id)
    : ∃ later ∈
        (db.updateOlm owner session.id (session.pickle key nonce) session.times.encrypted
          session.times.decrypted).olmOf owner,
        later.KeepsUse key session := by
  rw [olmOf_updateOlm]
  refine ⟨_, List.mem_map_of_mem member, ?_⟩
  rw [if_pos (decide_eq_true same)]
  exact
    { session := same
      opens := fun times => session.unpickle_pickle key nonce times
      encrypted := rfl
      decrypted := rfl }

/-- No row of a session comes to be when it is written: the rows keep their identifiers. -/
theorem exists_of_mem_updateOlm {id : SessionId} {blob : Blob} {encrypted decrypted : Instant}
    {later : OlmRow} (member : later ∈ (db.updateOlm owner id blob encrypted decrypted).olmOf owner)
    : ∃ row ∈ db.olmOf owner, row.session = later.session := by
  rw [olmOf_updateOlm] at member
  obtain ⟨row, there, rfl⟩ := List.mem_map.mp member
  refine ⟨row, there, ?_⟩
  split <;> rfl

/-- Where the account has no row of a session, writing it writes nothing. -/
theorem updateOlm_of_absent {id : SessionId} (absent : ∀ row ∈ db.olmOf owner, row.session ≠ id)
    (blob : Blob) (encrypted decrypted : Instant)
    : db.updateOlm owner id blob encrypted decrypted = db := by
  have apart : ∀ row ∈ db.olm, decide (row.session = id ∧ row.owner = owner) = false := by
    intro row member
    apply decide_eq_false
    rintro ⟨same, owned⟩
    exact absent row (List.mem_filter.mpr ⟨member, decide_eq_true owned⟩) same
  rw [updateOlm, Rows.amend_of_none apart]

end Database

-----------------------------------------------------------------------------------------
-- What the call answers
-----------------------------------------------------------------------------------------

/-- What a call that writes a shared session returns, logs and leaves: the tables say nothing
about the first two.
-/
theorem Vault.perform_updateSession {vault : Vault} {ref : SessionRef} {state : State}
    {session : Session}
    (nonce : Aead.Nonce) (sender : IdentityKey) (met : state.shared.get? ref = some session)
    : vault.perform nonce (.updateSession sender ref) state
      = { result := if vault.online then .ok .nothing else .error (.database vault.fault)
          notices := divergence sender ref session state
          state :=
            { state with
              database :=
                if vault.online then
                  state.database.updateOlm vault.owner session.id
                    (session.pickle vault.key nonce) session.times.encrypted
                    session.times.decrypted
                else state.database } } := by
  simp only [perform, updateSession, met]
  cases vault.online <;>
    simp [Outcome.noting, Outcome.answering, Outcome.done, Vault.offline, Outcome.failed,
      Except.map]

/-- Writing a shared session succeeds just when its statement is done, whatever is stored and
cached. After that the account has a row that keeps the use of the session exactly when it had a
row of the session before. Where it had none the call changes nothing, and neither its result nor
its log tells that.
-/
theorem use_is_kept_iff_stored {vault : Vault} {ref : SessionRef} {state : State}
    {session : Session}
    (nonce : Aead.Nonce) (sender : IdentityKey) (met : state.shared.get? ref = some session)
    : let outcome := vault.perform nonce (.updateSession sender ref) state
      outcome.result = (if vault.online then .ok .nothing else .error (.database vault.fault))
      ∧ (outcome.result = .ok .nothing
          → ((∃ row ∈ outcome.state.database.olmOf vault.owner,
                row.KeepsUse vault.key session)
              ↔ ∃ row ∈ state.database.olmOf vault.owner, row.session = session.id))
      ∧ ((∀ row ∈ state.database.olmOf vault.owner, row.session ≠ session.id)
          → outcome.state = state)
      ∧ ∀ database,
          let other := vault.perform nonce (.updateSession sender ref) { state with database }
          other.result = outcome.result ∧ other.notices = outcome.notices := by
  intro outcome
  have performed : outcome = _ := Vault.perform_updateSession nonce sender met
  refine ⟨by rw [performed], ?_, ?_, ?_⟩
  · intro succeeded
    rw [performed] at succeeded ⊢
    cases online : vault.online with
    | false =>
      rw [online] at succeeded
      cases succeeded
    | true =>
      simp only [if_true]
      constructor
      · rintro ⟨later, member, keeps⟩
        obtain ⟨row, there, same⟩ := Database.exists_of_mem_updateOlm member
        exact ⟨row, there, same.trans keeps.session⟩
      · rintro ⟨row, member, same⟩
        exact Database.exists_keepsUse_updateOlm member same
  · intro absent
    rw [performed, Database.updateOlm_of_absent absent, ite_self]
  · intro database other
    have likewise : other = _ := Vault.perform_updateSession nonce sender met
    rw [performed, likewise]
    exact ⟨rfl, rfl⟩

-----------------------------------------------------------------------------------------
-- A session that another vault has deleted
-----------------------------------------------------------------------------------------

/-- A vault adds a session, and another vault of the account deletes the account. -/
def deletingElsewhere : List (Aead.Nonce × Event) :=
  let events : List Event :=
    [.openVault "first" ⟨"@a"⟩ ⟨.replicate 32 0⟩,
     .shareVault "second" "first" ⟨"@a"⟩ ⟨.replicate 32 0⟩,
     .call "first" (.addSession ⟨"curve"⟩ (madeSession "one")),
     .call "second" .delete]
  events.map fun event => (.replicate 24 0, event)

/-- What the deletion leaves. -/
def Deployment.deletedElsewhere : Deployment :=
  (Deployment.empty.run deletingElsewhere).2

/-- The first vault, which still has the session cached. -/
def Handle.stillCaching : Handle :=
  { Handle.fresh ⟨"@a"⟩ ⟨.replicate 32 0⟩ (.sqlite 0) with
    cache := Cache.empty.insert ⟨"curve"⟩ ⟨"one"⟩ ⟨⟨"@a"⟩, 0⟩ }

/-- The first vault writes the session and is told that it succeeded, and nothing is logged,
but the account has no row that keeps it.
-/
theorem use_is_lost_when_deleted
    : let vault := Deployment.deletedElsewhere.vaultOf .stillCaching
      let state := Deployment.deletedElsewhere.stateOf .stillCaching
      let outcome :=
        vault.perform (.replicate 24 0) (.updateSession ⟨"curve"⟩ ⟨⟨"@a"⟩, 0⟩) state
      Deployment.deletedElsewhere.handle? "first" = some .stillCaching
      ∧ state.shared.get? ⟨⟨"@a"⟩, 0⟩ = some (madeSession "one")
      ∧ outcome.result = .ok .nothing
      ∧ outcome.notices = []
      ∧ ¬ ∃ row ∈ outcome.state.database.olmOf vault.owner,
            row.KeepsUse vault.key (madeSession "one") := by
  intro vault state outcome
  have met : state.shared.get? ⟨⟨"@a"⟩, 0⟩ = some (madeSession "one") := by decide
  have absent : state.database.olmOf vault.owner = [] := by decide
  obtain ⟨answered, kept, _⟩ :=
    @use_is_kept_iff_stored vault _ state _ (.replicate 24 0) ⟨"curve"⟩ met
  refine ⟨by decide, met, answered, by decide, ?_⟩
  intro keeps
  obtain ⟨row, member, _⟩ := (kept answered).mp keeps
  rw [absent] at member
  exact List.not_mem_nil member

/-- So a successful write does not leave a row that keeps the use of the session in every
state.
-/
theorem writing_use_loses_it
    : ¬ ∀ (vault : Vault) nonce sender ref state session,
        let outcome := vault.perform nonce (.updateSession sender ref) state
        state.shared.get? ref = some session
        → outcome.result = .ok .nothing
        → ∃ row ∈ outcome.state.database.olmOf vault.owner,
            row.KeepsUse vault.key session := by
  intro keeps
  let vault := Deployment.deletedElsewhere.vaultOf .stillCaching
  let state := Deployment.deletedElsewhere.stateOf .stillCaching
  have empty
      : (vault.perform (.replicate 24 0) (.updateSession ⟨"curve"⟩ ⟨⟨"@a"⟩, 0⟩)
            state).state.database.olmOf vault.owner
        = [] := by
    decide
  obtain ⟨row, member, _⟩ :=
    keeps vault (.replicate 24 0) ⟨"curve"⟩ ⟨⟨"@a"⟩, 0⟩ state (madeSession "one") (by decide)
      (by decide)
  rw [empty] at member
  exact List.not_mem_nil member

end KeyVault
