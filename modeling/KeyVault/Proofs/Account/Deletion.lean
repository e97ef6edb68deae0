import KeyVault.Proofs.Account.Restart
import KeyVault.Proofs.Inbound.Rows
import KeyVault.Proofs.Olm.Rows
import KeyVault.Proofs.Outbound.Rows
/-!
Deleting an account. The deletion takes the account's row, its one-to-one sessions and its
outbound sessions, and it empties what the vault keeps; it leaves the inbound sessions. So
the account is gone exactly when it had no inbound session.
-/

namespace KeyVault

/-- Whether a table has a row of an account. -/
def Database.owns (db : Database) (owner : AccountId) : Bool :=
  db.accounts.any (fun row => row.owner = owner)
    || db.olm.any (fun row => row.owner = owner)
    || db.inbound.any (fun row => row.owner = owner)
    || db.outbound.any (fun row => row.owner = owner)

/-- A vault whose account has no row, no one-to-one session and no outbound session: it answers
so, and answering leaves what it read.
-/
structure Vault.AnswersNone (vault : Vault) (state : State) : Prop where
  account : ∀ nonce, vault.perform nonce .getAccount state = .done (.account none) state
  device : ∀ nonce, vault.perform nonce .getDeviceId state = .done (.device none) state
  syncToken : ∀ nonce, vault.perform nonce .getNextBatch state = .done (.syncToken none) state
  hasSession
    : ∀ nonce sender, vault.perform nonce (.hasSession sender) state = .done (.flag false) state
  sessions
    : ∀ nonce sender, vault.perform nonce (.getSessions sender) state = .done (.sessions []) state
  latest
    : ∀ nonce sender,
        vault.perform nonce (.getLatestSession sender) state = .done (.latest none) state
  outbound
    : ∀ nonce room, vault.perform nonce (.getOutbound room) state = .done (.outbound none) state

-----------------------------------------------------------------------------------------
-- What is left in the tables
-----------------------------------------------------------------------------------------

namespace Database

variable (db : Database) (owner : AccountId)

/-- No row of an account that is wiped is left among the accounts, the one-to-one sessions and
the outbound sessions.
-/
theorem unowned_wipe
    : (∀ row ∈ (db.wipe owner).accounts, row.owner ≠ owner)
      ∧ (∀ row ∈ (db.wipe owner).olm, row.owner ≠ owner)
      ∧ ∀ row ∈ (db.wipe owner).outbound, row.owner ≠ owner := by
  simp [wipe, Rows.remove]

/-- Nothing of an account that is wiped is left exactly when it had no inbound session. -/
theorem owns_wipe_eq_false_iff
    : (db.wipe owner).owns owner = false ↔ ∀ row ∈ db.inbound, row.owner ≠ owner := by
  simp [owns, wipe, Rows.any_remove_self]

/-- An account without a one-to-one session has none with any key. -/
theorem olmSessions_eq_nil {db : Database} {owner : AccountId} (empty : db.olmOf owner = [])
    (sender : IdentityKey)
    : db.olmSessions owner sender = [] := by
  have absent : ∀ row ∈ db.olm, ¬ row.owner = owner := by
    simpa [olmOf] using empty
  have unmet : (db.olm.filter fun row => row.sender = sender ∧ row.owner = owner) = [] := by
    apply List.filter_eq_nil_iff.mpr
    intro row member met
    exact absent row member (of_decide_eq_true met).2
  rw [olmSessions, unmet, List.mergeSort_nil]

theorem hasOlmSession_eq_false {db : Database} {owner : AccountId} (empty : db.olmOf owner = [])
    (sender : IdentityKey)
    : db.hasOlmSession owner sender = false := by
  have absent : ∀ row ∈ db.olm, ¬ row.owner = owner := by
    simpa [olmOf] using empty
  apply List.any_eq_false.mpr
  intro row member met
  exact absent row member (of_decide_eq_true met).2

/-- An inbound session of an account is found somewhere exactly when the account has one. -/
theorem inbound?_eq_none_iff
    : (∀ room sender id, db.inbound? owner room sender id = none)
      ↔ ∀ row ∈ db.inbound, row.owner ≠ owner := by
  constructor
  · rintro absent row member rfl
    have unmet := List.find?_eq_none.mp (absent row.room row.sender row.session) row member
    simp at unmet
  · intro absent room sender id
    apply List.find?_eq_none.mpr
    intro row member met
    exact absent row member (of_decide_eq_true met).2.2.2

end Database

-----------------------------------------------------------------------------------------
-- What is answered afterwards
-----------------------------------------------------------------------------------------

namespace Vault

variable (vault : Vault) (state : State)

/-- Over an open pool the deletion wipes the account and empties what the vault keeps. -/
theorem perform_delete (nonce : Aead.Nonce) (online : vault.online = true)
    : vault.perform nonce .delete state
      = .done .nothing
          { state with
            database := state.database.wipe vault.owner
            cache := .empty
            memory := .empty } := by
  simp [perform, delete, online]

variable {vault}

/-- Where the account is wiped, a vault of it that keeps nothing answers that there is nothing. -/
theorem answersNone_of_wiped (online : vault.online = true) (db : Database)
    (shared : SharedSessions)
    : vault.AnswersNone ⟨db.wipe vault.owner, shared, .empty, .empty⟩ := by
  have account := db.account?_wipe vault.owner
  have olm := db.olmOf_wipe vault.owner
  have outbound (room : RoomId) : (db.wipe vault.owner).outbound? vault.owner room = none := by
    rw [Database.outbound?_wipe, if_pos rfl]
  constructor <;> intros
  case account => simp [perform, getAccount, Memory.empty, online, account]
  case device => simp [perform, getDeviceId, Memory.empty, online, account]
  case syncToken => simp [perform, getNextBatch, Memory.empty, online, account]
  case hasSession sender =>
    simp [perform, hasSession, Cache.hasAny, Cache.under, Cache.empty, Rows.get?, online,
      Database.hasOlmSession_eq_false olm]
  case sessions sender =>
    simp [perform, getSessions, online, Database.olmSessions_eq_nil olm, openRows, opened]
  case latest sender =>
    simp [perform, getLatestSession, online, Database.olmSessions_eq_nil olm]
  case outbound room => simp [perform, getOutbound, online, outbound]

/-- A vault has none of all inbound sessions exactly when its account has no row of one. -/
theorem perform_hasGroupSession_eq_false_iff (online : vault.online = true)
    : (∀ nonce room sender id,
        vault.perform nonce (.hasGroupSession room sender id) state = .done (.flag false) state)
      ↔ ∀ row ∈ state.database.inbound, row.owner ≠ vault.owner := by
  rw [← Database.inbound?_eq_none_iff]
  simp only [perform_hasGroupSession _ online, Outcome.done, Outcome.mk.injEq, Except.ok.injEq,
    Answer.flag.injEq, Option.isSome_eq_false_iff, Option.isNone_iff_eq_none, and_true]
  exact forall_const _

/-- What is asked of the inbound sessions is answered from their table. -/
theorem getGroupSession_result_of_same {first second : State}
    (same : first.database.inbound = second.database.inbound) (room : RoomId)
    (sender : IdentityKey) (id : SessionId)
    : (vault.getGroupSession room sender id first).result
      = (vault.getGroupSession room sender id second).result := by
  unfold getGroupSession Database.inbound?
  rw [same]
  split
  · split
    · rfl
    · dsimp only
      split <;> rfl
  · rfl

end Vault

/-- Over an open pool a deletion is done; it wipes the account and leaves its vault as if it
were just opened.
-/
theorem Deployment.step_delete {deployment : Deployment} {name : String} {handle : Handle}
    (opened : deployment.handle? name = some handle)
    (online : deployment.isOnline handle.backend = true) (nonce : Aead.Nonce)
    : deployment.step nonce (.call name .delete)
      = (.nothing,
          { deployment with database := deployment.database.wipe handle.owner }.setHandle name
            (.fresh handle.owner handle.key handle.backend)) := by
  rw [step_call opened, Vault.perform_delete (deployment.vaultOf handle) _ nonce online]
  rfl

/-- A deletion takes everything of its account exactly when the account has no inbound session: it
leaves these as they are and no other row, and its vault as if it were just opened. Every vault of
the account that is opened then answers that there is nothing, but for the inbound sessions, each of
which it has and reads. Over a closed pool the deletion fails and changes nothing.
-/
theorem deletion_is_complete_iff {deployment : Deployment} {name : String} {handle : Handle}
    (opened : deployment.handle? name = some handle) (nonce : Aead.Nonce)
    : let owner := handle.owner
      let inbound := deployment.database.inbound
      let after := (deployment.step nonce (.call name .delete)).2
      if deployment.isOnline handle.backend then
        (deployment.step nonce (.call name .delete)).1 = .nothing
        ∧ after.handle? name = some (.fresh owner handle.key handle.backend)
        ∧ after.database.inbound = inbound
        ∧ (∀ row ∈ after.database.accounts, row.owner ≠ owner)
        ∧ (∀ row ∈ after.database.olm, row.owner ≠ owner)
        ∧ (∀ row ∈ after.database.outbound, row.owner ≠ owner)
        ∧ (after.database.owns owner = false ↔ ∀ row ∈ inbound, row.owner ≠ owner)
        ∧ ∀ key backend,
            after.isOnline backend = true
            → let fresh := Handle.fresh owner key backend
              let vault := after.vaultOf fresh
              let state := after.stateOf fresh
              vault.AnswersNone state
              ∧ (∀ nonce room sender id,
                  vault.perform nonce (.hasGroupSession room sender id) state
                  = .done
                      (.flag (deployment.database.inbound? owner room sender id).isSome) state)
              ∧ ((∀ nonce room sender id,
                    vault.perform nonce (.hasGroupSession room sender id) state
                    = .done (.flag false) state)
                  ↔ ∀ row ∈ inbound, row.owner ≠ owner)
              ∧ ∀ room sender id,
                  after.afresh owner key backend (Vault.getGroupSession · room sender id)
                  = deployment.afresh owner key backend (Vault.getGroupSession · room sender id)
      else
        deployment.step nonce (.call name .delete)
        = (.failed (.database .poolClosed), deployment) := by
  intro owner inbound after
  cases online : deployment.isOnline handle.backend with
  | false =>
    rw [if_neg Bool.false_ne_true]
    refine Deployment.step_of_failed opened ?_
    simp only [Vault.perform, Vault.delete, Deployment.vaultOf, online]
    rfl
  | true =>
    rw [if_pos rfl]
    have step := Deployment.step_delete opened online nonce
    have left
        : after
          = { deployment with database := deployment.database.wipe owner }.setHandle name
              (.fresh owner handle.key handle.backend) :=
      congrArg Prod.snd step
    obtain ⟨accounts, olm, outbound⟩ := deployment.database.unowned_wipe owner
    refine ⟨congrArg Prod.fst step, ?_⟩
    rw [left]
    refine ⟨Deployment.handle?_setHandle_self .., rfl, accounts, olm, outbound,
      deployment.database.owns_wipe_eq_false_iff owner, ?_⟩
    intro key backend reachable fresh vault state
    refine ⟨Vault.answersNone_of_wiped reachable _ _, ?_,
      Vault.perform_hasGroupSession_eq_false_iff state reachable, ?_⟩
    · intro nonce room sender id
      exact Vault.perform_hasGroupSession nonce reachable room sender id
    · intro room sender id
      have same : vault = deployment.vaultOf fresh := by
        cases backend <;> rfl
      have table : state.database.inbound = (deployment.stateOf fresh).database.inbound := rfl
      calc (vault.getGroupSession room sender id state).result
          = (vault.getGroupSession room sender id (deployment.stateOf fresh)).result :=
            Vault.getGroupSession_result_of_same table room sender id
        _ = ((deployment.vaultOf fresh).getGroupSession room sender id
              (deployment.stateOf fresh)).result := by
            rw [same]

/-- A vault of an account stores the account, a position and one session of each kind. -/
def storingOfEach : List (Aead.Nonce × Event) :=
  let session := madeSession "pair"
  let events : List Event :=
    [.openVault "first" ⟨"@a"⟩ ⟨.replicate 32 0⟩,
     .call "first" (.putAccount ⟨[1], true⟩),
     .call "first" (.putNextBatch ⟨"s1"⟩),
     .call "first" (.addSession ⟨"curve"⟩ session),
     .call "first" (.addOutbound (.fresh ⟨"!room"⟩ ⟨"out"⟩ [1] session.times.created)),
     .call "first"
       (.putGroupSession ⟨"!room"⟩ ⟨"curve"⟩ ⟨"in"⟩
         ⟨⟨"in"⟩, ⟨⟨"!room"⟩, ⟨"curve"⟩, ⟨"ed"⟩, []⟩, [1]⟩)]
  events.map fun event => (.replicate 24 0, event)

/-- Then it deletes the account. A vault of the account that is opened afterwards has nothing
but the inbound session.
-/
theorem storingOfEach_leaves_inbound
    : let reached := (Deployment.empty.run storingOfEach).2
      let after := (reached.step (.replicate 24 0) (.call "first" .delete)).2
      let fresh := Handle.fresh ⟨"@a"⟩ ⟨.replicate 32 1⟩ (.sqlite 0)
      ∃ handle,
        reached.handle? "first" = some handle
        ∧ handle.owner = ⟨"@a"⟩
        ∧ handle.cache ≠ .empty
        ∧ (reached.step (.replicate 24 0) (.call "first" .delete)).1 = .nothing
        ∧ after.database.owns ⟨"@a"⟩ = true
        ∧ (after.vaultOf fresh).AnswersNone (after.stateOf fresh)
        ∧ (after.vaultOf fresh).perform (.replicate 24 0)
            (.hasGroupSession ⟨"!room"⟩ ⟨"curve"⟩ ⟨"in"⟩) (after.stateOf fresh)
          = .done (.flag true) (after.stateOf fresh) := by
  intro reached after fresh
  let handle : Handle :=
    { Handle.fresh ⟨"@a"⟩ ⟨.replicate 32 0⟩ (.sqlite 0) with
      cache := Cache.empty.insert ⟨"curve"⟩ ⟨"pair"⟩ ⟨⟨"@a"⟩, 0⟩
      memory := ⟨none, some ⟨"s1"⟩, some ⟨[1], true⟩⟩ }
  have opened : reached.handle? "first" = some handle := by decide
  have online : reached.isOnline handle.backend = true := by decide
  have stored : ¬ ∀ row ∈ reached.database.inbound, row.owner ≠ handle.owner := by decide
  have found
      : (reached.database.inbound? handle.owner ⟨"!room"⟩ ⟨"curve"⟩ ⟨"in"⟩).isSome = true := by
    decide
  have deletion := deletion_is_complete_iff opened (.replicate 24 0)
  rw [if_pos online] at deletion
  obtain ⟨done, _, _, _, _, _, complete, answers⟩ := deletion
  obtain ⟨nothing, inbound, _⟩ := answers ⟨.replicate 32 1⟩ (.sqlite 0) (by decide)
  have left := inbound (.replicate 24 0) ⟨"!room"⟩ ⟨"curve"⟩ ⟨"in"⟩
  rw [found] at left
  have owned : after.database.owns handle.owner = true :=
    Bool.of_not_eq_false fun free => stored (complete.mp free)
  exact ⟨handle, opened, rfl, by decide, done, owned, nothing, left⟩

/-- So a deletion does not take the account's inbound sessions away from the vaults that are
opened afterwards, in every deployment that a history leaves.
-/
theorem deletion_leaves_sessions
    : ¬ ∀ history name handle nonce,
        let reached := (Deployment.empty.run history).2
        let after := (reached.step nonce (.call name .delete)).2
        reached.handle? name = some handle
        → (reached.step nonce (.call name .delete)).1 = .nothing
        → after.database.owns handle.owner = false
          ∧ ∀ key backend,
              after.isOnline backend = true
              → ∀ room sender id,
                  after.afresh handle.owner key backend (Vault.hasGroupSession · room sender id)
                  = .ok false := by
  intro complete
  let reached := (Deployment.empty.run storingOfEach).2
  have there : (reached.handle? "first").map Handle.owner = some ⟨"@a"⟩ := by decide
  obtain ⟨handle, opened, own⟩ := Option.map_eq_some_iff.mp there
  obtain ⟨_, lacks⟩ := complete storingOfEach "first" handle (.replicate 24 0) opened rfl
  have lacking := lacks ⟨.replicate 32 1⟩ (.sqlite 0) (by decide) ⟨"!room"⟩ ⟨"curve"⟩ ⟨"in"⟩
  rw [own] at lacking
  have has
      : (reached.step (.replicate 24 0) (.call "first" .delete)).2.afresh ⟨"@a"⟩
          ⟨.replicate 32 1⟩ (.sqlite 0) (Vault.hasGroupSession · ⟨"!room"⟩ ⟨"curve"⟩ ⟨"in"⟩)
        = .ok true := by
    rfl
  cases has.symm.trans lacking

end KeyVault
