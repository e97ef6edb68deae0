import KeyVault.Proofs.Olm.Rows
import Mathlib.Data.List.Perm.Basic
/-!
What a vault that was just opened reads of an account's one-to-one sessions: those that the
successful writes say are stored, whatever the caches of the vaults that wrote them held.
-/

namespace KeyVault

namespace Vault

variable {vault : Vault} {sender : IdentityKey} {state : State}

/-- Rows that are not cached are opened to the sessions that they store, each as an object
of its own, and earlier objects stay, by induction over the rows.
-/
theorem openRows_of_uncached {rows : List OlmRow} {entries : List (IdentityKey × Session)}
    (stored : List.Forall₂ (OlmRow.Holds vault.key) rows entries)
    (distinct : (rows.map OlmRow.session).Nodup)
    (uncached : ∀ row ∈ rows, state.cache.get? sender row.session = none)
    : ∃ refs after,
        vault.openRows sender rows state = (.ok refs, after)
        ∧ refs.map after.shared.get? = (entries.map fun entry => some entry.2)
        ∧ ∀ ref session,
            state.shared.get? ref = some session → after.shared.get? ref = some session := by
  induction stored generalizing state with
  | nil => exact ⟨[], state, rfl, rfl, fun _ _ same => same⟩
  | @cons row entry rows entries first _ ih =>
    obtain ⟨fresh, distinct⟩ := List.nodup_cons.mp distinct
    have opens := openRow_of_uncached first (uncached row (List.mem_cons_self ..))
    have later
        : ∀ other ∈ rows,
            (state.share vault.owner sender entry.2).2.cache.get? sender other.session
            = none := by
      intro other member
      -- Opening the first row caches its own identifier, which no other row has.
      have different : other.session ≠ entry.2.id := by
        intro same
        exact fresh (first.session.trans same.symm ▸ List.mem_map_of_mem member)
      rw [State.share, Cache.get?_insert, if_neg (by simp [different])]
      exact uncached other (List.mem_cons_of_mem _ member)
    obtain ⟨refs, after, reads, values, kept⟩ := ih distinct later
    refine ⟨(state.share vault.owner sender entry.2).1 :: refs, after, ?_, ?_, ?_⟩
    · simp only [openRows, opens, reads]
    · rw [List.map_cons, List.map_cons, values]
      congr 1
      apply kept
      exact State.get?_share ..
    · intro ref session there
      apply kept
      exact SharedSessions.get?_add_of_some vault.owner entry.2 there

/-- The rows that are read for a key are those of the account with the key, in another order. -/
theorem olmSessions_perm (db : Database) (owner : AccountId) (sender : IdentityKey)
    : (db.olmSessions owner sender).Perm
        ((db.olmOf owner).filter fun row => row.sender = sender) := by
  unfold Database.olmSessions Database.olmOf
  rw [List.filter_filter]
  refine (List.mergeSort_perm _ _).trans (.of_eq ?_)
  apply List.filter_congr
  intro row _
  simp

/-- Where the rows of an account stand for sessions under their keys, those that are read for a
key stand for the sessions under it, in another order.
-/
theorem exists_forall₂_olmSessions {stands : OlmRow → IdentityKey × Session → Prop}
    (under : ∀ row entry, stands row entry → row.sender = entry.1)
    {db : Database} {owner : AccountId} {entries : List (IdentityKey × Session)}
    (each : List.Forall₂ stands (db.olmOf owner) entries) (sender : IdentityKey)
    : ∃ found,
        List.Forall₂ stands (db.olmSessions owner sender) found
        ∧ found.Perm (entries.filter fun entry => entry.1 = sender) := by
  have chosen
      : List.Forall₂ stands ((db.olmOf owner).filter fun row => row.sender = sender)
          (entries.filter fun entry => entry.1 = sender) := by
    refine List.rel_filter ?_ each
    intro row entry stood
    simp [under row entry stood]
  exact List.perm_comp_forall₂ (olmSessions_perm db owner sender) chosen

/-- A vault that has cached nothing reads the sessions that its account's rows store under a
key, in some order.
-/
theorem getSessions_of_fresh {entries : List (IdentityKey × Session)}
    (online : vault.online = true)
    (fresh : state.cache = .empty)
    (holds : HoldsOlm vault.key (state.database.olmOf vault.owner) entries)
    : ∃ (refs : List SessionRef) (sessions : List Session),
        (vault.getSessions sender state).result = .ok refs
        ∧ refs.map (vault.getSessions sender state).state.shared.get? = sessions.map some
        ∧ sessions.Perm ((entries.filter fun entry => entry.1 = sender).map Prod.snd) := by
  have perm := olmSessions_perm state.database vault.owner sender
  obtain ⟨found, stored, same⟩ :=
    exists_forall₂_olmSessions (fun _ _ => OlmRow.Holds.sender) holds.opened sender
  have distinct
      : ((state.database.olmSessions vault.owner sender).map OlmRow.session).Nodup := by
    have all : ((state.database.olmOf vault.owner).map OlmRow.session).Nodup :=
      holds.map_session ▸ holds.distinct
    exact (perm.map _).nodup_iff.mpr (all.sublist (List.filter_sublist.map _))
  have uncached
      : ∀ row ∈ state.database.olmSessions vault.owner sender,
          state.cache.get? sender row.session = none := by
    intro row _
    rw [fresh]
    rfl
  obtain ⟨refs, after, reads, values, _⟩ := openRows_of_uncached stored distinct uncached
  refine ⟨refs, found.map Prod.snd, ?_, ?_, same.map _⟩
  · simp only [getSessions, online, if_true, reads, opened, Outcome.done]
  · simp only [getSessions, online, if_true, reads, opened, Outcome.done, values, List.map_map]
    rfl

end Vault

/-- After every history on new tables that opens the vaults of an account with one key, a
vault of the account that is just opened reads under every key exactly the sessions that
were added under it since the account was last deleted, each once and as it was last
written, whatever vault wrote it and whatever the caches held.
-/
theorem olm_writes_reach_fresh_vault (history : List (Aead.Nonce × Event)) (owner : AccountId)
    (key : PickleKey) (keyed : ∀ entry ∈ history, entry.2.Keyed owner key)
    : let reached := (Deployment.empty.run history).2
      let written := olmSessionsWritten owner (Deployment.empty.moments history)
      (written.map fun entry => entry.2.id).Nodup
      ∧ ∀ backend sender,
          reached.isOnline backend = true
          → let fresh := Handle.fresh owner key backend
            let outcome := (reached.vaultOf fresh).getSessions sender (reached.stateOf fresh)
            ∃ (refs : List SessionRef) (sessions : List Session),
              outcome.result = .ok refs
              ∧ refs.map outcome.state.shared.get? = sessions.map some
              ∧ sessions.Perm
                  ((written.filter fun entry => entry.1 = sender).map Prod.snd) := by
  intro reached written
  have holds := (followsWrites_run keyed).holds
  refine ⟨holds.distinct, ?_⟩
  intro backend sender online fresh outcome
  exact Vault.getSessions_of_fresh online rfl holds

/-- Two vaults of an account write its sessions: the second one writes what the first one
added, under another key and without having cached it, and what is added twice is refused.
-/
def writingTogether : List (Aead.Nonce × Event) :=
  let events : List Event :=
    [.openVault "first" ⟨"@a"⟩ ⟨.replicate 32 0⟩,
     .shareVault "second" "first" ⟨"@a"⟩ ⟨.replicate 32 0⟩,
     .call "first" (.addSession ⟨"curve"⟩ (madeSession "gone")),
     .call "second" .delete,
     .call "first" (.addSession ⟨"curve"⟩ (madeSession "one")),
     .call "second" (.addSession ⟨"curve"⟩ (madeSession "two")),
     .setRatchet ⟨⟨"@a"⟩, 1⟩ [2],
     .call "second" (.updateSession ⟨"other"⟩ ⟨⟨"@a"⟩, 1⟩),
     .setRatchet ⟨⟨"@a"⟩, 1⟩ [3],
     .call "first" (.addSession ⟨"other"⟩ (madeSession "two"))]
  events.map fun event => (.replicate 24 0, event)

/-- A vault that is opened after them reads both sessions, the first one as the second vault
wrote it.
-/
theorem writingTogether_reaches_fresh_vault
    : let reached := (Deployment.empty.run writingTogether).2
      let fresh := Handle.fresh ⟨"@a"⟩ ⟨.replicate 32 0⟩ (.sqlite 0)
      let outcome := (reached.vaultOf fresh).getSessions ⟨"curve"⟩ (reached.stateOf fresh)
      (∀ entry ∈ writingTogether, entry.2.Keyed ⟨"@a"⟩ ⟨.replicate 32 0⟩)
      ∧ reached.isOnline fresh.backend = true
      ∧ ∃ (refs : List SessionRef) (sessions : List Session),
          outcome.result = .ok refs
          ∧ refs.map outcome.state.shared.get? = sessions.map some
          ∧ sessions.Perm [(madeSession "one").setRatchet [2], madeSession "two"] := by
  intro reached fresh outcome
  have keyed : ∀ entry ∈ writingTogether, entry.2.Keyed ⟨"@a"⟩ ⟨.replicate 32 0⟩ := by
    simp [writingTogether, Event.Keyed, Event.opens?]
  have online : reached.isOnline fresh.backend = true := by decide
  have written
      : olmSessionsWritten ⟨"@a"⟩ (Deployment.empty.moments writingTogether)
        = [(⟨"curve"⟩, (madeSession "one").setRatchet [2]),
            (⟨"curve"⟩, madeSession "two")] := by
    decide
  obtain ⟨refs, sessions, result, values, same⟩ :=
    (olm_writes_reach_fresh_vault writingTogether ⟨"@a"⟩ ⟨.replicate 32 0⟩ keyed).2
      (.sqlite 0) ⟨"curve"⟩ online
  rw [written] at same
  exact ⟨keyed, online, refs, sessions, result, values, same⟩

end KeyVault
