import KeyVault.Proofs.Olm.Filing
import KeyVault.Proofs.Rows.Removed
/-!
The shared sessions, account by account. A vault caches and hands out sessions of its own
account only; it shares further ones for its account and leaves those of the others.
-/

namespace KeyVault

-----------------------------------------------------------------------------------------
-- The shared sessions of some accounts
-----------------------------------------------------------------------------------------

namespace SharedSessions

/-- The shared sessions of the accounts that are seen. -/
def among (shared : SharedSessions) (seen : AccountId → Bool) : SharedSessions :=
  ⟨shared.byOwner.filter fun entry => seen entry.1⟩

variable (shared : SharedSessions) {seen : AccountId → Bool}

section Seen

variable {owner : AccountId} (met : seen owner = true)
include met

theorem of_among : (shared.among seen).of owner = shared.of owner := by
  rw [of, among, Rows.get?_filter met]
  rfl

theorem add_among (session : Session)
    : (shared.among seen).add owner session
      = ((shared.add owner session).1, (shared.add owner session).2.among seen) := by
  unfold add
  rw [of_among shared met]
  simp only [among, Rows.put_filter met]

end Seen

section Unseen

variable {owner : AccountId} (unmet : seen owner = false)
include unmet

theorem among_add_of_unseen (session : Session)
    : (shared.add owner session).2.among seen = shared.among seen := by
  simp only [add, among, Rows.filter_put_of_unkept unmet]

end Unseen

theorem get?_among {ref : SessionRef} (met : seen ref.owner = true)
    : (shared.among seen).get? ref = shared.get? ref := by
  rw [get?, of_among shared met]
  rfl

theorem among_among : (shared.among seen).among seen = shared.among seen := by
  simp only [among, List.filter_filter, Bool.and_self]

/-- A session that is shared is shared among those that are seen, or is not seen. -/
theorem among_add (owner : AccountId) (session : Session)
    : ((shared.among seen).add owner session).2.among seen
      = (shared.add owner session).2.among seen := by
  cases met : seen owner with
  | true => rw [add_among shared met, among_among]
  | false => rw [among_add_of_unseen _ met, among_add_of_unseen _ met, among_among]

/-- A session that is changed is changed among those that are seen, or is not seen. -/
theorem among_modify (ref : SessionRef) (change : Session → Session)
    : ((shared.among seen).modify ref change).among seen
      = (shared.modify ref change).among seen := by
  unfold modify
  cases met : seen ref.owner with
  | true =>
    rw [of_among shared met]
    simp only [among, Rows.put_filter met, List.filter_filter, Bool.and_self]
  | false => simp only [among, Rows.filter_put_of_unkept met, List.filter_filter, Bool.and_self]

end SharedSessions

-----------------------------------------------------------------------------------------
-- Sharing several sessions
-----------------------------------------------------------------------------------------

namespace SharedSessions

/-- Shares several sessions for an account, one after the other. -/
def addAll (shared : SharedSessions) (owner : AccountId) (sessions : List Session)
    : SharedSessions :=
  sessions.foldl (fun shared session => (shared.add owner session).2) shared

variable (shared : SharedSessions) (owner : AccountId) (sessions : List Session)

theorem addAll_append (later : List Session)
    : shared.addAll owner (sessions ++ later) = (shared.addAll owner sessions).addAll owner later :=
  List.foldl_append

/-- The sessions that are shared for an account stand behind its others, by induction over them. -/
theorem of_addAll : (shared.addAll owner sessions).of owner = shared.of owner ++ sessions := by
  induction sessions generalizing shared with
  | nil => simp [addAll]
  | cons session rest ih =>
    have first : (shared.add owner session).2.of owner = shared.of owner ++ [session] := by
      simp [add, of, Rows.get?_put_self]
    have further := ih (shared.add owner session).2
    rw [first, List.append_assoc] at further
    exact further

/-- Sessions of an account that is seen are shared among those that are seen, by induction over
the sessions.
-/
theorem addAll_among {seen : AccountId → Bool} (met : seen owner = true)
    : (shared.among seen).addAll owner sessions = (shared.addAll owner sessions).among seen := by
  induction sessions generalizing shared with
  | nil => rfl
  | cons session rest ih =>
    have further := ih (shared.add owner session).2
    simp only [addAll, List.foldl_cons, add_among shared met] at further ⊢
    exact further

/-- Sessions of an account that is not seen are shared unseen, by induction over them. -/
theorem among_addAll_of_unseen {seen : AccountId → Bool} (unmet : seen owner = false)
    : (shared.addAll owner sessions).among seen = shared.among seen := by
  induction sessions generalizing shared with
  | nil => rfl
  | cons session rest ih =>
    exact (ih (shared.add owner session).2).trans (shared.among_add_of_unseen unmet session)

end SharedSessions

namespace Vault

variable {vault : Vault} {nonce : Aead.Nonce} {state after : State} {sender : IdentityKey}

/-- Opening a row shares a session for the account of the vault, or none. -/
theorem openRow_addAll {row : OlmRow} {result : Except PickleFault SessionRef}
    (opens : vault.openRow sender row state = (result, after))
    : ∃ sessions, after.shared = state.shared.addAll vault.owner sessions := by
  cases opens_of_openRow opens with
  | cached => exact ⟨[], rfl⟩
  | failed => exact ⟨[], rfl⟩
  | @opened session => exact ⟨[session], rfl⟩

/-- Opening rows shares sessions for the account of the vault. -/
theorem openRows_addAll {rows : List OlmRow} {result : Except PickleFault (List SessionRef)}
    (opens : vault.openRows sender rows state = (result, after))
    : ∃ sessions, after.shared = state.shared.addAll vault.owner sessions := by
  refine openRows_related
    (R := fun before after =>
      ∃ sessions, after.shared = before.shared.addAll vault.owner sessions)
    (fun _ => ⟨[], rfl⟩) ?_ openRow_addAll opens
  rintro first second third ⟨sessions, before⟩ ⟨later, after⟩
  exact ⟨sessions ++ later, by rw [after, before, SharedSessions.addAll_append]⟩

/-- An operation shares sessions for the account of the vault and no other. -/
theorem Effect.addAll {operation : Operation} (effect : vault.Effect nonce state operation after)
    : ∃ sessions, after.shared = state.shared.addAll vault.owner sessions := by
  cases effect
  case getSessions opens =>
    have shared := openRows_addAll opens
    exact shared
  case getLatestSession opens =>
    have shared := openRow_addAll opens
    exact shared
  case addSession session _ => exact ⟨[session], rfl⟩
  all_goals exact ⟨[], rfl⟩

end Vault

-----------------------------------------------------------------------------------------
-- Sessions that a vault caches and hands out
-----------------------------------------------------------------------------------------

/-- Every cached session is one of an account. -/
def Cache.OwnedBy (cache : Cache) (owner : AccountId) : Prop :=
  ∀ sender id ref, cache.get? sender id = some ref → ref.owner = owner

namespace Cache.OwnedBy

variable {cache : Cache} {owner : AccountId}

theorem empty (owner : AccountId) : Cache.empty.OwnedBy owner := by
  intro sender id ref there
  cases there

theorem insert (owned : cache.OwnedBy owner) (sender : IdentityKey) (id : SessionId)
    {ref : SessionRef} (own : ref.owner = owner)
    : (cache.insert sender id ref).OwnedBy owner := by
  intro other otherId kept there
  rw [Cache.get?_insert] at there
  by_cases here : other = sender ∧ otherId = id
  · rw [if_pos here] at there
    cases there
    exact own
  · rw [if_neg here] at there
    exact owned other otherId kept there

/-- The session that is cached after filing one is of the account, and so are all others. -/
theorem getOrInsert (owned : cache.OwnedBy owner) (sender : IdentityKey) (id : SessionId)
    {ref : SessionRef} (own : ref.owner = owner)
    : (cache.getOrInsert sender id ref).1.owner = owner
      ∧ (cache.getOrInsert sender id ref).2.OwnedBy owner := by
  unfold Cache.getOrInsert
  cases cached : cache.get? sender id with
  | some kept => exact ⟨owned _ _ _ cached, owned⟩
  | none => exact ⟨own, owned.insert sender id own⟩

end Cache.OwnedBy

namespace Vault

variable {vault : Vault} {nonce : Aead.Nonce} {state after : State} {sender : IdentityKey}

/-- Opening a row caches and hands out a session of the vault's account. -/
theorem openRow_owned {row : OlmRow} {result : Except PickleFault SessionRef}
    (opens : vault.openRow sender row state = (result, after))
    (owned : state.cache.OwnedBy vault.owner)
    : after.cache.OwnedBy vault.owner ∧ ∀ ref, result = .ok ref → ref.owner = vault.owner := by
  cases opens_of_openRow opens with
  | cached cached =>
    refine ⟨owned, ?_⟩
    rintro _ ⟨⟩
    exact owned _ _ _ cached
  | failed =>
    refine ⟨owned, ?_⟩
    rintro _ ⟨⟩
  | @opened session =>
    have shared : (state.shared.add vault.owner session).1.owner = vault.owner := rfl
    obtain ⟨own, filed⟩ := owned.getOrInsert sender session.id shared
    refine ⟨filed, ?_⟩
    rintro _ ⟨⟩
    exact own

/-- Opening rows caches and hands out sessions of the vault's account, by induction over the
rows.
-/
theorem openRows_owned {rows : List OlmRow} {result : Except PickleFault (List SessionRef)}
    (opens : vault.openRows sender rows state = (result, after))
    (owned : state.cache.OwnedBy vault.owner)
    : after.cache.OwnedBy vault.owner
      ∧ ∀ refs, result = .ok refs → ∀ ref ∈ refs, ref.owner = vault.owner := by
  induction rows generalizing state result with
  | nil =>
    cases opens
    refine ⟨owned, ?_⟩
    rintro _ ⟨⟩
    simp
  | cons row rows ih =>
    unfold openRows at opens
    rcases first : vault.openRow sender row state with ⟨fault | ref, between⟩
    all_goals
      rw [first] at opens
      obtain ⟨met, own⟩ := openRow_owned first owned
    · cases opens
      refine ⟨met, ?_⟩
      rintro _ ⟨⟩
    · rcases rest : vault.openRows sender rows between with ⟨fault | refs, last⟩
      all_goals
        simp only [rest] at opens
        cases opens
        obtain ⟨left, others⟩ := ih rest met
        refine ⟨left, ?_⟩
      · rintro _ ⟨⟩
      · rintro _ ⟨⟩ ref member
        rcases List.mem_cons.mp member with rfl | member
        · exact own _ rfl
        · exact others _ rfl ref member

/-- An operation leaves only sessions of the vault's account in the cache. -/
theorem Effect.ownedBy {operation : Operation} (effect : vault.Effect nonce state operation after)
    (owned : state.cache.OwnedBy vault.owner)
    : after.cache.OwnedBy vault.owner := by
  cases effect
  case delete => exact .empty _
  case getSessions opens => exact (openRows_owned opens owned).1
  case getLatestSession opens => exact (openRow_owned opens owned).1
  case addSession => exact owned.insert _ _ rfl
  all_goals exact owned

theorem addSession_owned {session : Session} {ref : SessionRef}
    (answers : (vault.addSession nonce sender session state).result = .ok ref)
    : ref.owner = vault.owner := by
  simp only [addSession, Outcome.noting] at answers
  cases online : vault.online with
  | false =>
    rw [online] at answers
    cases answers
  | true =>
    rw [if_pos online] at answers
    cases inserted : state.database.insertOlm (vault.rowOfSession nonce sender session) with
    | error fault =>
      rw [inserted] at answers
      cases answers
    | ok database =>
      rw [inserted] at answers
      cases answers
      rfl

theorem getSessions_owned (owned : state.cache.OwnedBy vault.owner) {refs : List SessionRef}
    (answers : (vault.getSessions sender state).result = .ok refs)
    : ∀ ref ∈ refs, ref.owner = vault.owner := by
  unfold getSessions at answers
  by_cases online : vault.online = true
  · rw [if_pos online] at answers
    generalize opens
      : vault.openRows sender (state.database.olmSessions vault.owner sender) state = opening
      at answers
    obtain ⟨fault | opened, after⟩ := opening <;> cases answers
    exact (openRows_owned opens owned).2 _ rfl
  · rw [if_neg online] at answers
    cases answers

theorem getLatestSession_owned (owned : state.cache.OwnedBy vault.owner) {ref : SessionRef}
    (answers : (vault.getLatestSession sender state).result = .ok (some ref))
    : ref.owner = vault.owner := by
  unfold getLatestSession at answers
  by_cases online : vault.online = true
  · rw [if_pos online] at answers
    cases listed : state.database.olmSessions vault.owner sender with
    | nil =>
      rw [listed] at answers
      cases answers
    | cons row older =>
      rw [listed] at answers
      dsimp only at answers
      generalize opens : vault.openRow sender row state = opening at answers
      obtain ⟨fault | opened, after⟩ := opening <;> cases answers
      exact (openRow_owned opens owned).2 _ rfl
  · rw [if_neg online] at answers
    cases answers

/-- An operation hands out only sessions of the vault's account. -/
theorem perform_handsOut_owned (nonce : Aead.Nonce) (owned : state.cache.OwnedBy vault.owner)
    (operation : Operation)
    : ∀ entry ∈ operation.handsOut (vault.perform nonce operation state).result,
        entry.2.owner = vault.owner := by
  intro entry member
  cases operation
  case addSession sender session =>
    cases answers : (vault.addSession nonce sender session state).result <;>
      simp only [perform, Outcome.answering, answers, Except.map, Operation.handsOut,
        List.not_mem_nil, List.mem_singleton] at member
    subst member
    exact addSession_owned answers
  case getSessions sender =>
    cases answers : (vault.getSessions sender state).result <;>
      simp only [perform, Outcome.answering, answers, Except.map, Operation.handsOut,
        List.not_mem_nil, List.mem_map] at member
    obtain ⟨ref, handed, rfl⟩ := member
    exact getSessions_owned owned answers ref handed
  case getLatestSession sender =>
    rcases answers : (vault.getLatestSession sender state).result with fault | _ | ref <;>
      simp only [perform, Outcome.answering, answers, Except.map, Operation.handsOut,
        List.not_mem_nil, List.mem_singleton] at member
    subst member
    exact getLatestSession_owned owned answers
  all_goals simp [Operation.handsOut] at member

end Vault

end KeyVault
