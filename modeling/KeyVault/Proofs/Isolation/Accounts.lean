import KeyVault.Proofs.Isolation.Deployments
/-!
Accounts do not interfere. The vaults of an account are told the same in a history and in the
one from which the calls of another account's vaults are removed, whatever keys, rooms and
session identifiers the two accounts have in common. Only a session object that passes from
the one to the other has to be there in both histories.
-/

namespace KeyVault

-----------------------------------------------------------------------------------------
-- Histories without the calls about an account
-----------------------------------------------------------------------------------------

/-- Tables of any contents that no vault is open on. -/
def Deployment.over (database : Database) : Deployment :=
  ⟨database, .empty, 0, [], []⟩

/-- What the vaults of an account were told over some moments. -/
def toldTo (owner : AccountId) (moments : List Moment)
    : List (Event × Reply × List (Option Session)) :=
  moments.filterMap (·.told? owner)

/-- The events of moments, with others in place of the calls of an account's vaults about the
account.
-/
def replacingOwn (owner : AccountId) (instead : Moment → List (Aead.Nonce × Event))
    (moments : List Moment)
    : List (Aead.Nonce × Event) :=
  moments.flatMap fun moment =>
    if moment.isOwn owner then instead moment else [(moment.nonce, moment.event)]

/-- The events of moments but for the calls of an account's vaults about the account. -/
def removingOwn (owner : AccountId) (moments : List Moment) : List (Aead.Nonce × Event) :=
  replacingOwn owner (fun _ => []) moments

/-- The sessions that a moment shared for an account, shared by its engine. -/
def Moment.sharing (owner : AccountId) (moment : Moment) : List (Aead.Nonce × Event) :=
  let before := moment.met.shared.of owner
  let sessions := (moment.left.shared.of owner).drop before.length
  sessions.map fun session => (moment.nonce, .share owner session)

theorem toldTo_append (owner : AccountId) (earlier later : List Moment)
    : toldTo owner (earlier ++ later) = toldTo owner earlier ++ toldTo owner later :=
  List.filterMap_append

theorem replacingOwn_append (owner : AccountId) (instead : Moment → List (Aead.Nonce × Event))
    (past : List Moment) (moment : Moment)
    : replacingOwn owner instead (past ++ [moment])
      = replacingOwn owner instead past
        ++ if moment.isOwn owner then instead moment else [(moment.nonce, moment.event)] := by
  simp only [replacingOwn, List.flatMap_append, List.flatMap_singleton]

-----------------------------------------------------------------------------------------
-- Sharing in place of a call
-----------------------------------------------------------------------------------------

/-- The engine that shares sessions one after the other shares them all and tells no vault, by
induction over them.
-/
theorem Deployment.run_share (deployment : Deployment) (nonce : Aead.Nonce) (owner : AccountId)
    (sessions : List Session)
    : let history := sessions.map fun session => (nonce, Event.share owner session)
      (deployment.run history).2 = deployment.shareAll owner sessions
      ∧ ∀ other, toldTo other (deployment.moments history) = [] := by
  intro history
  induction sessions generalizing deployment with
  | nil => exact ⟨rfl, fun _ => rfl⟩
  | cons session rest ih =>
    obtain ⟨left, told⟩ := ih (deployment.step nonce (.share owner session)).2
    exact ⟨left, told⟩

theorem Moment.sharing_eq {moment : Moment} {owner : AccountId} {sessions : List Session}
    (shared : moment.left.shared = moment.met.shared.addAll owner sessions)
    : moment.sharing owner = sessions.map fun session => (moment.nonce, .share owner session) := by
  simp only [sharing, shared, SharedSessions.of_addAll, List.drop_left]

-----------------------------------------------------------------------------------------
-- Two histories at once
-----------------------------------------------------------------------------------------

/-- What stands in place of an account's own calls: it tells another account nothing, and where
the call met the same, up to the account, it leaves the same.
-/
def StandsIn (instead : Moment → List (Aead.Nonce × Event)) (hidden other : AccountId)
    (seen : AccountId → Bool)
    : Prop :=
  ∀ moment twin,
    moment.isOwn hidden = true
    → Deployment.without twin hidden seen = moment.met.without hidden seen
    → (twin.run (instead moment)).2.without hidden seen = moment.left.without hidden seen
      ∧ toldTo other (twin.moments (instead moment)) = []

/-- After the moments of a history the replaced history has left the same up to the account, and
has told another account the same.
-/
structure Replaced (instead : Moment → List (Aead.Nonce × Event)) (hidden other : AccountId)
    (seen : AccountId → Bool) (start : Deployment) (past : List Moment) (left : Deployment)
    : Prop where
  owned : left.OwnCaches
  same
    : (start.run (replacingOwn hidden instead past)).2.without hidden seen
      = left.without hidden seen
  told : toldTo other (start.moments (replacingOwn hidden instead past)) = toldTo other past

namespace Replaced

variable {instead : Moment → List (Aead.Nonce × Event)} {hidden other : AccountId}
variable {seen : AccountId → Bool} {start : Deployment} {past : List Moment} {moment : Moment}

/-- A further call that is replaced. -/
theorem own (replaced : Replaced instead hidden other seen start past moment.met)
    (different : other ≠ hidden) (stands : StandsIn instead hidden other seen)
    (own : moment.isOwn hidden = true)
    : Replaced instead hidden other seen start (past ++ [moment]) moment.left where
  owned := Moment.ownCaches_left replaced.owned
  same := by
    rw [replacingOwn_append, if_pos own, Deployment.run_append]
    exact (stands _ _ own replaced.same).1
  told := by
    obtain ⟨handle, _, called, owns, _⟩ := Moment.isOwn_iff.mp own
    have silent : moment.told? other = none := by
      simp [Moment.told?, called, owns, different.symm]
    rw [replacingOwn_append, if_pos own, Deployment.moments_append, toldTo_append,
      (stands _ _ own replaced.same).2, List.append_nil, replaced.told]
    simp [toldTo, silent]

/-- A further event that is kept happens to both deployments, and so up to the account. -/
theorem kept (replaced : Replaced instead hidden other seen start past moment.met)
    (starting : start.OwnCaches) (different : other ≠ hidden)
    (met : ∀ owner, owner ≠ hidden → seen owner = true)
    (given : seen hidden = true ∨ moment.isLent hidden = false)
    (spared : moment.isOwn hidden = false)
    : Replaced instead hidden other seen start (past ++ [moment]) moment.left := by
  let reached := (start.run (replacingOwn hidden instead past)).2
  let twin : Moment := ⟨reached, moment.nonce, moment.event⟩
  have owned : twin.met.OwnCaches := Deployment.ownCaches_run starting _
  have same : twin.without hidden seen = moment.without hidden seen :=
    congrArg (Moment.mk · moment.nonce moment.event) replaced.same
  have spared' : twin.isOwn hidden = false := by
    rw [← Moment.isOwn_without hidden, same, Moment.isOwn_without, spared]
  have given' : seen hidden = true ∨ twin.isLent hidden = false := by
    rw [← Moment.isLent_without hidden, same, Moment.isLent_without]
    exact given
  refine ⟨Moment.ownCaches_left replaced.owned, ?_, ?_⟩
  · rw [replacingOwn_append, if_neg (by simp [spared]), Deployment.run_append]
    calc twin.left.without hidden seen
        = (twin.without hidden seen).left.without hidden seen :=
          (Moment.left_without owned spared' met given').symm
      _ = (moment.without hidden seen).left.without hidden seen := by
          rw [same]
      _ = moment.left.without hidden seen :=
          Moment.left_without replaced.owned spared met given
  · have tells : twin.told? other = moment.told? other := by
      rw [← Moment.told?_without owned spared' met given' different, same,
        Moment.told?_without replaced.owned spared met given different]
    have heard : toldTo other [twin] = toldTo other [moment] := by
      simp only [toldTo, List.filterMap_cons, tells]
    rw [replacingOwn_append, if_neg (by simp [spared]), Deployment.moments_append, toldTo_append,
      toldTo_append, replaced.told]
    exact congrArg (toldTo other past ++ ·) heard

end Replaced

/-- Another account is told the same over a history in which something stands in place of the
account's own calls, by induction over the events.
-/
theorem toldTo_replacingOwn {instead : Moment → List (Aead.Nonce × Event)}
    {hidden other : AccountId} {seen : AccountId → Bool} {start : Deployment}
    (starting : start.OwnCaches) (different : other ≠ hidden)
    (met : ∀ owner, owner ≠ hidden → seen owner = true)
    (stands : StandsIn instead hidden other seen) (history : List (Aead.Nonce × Event))
    (given : seen hidden = true ∨ ∀ moment ∈ start.moments history, moment.isLent hidden = false)
    : toldTo other (start.moments (replacingOwn hidden instead (start.moments history)))
      = toldTo other (start.moments history) := by
  let motive (past : List Moment) (left : Deployment) : Prop :=
    (seen hidden = true ∨ ∀ moment ∈ past, moment.isLent hidden = false)
    → Replaced instead hidden other seen start past left
  have replaced : motive (start.moments history) (start.run history).2 := by
    refine @Deployment.run_induction start motive history ?_ ?_
    · intro _
      exact ⟨starting, rfl, rfl⟩
    · intro past moment _ before given
      have earlier := before (given.imp_right fun free => (List.forall_mem_append.mp free).1)
      cases own : moment.isOwn hidden with
      | true => exact earlier.own different stands own
      | false =>
        refine earlier.kept starting different met (given.imp_right ?_) own
        intro free
        exact free moment (List.mem_append_right _ (List.mem_singleton_self moment))
  exact (replaced given).told

-----------------------------------------------------------------------------------------
-- What stands in place of the calls
-----------------------------------------------------------------------------------------

/-- Where the sessions of all accounts are seen, sharing them stands in place of the calls. -/
theorem standsIn_sharing (hidden other : AccountId)
    : StandsIn (Moment.sharing hidden) hidden other fun _ => true := by
  intro moment twin own same
  obtain ⟨sessions, shared, left⟩ := Moment.left_of_own own
  obtain ⟨leaves, silent⟩ := twin.run_share moment.nonce hidden sessions
  rw [Moment.sharing_eq shared]
  refine ⟨?_, silent other⟩
  rw [leaves, left, Deployment.shareAll_without rfl, Deployment.shareAll_without rfl, same]

/-- Where the sessions of the account are not seen, nothing stands in place of the calls. -/
theorem standsIn_nothing (hidden other : AccountId)
    : StandsIn (fun _ => []) hidden other fun owner => owner ≠ hidden := by
  intro moment twin own same
  obtain ⟨sessions, _, left⟩ := Moment.left_of_own own
  refine ⟨?_, rfl⟩
  rw [left, Deployment.shareAll_without_of_unseen (by simp)]
  exact same

/-- Accounts do not interfere. Whatever the tables hold and whatever happens, the vaults of an
account are told the same in each of their calls as in the history in which the calls of another
account's vaults only share the sessions that they shared; and unless a vault is given a session of
that account to write, they are told the same as in the history without these calls.
-/
theorem accounts_do_not_interfere (database : Database) (history : List (Aead.Nonce × Event))
    {hidden other : AccountId} (different : other ≠ hidden)
    : let start := Deployment.over database
      let moments := start.moments history
      toldTo other (start.moments (replacingOwn hidden (Moment.sharing hidden) moments))
        = toldTo other moments
      ∧ ((∀ moment ∈ moments, moment.isLent hidden = false)
        → toldTo other (start.moments (removingOwn hidden moments)) = toldTo other moments) := by
  intro start moments
  have starting : start.OwnCaches := by
    intro name handle opened
    cases opened
  refine ⟨?_, ?_⟩
  · exact toldTo_replacingOwn starting different (fun _ _ => rfl)
      (standsIn_sharing hidden other) history (.inl rfl)
  · intro free
    exact toldTo_replacingOwn starting different (fun _ => decide_eq_true)
      (standsIn_nothing hidden other) history (.inr free)

/-- Vaults of two accounts on one pool store sessions of the same identifiers with the same key
and for the same room. The first stores one again, which fails, and deletes its account in
between.
-/
def storingAlike : List (Aead.Nonce × Event) :=
  let session := madeSession "pair"
  let events : List Event :=
    [.openVault "first" ⟨"@a"⟩ ⟨.replicate 32 0⟩,
     .shareVault "second" "first" ⟨"@b"⟩ ⟨.replicate 32 0⟩,
     .call "first" (.addSession ⟨"curve"⟩ session),
     .call "second" (.addSession ⟨"curve"⟩ session),
     .call "first" (.addSession ⟨"curve"⟩ session),
     .call "second" (.addOutbound (.fresh ⟨"!room"⟩ ⟨"out"⟩ [1] session.times.created)),
     .call "first" (.removeOutbound ⟨"!room"⟩),
     .call "first" .delete,
     .call "second" (.updateSession ⟨"curve"⟩ ⟨⟨"@b"⟩, 0⟩),
     .call "second" (.hasSession ⟨"curve"⟩),
     .call "second" (.updateOutbound (.fresh ⟨"!room"⟩ ⟨"out"⟩ [2] session.times.created))]
  events.map fun event => (.replicate 24 0, event)

/-- The second is told the same without the calls of the first: it still has both sessions. -/
theorem storingAlike_without_first
    : let start := Deployment.over .empty
      let moments := start.moments storingAlike
      let without := removingOwn ⟨"@a"⟩ moments
      without.length + 4 = storingAlike.length
      ∧ toldTo ⟨"@b"⟩ (start.moments without) = toldTo ⟨"@b"⟩ moments
      ∧ (toldTo ⟨"@b"⟩ (start.moments without)).map (·.2.1.result)
        = [.ok (.session ⟨⟨"@b"⟩, 0⟩), .ok .nothing, .ok .nothing,
            .ok (.flag true), .ok (.flag true)] := by
  intro start moments without
  have free : ∀ moment ∈ moments, moment.isLent ⟨"@a"⟩ = false := by decide
  have different : (⟨"@b"⟩ : AccountId) ≠ ⟨"@a"⟩ := by decide
  have same := (accounts_do_not_interfere .empty storingAlike different).2 free
  refine ⟨by decide, same, ?_⟩
  rw [same]
  rfl

end KeyVault
