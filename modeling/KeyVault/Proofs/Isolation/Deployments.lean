import KeyVault.Proofs.Deployment.Handles
import KeyVault.Proofs.Isolation.Calls
import KeyVault.Proofs.Rows.Distinct
/-!
A deployment without an account. Every event but a call of the account's own vaults about the
account does the same there, and tells the other vaults the same; such a call is seen in the
shared sessions at most.
-/

namespace KeyVault

-----------------------------------------------------------------------------------------
-- Deployments without an account
-----------------------------------------------------------------------------------------

/-- A vault that has cached and remembered nothing, if it is one of the account. -/
def Handle.without (handle : Handle) (hidden : AccountId) : Handle :=
  if handle.owner = hidden then .fresh handle.owner handle.key handle.backend else handle

/-- A deployment without what an account has in the tables and in its vaults, with the shared
sessions of the accounts that are seen.
-/
def Deployment.without (deployment : Deployment) (hidden : AccountId) (seen : AccountId → Bool)
    : Deployment :=
  { deployment with
    database := deployment.database.without hidden
    shared := deployment.shared.among seen
    handles := deployment.handles.map fun entry => (entry.1, entry.2.without hidden) }

/-- A deployment in which further sessions are shared for an account. -/
def Deployment.shareAll (deployment : Deployment) (owner : AccountId) (sessions : List Session)
    : Deployment :=
  { deployment with shared := deployment.shared.addAll owner sessions }

namespace Handle

variable (handle : Handle) (hidden : AccountId)

@[simp] theorem owner_without : (handle.without hidden).owner = handle.owner := by
  unfold without
  split <;> rfl

@[simp] theorem backend_without : (handle.without hidden).backend = handle.backend := by
  unfold without
  split <;> rfl

theorem without_of_owner {handle : Handle} {hidden : AccountId} (own : handle.owner = hidden)
    : handle.without hidden = .fresh handle.owner handle.key handle.backend :=
  if_pos own

theorem without_of_other {handle : Handle} {hidden : AccountId} (other : handle.owner ≠ hidden)
    : handle.without hidden = handle :=
  if_neg other

@[simp] theorem without_fresh (owner : AccountId) (key : PickleKey) (backend : Backend)
    : (fresh owner key backend).without hidden = fresh owner key backend := by
  unfold without
  split <;> rfl

/-- What a call of a vault of the account leaves in its vault is not there without it. -/
theorem without_keeping (state : State)
    : (handle.keeping state).without handle.owner = handle.without handle.owner := by
  simp only [without, keeping, fresh, if_true]

@[simp] theorem without_without
    : (handle.without hidden).without hidden = handle.without hidden := by
  by_cases own : handle.owner = hidden
  · rw [without_of_owner own, without_fresh]
  · rw [without_of_other own, without_of_other own]

end Handle

namespace Deployment

variable (deployment : Deployment) (hidden : AccountId) (seen : AccountId → Bool)

theorem handle?_without (name : String)
    : (deployment.without hidden seen).handle? name
      = (deployment.handle? name).map (·.without hidden) :=
  Rows.get?_map name (fun _ (handle : Handle) => handle.without hidden) deployment.handles

theorem setHandle_without (name : String) (handle : Handle)
    : (deployment.without hidden seen).setHandle name (handle.without hidden)
      = (deployment.setHandle name handle).without hidden seen := by
  unfold setHandle without
  rw [Rows.put_map (Handle.without · hidden)]

theorem isOnline_without (backend : Backend)
    : (deployment.without hidden seen).isOnline backend = deployment.isOnline backend := by
  cases backend <;> rfl

theorem vaultOf_without (handle : Handle)
    : (deployment.without hidden seen).vaultOf (handle.without hidden)
      = deployment.vaultOf handle := by
  unfold vaultOf
  rw [Handle.backend_without, isOnline_without]
  unfold Handle.without
  split <;> rfl

theorem without_without
    : (deployment.without hidden seen).without hidden seen = deployment.without hidden seen := by
  unfold without
  simp only [Database.without_without, SharedSessions.among_among, List.map_map,
    Function.comp_def, Handle.without_without]

variable {deployment hidden seen} in
/-- Sessions that are shared for an account that is seen are shared without it. -/
theorem shareAll_without {owner : AccountId} (met : seen owner = true) {sessions : List Session}
    : (deployment.shareAll owner sessions).without hidden seen
      = (deployment.without hidden seen).shareAll owner sessions := by
  unfold shareAll without
  rw [SharedSessions.addAll_among _ _ _ met]

variable {deployment hidden seen} in
/-- Sessions that are shared for an account that is not seen are not there without it. -/
theorem shareAll_without_of_unseen {owner : AccountId} (unmet : seen owner = false)
    {sessions : List Session}
    : (deployment.shareAll owner sessions).without hidden seen
      = deployment.without hidden seen := by
  unfold shareAll without
  rw [SharedSessions.among_addAll_of_unseen _ _ _ unmet]

/-- A call of another account settles the same without the account. -/
theorem settle_without {handle : Handle} (other : handle.owner ≠ hidden) (name : String)
    (state : State)
    : (deployment.without hidden seen).settle name handle (state.without hidden seen)
      = (deployment.settle name handle state).without hidden seen := by
  have kept : (handle.keeping state).without hidden = handle.keeping state :=
    Handle.without_of_other other
  unfold settle
  rw [← setHandle_without]
  exact congrArg (setHandle _ name) kept.symm

/-- A call of the account's own vault settles the same without the account, where its vault
keeps nothing.
-/
theorem settle_keeping {handle : Handle} (own : handle.owner = hidden) (name : String)
    (state : State)
    : (deployment.without hidden seen).settle name (handle.without hidden)
        ((state.without hidden seen).keeping .empty .empty)
      = (deployment.settle name handle state).without hidden seen := by
  have kept
      : (handle.keeping state).without hidden
        = .fresh handle.owner handle.key handle.backend :=
    Handle.without_of_owner own
  unfold settle
  rw [← setHandle_without, Handle.without_of_owner own]
  exact congrArg (setHandle _ name) kept.symm

end Deployment

-----------------------------------------------------------------------------------------
-- Vaults that cache sessions of their own account
-----------------------------------------------------------------------------------------

/-- Every open vault caches sessions of its own account only. -/
def Deployment.OwnCaches (deployment : Deployment) : Prop :=
  ∀ name handle, deployment.handle? name = some handle → handle.cache.OwnedBy handle.owner

/-- Every event keeps the caches to the sessions of the own account. -/
theorem Moment.ownCaches_left {moment : Moment} (owned : moment.met.OwnCaches)
    : moment.left.OwnCaches := by
  intro name handle opened
  rcases moment.handle?_left name with
    same | ⟨owner, key, backend, _, fresh⟩ | ⟨before, operation, _, there, kept⟩
  · exact owned name handle (same ▸ opened)
  · cases Option.some.inj (fresh.symm.trans opened)
    exact .empty owner
  · cases Option.some.inj (kept.symm.trans opened)
    exact (moment.effect before operation).ownedBy (owned name before there)

/-- So does every history, by induction over its events. -/
theorem Deployment.ownCaches_run {deployment : Deployment} (owned : deployment.OwnCaches)
    (history : List (Aead.Nonce × Event))
    : (deployment.run history).2.OwnCaches := by
  refine @run_induction deployment (fun _ after => after.OwnCaches) history owned ?_
  intro past moment _ before
  exact Moment.ownCaches_left before

-----------------------------------------------------------------------------------------
-- What moments do about an account, and what they tell it
-----------------------------------------------------------------------------------------

namespace Moment

/-- Whether a vault of an account is called about the account. -/
def isOwn (moment : Moment) (owner : AccountId) : Bool :=
  moment.call?.any fun call => decide (call.1.owner = owner) && call.2.isScoped

/-- Whether a vault of another account is given a session of an account to write. -/
def isLent (moment : Moment) (owner : AccountId) : Bool :=
  match moment.call? with
  | some (handle, .updateSession _ ref) => decide (handle.owner ≠ owner ∧ ref.owner = owner)
  | _ => false

/-- What a call of a vault of an account was told: which call it was, what it returned and
logged, and how the sessions stand that it was handed out.
-/
def told? (moment : Moment) (owner : AccountId)
    : Option (Event × Reply × List (Option Session)) :=
  match moment.call? with
  | none => none
  | some (handle, operation) =>
    if handle.owner = owner then
      some
        (moment.event, moment.reply,
          (operation.handsOut moment.reply.result).map fun entry =>
            moment.left.shared.get? entry.2)
    else none

end Moment

/-- The pool through which a backend reaches the tables. -/
def Backend.pool? : Backend → Option Nat
  | sqlite pool => some pool
  | postgres => none

-----------------------------------------------------------------------------------------
-- One event without an account
-----------------------------------------------------------------------------------------

namespace Deployment

variable {deployment : Deployment} {hidden : AccountId} {seen : AccountId → Bool}
variable {nonce : Aead.Nonce}

/-- A vault that is just opened is opened the same. -/
theorem setHandle_fresh_without (name : String) (owner : AccountId) (key : PickleKey)
    (backend : Backend)
    : ((deployment.without hidden seen).setHandle name (.fresh owner key backend)).without
        hidden seen
      = (deployment.setHandle name (.fresh owner key backend)).without hidden seen := by
  have opens := deployment.setHandle_without hidden seen name (.fresh owner key backend)
  rw [Handle.without_fresh] at opens
  rw [opens, without_without]

/-- What is shared is shared the same, as far as it is seen. -/
theorem shared_without {shared twin : SharedSessions} (same : shared.among seen = twin.among seen)
    : { deployment.without hidden seen with shared := shared }.without hidden seen
      = { deployment with shared := twin }.without hidden seen := by
  unfold without
  simp only [same, Database.without_without, List.map_map, Function.comp_def,
    Handle.without_without]

/-- The pool of a vault is closed, if the vault is open and has one. -/
theorem step_closePool (name : String)
    : deployment.step nonce (.closePool name)
      = (.nothing,
          { deployment with
            closed :=
              ((deployment.handle? name).bind fun handle => handle.backend.pool?).toList
                ++ deployment.closed }) := by
  simp only [step]
  rcases deployment.handle? name with _ | ⟨owner, key, backend, cache, memory⟩
  · rfl
  · cases backend <;> rfl

/-- An event that calls no open vault does the same without the account. -/
theorem step_without_of_idle {event : Event}
    (idle : (Moment.mk deployment nonce event).call? = none)
    : ((deployment.without hidden seen).step nonce event).2.without hidden seen
      = (deployment.step nonce event).2.without hidden seen := by
  cases event with
  | openVault name owner key =>
    have usable
        : (deployment.without hidden seen).database.migration = deployment.database.migration :=
      rfl
    simp only [step, openVault, usable]
    split
    · exact without_without ..
    · let numbered := { deployment with pools := deployment.pools + 1 }
      exact numbered.setHandle_fresh_without name owner key _
  | shareVault name source owner key =>
    simp only [step, handle?_without]
    cases deployment.handle? source with
    | none => exact without_without ..
    | some handle =>
      simp only [Option.map_some, Handle.backend_without]
      exact deployment.setHandle_fresh_without name owner key _
  | detachedVault name owner key => exact deployment.setHandle_fresh_without name owner key _
  | closePool name =>
    simp only [step_closePool, handle?_without, Option.bind_map, Function.comp_def,
      Handle.backend_without]
    let closed := ((deployment.handle? name).bind fun handle => handle.backend.pool?).toList
    exact { deployment with closed := closed ++ deployment.closed }.without_without hidden seen
  | call name operation interruption =>
    have closed : deployment.handle? name = none := by simpa [Moment.call?] using idle
    simp only [step, handle?_without, closed]
    exact without_without ..
  | share owner session => exact shared_without (deployment.shared.among_add owner session)
  | markEncrypted ref time => exact shared_without (deployment.shared.among_modify ref _)
  | markDecrypted ref time => exact shared_without (deployment.shared.among_modify ref _)
  | setRatchet ref ratchet => exact shared_without (deployment.shared.among_modify ref _)

variable {name : String} {handle : Handle} {operation : Operation}
  {interruption : Option Interruption}

/-- A call of another account's vault does the same, if the vault caches sessions of its own
account and is not given an unseen one to write.
-/
theorem step_without_of_other (opened : deployment.handle? name = some handle)
    (other : handle.owner ≠ hidden) (owned : handle.cache.OwnedBy handle.owner)
    (met : seen handle.owner = true)
    (given : ∀ sender ref, operation = .updateSession sender ref → seen ref.owner = true)
    : (deployment.without hidden seen).step nonce (.call name operation interruption)
      = ((deployment.step nonce (.call name operation interruption)).1,
          (deployment.step nonce (.call name operation interruption)).2.without hidden seen) := by
  have twin : (deployment.without hidden seen).handle? name = some handle := by
    rw [handle?_without, opened, Option.map_some, Handle.without_of_other other]
  have cached
      : ∀ sender id ref, handle.cache.get? sender id = some ref → seen ref.owner = true := by
    intro sender id ref there
    rw [owned sender id ref there]
    exact met
  have vault : (deployment.without hidden seen).vaultOf handle = deployment.vaultOf handle := by
    have same := deployment.vaultOf_without hidden seen handle
    rwa [Handle.without_of_other other] at same
  have performs
      : ((deployment.vaultOf handle).during interruption).perform nonce operation
          ((deployment.stateOf handle).without hidden seen)
        = (((deployment.vaultOf handle).during interruption).perform nonce operation
            (deployment.stateOf handle)).leaving (·.without hidden seen) :=
    Vault.perform_without other met given cached
  have state
      : (deployment.without hidden seen).stateOf handle
        = (deployment.stateOf handle).without hidden seen := rfl
  rw [step_call_during twin, step_call_during opened, vault, state, performs]
  exact Prod.ext rfl (settle_without _ _ _ other _ _)

/-- A call of the account's own vault that is not about the account does the same. -/
theorem step_without_of_common (opened : deployment.handle? name = some handle)
    (own : handle.owner = hidden) (common : operation.isScoped = false)
    : (deployment.without hidden seen).step nonce (.call name operation interruption)
      = ((deployment.step nonce (.call name operation interruption)).1,
          (deployment.step nonce (.call name operation interruption)).2.without hidden seen) := by
  have twin
      : (deployment.without hidden seen).handle? name = some (handle.without hidden) := by
    rw [handle?_without, opened, Option.map_some]
  have state
      : (deployment.without hidden seen).stateOf (handle.without hidden)
        = ((deployment.stateOf handle).without hidden seen).keeping .empty .empty := by
    rw [Handle.without_of_owner own]
    rfl
  rw [step_call_during twin, step_call_during opened, vaultOf_without, state,
    Vault.perform_common _ _ _ _ _ common]
  exact Prod.ext rfl (settle_keeping _ _ _ own _ _)

end Deployment

-----------------------------------------------------------------------------------------
-- One moment without an account
-----------------------------------------------------------------------------------------

namespace Moment

/-- The same event in the deployment without an account. -/
def without (moment : Moment) (hidden : AccountId) (seen : AccountId → Bool) : Moment :=
  { moment with met := moment.met.without hidden seen }

variable {moment : Moment} {hidden : AccountId} {seen : AccountId → Bool}

theorem call?_without
    : (moment.without hidden seen).call?
      = moment.call?.map fun call => (call.1.without hidden, call.2) := by
  obtain ⟨met, nonce, event⟩ := moment
  cases event
  case call name operation interruption =>
    simp only [call?, without, Deployment.handle?_without, Option.map_map]
    rfl
  all_goals rfl

theorem isOwn_without (owner : AccountId)
    : (moment.without hidden seen).isOwn owner = moment.isOwn owner := by
  unfold isOwn
  rw [call?_without, Option.any_map]
  simp only [Handle.owner_without]

theorem isOwn_iff {owner : AccountId}
    : moment.isOwn owner = true
      ↔ ∃ handle operation,
          moment.call? = some (handle, operation)
          ∧ handle.owner = owner
          ∧ operation.isScoped = true := by
  unfold isOwn
  rcases moment.call? with _ | ⟨handle, operation⟩ <;> simp

theorem isLent_without (owner : AccountId)
    : (moment.without hidden seen).isLent owner = moment.isLent owner := by
  unfold isLent
  rw [call?_without]
  rcases moment.call? with _ | ⟨handle, operation⟩
  · rfl
  · cases operation <;> simp only [Option.map_some, Handle.owner_without]

section Spared

variable (owned : moment.met.OwnCaches) (spared : moment.isOwn hidden = false)
  (met : ∀ owner, owner ≠ hidden → seen owner = true)
  (given : seen hidden = true ∨ moment.isLent hidden = false)
include owned spared met given

/-- A call that is not the account's own does the same without the account. -/
theorem step_without_of_call {handle : Handle} {operation : Operation}
    (called : moment.call? = some (handle, operation))
    : (moment.without hidden seen).reply = moment.reply
      ∧ (moment.without hidden seen).left = moment.left.without hidden seen := by
  obtain ⟨name, event, opened, _⟩ := settled_of_call called
  have same
      : (moment.met.without hidden seen).step moment.nonce moment.event
        = ((moment.met.step moment.nonce moment.event).1,
            (moment.met.step moment.nonce moment.event).2.without hidden seen) := by
    rw [event]
    by_cases own : handle.owner = hidden
    · have common : operation.isScoped = false := by
        simpa [isOwn, called, own] using spared
      exact Deployment.step_without_of_common opened own common
    · refine Deployment.step_without_of_other opened own (owned name handle opened)
        (met _ own) ?_
      rintro sender ref rfl
      by_cases lent : ref.owner = hidden
      · rcases given with all | free
        · rw [lent]
          exact all
        · simp [isLent, called, own, lent] at free
      · exact met _ lent
  exact Prod.ext_iff.mp same

/-- Every event but the account's own calls leaves the same without the account. -/
theorem left_without
    : (moment.without hidden seen).left.without hidden seen = moment.left.without hidden seen := by
  cases called : moment.call? with
  | none => exact Deployment.step_without_of_idle called
  | some call =>
    rw [(step_without_of_call owned spared met given called).2, Deployment.without_without]

/-- Another account is told the same without the account. -/
theorem told?_without {other : AccountId} (different : other ≠ hidden)
    : (moment.without hidden seen).told? other = moment.told? other := by
  unfold told?
  rw [call?_without]
  rcases called : moment.call? with _ | ⟨handle, operation⟩
  · rfl
  · obtain ⟨replies, leaves⟩ := step_without_of_call owned spared met given called
    obtain ⟨name, _, opened, _⟩ := settled_of_call called
    simp only [Option.map_some, Handle.owner_without, replies, leaves]
    by_cases own : handle.owner = other
    · rw [if_pos own, if_pos own]
      have handed
          : ∀ entry ∈ operation.handsOut moment.reply.result, entry.2.owner = handle.owner := by
        rw [reply_of_call called]
        exact Vault.perform_handsOut_owned _ (owned name handle opened) operation
      have sessions
          : ((operation.handsOut moment.reply.result).map fun entry =>
              (moment.left.without hidden seen).shared.get? entry.2)
            = (operation.handsOut moment.reply.result).map fun entry =>
                moment.left.shared.get? entry.2 := by
        apply List.map_congr_left
        intro entry member
        refine SharedSessions.get?_among _ ?_
        rw [handed entry member, own]
        exact met other different
      rw [sessions]
      rfl
    · rw [if_neg own, if_neg own]

end Spared

/-- The account's own calls are seen in the shared sessions only, and there they share further
sessions for the account.
-/
theorem left_of_own (own : moment.isOwn hidden = true)
    : ∃ sessions,
        moment.left.shared = moment.met.shared.addAll hidden sessions
        ∧ moment.left.without hidden seen
          = (moment.met.shareAll hidden sessions).without hidden seen := by
  obtain ⟨handle, operation, called, rfl, about⟩ := isOwn_iff.mp own
  obtain ⟨name, _, opened, settled⟩ := settled_of_call called
  have effect := moment.effect handle operation
  let after := (moment.outcome handle operation).state
  obtain ⟨sessions, shared⟩ : ∃ sessions, after.shared = _ := effect.addAll
  let base : Deployment :=
    ⟨after.database, after.shared, moment.met.pools, moment.met.closed, moment.met.handles⟩
  have left : moment.left = base.setHandle name (handle.keeping after) := settled
  have reopened : base.setHandle name handle = base := by
    simp only [Deployment.setHandle, base, Rows.put_of_get? opened]
  have tables
      : base.database.without handle.owner = moment.met.database.without handle.owner :=
    effect.database_without_owner about
  refine ⟨sessions, left ▸ shared, ?_⟩
  calc moment.left.without handle.owner seen
      = (base.without handle.owner seen).setHandle name (handle.without handle.owner) := by
        rw [left, ← Deployment.setHandle_without, Handle.without_keeping]
    _ = base.without handle.owner seen := by
        rw [Deployment.setHandle_without, reopened]
    _ = (moment.met.shareAll handle.owner sessions).without handle.owner seen := by
        simp only [Deployment.without, Deployment.shareAll, tables]
        simp only [base, shared]
        rfl

end Moment

end KeyVault
