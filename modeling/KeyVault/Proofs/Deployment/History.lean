import KeyVault.Deployment
import KeyVault.Proofs.Vault.Effect
import Mathlib.Data.List.Induction
/-!
Histories, taken apart into their moments. A property of the moments so far and of the
deployment that they left holds after every history when it holds at the start and every
further event keeps it.
-/

namespace KeyVault

/-- An event of a history, with the deployment that it met and the nonce that it could seal
with.
-/
structure Moment where
  met : Deployment
  nonce : Aead.Nonce
  event : Event

/-- Where the database is lost during the call that an event makes. -/
def Event.interruption : Event → Option Interruption
  | .call _ _ interruption => interruption
  | _ => none

namespace Moment

/-- What the event returned and logged. -/
def reply (moment : Moment) : Reply :=
  (moment.met.step moment.nonce moment.event).1

/-- The deployment after the event. -/
def left (moment : Moment) : Deployment :=
  (moment.met.step moment.nonce moment.event).2

/-- The open vault and the operation that the event calls. Other events call none, nor does
an event for a vault that is not open.
-/
def call? (moment : Moment) : Option (Handle × Operation) :=
  match moment.event with
  | .call name operation _ => (moment.met.handle? name).map fun handle => (handle, operation)
  | _ => none

/-- What stayed the same during the call of an open vault. -/
def vaultOf (moment : Moment) (handle : Handle) : Vault :=
  (moment.met.vaultOf handle).during moment.event.interruption

/-- A call that is not interrupted is one of the vault as it is. -/
theorem vaultOf_of_whole {moment : Moment} (whole : moment.event.interruption = none)
    (handle : Handle)
    : moment.vaultOf handle = moment.met.vaultOf handle := by
  rw [vaultOf, whole]
  rfl

/-- What a call of an open vault returned, logged and left. -/
def outcome (moment : Moment) (handle : Handle) (operation : Operation) : Outcome Answer :=
  (moment.vaultOf handle).perform moment.nonce operation (moment.met.stateOf handle)

/-- An event that calls an open vault calls its handle. -/
theorem call?_of_event {moment : Moment} {name : String} {operation : Operation}
    {interruption : Option Interruption} {handle : Handle}
    (event : moment.event = .call name operation interruption)
    (opened : moment.met.handle? name = some handle)
    : moment.call? = some (handle, operation) := by
  unfold call?
  rw [event]
  exact congrArg (Option.map _) opened

/-- A call settles what the operation left, under the name of the vault. -/
theorem settled_of_call {moment : Moment} {handle : Handle} {operation : Operation}
    (called : moment.call? = some (handle, operation))
    : ∃ name,
        moment.event = .call name operation moment.event.interruption
        ∧ moment.met.handle? name = some handle
        ∧ moment.left
          = moment.met.settle name handle (moment.outcome handle operation).state := by
  obtain ⟨met, nonce, event⟩ := moment
  cases event <;> simp only [call?, reduceCtorEq] at called
  case call name operation interruption =>
    obtain ⟨found, opened, same⟩ := Option.map_eq_some_iff.mp called
    obtain ⟨rfl, rfl⟩ := Prod.mk.inj same
    refine ⟨name, rfl, opened, ?_⟩
    simp only [left, Deployment.step, opened]
    rfl

/-- A call answers what the operation returned and logged. -/
theorem reply_of_call {moment : Moment} {handle : Handle} {operation : Operation}
    (called : moment.call? = some (handle, operation))
    : moment.reply
      = ⟨(moment.outcome handle operation).result,
          (moment.outcome handle operation).notices⟩ := by
  obtain ⟨met, nonce, event⟩ := moment
  cases event <;> simp only [call?, reduceCtorEq] at called
  case call name operation interruption =>
    obtain ⟨found, opened, same⟩ := Option.map_eq_some_iff.mp called
    obtain ⟨rfl, rfl⟩ := Prod.mk.inj same
    simp only [reply, Deployment.step, opened]
    rfl

/-- The tables after a call are those that the operation left. -/
theorem database_of_call {moment : Moment} {handle : Handle} {operation : Operation}
    (called : moment.call? = some (handle, operation))
    : moment.left.database = (moment.outcome handle operation).state.database := by
  obtain ⟨name, _, _, settled⟩ := settled_of_call called
  rw [settled]
  rfl

/-- A call opens and closes no pool. -/
theorem isOnline_of_call {moment : Moment} {handle : Handle} {operation : Operation}
    (called : moment.call? = some (handle, operation)) (backend : Backend)
    : moment.left.isOnline backend = moment.met.isOnline backend := by
  obtain ⟨name, _, _, settled⟩ := settled_of_call called
  rw [settled]
  cases backend <;> rfl

/-- A call whose first statement is done goes over an open pool. -/
theorem isOnline_of_vaultOf {moment : Moment} {handle : Handle}
    (online : (moment.vaultOf handle).online = true)
    : moment.met.isOnline handle.backend = true := by
  cases lost : moment.event.interruption with
  | none => simpa [vaultOf, Vault.during, lost, Deployment.vaultOf] using online
  | some interruption =>
    simp only [vaultOf, Vault.during, lost, Option.elim_some, Bool.and_eq_true] at online
    exact online.1

/-- A pool that is closed before an event is closed after it. -/
theorem closed_suffix (moment : Moment) : moment.met.closed <:+ moment.left.closed := by
  obtain ⟨met, nonce, event⟩ := moment
  cases event with
  | openVault name owner key =>
    simp only [left, Deployment.step, Deployment.openVault]
    split <;> exact List.suffix_refl _
  | shareVault name source owner key =>
    simp only [left, Deployment.step]
    split <;> exact List.suffix_refl _
  | closePool name =>
    simp only [left, Deployment.step]
    split
    · exact List.suffix_cons _ _
    · exact List.suffix_refl _
  | call name operation interruption =>
    simp only [left, Deployment.step]
    split <;> exact List.suffix_refl _
  | _ => exact List.suffix_refl _

/-- A pool that is open after an event was open before it. -/
theorem isOnline_met {moment : Moment} {backend : Backend}
    (online : moment.left.isOnline backend = true)
    : moment.met.isOnline backend = true := by
  cases backend with
  | postgres => cases online
  | sqlite pool =>
    simp only [Deployment.isOnline, Bool.not_eq_true', List.contains_eq_mem,
      decide_eq_false_iff_not] at online ⊢
    intro closed
    exact online (moment.closed_suffix.subset closed)

/-- Only a call of an open vault writes the tables. -/
theorem database_of_no_call {moment : Moment} (idle : moment.call? = none)
    : moment.left.database = moment.met.database := by
  obtain ⟨met, nonce, event⟩ := moment
  cases event with
  | call name operation interruption =>
    have closed : met.handle? name = none := by simpa [call?] using idle
    simp [left, Deployment.step, closed]
  | openVault name owner key =>
    simp only [left, Deployment.step, Deployment.openVault]
    split <;> rfl
  | shareVault name source owner key =>
    simp only [left, Deployment.step]
    split <;> rfl
  | closePool name =>
    simp only [left, Deployment.step]
    split <;> rfl
  | _ => rfl

/-- What a call left is an effect of its operation. -/
theorem effect (moment : Moment) (handle : Handle) (operation : Operation)
    : (moment.vaultOf handle).Effect moment.nonce (moment.met.stateOf handle) operation
        (moment.outcome handle operation).state :=
  Vault.perform_effect ..

/-- Of what only operations of one kind touch in the tables: a moment calls such an operation,
or it leaves that.
-/
theorem calls_or_leaves {part : Type} (read : Database → part) {kind : Operation → Prop}
    (kept
      : ∀ {vault : Vault} {nonce : Aead.Nonce} {state after : State} {operation : Operation},
          vault.Effect nonce state operation after
          → ¬ kind operation
          → read after.database = read state.database)
    (moment : Moment)
    : (∃ handle operation, moment.call? = some (handle, operation) ∧ kind operation)
      ∨ ((∀ handle operation, moment.call? = some (handle, operation) → ¬ kind operation)
        ∧ read moment.left.database = read moment.met.database) := by
  cases called : moment.call? with
  | none =>
    refine .inr ⟨?_, by rw [database_of_no_call called]⟩
    rintro _ _ ⟨⟩
  | some call =>
    obtain ⟨handle, operation⟩ := call
    by_cases met : kind operation
    · exact .inl ⟨handle, operation, rfl, met⟩
    · refine .inr ⟨?_, ?_⟩
      · rintro _ _ same
        cases Option.some.inj same
        exact met
      · rw [database_of_call called]
        exact kept (moment.effect handle operation) met

/-- What every operation keeps of the tables, a moment keeps. -/
theorem keeps_database {motive : Database → Prop}
    (kept
      : ∀ {vault : Vault} {nonce : Aead.Nonce} {state after : State} {operation : Operation},
          vault.Effect nonce state operation after
          → motive state.database
          → motive after.database)
    {moment : Moment} (before : motive moment.met.database)
    : motive moment.left.database := by
  cases called : moment.call? with
  | none =>
    rw [database_of_no_call called]
    exact before
  | some call =>
    rw [database_of_call called]
    exact kept (moment.effect call.1 call.2) before

end Moment

namespace Deployment

/-- Only the tables of the deployment are reached over an open pool. -/
theorem scheme_of_isOnline {deployment : Deployment} {backend : Backend}
    (online : deployment.isOnline backend = true)
    : backend.scheme = .sqlite := by
  cases backend with
  | sqlite pool => rfl
  | postgres => cases online

/-- The moments of a history. -/
def moments (deployment : Deployment) : List (Aead.Nonce × Event) → List Moment
  | [] => []
  | (nonce, event) :: rest =>
    ⟨deployment, nonce, event⟩ :: (deployment.step nonce event).2.moments rest

/-- The moments give the replies of the history, by induction over its events. -/
theorem map_reply_moments (deployment : Deployment) (history : List (Aead.Nonce × Event))
    : (deployment.moments history).map Moment.reply = (deployment.run history).1 := by
  induction history generalizing deployment with
  | nil => rfl
  | cons entry rest ih => simp only [moments, run, List.map_cons, ih, Moment.reply]

/-- Two histories in a row leave what the second leaves after the first. -/
theorem run_append (deployment : Deployment) (earlier later : List (Aead.Nonce × Event))
    : (deployment.run (earlier ++ later)).2 = ((deployment.run earlier).2.run later).2 := by
  induction earlier generalizing deployment with
  | nil => rfl
  | cons entry rest ih => simp only [List.cons_append, run, ih]

/-- The moments of two histories in a row are those of the first and then those of the
second.
-/
theorem moments_append (deployment : Deployment) (earlier later : List (Aead.Nonce × Event))
    : deployment.moments (earlier ++ later)
      = deployment.moments earlier ++ (deployment.run earlier).2.moments later := by
  induction earlier generalizing deployment with
  | nil => rfl
  | cons entry rest ih => simp only [List.cons_append, moments, run, ih]

/-- What holds at the start and is kept by every further event of a history holds at its
end. The induction is on the history from its last event, since the property may speak of
all moments so far.
-/
theorem run_induction {deployment : Deployment} {motive : List Moment → Deployment → Prop}
    (history : List (Aead.Nonce × Event)) (start : motive [] deployment)
    (further
      : ∀ past moment,
          (moment.nonce, moment.event) ∈ history
          → motive past moment.met
          → motive (past ++ [moment]) moment.left)
    : motive (deployment.moments history) (deployment.run history).2 := by
  induction history using List.reverseRecOn with
  | nil => exact start
  | append_singleton earlier last ih =>
    rw [moments_append, run_append]
    refine further _ ⟨(deployment.run earlier).2, last.1, last.2⟩ (by simp) (ih ?_)
    intro past moment member
    exact further past moment (List.mem_append_left _ member)

/-- What every operation keeps of the tables, and new ones have, holds after every history, by
induction over the events.
-/
theorem run_keeps_database {motive : Database → Prop} (start : motive .empty)
    (kept
      : ∀ {vault : Vault} {nonce : Aead.Nonce} {state after : State} {operation : Operation},
          vault.Effect nonce state operation after
          → motive state.database
          → motive after.database)
    (history : List (Aead.Nonce × Event))
    : motive (empty.run history).2.database :=
  run_induction history (motive := fun _ deployment => motive deployment.database) start
    fun _ _ _ before => Moment.keeps_database kept before

end Deployment

-----------------------------------------------------------------------------------------
-- What a history has brought about and not undone
-----------------------------------------------------------------------------------------

/-- Something lasts when some moment has brought it about and no later one has undone it. -/
def Lasting (brings undoes : Moment → Bool) : List Moment → Prop
  | [] => False
  | moment :: later =>
    (brings moment = true ∧ ∀ next ∈ later, undoes next = false) ∨ Lasting brings undoes later

instance decidableLasting (brings undoes : Moment → Bool)
    : (past : List Moment) → Decidable (Lasting brings undoes past)
  | [] => inferInstanceAs (Decidable False)
  | moment :: later =>
    have := decidableLasting brings undoes later
    inferInstanceAs
      (Decidable ((brings moment = true ∧ ∀ next ∈ later, undoes next = false)
        ∨ Lasting brings undoes later))

/-- After a further moment what it brings about lasts, and so does what lasted unless it undoes
that, by induction over the moments before it.
-/
theorem lasting_append {brings undoes : Moment → Bool} {past : List Moment} {moment : Moment}
    : Lasting brings undoes (past ++ [moment])
      ↔ brings moment = true ∨ (Lasting brings undoes past ∧ undoes moment = false) := by
  induction past with
  | nil => simp [Lasting]
  | cons first rest ih =>
    simp only [List.cons_append, Lasting, ih, List.forall_mem_append, List.forall_mem_singleton]
    constructor
    · rintro (⟨brought, kept, undone⟩ | brought | ⟨lasts, undone⟩)
      · exact .inr ⟨.inl ⟨brought, kept⟩, undone⟩
      · exact .inl brought
      · exact .inr ⟨.inr lasts, undone⟩
    · rintro (brought | ⟨⟨brought, kept⟩ | lasts, undone⟩)
      · exact .inr (.inl brought)
      · exact .inl ⟨brought, kept, undone⟩
      · exact .inr (.inr ⟨lasts, undone⟩)

end KeyVault
