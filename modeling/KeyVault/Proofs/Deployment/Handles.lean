import KeyVault.Proofs.Deployment.History
/-!
The open vaults over a history. An event opens one vault, or calls one, or leaves all of
them; what a call changes of its vault is what the vault keeps between calls.
-/

namespace KeyVault

/-- The name, the account and the key of the vault that an event opens. -/
def Event.opens? : Event → Option (String × AccountId × PickleKey)
  | openVault name owner key | shareVault name _ owner key | detachedVault name owner key =>
    some (name, owner, key)
  | _ => none

/-- A handle with what a call of it left in its cache and in its memory. -/
def Handle.keeping (handle : Handle) (state : State) : Handle :=
  { handle with cache := state.cache, memory := state.memory }

namespace Deployment

variable (deployment : Deployment) (name : String) (handle : Handle)

theorem handle?_setHandle_self : (deployment.setHandle name handle).handle? name = some handle :=
  Rows.get?_put_self name handle deployment.handles

theorem handle?_setHandle_of_ne {other : String} (different : other ≠ name)
    : (deployment.setHandle name handle).handle? other = deployment.handle? other :=
  Rows.get?_put_of_ne different handle deployment.handles

/-- Setting a handle under a name gives it to that name, or leaves what another name has. -/
theorem handle?_setHandle_cases (other : String)
    : (other = name ∧ (deployment.setHandle name handle).handle? other = some handle)
      ∨ (deployment.setHandle name handle).handle? other = deployment.handle? other := by
  by_cases same : other = name
  · subst same
    exact .inl ⟨rfl, handle?_setHandle_self ..⟩
  · exact .inr (handle?_setHandle_of_ne _ _ _ same)

variable {deployment name handle}

/-- A call that leaves all but the tables leaves all but the tables. -/
theorem settle_database (opened : deployment.handle? name = some handle) (database : Database)
    : deployment.settle name handle { deployment.stateOf handle with database }
      = { deployment with database } := by
  have kept : Rows.put name handle deployment.handles = deployment.handles :=
    Rows.put_of_get? opened
  simp only [settle, setHandle, stateOf, kept]

/-- A call that leaves its state leaves the deployment. -/
theorem settle_stateOf (opened : deployment.handle? name = some handle)
    : deployment.settle name handle (deployment.stateOf handle) = deployment :=
  settle_database opened deployment.database

/-- A call, interrupted or not, answers what the operation of the open vault returns and logs, and
settles what it leaves.
-/
theorem step_call_during (opened : deployment.handle? name = some handle) (nonce : Aead.Nonce)
    (operation : Operation) (interruption : Option Interruption)
    : let outcome :=
        ((deployment.vaultOf handle).during interruption).perform nonce operation
          (deployment.stateOf handle)
      deployment.step nonce (.call name operation interruption)
      = (⟨outcome.result, outcome.notices⟩, deployment.settle name handle outcome.state) := by
  simp only [step, opened, call]

/-- A call that is not interrupted is one of the vault as it is. -/
theorem step_call (opened : deployment.handle? name = some handle) (nonce : Aead.Nonce)
    (operation : Operation)
    : let outcome :=
        (deployment.vaultOf handle).perform nonce operation (deployment.stateOf handle)
      deployment.step nonce (.call name operation)
      = (⟨outcome.result, outcome.notices⟩, deployment.settle name handle outcome.state) :=
  step_call_during opened nonce operation none

variable {nonce : Aead.Nonce} {operation : Operation}

/-- A call of an operation that is done answers its value and logs nothing. -/
theorem reply_of_done (opened : deployment.handle? name = some handle) {answer : Answer}
    {state : State}
    (performed
      : (deployment.vaultOf handle).perform nonce operation (deployment.stateOf handle)
        = .done answer state)
    : (deployment.step nonce (.call name operation)).1 = ⟨.ok answer, []⟩ := by
  rw [step_call opened, performed]
  rfl

/-- A call of an operation that is done on the tables answers its value, logs nothing and
leaves all but the tables.
-/
theorem step_of_done (opened : deployment.handle? name = some handle) {answer : Answer}
    {database : Database}
    (performed
      : (deployment.vaultOf handle).perform nonce operation (deployment.stateOf handle)
        = .done answer { deployment.stateOf handle with database })
    : deployment.step nonce (.call name operation)
      = (⟨.ok answer, []⟩, { deployment with database }) := by
  rw [step_call opened, performed]
  exact Prod.ext rfl (settle_database opened database)

/-- A call of an operation that only logs answers its value and leaves the deployment. -/
theorem step_of_noting (opened : deployment.handle? name = some handle) {answer : Answer}
    {notices : List Notice}
    (performed
      : (deployment.vaultOf handle).perform nonce operation (deployment.stateOf handle)
        = (Outcome.done answer (deployment.stateOf handle)).noting notices)
    : deployment.step nonce (.call name operation) = (⟨.ok answer, notices⟩, deployment) := by
  rw [step_call opened, performed]
  refine Prod.ext ?_ (settle_stateOf opened)
  simp only [Outcome.noting, Outcome.done, List.append_nil]

/-- A call of an operation that fails and leaves its state leaves the deployment. -/
theorem step_of_failed (opened : deployment.handle? name = some handle) {fault : StoreFault}
    (performed
      : (deployment.vaultOf handle).perform nonce operation (deployment.stateOf handle)
        = .failed fault (deployment.stateOf handle))
    : deployment.step nonce (.call name operation) = (.failed fault, deployment) := by
  rw [step_call opened, performed]
  exact Prod.ext rfl (settle_stateOf opened)

end Deployment

/-- What an event does to the vault under a name: nothing, or it opens it, or it calls it. -/
theorem Moment.handle?_left (moment : Moment) (name : String)
    : moment.left.handle? name = moment.met.handle? name
      ∨ (∃ owner key backend,
          moment.event.opens? = some (name, owner, key)
          ∧ moment.left.handle? name = some (.fresh owner key backend))
      ∨ ∃ handle operation,
          moment.event = .call name operation moment.event.interruption
          ∧ moment.met.handle? name = some handle
          ∧ moment.left.handle? name
            = some (handle.keeping (moment.outcome handle operation).state) := by
  obtain ⟨met, nonce, event⟩ := moment
  cases event with
  | openVault other owner key =>
    simp only [left, Deployment.step, Deployment.openVault]
    split
    · exact .inl rfl
    · rcases Deployment.handle?_setHandle_cases _ other _ name with ⟨rfl, opened⟩ | same
      · exact .inr (.inl ⟨owner, key, _, rfl, opened⟩)
      · exact .inl same
  | shareVault other source owner key =>
    simp only [left, Deployment.step]
    split
    · exact .inl rfl
    · rcases Deployment.handle?_setHandle_cases _ other _ name with ⟨rfl, opened⟩ | same
      · exact .inr (.inl ⟨owner, key, _, rfl, opened⟩)
      · exact .inl same
  | detachedVault other owner key =>
    rcases met.handle?_setHandle_cases other (.fresh owner key .postgres) name with
      ⟨rfl, opened⟩ | same
    · exact .inr (.inl ⟨owner, key, _, rfl, opened⟩)
    · exact .inl same
  | closePool other =>
    simp only [left, Deployment.step]
    split <;> exact .inl rfl
  | call other operation interruption =>
    simp only [left, Deployment.step]
    cases there : met.handle? other with
    | none => exact .inl rfl
    | some handle =>
      rcases Deployment.handle?_setHandle_cases _ other _ name with ⟨rfl, kept⟩ | same
      · exact .inr (.inr ⟨handle, operation, rfl, there, kept⟩)
      · exact .inl same
  | _ => exact .inl rfl

/-- Every open vault of an account has one key. -/
def Deployment.Keyed (deployment : Deployment) (owner : AccountId) (key : PickleKey) : Prop :=
  ∀ name handle,
    deployment.handle? name = some handle
    → handle.owner = owner
    → handle.key = key

/-- An event that opens vaults of an account with one key only. -/
def Event.Keyed (event : Event) (owner : AccountId) (key : PickleKey) : Prop :=
  ∀ name other, event.opens? = some (name, owner, other) → other = key

/-- The vaults of an account keep their one key over an event that opens no vault with
another one.
-/
theorem Moment.keyed_left {moment : Moment} {owner : AccountId} {key : PickleKey}
    (keyed : moment.met.Keyed owner key) (opening : moment.event.Keyed owner key)
    : moment.left.Keyed owner key := by
  intro name handle opened own
  rcases moment.handle?_left name with
    same | ⟨_, other, _, opens, fresh⟩ | ⟨before, _, _, there, kept⟩
  · exact keyed name handle (same ▸ opened) own
  · cases Option.some.inj (fresh.symm.trans opened)
    cases own
    exact opening name other opens
  · cases Option.some.inj (kept.symm.trans opened)
    exact keyed name before there own

/-- The handle that is called has the one key of its account. -/
theorem Moment.key_of_call {moment : Moment} {handle : Handle} {operation : Operation}
    {key : PickleKey}
    (keyed : moment.met.Keyed handle.owner key) (called : moment.call? = some (handle, operation))
    : handle.key = key := by
  obtain ⟨name, _, opened, _⟩ := settled_of_call called
  exact keyed name handle opened rfl

end KeyVault
