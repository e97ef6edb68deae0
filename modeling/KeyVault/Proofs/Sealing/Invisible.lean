import KeyVault.Deployment
import KeyVault.Proofs.Sealing.Calls
/-!
Sealing is invisible. Two deployments in which the same events happen under two keys, and with
any nonces, give the same replies: they differ only in their keys and in the pickles of their
tables.
-/

namespace KeyVault

-----------------------------------------------------------------------------------------
-- Histories under a key
-----------------------------------------------------------------------------------------

/-- An event that opens a vault under a key, whatever key it named, or else the event. -/
def Event.under (event : Event) (key : PickleKey) : Event :=
  match event with
  | openVault name owner _ => openVault name owner key
  | shareVault name source owner _ => shareVault name source owner key
  | detachedVault name owner _ => detachedVault name owner key
  | other => other

/-- The history of some events under one key, where each event may seal with the next nonce
that is drawn.
-/
def sealedUnder (key : PickleKey) (draws : Nat → Aead.Nonce)
    : List Event → List (Aead.Nonce × Event)
  | [] => []
  | event :: rest =>
    (draws 0, event.under key) :: sealedUnder key (fun number => draws (number + 1)) rest

-----------------------------------------------------------------------------------------
-- Deployments that differ only in keys and pickles
-----------------------------------------------------------------------------------------

/-- A handle with another key. -/
def Handle.under (handle : Handle) (key : PickleKey) : Handle :=
  { handle with key }

/-- Open vaults that differ only in their keys: under a name there is none in both lists, or
one vault with the one key and with the other.
-/
def HandlesAlike (first second : PickleKey) (handles others : List (String × Handle)) : Prop :=
  ∀ name, ∃ found : Option Handle,
    Rows.get? name handles = found.map (·.under first)
    ∧ Rows.get? name others = found.map (·.under second)

/-- Opening a vault under either key keeps the open vaults alike. -/
theorem HandlesAlike.put {first second : PickleKey} {handles others : List (String × Handle)}
    (alike : HandlesAlike first second handles others) (name : String) (handle : Handle)
    : HandlesAlike first second (Rows.put name (handle.under first) handles)
        (Rows.put name (handle.under second) others) := by
  intro sought
  by_cases same : sought = name
  · subst same
    exact ⟨some handle, Rows.get?_put_self .., Rows.get?_put_self ..⟩
  · rw [Rows.get?_put_of_ne same, Rows.get?_put_of_ne same]
    exact alike sought

/-- Two deployments that differ only in the keys of their vaults and in the pickles of their
tables.
-/
inductive Deployment.Alike (first second : PickleKey) (deployment : Deployment)
    : Deployment → Prop
  | intro {database : Database} {handles : List (String × Handle)}
    (tables : deployment.database.Alike first second database)
    (vaults : HandlesAlike first second deployment.handles handles)
    : Alike first second deployment { deployment with database, handles }

/-- Two answers to one event that are equal, where no pickle failed to open, and that leave
deployments alike.
-/
structure AnsweredAlike (first second : PickleKey) (answered twin : Reply × Deployment)
    : Prop where
  reply : answered.1 = twin.1
  opened : ∀ fault, answered.1.result ≠ .error (.pickle fault)
  left : answered.2.Alike first second twin.2

/-- A reply of success tells of no pickle. -/
theorem AnsweredAlike.succeeded {first second : PickleKey} {deployment other : Deployment}
    (answer : Answer) (alike : deployment.Alike first second other)
    : AnsweredAlike first second (⟨.ok answer, []⟩, deployment) (⟨.ok answer, []⟩, other) where
  reply := rfl
  opened fault same := by cases same
  left := alike

namespace Deployment

variable {first second : PickleKey} {deployment other : Deployment}

/-- New deployments without vaults are alike. -/
theorem alike_empty : empty.Alike first second empty :=
  .intro .empty fun _ => ⟨none, rfl, rfl⟩

/-- A call of a vault under either key is answered alike and leaves deployments alike. -/
theorem call_alike (alike : deployment.Alike first second other) (nonce draw : Aead.Nonce)
    (name : String) (handle : Handle) (operation : Operation) (interruption : Option Interruption)
    : AnsweredAlike first second
        (deployment.call nonce name (handle.under first) operation interruption)
        (other.call draw name (handle.under second) operation interruption) := by
  obtain @⟨database, handles, tables, vaults⟩ := alike
  let later : Deployment := { deployment with database, handles }
  let vault := (deployment.vaultOf (handle.under first)).during interruption
  let likewise := (later.vaultOf (handle.under second)).during interruption
  have outcomes
      : (vault.perform nonce operation (deployment.stateOf (handle.under first))).Alike first second
          (likewise.perform draw operation (later.stateOf (handle.under second))) :=
    Vault.perform_alike ((deployment.vaultOf handle).during interruption) nonce draw
      (.intro tables) operation
  simp only [call]
  generalize vault.perform nonce operation (deployment.stateOf (handle.under first)) = outcome
    at outcomes ⊢
  generalize likewise.perform draw operation (later.stateOf (handle.under second)) = twin
    at outcomes ⊢
  obtain ⟨result, notices, state⟩ := outcome
  obtain ⟨_, _, left⟩ := twin
  obtain ⟨rfl, rfl, opened, ⟨tables⟩⟩ := outcomes
  let kept : Handle := { handle with cache := state.cache, memory := state.memory }
  exact ⟨rfl, opened, .intro tables (vaults.put name kept)⟩

/-- Every event under either key is answered alike and leaves deployments alike. -/
theorem step_alike (alike : deployment.Alike first second other) (nonce draw : Aead.Nonce)
    (event : Event)
    : AnsweredAlike first second (deployment.step nonce (event.under first))
        (other.step draw (event.under second)) := by
  cases event with
  | openVault name owner key =>
    obtain ⟨tables, vaults⟩ := alike
    simp only [Event.under, step, openVault, tables.migration]
    split
    · refine ⟨rfl, ?_, .intro tables vaults⟩
      intro pickle same
      cases same
    · exact .succeeded _ (.intro tables (vaults.put name (.fresh owner first _)))
  | shareVault name source owner key =>
    obtain ⟨tables, vaults⟩ := alike
    obtain ⟨found, here, there⟩ := vaults source
    simp only [Event.under, step, handle?, here, there]
    cases found with
    | none => exact .succeeded _ (.intro tables vaults)
    | some handle =>
      exact .succeeded _ (.intro tables (vaults.put name (.fresh owner first _)))
  | detachedVault name owner key =>
    obtain ⟨tables, vaults⟩ := alike
    exact .succeeded _ (.intro tables (vaults.put name (.fresh owner first _)))
  | closePool name =>
    obtain ⟨tables, vaults⟩ := alike
    obtain ⟨found, here, there⟩ := vaults name
    simp only [Event.under, step, handle?, here, there]
    obtain _ | ⟨owner, key, pool | _, cache, memory⟩ := found
    all_goals exact .succeeded _ (.intro tables vaults)
  | call name operation interruption =>
    have same := alike
    obtain ⟨tables, vaults⟩ := same
    obtain ⟨found, here, there⟩ := vaults name
    simp only [Event.under, step, handle?, here, there]
    cases found with
    | none => exact .succeeded _ alike
    | some handle => exact call_alike alike nonce draw name handle operation interruption
  | share owner session =>
    obtain ⟨tables, vaults⟩ := alike
    exact .succeeded _ (.intro tables vaults)
  | markEncrypted ref time =>
    obtain ⟨tables, vaults⟩ := alike
    exact .succeeded _ (.intro tables vaults)
  | markDecrypted ref time =>
    obtain ⟨tables, vaults⟩ := alike
    exact .succeeded _ (.intro tables vaults)
  | setRatchet ref ratchet =>
    obtain ⟨tables, vaults⟩ := alike
    exact .succeeded _ (.intro tables vaults)

/-- Every history of events is answered alike under either key, whatever nonces are drawn, by
induction over the events.
-/
theorem run_alike (alike : deployment.Alike first second other) (nonces draws : Nat → Aead.Nonce)
    (events : List Event)
    : let replies := (deployment.run (sealedUnder first nonces events)).1
      replies = (other.run (sealedUnder second draws events)).1
      ∧ ∀ reply ∈ replies, ∀ fault, reply.result ≠ .error (.pickle fault) := by
  induction events generalizing deployment other nonces draws with
  | nil => exact ⟨rfl, List.forall_mem_nil _⟩
  | cons event rest ih =>
    have here := step_alike alike (nonces 0) (draws 0) event
    obtain ⟨same, opened⟩ :=
      ih here.left (fun number => nonces (number + 1)) (fun number => draws (number + 1))
    refine ⟨?_, ?_⟩
    · simp only [sealedUnder, run]
      rw [here.reply, same]
    · intro reply member
      simp only [sealedUnder, run, List.mem_cons] at member
      rcases member with rfl | later
      · exact here.opened
      · exact opened reply later

end Deployment

/-- The key and the nonces that objects are sealed with are invisible. The same events on new
tables, by any vaults that all have one key, are answered and logged the same whatever the key is
and whatever nonces are drawn, and no pickle fails to open.
-/
theorem sealing_is_invisible (events : List Event) (first second : PickleKey)
    (nonces draws : Nat → Aead.Nonce)
    : let replies := (Deployment.empty.run (sealedUnder first nonces events)).1
      replies = (Deployment.empty.run (sealedUnder second draws events)).1
      ∧ ∀ reply ∈ replies, ∀ fault, reply.result ≠ .error (.pickle fault) :=
  Deployment.run_alike Deployment.alike_empty nonces draws events

end KeyVault
