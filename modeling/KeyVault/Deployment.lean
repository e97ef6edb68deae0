import KeyVault.Vault.Operation
/-!
A deployment: one set of tables and the vaults that are open on it, each with a name. Vaults
share the tables, the shared sessions, and their connection pools; each has a cache and a
memory of its own.
-/

namespace KeyVault

/-- How a vault reaches its database. -/
inductive Backend where
  /-- Through a connection pool on the tables of the deployment. -/
  | sqlite (pool : Nat)
  /-- Through a pool of the other family, which has no server and is closed. -/
  | postgres
  deriving DecidableEq, Repr

def Backend.scheme : Backend → Scheme
  | sqlite _ => .sqlite
  | postgres => .postgres

/-- An open vault: its account, key and backend, and what it keeps between calls. -/
structure Handle where
  owner : AccountId
  key : PickleKey
  backend : Backend
  cache : Cache
  memory : Memory
  deriving DecidableEq

/-- A handle that has cached and remembered nothing. -/
def Handle.fresh (owner : AccountId) (key : PickleKey) (backend : Backend) : Handle :=
  ⟨owner, key, backend, .empty, .empty⟩

/-- Tables, shared sessions, pools and open vaults. -/
structure Deployment where
  database : Database
  shared : SharedSessions
  /-- How many pools were opened; they are numbered from zero. -/
  pools : Nat
  closed : List Nat
  handles : List (String × Handle)
  deriving DecidableEq

/-- Something that happens in a deployment. -/
inductive Event where
  /-- Opens a vault on the tables with a pool of its own. -/
  | openVault (name : String) (owner : AccountId) (key : PickleKey)
  /-- Opens a vault on the pool of another one. -/
  | shareVault (name source : String) (owner : AccountId) (key : PickleKey)
  /-- Opens a vault of the other family, whose pool is closed. -/
  | detachedVault (name : String) (owner : AccountId) (key : PickleKey)
  | closePool (name : String)
  /-- Calls an open vault. The database may be lost during the call. -/
  | call (name : String) (operation : Operation) (interruption : Option Interruption := none)
  /-- The engine of an account shares a session that is in no vault. -/
  | share (owner : AccountId) (session : Session)
  /-- The engine uses a shared session. -/
  | markEncrypted (ref : SessionRef) (time : Instant)
  | markDecrypted (ref : SessionRef) (time : Instant)
  | setRatchet (ref : SessionRef) (ratchet : List UInt8)
  deriving DecidableEq

/-- What an event returned and logged. -/
structure Reply where
  result : Except StoreFault Answer
  notices : List Notice

namespace Reply

def nothing : Reply :=
  ⟨.ok .nothing, []⟩

def failed (fault : StoreFault) : Reply :=
  ⟨.error fault, []⟩

end Reply

namespace Deployment

def empty : Deployment :=
  ⟨.empty, .empty, 0, [], []⟩

def handle? (deployment : Deployment) (name : String) : Option Handle :=
  Rows.get? name deployment.handles

/-- Opens a vault under a name, in place of the one that has it. -/
def setHandle (deployment : Deployment) (name : String) (handle : Handle) : Deployment :=
  { deployment with handles := Rows.put name handle deployment.handles }

def isOnline (deployment : Deployment) : Backend → Bool
  | .sqlite pool => !deployment.closed.contains pool
  | .postgres => false

/-- What stays the same during a call of a handle, every statement of which is done unless the
pool is closed.
-/
def vaultOf (deployment : Deployment) (handle : Handle) : Vault :=
  { owner := handle.owner
    key := handle.key
    scheme := handle.backend.scheme
    online := deployment.isOnline handle.backend
    further := none
    fault := .poolClosed }

/-- What a call of a handle reads. -/
def stateOf (deployment : Deployment) (handle : Handle) : State :=
  ⟨deployment.database, deployment.shared, handle.cache, handle.memory⟩

/-- The deployment after a call of a handle left a state. -/
def settle (deployment : Deployment) (name : String) (handle : Handle) (state : State)
    : Deployment :=
  { deployment with database := state.database, shared := state.shared }.setHandle name
    { handle with cache := state.cache, memory := state.memory }

/-- Opens a vault with a pool of its own, once the tables are found usable. -/
def openVault (deployment : Deployment) (name : String) (owner : AccountId) (key : PickleKey)
    : Reply × Deployment :=
  match deployment.database.migration.check with
  | .error fault => (.failed (.migration fault), deployment)
  | .ok _ =>
    let handle := Handle.fresh owner key (.sqlite deployment.pools)
    (.nothing, { deployment with pools := deployment.pools + 1 }.setHandle name handle)

def call (deployment : Deployment) (nonce : Aead.Nonce) (name : String) (handle : Handle)
    (operation : Operation) (interruption : Option Interruption) : Reply × Deployment :=
  let outcome :=
    ((deployment.vaultOf handle).during interruption).perform nonce operation
      (deployment.stateOf handle)
  (⟨outcome.result, outcome.notices⟩, deployment.settle name handle outcome.state)

/-- Changes a shared session in place. -/
def engage (deployment : Deployment) (ref : SessionRef) (change : Session → Session)
    : Reply × Deployment :=
  (⟨.ok (.session ref), []⟩, { deployment with shared := deployment.shared.modify ref change })

/-- What an event does. What it seals, it seals with the given nonce. An event for a vault
that is not open does nothing.
-/
def step (deployment : Deployment) (nonce : Aead.Nonce) (event : Event) : Reply × Deployment :=
  match event with
  | .openVault name owner key => deployment.openVault name owner key
  | .shareVault name source owner key =>
    match deployment.handle? source with
    | none => (.nothing, deployment)
    | some handle => (.nothing, deployment.setHandle name (.fresh owner key handle.backend))
  | .detachedVault name owner key => (.nothing, deployment.setHandle name (.fresh owner key .postgres))
  | .closePool name =>
    match deployment.handle? name with
    | some ⟨_, _, .sqlite pool, _, _⟩ =>
      (.nothing, { deployment with closed := pool :: deployment.closed })
    | _ => (.nothing, deployment)
  | .call name operation interruption =>
    match deployment.handle? name with
    | none => (.nothing, deployment)
    | some handle => deployment.call nonce name handle operation interruption
  | .share owner session =>
    let (ref, shared) := deployment.shared.add owner session
    (⟨.ok (.session ref), []⟩, { deployment with shared })
  | .markEncrypted ref time => deployment.engage ref (·.markEncrypted time)
  | .markDecrypted ref time => deployment.engage ref (·.markDecrypted time)
  | .setRatchet ref ratchet => deployment.engage ref (·.setRatchet ratchet)

/-- The replies to a history of events, each with the nonce that it may seal with, and the
deployment after them.
-/
def run (deployment : Deployment) : List (Aead.Nonce × Event) → List Reply × Deployment
  | [] => ([], deployment)
  | (nonce, event) :: rest =>
    let (reply, next) := deployment.step nonce event
    let (replies, last) := next.run rest
    (reply :: replies, last)

end Deployment

/-- Whether an address starts with the name of a scheme and a colon. Blanks in front do not
count.
-/
def hasScheme (address : String) : Bool :=
  let text := address.toList.dropWhile fun c => c.toNat ≤ 0x20
  let name := text.takeWhile (· != ':')
  text.contains ':' && (name.head?.map Char.isAlpha).getD false
    && name.all fun c => c.isAlphanum || c == '+' || c == '-' || c == '.'

/-- Connects to a database by its address. An address of the transactional family needs a
scheme, and no server of that family can be reached; any other address makes new tables.
-/
def Scheme.connect (scheme : Scheme) (address : String) : Except StoreFault Deployment :=
  match scheme with
  | .sqlite => .ok .empty
  | .postgres => .error (.database (if hasScheme address then .poolClosed else .relativeAddress))

end KeyVault
