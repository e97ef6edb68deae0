import KeyVault.Vault.Basic
/-!
One-to-one sessions. A session that is read or added is shared through the cache, so that
reading it again gives the same object; writing goes to the table whatever the cache holds.
-/

namespace KeyVault.Vault

/-- Whether a session with a key is cached or stored. -/
def hasSession (vault : Vault) (sender : IdentityKey) (state : State) : Outcome Bool :=
  if state.cache.hasAny sender then .done true state
  else if vault.online then .done (state.database.hasOlmSession vault.owner sender) state
  else vault.offline state

def timesOf (row : OlmRow) : SessionTimes :=
  ⟨row.created, row.encrypted, row.decrypted⟩

/-- The shared session of a row: the cached one, or else the one that its pickle opens to,
which is cached under its own identifier unless another one is there.
-/
def openRow (vault : Vault) (sender : IdentityKey) (row : OlmRow) (state : State)
    : Except PickleFault SessionRef × State :=
  match state.cache.get? sender row.session with
  | some ref => (.ok ref, state)
  | none =>
    match Session.unpickle row.blob vault.key (timesOf row) with
    | .error fault => (.error fault, state)
    | .ok session =>
      let (ref, shared) := state.shared.add vault.owner session
      let (kept, cache) := state.cache.getOrInsert sender session.id ref
      (.ok kept, { state with shared, cache })

/-- The shared sessions of rows, up to the first one that does not open. -/
def openRows (vault : Vault) (sender : IdentityKey)
    : List OlmRow → State → Except PickleFault (List SessionRef) × State
  | [], state => (.ok [], state)
  | row :: rows, state =>
    match vault.openRow sender row state with
    | (.error fault, state) => (.error fault, state)
    | (.ok ref, state) =>
      match vault.openRows sender rows state with
      | (.error fault, state) => (.error fault, state)
      | (.ok refs, state) => (.ok (ref :: refs), state)

def opened {α : Type} : Except PickleFault α × State → Outcome α
  | (.ok value, state) => .done value state
  | (.error fault, state) => .failed (.pickle fault) state

/-- All sessions with a key, the one that decrypted last in front. -/
def getSessions (vault : Vault) (sender : IdentityKey) (state : State)
    : Outcome (List SessionRef) :=
  if vault.online then
    opened (vault.openRows sender (state.database.olmSessions vault.owner sender) state)
  else vault.offline state

def getLatestSession (vault : Vault) (sender : IdentityKey) (state : State)
    : Outcome (Option SessionRef) :=
  if vault.online then
    match state.database.olmSessions vault.owner sender with
    | [] => .done none state
    | row :: _ =>
      let (result, state) := vault.openRow sender row state
      opened (result.map some, state)
  else vault.offline state

def rowOfSession (vault : Vault) (nonce : Aead.Nonce) (sender : IdentityKey) (session : Session)
    : OlmRow :=
  { owner := vault.owner
    session := session.id
    sender
    blob := session.pickle vault.key nonce
    created := session.times.created
    encrypted := session.times.encrypted
    decrypted := session.times.decrypted }

/-- Stores a new session, shares it and caches it. -/
def addSession (vault : Vault) (nonce : Aead.Nonce) (sender : IdentityKey) (session : Session)
    (state : State) : Outcome SessionRef :=
  let notices := if state.cache.contains sender session.id then [Notice.alreadyCached session.id] else []
  let outcome : Outcome SessionRef :=
    if vault.online then
      match state.database.insertOlm (vault.rowOfSession nonce sender session) with
      | .error fault => .failed (.database fault) state
      | .ok database =>
        let (ref, shared) := state.shared.add vault.owner session
        .done ref { state with database, shared, cache := state.cache.insert sender session.id ref }
    else vault.offline state
  outcome.noting notices

/-- What is logged when a shared session is written: it is not cached, or the cached one is
another object with another value.
-/
def divergence (sender : IdentityKey) (ref : SessionRef) (session : Session) (state : State)
    : List Notice :=
  match state.cache.get? sender session.id with
  | none => [.cacheMissing session.id]
  | some cached =>
    if cached = ref ∨ state.shared.get? cached = some session then [] else [.cacheDiverged session.id]

/-- Writes a shared session after use. A session that is not stored is not written, and this
is no failure.
-/
def updateSession (vault : Vault) (nonce : Aead.Nonce) (sender : IdentityKey) (ref : SessionRef)
    (state : State) : Outcome Unit :=
  match state.shared.get? ref with
  | none => .done () state
  | some session =>
    let outcome : Outcome Unit :=
      if vault.online then
        .done ()
          { state with
            database := state.database.updateOlm vault.owner session.id (session.pickle vault.key nonce)
              session.times.encrypted session.times.decrypted }
      else vault.offline state
    outcome.noting (divergence sender ref session state)

end KeyVault.Vault
