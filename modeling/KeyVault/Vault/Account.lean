import KeyVault.Vault.Basic
/-!
The account's row: the pickled account, the device and the sync position. What a vault has
read or written of it, it remembers.
-/

namespace KeyVault.Vault

/-- A stored text stands for nothing when it is empty. -/
def nonempty (text : String) : Option String :=
  if text = "" then none else some text

/-- Removes what the account owns and forgets what was cached and remembered. -/
def delete (vault : Vault) (state : State) : Outcome Unit :=
  if vault.online then
    .done ()
      { state with
        database := state.database.wipe vault.owner
        cache := .empty
        memory := .empty }
  else vault.offline state

/-- The device. The row is always asked; a device that it holds is remembered, and what is
remembered is answered.
-/
def getDeviceId (vault : Vault) (state : State) : Outcome (Option DeviceId) :=
  if vault.online then
    let stored := (state.database.account? vault.owner).bind fun row => (nonempty row.device).map DeviceId.mk
    let device := stored <|> state.memory.device
    .done device { state with memory := { state.memory with device } }
  else vault.offline state

/-- Sets the device in the row, if there is one, and remembers it. -/
def putDeviceId (vault : Vault) (device : DeviceId) (state : State) : Outcome Unit :=
  if vault.online then
    .done ()
      { state with
        database := state.database.setDevice vault.owner device.text
        memory := { state.memory with device := some device } }
  else vault.offline state

/-- Remembers the sync position and sets it in the row, if there is one. It is remembered
first.
-/
def putNextBatch (vault : Vault) (token : SyncToken) (state : State) : Outcome Unit :=
  let state := { state with memory := { state.memory with syncToken := some token } }
  if vault.online then
    .done () { state with database := state.database.setSyncToken vault.owner token.text }
  else vault.offline state

/-- The sync position: the remembered one, or else the one in the row, which is remembered. -/
def getNextBatch (vault : Vault) (state : State) : Outcome (Option SyncToken) :=
  match state.memory.syncToken with
  | some token => .done (some token) state
  | none =>
    if vault.online then
      let token :=
        (state.database.account? vault.owner).bind fun row => (nonempty row.syncToken).map SyncToken.mk
      .done token { state with memory := { state.memory with syncToken := token } }
    else vault.offline state

/-- The row of an account, with the device and the sync position that are remembered. -/
def rowOfAccount (vault : Vault) (nonce : Aead.Nonce) (account : Account) (memory : Memory)
    : AccountRow :=
  { owner := vault.owner
    device := (memory.device.map DeviceId.text).getD ""
    shared := account.shared
    syncToken := (memory.syncToken.map SyncToken.text).getD ""
    blob := account.pickle vault.key nonce }

/-- Remembers the account and stores it, with the device and the sync position that are
remembered. A row that is there keeps its device.
-/
def putAccount (vault : Vault) (nonce : Aead.Nonce) (account : Account) (state : State)
    : Outcome Unit :=
  let state := { state with memory := { state.memory with account := some account } }
  if vault.online then
    .done ()
      { state with
        database := state.database.upsertAccount (vault.rowOfAccount nonce account state.memory) }
  else vault.offline state

/-- The account: the remembered one, or else the one in the row, which is remembered
together with the device of the row.
-/
def getAccount (vault : Vault) (state : State) : Outcome (Option Account) :=
  match state.memory.account with
  | some account => .done (some account) state
  | none =>
    if vault.online then
      match state.database.account? vault.owner with
      | none => .done none state
      | some row =>
        match Account.unpickle row.blob vault.key row.shared with
        | .error fault => .failed (.pickle fault) state
        | .ok account =>
          let device := (nonempty row.device).map DeviceId.mk <|> state.memory.device
          .done (some account)
            { state with memory := { state.memory with device, account := some account } }
    else vault.offline state

end KeyVault.Vault
