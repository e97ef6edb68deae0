import KeyVault.Device
import KeyVault.Vault.Basic
/-!
Device lists. The list of a user is replaced as a whole, and from then on the user is
tracked, even when the list is empty.
-/

namespace KeyVault.Vault

/-- The device of a row. Its trust must be a known code. -/
def deviceOfRow (row : DeviceRow) : Except UnknownValue DeviceIdentity :=
  (TrustState.ofCode row.trust.toInt).map fun trust =>
    { user := row.user
      device := row.device
      identityKey := row.identityKey
      signingKey := row.signingKey
      trust
      deleted := row.deleted
      name := row.name }

def rowOfDevice (user : UserId) (id : DeviceId) (device : DeviceIdentity) : DeviceRow :=
  { user
    device := id
    identityKey := device.identityKey
    signingKey := device.signingKey
    trust := Int64.ofInt device.trust.code
    deleted := device.deleted
    name := device.name }

/-- A list with one device for each identifier, the last one that is given. -/
def distinctDevices (devices : List (DeviceId × DeviceIdentity))
    : List (DeviceId × DeviceIdentity) :=
  devices.foldl (fun list (id, device) => Rows.put id device list) []

/-- Replaces the device list of a user. -/
def putDevices (vault : Vault) (user : UserId) (devices : List (DeviceId × DeviceIdentity))
    (state : State) : Outcome Unit :=
  if vault.online then
    let rows := (distinctDevices devices).map fun (id, device) => rowOfDevice user id device
    .done () { state with database := state.database.replaceDevices user rows }
  else vault.offline state

/-- The outcome of reading a stored value. -/
def known {α : Type} (state : State) : Except UnknownValue α → Outcome α
  | .ok value => .done value state
  | .error value => .failed (.unknownValue value) state

/-- The device list of a user; an untracked user has none. Whether the user is tracked is asked
by a statement of its own.
-/
def getDevices (vault : Vault) (user : UserId) (state : State)
    : Outcome (Option (List (DeviceId × DeviceIdentity))) :=
  if vault.online then
    if state.database.isTracked user then
      if vault.reaches 1 then
        known state <| (state.database.devicesOf user).mapM (fun row =>
          (deviceOfRow row).map fun device => (row.device, device)) |>.map some
      else vault.offline state
    else .done none state
  else vault.offline state

def getDevice (vault : Vault) (user : UserId) (device : DeviceId) (state : State)
    : Outcome (Option DeviceIdentity) :=
  if vault.online then
    match state.database.device? user device with
    | none => .done none state
    | some row => known state ((deviceOfRow row).map some)
  else vault.offline state

def findDeviceByKey (vault : Vault) (user : UserId) (key : IdentityKey) (state : State)
    : Outcome (Option DeviceIdentity) :=
  if vault.online then
    match state.database.deviceByKey? user key with
    | none => .done none state
    | some row => known state ((deviceOfRow row).map some)
  else vault.offline state

/-- Finds more tracked users. -/
def findTracked (found : List UserId) (users : List UserId) (db : Database)
    : List UserId × Database :=
  (found ++ db.trackedIn users, db)

/-- The tracked users among some, by one statement for each piece of the list. No users need no
database.
-/
def filterTracked (vault : Vault) (users : List UserId) (state : State) : Outcome (List UserId) :=
  if users.isEmpty then .done [] state
  else vault.inPieces findTracked 0 (chunks Database.listLimit users) [] state

end KeyVault.Vault
