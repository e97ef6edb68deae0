import KeyVault.Vault.Account
import KeyVault.Vault.CrossSigning
import KeyVault.Vault.Devices
import KeyVault.Vault.Group
import KeyVault.Vault.Ledger
import KeyVault.Vault.Olm
/-!
The operations of a vault as one type, so that a history of calls is a list.
-/

namespace KeyVault

inductive Operation where
  | delete
  | getDeviceId
  | putDeviceId (device : DeviceId)
  | getNextBatch
  | putNextBatch (token : SyncToken)
  | getAccount
  | putAccount (account : Account)
  | hasSession (sender : IdentityKey)
  | getSessions (sender : IdentityKey)
  | getLatestSession (sender : IdentityKey)
  | addSession (sender : IdentityKey) (session : Session)
  | updateSession (sender : IdentityKey) (ref : SessionRef)
  | putGroupSession (room : RoomId) (sender : IdentityKey) (id : SessionId) (session : InboundSession)
  | getGroupSession (room : RoomId) (sender : IdentityKey) (id : SessionId)
  | hasGroupSession (room : RoomId) (sender : IdentityKey) (id : SessionId)
  | addOutbound (session : OutboundSession)
  | updateOutbound (session : OutboundSession)
  | getOutbound (room : RoomId)
  | removeOutbound (room : RoomId)
  | removeOutbounds (rooms : List RoomId)
  | validate (pin : Pin)
  | putDevices (user : UserId) (devices : List (DeviceId × DeviceIdentity))
  | getDevices (user : UserId)
  | getDevice (user : UserId) (device : DeviceId)
  | findDeviceByKey (user : UserId) (key : IdentityKey)
  | filterTracked (users : List UserId)
  | putCrossSigningKey (user : UserId) (usage : Usage) (key : SigningKey)
  | getCrossSigningKeys (user : UserId)
  | putSignature (target signer : Signer) (signature : String)
  | isKeySignedBy (target signer : Signer)
  | dropSignatures (signer : Signer)
  deriving DecidableEq, Repr

inductive Answer where
  | nothing
  | flag (value : Bool)
  | count (value : Nat)
  | dropped (count : Option Nat)
  | device (device : Option DeviceId)
  | syncToken (token : Option SyncToken)
  | account (account : Option Account)
  | session (ref : SessionRef)
  | latest (ref : Option SessionRef)
  | sessions (refs : List SessionRef)
  | inbound (session : Option InboundSession)
  | outbound (session : Option OutboundSession)
  | devices (list : Option (List (DeviceId × DeviceIdentity)))
  | identity (device : Option DeviceIdentity)
  | users (users : List UserId)
  | keys (keys : List (Usage × PinnedKey))
  deriving DecidableEq, Repr

/-- Names the value of an outcome. -/
def Outcome.answering {α : Type} (outcome : Outcome α) (answer : α → Answer) : Outcome Answer :=
  { outcome with result := outcome.result.map answer }

namespace Outcome

variable {α : Type} (answer : α → Answer) (state : State)

@[simp] theorem answering_done (value : α)
    : (done value state).answering answer = done (answer value) state := rfl

@[simp] theorem answering_offline (vault : Vault)
    : (vault.offline state).answering answer = vault.offline state := rfl

end Outcome

/-- Does an operation. What it seals, it seals with the given nonce; no operation seals more
than once.
-/
def Vault.perform (vault : Vault) (nonce : Aead.Nonce) (operation : Operation) (state : State)
    : Outcome Answer :=
  match operation with
  | .delete => (vault.delete state).answering fun _ => .nothing
  | .getDeviceId => (vault.getDeviceId state).answering .device
  | .putDeviceId device => (vault.putDeviceId device state).answering fun _ => .nothing
  | .getNextBatch => (vault.getNextBatch state).answering .syncToken
  | .putNextBatch token => (vault.putNextBatch token state).answering fun _ => .nothing
  | .getAccount => (vault.getAccount state).answering .account
  | .putAccount account => (vault.putAccount nonce account state).answering fun _ => .nothing
  | .hasSession sender => (vault.hasSession sender state).answering .flag
  | .getSessions sender => (vault.getSessions sender state).answering .sessions
  | .getLatestSession sender => (vault.getLatestSession sender state).answering .latest
  | .addSession sender session => (vault.addSession nonce sender session state).answering .session
  | .updateSession sender ref => (vault.updateSession nonce sender ref state).answering fun _ => .nothing
  | .putGroupSession room sender id session =>
    (vault.putGroupSession nonce room sender id session state).answering fun _ => .nothing
  | .getGroupSession room sender id => (vault.getGroupSession room sender id state).answering .inbound
  | .hasGroupSession room sender id => (vault.hasGroupSession room sender id state).answering .flag
  | .addOutbound session => (vault.addOutbound nonce session state).answering fun _ => .nothing
  | .updateOutbound session => (vault.updateOutbound nonce session state).answering .flag
  | .getOutbound room => (vault.getOutbound room state).answering .outbound
  | .removeOutbound room => (vault.removeOutbound room state).answering fun _ => .nothing
  | .removeOutbounds rooms => (vault.removeOutbounds rooms state).answering .count
  | .validate pin => (vault.validate pin state).answering .flag
  | .putDevices user devices => (vault.putDevices user devices state).answering fun _ => .nothing
  | .getDevices user => (vault.getDevices user state).answering .devices
  | .getDevice user device => (vault.getDevice user device state).answering .identity
  | .findDeviceByKey user key => (vault.findDeviceByKey user key state).answering .identity
  | .filterTracked users => (vault.filterTracked users state).answering .users
  | .putCrossSigningKey user usage key =>
    (vault.putCrossSigningKey user usage key state).answering fun _ => .nothing
  | .getCrossSigningKeys user => (vault.getCrossSigningKeys user state).answering .keys
  | .putSignature target signer signature =>
    (vault.putSignature target signer signature state).answering fun _ => .nothing
  | .isKeySignedBy target signer => (vault.isKeySignedBy target signer state).answering .flag
  | .dropSignatures signer => (vault.dropSignatures signer state).answering .dropped

end KeyVault
