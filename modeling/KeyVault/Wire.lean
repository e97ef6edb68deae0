import KeyVault.CrossSigning
import KeyVault.Device
import KeyVault.Json.Form
/-!
The JSON forms of identifiers, closed sets and the records that are exchanged as JSON.
Identifiers stand as bare strings, members of a closed set as their names.
-/

namespace KeyVault

open Json (Form)

def UserId.form : Form UserId :=
  .ofKind .text UserId.mk UserId.text

def DeviceId.form : Form DeviceId :=
  .ofKind .text DeviceId.mk DeviceId.text

def RoomId.form : Form RoomId :=
  .ofKind .text RoomId.mk RoomId.text

def EventId.form : Form EventId :=
  .ofKind .text EventId.mk EventId.text

def IdentityKey.form : Form IdentityKey :=
  .ofKind .text IdentityKey.mk IdentityKey.text

def SigningKey.form : Form SigningKey :=
  .ofKind .text SigningKey.mk SigningKey.text

def SessionId.form : Form SessionId :=
  .ofKind .text SessionId.mk SessionId.text

def SyncToken.form : Form SyncToken :=
  .ofKind .text SyncToken.mk SyncToken.text

namespace TrustState

/-- The names of the states, in order. -/
def names : List String :=
  all.map tag

/-- The state with a place in the list of names. -/
def ofPlace (place : Fin names.length) : TrustState :=
  all.get (place.cast (List.length_map tag))

/-- The place of a state in the list of names. -/
def place (state : TrustState) : Fin names.length :=
  ⟨all.idxOf state, by cases state <;> decide⟩

theorem ofPlace_place (state : TrustState) : ofPlace state.place = state := by
  cases state <;> rfl

def form : Form TrustState :=
  .ofKind (.choice names) ofPlace place

end TrustState

namespace Usage

/-- The names of the usages, in order. -/
def names : List String :=
  all.map tag

/-- The usage with a place in the list of names. -/
def ofPlace (place : Fin names.length) : Usage :=
  all.get (place.cast (List.length_map tag))

/-- The place of a usage in the list of names. -/
def place (usage : Usage) : Fin names.length :=
  ⟨all.idxOf usage, by cases usage <;> decide⟩

theorem ofPlace_place (usage : Usage) : ofPlace usage.place = usage := by
  cases usage <;> rfl

def form : Form Usage :=
  .ofKind (.choice names) ofPlace place

end Usage

namespace DeviceIdentity

def record : Json.Record where
  name := "DeviceIdentity"
  fields :=
    [⟨"user_id", .text, none⟩,
     ⟨"device_id", .text, none⟩,
     ⟨"identity_key", .text, none⟩,
     ⟨"signing_key", .text, none⟩,
     ⟨"trust", .choice TrustState.names, none⟩,
     ⟨"deleted", .flag, none⟩,
     ⟨"name", .text, none⟩]

def ofValues : Json.Values record.fields → DeviceIdentity
  | (user, device, identityKey, signingKey, trust, deleted, name, _) =>
    ⟨⟨user⟩, ⟨device⟩, ⟨identityKey⟩, ⟨signingKey⟩, .ofPlace trust, deleted, name⟩

def toValues (device : DeviceIdentity) : Json.Values record.fields :=
  (device.user.text, device.device.text, device.identityKey.text, device.signingKey.text,
    device.trust.place, device.deleted, device.name, ())

def form : Form DeviceIdentity :=
  .ofRecord record ofValues toValues

end DeviceIdentity

namespace PinnedKey

def record : Json.Record where
  name := "TofuSigningKey"
  fields := [⟨"key", .text, none⟩, ⟨"first", .text, none⟩]

def ofValues : Json.Values record.fields → PinnedKey
  | (key, first, _) => ⟨⟨key⟩, ⟨first⟩⟩

def toValues (pinned : PinnedKey) : Json.Values record.fields :=
  (pinned.key.text, pinned.first.text, ())

def form : Form PinnedKey :=
  .ofRecord record ofValues toValues

end PinnedKey

namespace Signer

def record : Json.Record where
  name := "CrossSigner"
  fields := [⟨"user_id", .text, none⟩, ⟨"key", .text, none⟩]

def ofValues : Json.Values record.fields → Signer
  | (user, key, _) => ⟨⟨user⟩, ⟨key⟩⟩

def toValues (signer : Signer) : Json.Values record.fields :=
  (signer.user.text, signer.key.text, ())

def form : Form Signer :=
  .ofRecord record ofValues toValues

end Signer

end KeyVault
