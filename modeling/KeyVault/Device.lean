import KeyVault.Identifier
import KeyVault.Trust
/-!
The published identity of a device together with the trust placed in it.
-/

namespace KeyVault

/-- A device of a user. -/
structure DeviceIdentity where
  user : UserId
  device : DeviceId
  identityKey : IdentityKey
  signingKey : SigningKey
  trust : TrustState
  deleted : Bool
  name : String
  deriving DecidableEq, Repr

end KeyVault
