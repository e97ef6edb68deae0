import KeyVault.Vault.Basic
/-!
Cross-signing keys and signatures. Both can be fetched from the server again, so that a
failed write is logged and not returned.
-/

namespace KeyVault.Vault

/-- Stores the current key of a usage; the first one that was seen stays. -/
def putCrossSigningKey (vault : Vault) (user : UserId) (usage : Usage) (key : SigningKey)
    (state : State)
    : Outcome Unit :=
  if vault.online then
    .done () { state with database := state.database.upsertKey ⟨user, usage.tag, key, key⟩ }
  else (Outcome.done () state).noting [.keyNotStored user key usage vault.fault]

def pinnedOfRow (row : KeyRow) : Except UnknownValue (Usage × PinnedKey) :=
  (Usage.ofTag row.usage).map fun usage => (usage, ⟨row.key, row.first⟩)

def getCrossSigningKeys (vault : Vault) (user : UserId) (state : State)
    : Outcome (List (Usage × PinnedKey)) :=
  if vault.online then
    match (state.database.keysOf user).mapM pinnedOfRow with
    | .ok keys => .done keys state
    | .error value => .failed (.unknownValue value) state
  else vault.offline state

def putSignature (vault : Vault) (target signer : Signer) (signature : String) (state : State)
    : Outcome Unit :=
  if vault.online then
    .done () { state with database := state.database.upsertSignature ⟨target, signer, signature⟩ }
  else (Outcome.done () state).noting [.signatureNotStored target signer vault.fault]

def isKeySignedBy (vault : Vault) (target signer : Signer) (state : State) : Outcome Bool :=
  if vault.online then .done (state.database.isSigned target signer) state
  else vault.offline state

/-- Removes every signature of a signer and counts them; there is no count when that failed. -/
def dropSignatures (vault : Vault) (signer : Signer) (state : State) : Outcome (Option Nat) :=
  if vault.online then
    let (removed, database) := state.database.removeSignatures signer
    .done (some removed) { state with database }
  else (Outcome.done none state).noting [.signaturesNotDropped signer vault.fault]

end KeyVault.Vault
