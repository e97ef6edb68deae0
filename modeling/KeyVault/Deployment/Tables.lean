import KeyVault.Database.Tampering
import KeyVault.Deployment
/-!
The tables as somebody meets them who uses the pool of a vault but not the vault: they can
be read and edited as long as the pool is open.
-/

namespace KeyVault.Deployment

/-- The tables, over the pool of the vault with a name. No pool leads to them from a name
without a vault.
-/
def tables (deployment : Deployment) (name : String) : Except DatabaseFault Database :=
  if (deployment.handle? name).any fun handle => deployment.isOnline handle.backend then
    .ok deployment.database
  else .error .poolClosed

/-- Edits the tables over the pool of the vault with a name, and says how many rows the edit
met.
-/
def tamper (deployment : Deployment) (name : String) (tampering : Tampering)
    : Except DatabaseFault (Nat × Deployment) := do
  let (count, database) ← tampering.apply (← deployment.tables name)
  pure (count, { deployment with database })

end KeyVault.Deployment
