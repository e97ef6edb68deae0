import KeyVault.Database.Listing
import KeyVault.Deployment.Tables
import KeyVault.Proofs.Account.Deletion
import KeyVault.Proofs.Account.FailedWrites
import KeyVault.Proofs.Account.Restart
import KeyVault.Proofs.Account.SyncCursor
import KeyVault.Proofs.Cache.FlatMap
import KeyVault.Proofs.Columns.Damage
import KeyVault.Proofs.Config.Variables
import KeyVault.Proofs.CrossSigning.FirstUse
import KeyVault.Proofs.CrossSigning.Signatures
import KeyVault.Proofs.Devices.Filter
import KeyVault.Proofs.Inbound.Chains
import KeyVault.Proofs.Inbound.WrittenOnce
import KeyVault.Proofs.Interval.Calendar
import KeyVault.Proofs.Isolation.Accounts
import KeyVault.Proofs.Ledger.FirstObservation
import KeyVault.Proofs.Olm.NewestFirst
import KeyVault.Proofs.Olm.OneObject
import KeyVault.Proofs.Olm.Unskipped
import KeyVault.Proofs.Olm.Use
import KeyVault.Proofs.Olm.WriteThrough
import KeyVault.Proofs.Outbound.Refinement
import KeyVault.Proofs.Outbound.Rotation
import KeyVault.Proofs.Pickle.Canonical
import KeyVault.Proofs.Sealing.Invisible
import KeyVault.Proofs.Vault.Refusal
import KeyVault.Proofs.Wire.RoundTrip
import KeyVault.Wire
