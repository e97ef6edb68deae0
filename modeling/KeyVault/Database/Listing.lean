import KeyVault.Database.Basic
/-!
The tables with their rows in the order of the columns that identify them.
-/

namespace KeyVault.Database

def sortRows {ρ : Type} (order : ρ → ρ → Ordering) (rows : List ρ) : List ρ :=
  rows.mergeSort fun a b => (order a b).isLE

/-- The order of two ends of a signature. -/
def compareSigner (a b : Signer) : Ordering :=
  (compare a.user.text b.user.text).then (compare a.key.text b.key.text)

/-- The same tables with the rows of each in order. -/
def listed (db : Database) : Database :=
  { db with
    accounts := sortRows (fun a b => compare a.owner.text b.owner.text) db.accounts
    olm := sortRows (fun a b =>
      (compare a.owner.text b.owner.text).then (compare a.session.text b.session.text)) db.olm
    inbound := sortRows (fun a b =>
      (compare a.owner.text b.owner.text).then (compare a.session.text b.session.text)) db.inbound
    outbound := sortRows (fun a b =>
      (compare a.owner.text b.owner.text).then (compare a.room.text b.room.text)) db.outbound
    pins := sortRows (fun a b =>
      ((compare a.sender.text b.sender.text).then (compare a.session.text b.session.text)).then
        (compare a.index b.index)) db.pins
    tracked := sortRows (fun a b => compare a.text b.text) db.tracked
    devices := sortRows (fun a b =>
      (compare a.user.text b.user.text).then (compare a.device.text b.device.text)) db.devices
    keys := sortRows (fun a b => (compare a.user.text b.user.text).then (compare a.usage b.usage)) db.keys
    signatures := sortRows (fun a b =>
      (compareSigner a.target b.target).then (compareSigner a.signer b.signer)) db.signatures }

end KeyVault.Database
