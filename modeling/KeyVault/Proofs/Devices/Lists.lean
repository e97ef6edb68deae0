import KeyVault.Proofs.Deployment.Handles
import KeyVault.Proofs.Rows.Distinct
/-!
Device lists over a history. The tables hold of every user the list that was last put for
the user, and track the user exactly when there is one; what is read of a stored list is the
list as it was given.
-/

namespace KeyVault

-----------------------------------------------------------------------------------------
-- The lists that a history put
-----------------------------------------------------------------------------------------

/-- A device as it is listed: it is of the user and has the identifier that it was given for. -/
def DeviceIdentity.listedFor (device : DeviceIdentity) (user : UserId) (id : DeviceId)
    : DeviceIdentity :=
  { device with user, device := id }

/-- What a user's list shows of given devices. -/
def listedDevices (user : UserId) (given : List (DeviceId × DeviceIdentity))
    : List (DeviceId × DeviceIdentity) :=
  (Vault.distinctDevices given).map fun entry => (entry.1, entry.2.listedFor user entry.1)

/-- An operation that puts a device list. -/
def Operation.PutsDevices (operation : Operation) : Prop :=
  ∃ user given, operation = .putDevices user given

/-- The devices that a moment puts for a user: a call of an open vault that succeeds. -/
def Moment.listed? (user : UserId) (moment : Moment)
    : Option (List (DeviceId × DeviceIdentity)) :=
  match moment.call?, moment.reply.result with
  | some (_, .putDevices other devices), .ok _ => if other = user then some devices else none
  | _, _ => none

/-- The devices that were last put for a user. -/
def lastListed? (user : UserId) (past : List Moment) : Option (List (DeviceId × DeviceIdentity)) :=
  (past.filterMap (Moment.listed? user)).getLast?

/-- What a further moment puts takes the place of what was put before it. -/
theorem lastListed?_append (user : UserId) (past : List Moment) (moment : Moment)
    : lastListed? user (past ++ [moment])
      = (moment.listed? user).or (lastListed? user past) := by
  unfold lastListed?
  rw [List.filterMap_append, List.getLast?_append]
  cases listed : moment.listed? user <;> simp [List.filterMap, listed]

-----------------------------------------------------------------------------------------
-- What the tables hold of a list
-----------------------------------------------------------------------------------------

/-- The rows that are written of given devices. -/
def deviceRows (user : UserId) (given : List (DeviceId × DeviceIdentity)) : List DeviceRow :=
  (Vault.distinctDevices given).map fun entry => Vault.rowOfDevice user entry.1 entry.2

/-- The tables hold a list of a user: the user is tracked exactly when there is one, and the
rows of the user are those of its devices.
-/
structure Database.ListsDevices (db : Database) (user : UserId)
    (given : Option (List (DeviceId × DeviceIdentity))) : Prop where
  tracked : db.isTracked user = given.isSome
  rows : db.devicesOf user = (given.map (deviceRows user)).getD []

namespace Database

/-- Tracking a user leaves whether others are tracked. -/
theorem isTracked_track (db : Database) (user other : UserId)
    : (db.track user).isTracked other = (decide (other = user) || db.isTracked other) := by
  unfold track
  by_cases already : db.isTracked user = true
  · rw [if_pos already]
    by_cases same : other = user
    · subst same
      simp [already]
    · simp [same]
  · rw [if_neg already]
    by_cases same : other = user <;> simp [isTracked, same]

/-- Replacing the devices of a user tracks the user and leaves whether others are tracked. -/
theorem isTracked_replaceDevices (db : Database) (user other : UserId) (rows : List DeviceRow)
    : (db.replaceDevices user rows).isTracked other
      = (decide (other = user) || db.isTracked other) := by
  rw [replaceDevices_eq]
  exact db.isTracked_track user other

/-- Replacing the devices of a user leaves those of the others. -/
theorem devicesOf_replaceDevices (db : Database) (user other : UserId) {rows : List DeviceRow}
    (own : ∀ row ∈ rows, row.user = user)
    : (db.replaceDevices user rows).devicesOf other
      = if other = user then rows else db.devicesOf other := by
  rw [replaceDevices_eq]
  simp only [devicesOf, List.filter_append]
  by_cases same : other = user
  · rw [if_pos same]
    subst same
    have gone
        : (Rows.remove (fun row => decide (row.user = other)) db.devices).filter
            (fun row => row.user = other)
          = [] := by
      simp [Rows.remove, List.filter_filter]
    rw [gone, List.nil_append]
    exact List.filter_eq_self.mpr fun row member => decide_eq_true (own row member)
  · rw [if_neg same]
    have absent : rows.filter (fun row => row.user = other) = [] := by
      apply List.filter_eq_nil_iff.mpr
      intro row member here
      exact same ((of_decide_eq_true here).symm.trans (own row member))
    rw [absent, List.append_nil]
    apply Rows.filter_remove_of_apart
    intro row found
    have here : row.user = other := of_decide_eq_true found
    exact decide_eq_false (here ▸ same)

/-- The rows of devices are those of the user that they are written for. -/
theorem user_of_mem_deviceRows {user : UserId} {given : List (DeviceId × DeviceIdentity)}
    {row : DeviceRow} (member : row ∈ deviceRows user given)
    : row.user = user := by
  obtain ⟨entry, _, rfl⟩ := List.mem_map.mp member
  rfl

end Database

namespace Vault

variable {vault : Vault} {state : State}

/-- Over an open pool a list takes the place of the one before it. -/
theorem perform_putDevices (nonce : Aead.Nonce) (online : vault.online = true) (user : UserId)
    (given : List (DeviceId × DeviceIdentity))
    : vault.perform nonce (.putDevices user given) state
      = .done .nothing
          { state with
            database := state.database.replaceDevices user (deviceRows user given) } := by
  simp only [perform, putDevices, online, if_true]
  rfl

/-- Over a closed pool a list is refused. -/
theorem perform_putDevices_of_offline (nonce : Aead.Nonce) (offline : vault.online = false)
    (user : UserId) (given : List (DeviceId × DeviceIdentity))
    : vault.perform nonce (.putDevices user given) state = vault.offline state := by
  simp [perform, putDevices, offline]

/-- No other operation touches the device lists. -/
theorem Effect.devices {nonce : Aead.Nonce} {after : State} {operation : Operation}
    (effect : vault.Effect nonce state operation after) (other : ¬ operation.PutsDevices)
    : (after.database.tracked, after.database.devices)
      = (state.database.tracked, state.database.devices) := by
  cases effect <;> first | rfl | exact absurd ⟨_, _, rfl⟩ other

end Vault

-----------------------------------------------------------------------------------------
-- The tables follow the lists of a history
-----------------------------------------------------------------------------------------

namespace Database.ListsDevices

variable {db after : Database} {user : UserId}
variable {given : Option (List (DeviceId × DeviceIdentity))}

/-- Tables with the same tracked users and devices hold the same lists. -/
theorem of_same (lists : db.ListsDevices user given) (tracked : after.tracked = db.tracked)
    (devices : after.devices = db.devices)
    : after.ListsDevices user given where
  tracked := by
    unfold Database.isTracked
    rw [tracked]
    exact lists.tracked
  rows := by
    unfold Database.devicesOf
    rw [devices]
    exact lists.rows

/-- A list that is put takes the place of the one of its user and leaves those of others. -/
theorem replaced (lists : db.ListsDevices user given) (other : UserId)
    (devices : List (DeviceId × DeviceIdentity))
    : (db.replaceDevices other (deviceRows other devices)).ListsDevices user
        ((if other = user then some devices else none).or given) := by
  have own : ∀ row ∈ deviceRows other devices, row.user = other := by
    intro row member
    exact user_of_mem_deviceRows member
  constructor
  · rw [isTracked_replaceDevices, lists.tracked]
    by_cases same : other = user
    · simp [same]
    · simp [same, Ne.symm same]
  · rw [devicesOf_replaceDevices _ _ _ own, lists.rows]
    by_cases same : other = user
    · simp [same]
    · simp [same, Ne.symm same]

end Database.ListsDevices

namespace Moment

variable {moment : Moment} {handle : Handle}

/-- A moment that puts no list lists nothing. -/
theorem listed?_eq_none
    (other
      : ∀ handle operation, moment.call? = some (handle, operation) → ¬ operation.PutsDevices)
    (user : UserId)
    : moment.listed? user = none := by
  unfold listed?
  cases called : moment.call? with
  | none => rfl
  | some call =>
    obtain ⟨handle, operation⟩ := call
    cases operation
    case putDevices => exact absurd ⟨_, _, rfl⟩ (other _ _ called)
    all_goals rfl

/-- Over an open pool a put list is listed for its user. -/
theorem listed?_of_online {other : UserId} {devices : List (DeviceId × DeviceIdentity)}
    (called : moment.call? = some (handle, .putDevices other devices))
    (online : (moment.vaultOf handle).online = true) (user : UserId)
    : moment.listed? user = if other = user then some devices else none := by
  have performed :=
    @Vault.perform_putDevices (moment.vaultOf handle) (moment.met.stateOf handle)
      moment.nonce online other devices
  simp only [listed?, called, reply_of_call called, outcome, performed, Outcome.done]

/-- Over a closed pool nothing is listed. -/
theorem listed?_of_offline {other : UserId} {devices : List (DeviceId × DeviceIdentity)}
    (called : moment.call? = some (handle, .putDevices other devices))
    (offline : (moment.vaultOf handle).online = false) (user : UserId)
    : moment.listed? user = none := by
  have performed :=
    @Vault.perform_putDevices_of_offline (moment.vaultOf handle) (moment.met.stateOf handle)
      moment.nonce offline other devices
  simp only [listed?, called, reply_of_call called, outcome, performed, Vault.offline,
    Outcome.failed]

/-- A moment leaves of a user the list that it puts, or else the one that it met. -/
theorem listsDevices {user : UserId} {given : Option (List (DeviceId × DeviceIdentity))}
    (lists : moment.met.database.ListsDevices user given)
    : moment.left.database.ListsDevices user ((moment.listed? user).or given) := by
  rcases moment.calls_or_leaves (fun db => (db.tracked, db.devices)) Vault.Effect.devices with
    ⟨handle, _, called, other, devices, rfl⟩ | ⟨silent, same⟩
  · cases online : (moment.vaultOf handle).online with
    | true =>
      rw [database_of_call called, listed?_of_online called online, outcome,
        Vault.perform_putDevices _ online]
      exact lists.replaced other devices
    | false =>
      rw [database_of_call called, listed?_of_offline called online, outcome,
        Vault.perform_putDevices_of_offline _ online]
      exact lists
  · obtain ⟨tracked, devices⟩ := Prod.mk.inj same
    rw [listed?_eq_none silent, Option.none_or]
    exact lists.of_same tracked devices

end Moment

/-- After every history on new tables they hold of every user the list that was last put, by
induction over the events.
-/
theorem listsDevices_run (history : List (Aead.Nonce × Event)) (user : UserId)
    : (Deployment.empty.run history).2.database.ListsDevices user
        (lastListed? user (Deployment.empty.moments history)) := by
  refine Deployment.run_induction history (motive := fun past deployment =>
    deployment.database.ListsDevices user (lastListed? user past)) ⟨rfl, rfl⟩ ?_
  intro past moment _ lists
  rw [lastListed?_append]
  exact moment.listsDevices lists

-----------------------------------------------------------------------------------------
-- What is read of a list
-----------------------------------------------------------------------------------------

namespace Vault

/-- The code of every trust state is read back from its column. -/
theorem toInt_code (trust : TrustState) : (Int64.ofInt trust.code).toInt = trust.code := by
  cases trust <;> rfl

/-- The row of a device is read back as the device that is listed. -/
theorem deviceOfRow_rowOfDevice (user : UserId) (id : DeviceId) (device : DeviceIdentity)
    : deviceOfRow (rowOfDevice user id device) = .ok (device.listedFor user id) := by
  simp only [deviceOfRow, rowOfDevice, toInt_code, TrustState.ofCode_code]
  rfl

end Vault

/-- A list shows the given devices: it has each identifier once, with what was given last for
it.
-/
structure ShowsDevices (user : UserId) (given list : List (DeviceId × DeviceIdentity)) : Prop where
  distinct : (list.map Prod.fst).Nodup
  found
    : ∀ id,
        Rows.get? id list
        = (Rows.get? id given.reverse).map fun device => device.listedFor user id

/-- What is listed of given devices shows them. -/
theorem showsDevices_listedDevices (user : UserId) (given : List (DeviceId × DeviceIdentity))
    : ShowsDevices user given (listedDevices user given) where
  distinct := by
    have same
        : (listedDevices user given).map Prod.fst = (Vault.distinctDevices given).map Prod.fst := by
      simp [listedDevices, Function.comp_def]
    rw [same]
    exact Rows.nodup_keys_foldl_put given List.nodup_nil
  found id := by
    have last : Rows.get? id (Vault.distinctDevices given) = Rows.get? id given.reverse :=
      (Rows.get?_foldl_put id given []).trans (by simp [Rows.get?])
    rw [listedDevices,
      Rows.get?_map id (fun id device => DeviceIdentity.listedFor device user id), last]

end KeyVault
