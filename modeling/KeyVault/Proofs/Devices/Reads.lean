import KeyVault.Proofs.Devices.Lists
/-!
Reading device lists. A list is read as it was last put, and the reads agree with each other:
a device that is asked for by its identifier or by its key is one of the list, and the tracked
users are those that have a list.
-/

namespace KeyVault

-----------------------------------------------------------------------------------------
-- What is found in the tables
-----------------------------------------------------------------------------------------

namespace Database

variable {db : Database} {user : UserId}
variable {given : Option (List (DeviceId × DeviceIdentity))}

/-- The tracked users among some are those that are tracked, in whatever piece of the list
they stand.
-/
theorem mem_trackedAmong {users : List UserId}
    : user ∈ db.trackedAmong users ↔ user ∈ users ∧ db.isTracked user = true := by
  have pieces : user ∈ users ↔ ∃ piece ∈ chunks listLimit users, user ∈ piece := by
    rw [← List.mem_flatten, flatten_chunks (by decide)]
  simp only [trackedAmong, trackedIn, isTracked, List.mem_flatMap, List.mem_filter,
    List.contains_iff_mem, pieces]
  constructor
  · rintro ⟨piece, member, tracked, asked⟩
    exact ⟨⟨piece, member, asked⟩, tracked⟩
  · rintro ⟨⟨piece, member, asked⟩, tracked⟩
    exact ⟨piece, member, tracked, asked⟩

/-- A search among the rows of a user finds the row of the device that the same search finds
in the user's list.
-/
theorem ListsDevices.find?_devices (lists : db.ListsDevices user given) (asked : DeviceRow → Bool)
    : (db.devices.find? fun row => row.user = user ∧ asked row = true).map Vault.deviceOfRow
      = (((given.map (listedDevices user)).getD []).find? fun entry =>
            asked (Vault.rowOfDevice user entry.1 entry.2)).map
          fun entry => .ok entry.2 := by
  have owned
      : (db.devices.find? fun row => row.user = user ∧ asked row = true)
        = (db.devicesOf user).find? asked := by
    simp [devicesOf, List.find?_filter]
  rw [owned, lists.rows]
  cases given with
  | none => rfl
  | some devices =>
    -- The row of a listed device is the row of the device that was given.
    have same
        : asked ∘ (fun entry : DeviceId × DeviceIdentity =>
              Vault.rowOfDevice user entry.1 entry.2)
          = (fun entry => asked (Vault.rowOfDevice user entry.1 entry.2))
            ∘ fun entry : DeviceId × DeviceIdentity => (entry.1, entry.2.listedFor user entry.1) :=
      rfl
    simp only [Option.map_some, Option.getD_some, deviceRows, listedDevices, List.find?_map, same,
      Option.map_map]
    congr 1
    funext entry
    exact Vault.deviceOfRow_rowOfDevice user entry.1 entry.2

/-- A row that is held is of a tracked user. -/
theorem ListsDevices.isTracked_of_mem {row : DeviceRow} (lists : db.ListsDevices row.user given)
    (member : row ∈ db.devices)
    : db.isTracked row.user = true := by
  have own : row ∈ db.devicesOf row.user := List.mem_filter.mpr ⟨member, decide_eq_true rfl⟩
  rw [lists.rows] at own
  rw [lists.tracked]
  cases given with
  | none => nomatch own
  | some devices => rfl

end Database

/-- A listed device is the one that the list has under its identifier. -/
theorem get?_of_mem_listedDevices {user : UserId} {given : List (DeviceId × DeviceIdentity)}
    {entry : DeviceId × DeviceIdentity} (member : entry ∈ listedDevices user given)
    : Rows.get? entry.2.device (listedDevices user given) = some entry.2 := by
  have named : entry.2.device = entry.1 := by
    obtain ⟨_, _, rfl⟩ := List.mem_map.mp member
    rfl
  rw [named]
  exact Rows.get?_of_mem (showsDevices_listedDevices user given).distinct member

-----------------------------------------------------------------------------------------
-- What calls answer
-----------------------------------------------------------------------------------------

namespace Vault

variable {vault : Vault} {state : State} {user : UserId}
variable {given : Option (List (DeviceId × DeviceIdentity))}

/-- The rows of given devices are read back as the list of these devices. -/
theorem mapM_deviceRows (user : UserId) (given : List (DeviceId × DeviceIdentity))
    : (deviceRows user given).mapM (fun row =>
          (deviceOfRow row).map fun device => (row.device, device))
      = .ok (listedDevices user given) := by
  have read
      : (fun row => (deviceOfRow row).map fun device => (row.device, device))
          ∘ (fun entry : DeviceId × DeviceIdentity => rowOfDevice user entry.1 entry.2)
        = fun entry => pure (entry.1, entry.2.listedFor user entry.1) := by
    funext entry
    simp only [Function.comp, deviceOfRow_rowOfDevice]
    rfl
  rw [deviceRows, List.mapM_map, read, List.mapM_pure]
  rfl

/-- The devices of a user are read as the list that the tables hold; a user without one has
none.
-/
theorem perform_getDevices (nonce : Aead.Nonce) (online : vault.online = true)
    (whole : vault.further = none) (lists : state.database.ListsDevices user given)
    : vault.perform nonce (.getDevices user) state
      = .done (.devices (given.map (listedDevices user))) state := by
  cases given with
  | none => simp [perform, getDevices, online, lists.tracked]
  | some devices =>
    have rows : state.database.devicesOf user = deviceRows user devices := lists.rows
    simp only [perform, getDevices, online, reaches_of_whole online whole, lists.tracked, rows,
      mapM_deviceRows, if_true, Option.isSome_some]
    rfl

/-- A device is read where a row is found that is read back. -/
theorem perform_getDevice (nonce : Aead.Nonce) (online : vault.online = true) {id : DeviceId}
    {shown : Option DeviceIdentity}
    (found : (state.database.device? user id).map deviceOfRow = shown.map .ok)
    : vault.perform nonce (.getDevice user id) state = .done (.identity shown) state := by
  cases there : state.database.device? user id with
  | none =>
    cases Option.map_eq_none_iff.mp (found.symm.trans (by rw [there]; rfl))
    simp [perform, getDevice, online, there]
  | some row =>
    rw [there] at found
    obtain ⟨device, rfl, reads⟩ := Option.map_eq_some_iff.mp found.symm
    simp [perform, getDevice, online, there, ← reads, Except.map, known]

/-- A device is read by its key where a row is found that is read back. -/
theorem perform_findDeviceByKey (nonce : Aead.Nonce) (online : vault.online = true)
    {key : IdentityKey} {shown : Option DeviceIdentity}
    (found : (state.database.deviceByKey? user key).map deviceOfRow = shown.map .ok)
    : vault.perform nonce (.findDeviceByKey user key) state = .done (.identity shown) state := by
  cases there : state.database.deviceByKey? user key with
  | none =>
    cases Option.map_eq_none_iff.mp (found.symm.trans (by rw [there]; rfl))
    simp [perform, findDeviceByKey, online, there]
  | some row =>
    rw [there] at found
    obtain ⟨device, rfl, reads⟩ := Option.map_eq_some_iff.mp found.symm
    simp [perform, findDeviceByKey, online, there, ← reads, Except.map, known]

/-- Where nothing is lost, the tracked users are told. -/
theorem perform_filterTracked (nonce : Aead.Nonce) (online : vault.online = true)
    (whole : vault.further = none) (users : List UserId)
    : vault.perform nonce (.filterTracked users) state
      = .done (.users (state.database.trackedAmong users)) state := by
  rw [perform, filterTracked_of_whole online whole, Outcome.answering_done]

/-- Over a closed pool no device is read. -/
theorem perform_reads_of_offline (nonce : Aead.Nonce) (offline : vault.online = false)
    (user : UserId)
    : vault.perform nonce (.getDevices user) state = vault.offline state
      ∧ (∀ id, vault.perform nonce (.getDevice user id) state = vault.offline state)
      ∧ (∀ key, vault.perform nonce (.findDeviceByKey user key) state = vault.offline state)
      ∧ ∀ users,
          user ∈ users
          → vault.perform nonce (.filterTracked users) state = vault.offline state := by
  refine ⟨?_, ?_, ?_, ?_⟩
  · simp [perform, getDevices, offline]
  · intro id
    simp [perform, getDevice, offline]
  · intro key
    simp [perform, findDeviceByKey, offline]
  · intro users member
    rw [perform, filterTracked_of_offline offline (List.ne_nil_of_mem member),
      Outcome.answering_offline]

end Vault

-----------------------------------------------------------------------------------------
-- The list that is read is the one that was put
-----------------------------------------------------------------------------------------

section Calls

variable {reached : Deployment} {user : UserId}
variable {given : Option (List (DeviceId × DeviceIdentity))}
variable {name : String} {handle : Handle} (opened : reached.handle? name = some handle)
variable (nonce : Aead.Nonce) (online : reached.isOnline handle.backend = true)

namespace Database.ListsDevices

include opened online

/-- The list of a user is read as the tables hold it. -/
theorem reply_getDevices (lists : reached.database.ListsDevices user given)
    : (reached.step nonce (.call name (.getDevices user))).1
      = ⟨.ok (.devices (given.map (listedDevices user))), []⟩ :=
  Deployment.reply_of_done opened (Vault.perform_getDevices nonce online rfl lists)

/-- A device is read as the entry that the list has of it. -/
theorem reply_getDevice (lists : reached.database.ListsDevices user given) (id : DeviceId)
    : (reached.step nonce (.call name (.getDevice user id))).1
      = ⟨.ok (.identity ((given.map (listedDevices user)).bind (Rows.get? id))), []⟩ := by
  have found := lists.find?_devices fun row => row.device = id
  simp only [decide_eq_true_eq] at found
  refine Deployment.reply_of_done opened (Vault.perform_getDevice nonce online ?_)
  refine found.trans ?_
  cases given with
  | none => rfl
  | some devices =>
    simp only [Option.map_some, Option.bind_some, Option.getD_some, Rows.get?, Option.map_map]
    rfl

/-- A device is read by its key as the first entry that the list has with the key. -/
theorem reply_findDeviceByKey (lists : reached.database.ListsDevices user given)
    (key : IdentityKey)
    : (reached.step nonce (.call name (.findDeviceByKey user key))).1
      = ⟨.ok (.identity ((((given.map (listedDevices user)).getD []).find? fun entry =>
            entry.2.identityKey = key).map Prod.snd)), []⟩ := by
  have found := lists.find?_devices fun row => row.identityKey = key
  simp only [decide_eq_true_eq] at found
  refine Deployment.reply_of_done opened (Vault.perform_findDeviceByKey nonce online ?_)
  refine found.trans ?_
  rw [Option.map_map]
  rfl

/-- Of the users that are asked for, those are told that have a list. -/
theorem reply_filterTracked (lists : reached.database.ListsDevices user given)
    {users : List UserId} (asked : user ∈ users)
    : ∃ tracked,
        (reached.step nonce (.call name (.filterTracked users))).1 = ⟨.ok (.users tracked), []⟩
        ∧ (user ∈ tracked ↔ given.isSome = true) := by
  refine ⟨reached.database.trackedAmong users, ?_, ?_⟩
  · exact Deployment.reply_of_done opened (Vault.perform_filterTracked nonce online rfl users)
  · rw [Database.mem_trackedAmong, lists.tracked]
    exact and_iff_right asked

/-- A device is found by its key exactly when the list has one with the key, and then it is
one that the list has under its identifier.
-/
theorem exists_reply_findDeviceByKey (lists : reached.database.ListsDevices user given)
    (key : IdentityKey)
    : ∃ found,
        (reached.step nonce (.call name (.findDeviceByKey user key))).1
        = ⟨.ok (.identity found), []⟩
        ∧ (found.isSome = true
          ↔ ∃ devices ∈ given.map (listedDevices user),
              ∃ entry ∈ devices, entry.2.identityKey = key)
        ∧ ∀ device ∈ found,
            device.identityKey = key
            ∧ (reached.step nonce (.call name (.getDevice user device.device))).1
              = ⟨.ok (.identity (some device)), []⟩ := by
  refine ⟨_, lists.reply_findDeviceByKey opened nonce online key, ?_, ?_⟩
  · cases given <;> simp
  · intro device there
    obtain ⟨entry, found, rfl⟩ := Option.map_eq_some_iff.mp there
    have met := List.find?_some found
    refine ⟨of_decide_eq_true met, ?_⟩
    rw [lists.reply_getDevice opened nonce online]
    cases given with
    | none => nomatch found
    | some devices =>
      have member : entry ∈ listedDevices user devices := List.mem_of_find?_eq_some found
      rw [Option.map_some, Option.bind_some, get?_of_mem_listedDevices member]

end Database.ListsDevices

end Calls

/-- Device lists are replaced whole. After every history on new tables a user has a list exactly
when one was put, and it shows the devices that were put last, under their identifiers, and no
others. A list is put over an open pool; over a closed one nothing is put or read.
-/
theorem device_lists_are_replaced_whole {history : List (Aead.Nonce × Event)} {name : String}
    {handle : Handle} (opened : (Deployment.empty.run history).2.handle? name = some handle)
    (nonce : Aead.Nonce) (user : UserId)
    : let reached := (Deployment.empty.run history).2
      let step (operation : Operation) : Reply × Deployment :=
        reached.step nonce (.call name operation)
      if reached.isOnline handle.backend then
        (∃ list,
          (step (.getDevices user)).1 = ⟨.ok (.devices list), []⟩
          ∧ Option.Rel (ShowsDevices user) (lastListed? user (Deployment.empty.moments history))
              list)
        ∧ ∀ given, (step (.putDevices user given)).1 = .nothing
      else
        step (.getDevices user) = (.failed (.database .poolClosed), reached)
        ∧ ∀ given,
            step (.putDevices user given) = (.failed (.database .poolClosed), reached) := by
  intro reached step
  have lists := listsDevices_run history user
  cases online : reached.isOnline handle.backend with
  | true =>
    rw [if_pos rfl]
    refine ⟨⟨_, lists.reply_getDevices opened nonce online, ?_⟩, ?_⟩
    · cases lastListed? user (Deployment.empty.moments history) with
      | none => exact .none
      | some given => exact .some (showsDevices_listedDevices user given)
    · intro given
      exact Deployment.reply_of_done opened (Vault.perform_putDevices nonce online user given)
  | false =>
    rw [if_neg Bool.false_ne_true]
    refine ⟨?_, ?_⟩
    · exact Deployment.step_of_failed opened (Vault.perform_reads_of_offline nonce online user).1
    · intro given
      exact Deployment.step_of_failed opened
        (Vault.perform_putDevices_of_offline nonce online user given)

/-- A verified device with a key, as it is given for a list; whose device it says it is does not
count.
-/
def givenDevice (key : String) : DeviceIdentity :=
  ⟨⟨"@elsewhere"⟩, ⟨"unnamed"⟩, ⟨key⟩, ⟨"ed"⟩, .verified, false, "phone"⟩

/-- Two accounts put lists of a user and of another one with the same devices and keys; the
first account is deleted and puts an empty list, and the second one puts a list over a closed
pool.
-/
def listingTogether : List (Aead.Nonce × Event) :=
  let events : List Event :=
    [.openVault "first" ⟨"@a"⟩ ⟨.replicate 32 0⟩,
     .openVault "second" ⟨"@b"⟩ ⟨.replicate 32 0⟩,
     .call "first"
      (.putDevices ⟨"@user"⟩ [(⟨"one"⟩, givenDevice "k1"), (⟨"two"⟩, givenDevice "k2")]),
     .call "second" (.putDevices ⟨"@user"⟩ [(⟨"two"⟩, givenDevice "k1")]),
     .call "second" (.putDevices ⟨"@other"⟩ [(⟨"one"⟩, givenDevice "k1")]),
     .call "first" .delete,
     .call "first" (.putDevices ⟨"@none"⟩ []),
     .closePool "second",
     .call "second" (.putDevices ⟨"@user"⟩ [(⟨"three"⟩, givenDevice "k3")])]
  events.map fun event => (.replicate 24 0, event)

/-- The first account then reads of the user the one device that was put last, and nothing of
the list before it nor of the list that was refused.
-/
theorem listingTogether_replaced_whole
    : let reached := (Deployment.empty.run listingTogether).2
      let handle := Handle.fresh ⟨"@a"⟩ ⟨.replicate 32 0⟩ (.sqlite 0)
      reached.handle? "first" = some handle
      ∧ reached.isOnline handle.backend = true
      ∧ ∃ list,
          (reached.step (.replicate 24 0) (.call "first" (.getDevices ⟨"@user"⟩))).1
          = ⟨.ok (.devices (some list)), []⟩
          ∧ (list.map Prod.fst).Nodup
          ∧ Rows.get? ⟨"one"⟩ list = none
          ∧ Rows.get? ⟨"two"⟩ list
            = some ⟨⟨"@user"⟩, ⟨"two"⟩, ⟨"k1"⟩, ⟨"ed"⟩, .verified, false, "phone"⟩
          ∧ Rows.get? ⟨"three"⟩ list = none := by
  intro reached handle
  have opened : reached.handle? "first" = some handle := by decide
  have online : reached.isOnline handle.backend = true := by decide
  have last
      : lastListed? ⟨"@user"⟩ (Deployment.empty.moments listingTogether)
        = some [(⟨"two"⟩, givenDevice "k1")] := by
    decide
  have replaced := device_lists_are_replaced_whole opened (.replicate 24 0) ⟨"@user"⟩
  rw [if_pos online, last] at replaced
  obtain ⟨⟨list, read, shows⟩, _⟩ := replaced
  cases shows with
  | some shown =>
    exact ⟨opened, online, _, read, shown.distinct, shown.found _, shown.found _, shown.found _⟩

/-- The device reads agree, over every history of any vaults. Every device is of a tracked user, and
is read as the entry of the user's list; by a key a device is found just where the list has one with
the key; and a user is tracked just where there is a list. Over a closed pool none of this is read.
-/
theorem device_reads_agree {history : List (Aead.Nonce × Event)} {name : String}
    {handle : Handle} (opened : (Deployment.empty.run history).2.handle? name = some handle)
    (nonce : Aead.Nonce) (user : UserId)
    : let reached := (Deployment.empty.run history).2
      let step (operation : Operation) : Reply × Deployment :=
        reached.step nonce (.call name operation)
      (∀ row ∈ reached.database.devices, reached.database.isTracked row.user = true)
      ∧ if reached.isOnline handle.backend then
          ∃ list,
            (step (.getDevices user)).1 = ⟨.ok (.devices list), []⟩
            ∧ (∀ devices ∈ list, (devices.map Prod.fst).Nodup)
            ∧ (∀ id,
                (step (.getDevice user id)).1
                = ⟨.ok (.identity (list.bind (Rows.get? id))), []⟩)
            ∧ (∀ key,
                ∃ found,
                  (step (.findDeviceByKey user key)).1 = ⟨.ok (.identity found), []⟩
                  ∧ (found.isSome = true
                    ↔ ∃ devices ∈ list, ∃ entry ∈ devices, entry.2.identityKey = key)
                  ∧ ∀ device ∈ found,
                      device.identityKey = key
                      ∧ (step (.getDevice user device.device)).1
                        = ⟨.ok (.identity (some device)), []⟩)
            ∧ ∀ users,
                user ∈ users
                → ∃ tracked,
                    (step (.filterTracked users)).1 = ⟨.ok (.users tracked), []⟩
                    ∧ (user ∈ tracked ↔ list.isSome = true)
        else
          step (.getDevices user) = (.failed (.database .poolClosed), reached)
          ∧ (∀ id, step (.getDevice user id) = (.failed (.database .poolClosed), reached))
          ∧ (∀ key, step (.findDeviceByKey user key) = (.failed (.database .poolClosed), reached))
          ∧ ∀ users,
              user ∈ users
              → step (.filterTracked users) = (.failed (.database .poolClosed), reached) := by
  intro reached step
  refine ⟨?_, ?_⟩
  · intro row member
    exact (listsDevices_run history row.user).isTracked_of_mem member
  have lists := listsDevices_run history user
  cases online : reached.isOnline handle.backend with
  | true =>
    rw [if_pos rfl]
    refine ⟨_, lists.reply_getDevices opened nonce online, ?_,
      lists.reply_getDevice opened nonce online,
      lists.exists_reply_findDeviceByKey opened nonce online, ?_⟩
    · intro devices shown
      obtain ⟨given, _, rfl⟩ := Option.map_eq_some_iff.mp shown
      exact (showsDevices_listedDevices user given).distinct
    · intro users asked
      rw [Option.isSome_map]
      exact lists.reply_filterTracked opened nonce online asked
  | false =>
    rw [if_neg Bool.false_ne_true]
    obtain ⟨list, device, byKey, tracked⟩ :=
      @Vault.perform_reads_of_offline (reached.vaultOf handle) (reached.stateOf handle) nonce online
        user
    refine ⟨Deployment.step_of_failed opened list, ?_, ?_, ?_⟩
    · intro id
      exact Deployment.step_of_failed opened (device id)
    · intro key
      exact Deployment.step_of_failed opened (byKey key)
    · intro users asked
      exact Deployment.step_of_failed opened (tracked users asked)

/-- Where two accounts listed the same keys, the device of the user with a key is the one of
the user's own list, and a user without devices is tracked.
-/
theorem listingTogether_reads_agree
    : let reached := (Deployment.empty.run listingTogether).2
      let handle := Handle.fresh ⟨"@a"⟩ ⟨.replicate 32 0⟩ (.sqlite 0)
      let step (operation : Operation) : Reply × Deployment :=
        reached.step (.replicate 24 0) (.call "first" operation)
      reached.handle? "first" = some handle
      ∧ reached.isOnline handle.backend = true
      ∧ (∃ device,
          (step (.findDeviceByKey ⟨"@user"⟩ ⟨"k1"⟩)).1 = ⟨.ok (.identity (some device)), []⟩
          ∧ (step (.getDevice ⟨"@user"⟩ device.device)).1 = ⟨.ok (.identity (some device)), []⟩)
      ∧ (step (.findDeviceByKey ⟨"@user"⟩ ⟨"k2"⟩)).1 = ⟨.ok (.identity none), []⟩
      ∧ ∃ tracked,
          (step (.filterTracked [⟨"@nobody"⟩, ⟨"@none"⟩])).1 = ⟨.ok (.users tracked), []⟩
          ∧ (⟨"@none"⟩ : UserId) ∈ tracked := by
  intro reached handle step
  have opened : reached.handle? "first" = some handle := by decide
  have online : reached.isOnline handle.backend = true := by decide
  let shown : DeviceIdentity :=
    ⟨⟨"@user"⟩, ⟨"two"⟩, ⟨"k1"⟩, ⟨"ed"⟩, .verified, false, "phone"⟩
  have listed
      : (step (.getDevices ⟨"@user"⟩)).1
        = ⟨.ok (.devices (some [(⟨"two"⟩, shown)])), []⟩ := by
    rfl
  have empty : (step (.getDevices ⟨"@none"⟩)).1 = ⟨.ok (.devices (some [])), []⟩ := by rfl
  have agree := (device_reads_agree opened (.replicate 24 0) ⟨"@user"⟩).2
  rw [if_pos online] at agree
  obtain ⟨list, read, _, _, byKey, _⟩ := agree
  cases listed.symm.trans read
  have untracked := (device_reads_agree opened (.replicate 24 0) ⟨"@none"⟩).2
  rw [if_pos online] at untracked
  obtain ⟨list, read, _, _, _, filter⟩ := untracked
  cases empty.symm.trans read
  refine ⟨opened, online, ?_, ?_, ?_⟩
  · obtain ⟨found, read, held, same⟩ := byKey ⟨"k1"⟩
    obtain ⟨device, rfl⟩ := Option.isSome_iff_exists.mp (held.mpr (by simp [shown]))
    exact ⟨device, read, (same device rfl).2⟩
  · obtain ⟨found, read, held, _⟩ := byKey ⟨"k2"⟩
    cases found with
    | none => exact read
    | some device => exact absurd (held.mp rfl) (by simp [shown])
  · obtain ⟨tracked, read, told⟩ := filter [⟨"@nobody"⟩, ⟨"@none"⟩] (by simp)
    exact ⟨tracked, read, told.mpr rfl⟩

end KeyVault
