import KeyVault.Vault.Operation
/-!
Columns that hold what no operation writes. A read of such a row fails and says what it found;
a read that succeeds shows every column as it is stored, so that the answer stored again would
give the same columns.
-/

namespace KeyVault

-----------------------------------------------------------------------------------------
-- Rows that are read one by one
-----------------------------------------------------------------------------------------

namespace Rows

variable {ρ α ε κ : Type}

/-- Reading a row tells damage from content: a damaged row fails with its fault, and the value
of any other row shows its column.
-/
def TellsDamage (read : ρ → Except ε α) (damaged : ρ → Prop) (fault : ρ → ε) (column : ρ → κ)
    (shown : α → κ) : Prop :=
  ∀ row,
    (¬ damaged row ∧ ∃ value, read row = .ok value ∧ column row = shown value)
    ∨ damaged row ∧ read row = .error (fault row)

/-- So does reading rows one by one, by induction over them: the first damaged one ends it. -/
theorem TellsDamage.mapM {read : ρ → Except ε α} {damaged : ρ → Prop} {fault : ρ → ε}
    {column : ρ → κ} {shown : α → κ} (tells : TellsDamage read damaged fault column shown)
    (rows : List ρ)
    : (∀ row ∈ rows, ¬ damaged row)
        ∧ (∃ values, rows.mapM read = .ok values ∧ rows.map column = values.map shown)
      ∨ ∃ row ∈ rows, damaged row ∧ rows.mapM read = .error (fault row) := by
  induction rows with
  | nil => exact .inl ⟨by simp, [], rfl, rfl⟩
  | cons row rows ih =>
    rw [List.mapM_cons]
    rcases tells row with ⟨sound, value, here, same⟩ | ⟨damaged, here⟩
    · rcases ih with ⟨others, values, reads, each⟩ | ⟨other, member, damaged, fails⟩
      · refine .inl ⟨by simpa using ⟨sound, others⟩, value :: values, ?_, ?_⟩
        · rw [here, reads]
          rfl
        · rw [List.map_cons, List.map_cons, same, each]
      · refine .inr ⟨other, List.mem_cons_of_mem _ member, damaged, ?_⟩
        rw [here, fails]
        rfl
    · refine .inr ⟨row, List.mem_cons_self .., damaged, ?_⟩
      rw [here]
      rfl

/-- A search by labels in a list that misses no value finds the value of a label, or the label
is that of no value.
-/
theorem find?_label_cases [BEq κ] [LawfulBEq κ] {all : List α} (complete : ∀ value, value ∈ all)
    (label : α → κ) (sought : κ)
    : (∃ value, all.find? (fun value => label value == sought) = some value ∧ label value = sought)
      ∨ (∀ value, label value ≠ sought)
        ∧ all.find? (fun value => label value == sought) = none := by
  cases search : all.find? fun value => label value == sought with
  | some value => exact .inl ⟨value, rfl, beq_iff_eq.mp (List.find?_some search :)⟩
  | none =>
    refine .inr ⟨fun value same => ?_, rfl⟩
    exact List.find?_eq_none.mp search value (complete value) (beq_iff_eq.mpr same)

end Rows

-----------------------------------------------------------------------------------------
-- Values of a closed set
-----------------------------------------------------------------------------------------

/-- A code is read as the state that it is the code of, or reported. -/
theorem TrustState.ofCode_cases (code : Int)
    : (∃ trust : TrustState, ofCode code = .ok trust ∧ trust.code = code)
      ∨ (∀ trust : TrustState, trust.code ≠ code) ∧ ofCode code = .error (.trustCode code) := by
  have complete : ∀ trust, trust ∈ all := by
    intro trust
    cases trust <;> decide
  rcases Rows.find?_label_cases complete TrustState.code code with
    ⟨trust, found, same⟩ | ⟨unknown, unfound⟩
  · exact .inl ⟨trust, by rw [ofCode, found], same⟩
  · exact .inr ⟨unknown, by rw [ofCode, unfound]⟩

/-- A name is read as the usage that it is the name of, or reported. -/
theorem Usage.ofTag_cases (text : String)
    : (∃ usage : Usage, ofTag text = .ok usage ∧ usage.tag = text)
      ∨ (∀ usage : Usage, usage.tag ≠ text) ∧ ofTag text = .error (.usage text) := by
  have complete : ∀ usage, usage ∈ all := by
    intro usage
    cases usage <;> decide
  rcases Rows.find?_label_cases complete Usage.tag text with
    ⟨usage, found, same⟩ | ⟨unknown, unfound⟩
  · exact .inl ⟨usage, by rw [ofTag, found], same⟩
  · exact .inr ⟨unknown, by rw [ofTag, unfound]⟩

/-- The trust of a device's row is the code of no state. -/
def DeviceRow.Damaged (row : DeviceRow) : Prop :=
  ∀ trust : TrustState, trust.code ≠ row.trust.toInt

/-- What the trust of a device's row is reported as. -/
def DeviceRow.fault (row : DeviceRow) : UnknownValue :=
  .trustCode row.trust.toInt

/-- The usage of a key's row is the name of no usage. -/
def KeyRow.Damaged (row : KeyRow) : Prop :=
  ∀ usage : Usage, usage.tag ≠ row.usage

/-- What the usage of a key's row is reported as. -/
def KeyRow.fault (row : KeyRow) : UnknownValue :=
  .usage row.usage

/-- The columns of a key's row beside the user. -/
def KeyRow.columns (row : KeyRow) : String × PinnedKey :=
  (row.usage, ⟨row.key, row.first⟩)

namespace Vault

/-- The row as which a device would be stored. -/
def rowOfIdentity (device : DeviceIdentity) : DeviceRow :=
  rowOfDevice device.user device.device device

/-- The row as which a device of a list would be stored. -/
def rowOfEntry (entry : DeviceId × DeviceIdentity) : DeviceRow :=
  rowOfDevice entry.2.user entry.1 entry.2

/-- The columns as which a key of a usage would be stored. -/
def columnsOfKey (entry : Usage × PinnedKey) : String × PinnedKey :=
  (entry.1.tag, entry.2)

/-- A device is read from a row that would be stored again as it is, or the code is reported. -/
theorem tellsDamage_deviceOfRow
    : Rows.TellsDamage deviceOfRow DeviceRow.Damaged DeviceRow.fault id rowOfIdentity := by
  intro row
  rcases TrustState.ofCode_cases row.trust.toInt with ⟨trust, reads, same⟩ | ⟨damaged, fails⟩
  · refine .inl ⟨fun damaged => damaged trust same, _, by rw [deviceOfRow, reads]; rfl, ?_⟩
    simp only [rowOfIdentity, rowOfDevice, same, Int64.ofInt_toInt, id]
  · exact .inr ⟨damaged, by rw [deviceOfRow, fails]; rfl⟩

/-- So it is for a device with its identifier. -/
theorem tellsDamage_entryOfRow
    : Rows.TellsDamage (fun row => (deviceOfRow row).map fun device => (row.device, device))
        DeviceRow.Damaged DeviceRow.fault id rowOfEntry := by
  intro row
  rcases tellsDamage_deviceOfRow row with ⟨sound, device, reads, same⟩ | ⟨damaged, fails⟩
  · have own : row.device = device.device := congrArg DeviceRow.device same
    refine .inl ⟨sound, (row.device, device), by simp only [reads, Except.map], ?_⟩
    rw [own]
    exact same
  · exact .inr ⟨damaged, by simp only [fails, Except.map]⟩

/-- A key is read with the usage that its row names, or the name is reported. -/
theorem tellsDamage_pinnedOfRow
    : Rows.TellsDamage pinnedOfRow KeyRow.Damaged KeyRow.fault KeyRow.columns columnsOfKey := by
  intro row
  rcases Usage.ofTag_cases row.usage with ⟨usage, reads, same⟩ | ⟨damaged, fails⟩
  · refine .inl ⟨fun damaged => damaged usage same, _, by rw [pinnedOfRow, reads]; rfl, ?_⟩
    simp only [KeyRow.columns, columnsOfKey, same]
  · exact .inr ⟨damaged, by rw [pinnedOfRow, fails]; rfl⟩

end Vault

/-- A result reports damage in the rows that are met: it is a fault just when one of them is
damaged, and then the fault of a damaged one; otherwise the answer shows them.
-/
structure ReportsDamage {ρ : Type} (met damaged : ρ → Prop) (fault : ρ → UnknownValue)
    (shows : Answer → Prop) (result : Except StoreFault Answer) : Prop where
  fails : (∃ reason, result = .error reason) ↔ ∃ row, met row ∧ damaged row
  named
    : ∀ reason,
        result = .error reason
        → ∃ row, met row ∧ damaged row ∧ reason = .unknownValue (fault row)
  shown : ∀ answer, result = .ok answer → shows answer

namespace ReportsDamage

variable {ρ : Type} {met damaged : ρ → Prop} {fault : ρ → UnknownValue}
variable {shows : Answer → Prop} {result : Except StoreFault Answer}

/-- An answer that shows rows none of which is damaged reports that. -/
theorem of_sound (answer : Answer) (sound : ∀ row, met row → ¬ damaged row)
    (answered : result = .ok answer) (shown : shows answer)
    : ReportsDamage met damaged fault shows result where
  fails := by
    constructor
    · rintro ⟨reason, failed⟩
      cases answered.symm.trans failed
    · rintro ⟨row, here, broken⟩
      exact absurd broken (sound row here)
  named reason failed := by cases answered.symm.trans failed
  shown other same := Except.ok.inj (answered.symm.trans same) ▸ shown

/-- So does the fault of a damaged row. -/
theorem of_damaged {row : ρ} (here : met row) (broken : damaged row)
    (failed : result = .error (.unknownValue (fault row)))
    : ReportsDamage met damaged fault shows result where
  fails := ⟨fun _ => ⟨row, here, broken⟩, fun _ => ⟨_, failed⟩⟩
  named reason same := ⟨row, here, broken, (Except.error.inj (failed.symm.trans same)).symm⟩
  shown answer same := by cases failed.symm.trans same

end ReportsDamage

namespace Vault

/-- The answer shows the devices of a user, as they would be stored again. -/
def ShowsList (db : Database) (user : UserId) (answer : Answer) : Prop :=
  ∃ list,
    answer = .devices list
    ∧ list.map (List.map rowOfEntry)
      = if db.isTracked user then some (db.devicesOf user) else none

/-- The answer shows the row that was found, if one was, as it would be stored again. -/
def ShowsFound (found : Option DeviceRow) (answer : Answer) : Prop :=
  ∃ device, answer = .identity device ∧ device.map rowOfIdentity = found

/-- The answer shows the keys of rows, as they would be stored again. -/
def ShowsKeys (rows : List KeyRow) (answer : Answer) : Prop :=
  ∃ keys, answer = .keys keys ∧ keys.map columnsOfKey = rows.map KeyRow.columns

variable {vault : Vault} {state : State}

/-- Over an open pool the device list of a tracked user reports what its rows hold, where they are
read by the second statement.
-/
theorem reportsDamage_getDevices (nonce : Aead.Nonce) (online : vault.online = true)
    (user : UserId)
    (reached : vault.reaches 1 = true ∨ state.database.isTracked user = false)
    : ReportsDamage
        (fun row => state.database.isTracked user ∧ row ∈ state.database.devicesOf user)
        DeviceRow.Damaged DeviceRow.fault (ShowsList state.database user)
        (vault.perform nonce (.getDevices user) state).result := by
  cases tracked : state.database.isTracked user with
  | false =>
    refine .of_sound (.devices none) ?_ ?_ ⟨none, rfl, by simp [tracked]⟩
    · rintro row ⟨listed, _⟩
      cases listed
    · simp only [perform, getDevices, online, tracked, if_true]
      rfl
  | true =>
    have read : vault.reaches 1 = true := reached.resolve_right (by simp [tracked])
    rcases tellsDamage_entryOfRow.mapM (state.database.devicesOf user) with
      ⟨sound, list, reads, same⟩ | ⟨row, member, damaged, fails⟩
    · refine .of_sound (.devices (some list)) (fun row met => sound row met.2) ?_ ?_
      · simp only [perform, getDevices, online, tracked, read, reads, if_true]
        rfl
      · exact ⟨some list, rfl, by simp [tracked, ← same]⟩
    · refine .of_damaged ⟨rfl, member⟩ damaged ?_
      simp only [perform, getDevices, online, tracked, read, fails, if_true]
      rfl

/-- Where the devices of a tracked user are not read, none are answered. -/
theorem getDevices_of_unread (nonce : Aead.Nonce) (user : UserId)
    (unread : ¬ (vault.reaches 1 = true ∨ state.database.isTracked user = false))
    : (vault.perform nonce (.getDevices user) state).result
      = .error (.database vault.fault) := by
  obtain ⟨unreached, tracked⟩ := not_or.mp unread
  rw [Bool.not_eq_false] at tracked
  cases online : vault.online <;>
    simp only [perform, getDevices, online, tracked, if_true, if_neg unreached] <;> rfl

/-- What is answered for a row that was found reports what the row holds. -/
theorem reportsDamage_found (state : State) {found : Option DeviceRow}
    {result : Except StoreFault Answer} (absent : found = none → result = .ok (.identity none))
    (present
      : ∀ row,
          found = some row
          → result = ((known state ((deviceOfRow row).map some)).answering .identity).result)
    : ReportsDamage (found = some ·) DeviceRow.Damaged DeviceRow.fault (ShowsFound found)
        result := by
  cases found with
  | none => exact .of_sound _ (by simp) (absent rfl) ⟨none, rfl, rfl⟩
  | some row =>
    have answered := present row rfl
    rcases tellsDamage_deviceOfRow row with ⟨sound, device, reads, same⟩ | ⟨damaged, fails⟩
    · rw [reads] at answered
      refine .of_sound _ ?_ answered ⟨some device, rfl, congrArg some same.symm⟩
      rintro other ⟨⟩
      exact sound
    · rw [fails] at answered
      exact .of_damaged rfl damaged answered

/-- Over an open pool a device reports what its row holds. -/
theorem reportsDamage_getDevice (nonce : Aead.Nonce) (online : vault.online = true)
    (user : UserId) (id : DeviceId)
    : ReportsDamage (state.database.device? user id = some ·) DeviceRow.Damaged DeviceRow.fault
        (ShowsFound (state.database.device? user id))
        (vault.perform nonce (.getDevice user id) state).result := by
  refine reportsDamage_found state ?_ ?_
  · intro absent
    simp only [perform, getDevice, online, absent, if_true]
    rfl
  · intro row found
    simp only [perform, getDevice, online, found, if_true]

/-- Over an open pool a device that is found by its key reports what its row holds. -/
theorem reportsDamage_findDeviceByKey (nonce : Aead.Nonce) (online : vault.online = true)
    (user : UserId) (key : IdentityKey)
    : ReportsDamage (state.database.deviceByKey? user key = some ·) DeviceRow.Damaged
        DeviceRow.fault (ShowsFound (state.database.deviceByKey? user key))
        (vault.perform nonce (.findDeviceByKey user key) state).result := by
  refine reportsDamage_found state ?_ ?_
  · intro absent
    simp only [perform, findDeviceByKey, online, absent, if_true]
    rfl
  · intro row found
    simp only [perform, findDeviceByKey, online, found, if_true]

/-- Over an open pool the keys of a user report what their rows hold. -/
theorem reportsDamage_getCrossSigningKeys (nonce : Aead.Nonce) (online : vault.online = true)
    (user : UserId)
    : ReportsDamage (· ∈ state.database.keysOf user) KeyRow.Damaged KeyRow.fault
        (ShowsKeys (state.database.keysOf user))
        (vault.perform nonce (.getCrossSigningKeys user) state).result := by
  rcases tellsDamage_pinnedOfRow.mapM (state.database.keysOf user) with
    ⟨sound, keys, reads, same⟩ | ⟨row, member, damaged, fails⟩
  · refine .of_sound _ sound ?_ ⟨keys, rfl, same.symm⟩
    simp only [perform, getCrossSigningKeys, online, reads, if_true]
    rfl
  · refine .of_damaged member damaged ?_
    simp only [perform, getCrossSigningKeys, online, fails, if_true]
    rfl

end Vault

-----------------------------------------------------------------------------------------
-- Counters
-----------------------------------------------------------------------------------------

/-- A column holds a count of 32 bits. -/
def IsCount (value : Int64) : Prop :=
  0 ≤ value.toInt ∧ value.toInt ≤ 4294967295

instance : DecidablePred IsCount :=
  fun value => inferInstanceAs (Decidable (0 ≤ value.toInt ∧ value.toInt ≤ 4294967295))

/-- The counter of a row that is no count, the limit before the count. -/
def OutboundRow.outOfRange? (row : OutboundRow) : Option (CountColumn × Int64) :=
  if ¬ IsCount row.maxMessages then some (.maxMessages, row.maxMessages)
  else if ¬ IsCount row.messageCount then some (.messageCount, row.messageCount)
  else none

namespace Vault

/-- A column is read as the count that it stores, or reported. -/
theorem decodeCount_cases (column : CountColumn) (value : Int64)
    : IsCount value
        ∧ (∃ count, decodeCount column value = .ok count ∧ encodeCount count = value)
      ∨ ¬ IsCount value ∧ decodeCount column value = .error (.outOfRange column value) := by
  have limit : IsCount value ↔ 0 ≤ value.toInt ∧ value.toInt < UInt32.size := by
    simp only [IsCount, UInt32.size]
    omega
  by_cases count : IsCount value
  · obtain ⟨least, most⟩ := count
    refine .inl ⟨⟨least, most⟩, UInt32.ofNat value.toInt.toNat, ?_, ?_⟩
    · rw [decodeCount, if_pos (limit.mp ⟨least, most⟩)]
    · have read : (UInt32.ofNat value.toInt.toNat).toNat = value.toInt.toNat :=
        UInt32.toNat_ofNat_of_lt' (by simp only [UInt32.size]; omega)
      rw [encodeCount, read, ← Int64.ofInt_eq_ofNat, Int.toNat_of_nonneg least, Int64.ofInt_toInt]
  · exact .inr ⟨count, by rw [decodeCount, if_neg (mt limit.mpr count)]⟩

/-- What a row keeps beside the pickle is read as it is stored, or the first counter that is
none is reported.
-/
theorem outboundFacts_cases (row : OutboundRow)
    : row.outOfRange? = none
        ∧ (∃ facts,
            outboundFacts row = .ok facts
            ∧ encodeCount facts.maxMessages = row.maxMessages
            ∧ encodeCount facts.messageCount = row.messageCount)
      ∨ ∃ column value,
          row.outOfRange? = some (column, value)
          ∧ outboundFacts row = .error (.outOfRange column value) := by
  rcases decodeCount_cases .maxMessages row.maxMessages with
    ⟨limited, maxMessages, limit, shownLimit⟩ | ⟨unlimited, limit⟩
  · rcases decodeCount_cases .messageCount row.messageCount with
      ⟨counted, messageCount, count, shownCount⟩ | ⟨uncounted, count⟩
    · refine .inl ⟨by simp [OutboundRow.outOfRange?, limited, counted], ?_⟩
      exact ⟨_, by rw [outboundFacts, limit, count]; rfl, shownLimit, shownCount⟩
    · refine .inr ⟨.messageCount, row.messageCount, ?_, ?_⟩
      · simp [OutboundRow.outOfRange?, limited, uncounted]
      · rw [outboundFacts, limit, count]
        rfl
  · refine .inr ⟨.maxMessages, row.maxMessages, ?_, ?_⟩
    · simp [OutboundRow.outOfRange?, unlimited]
    · rw [outboundFacts, limit]
      rfl

end Vault

/-- What stands beside a pickle stays with the session that it opens to. -/
theorem OutboundSession.facts_of_unpickle {blob : Blob} {key : PickleKey} {facts : OutboundFacts}
    {session : OutboundSession} (opens : unpickle blob key facts = .ok session)
    : session.facts = facts := by
  unfold unpickle at opens
  cases unpacked : Pickle.unpack GroupPickle.form key .outbound blob with
  | error fault =>
    rw [unpacked] at opens
    cases opens
  | ok held =>
    rw [unpacked] at opens
    cases opens
    rfl

/-- The columns as which the counters of a session would be stored. -/
def OutboundSession.counters (session : OutboundSession) : Int64 × Int64 :=
  (Vault.encodeCount session.facts.maxMessages, Vault.encodeCount session.facts.messageCount)

/-- A result reports the counters of the row that was found: the first one that is no count is
named, and before the pickle is opened; an answer shows both.
-/
structure ReportsCounters (found : Option OutboundRow) (result : Except StoreFault Answer)
    : Prop where
  named
    : ∀ column value,
        result = .error (.outOfRange column value)
        ↔ ∃ row, found = some row ∧ row.outOfRange? = some (column, value)
  opened
    : ∀ reason,
        result = .error reason
        → (∃ column value, reason = .outOfRange column value)
          ∨ ∃ row fault, found = some row ∧ row.outOfRange? = none ∧ reason = .pickle fault
  shown
    : ∀ answer,
        result = .ok answer
        → ∃ session,
            answer = .outbound session
            ∧ session.map OutboundSession.counters
              = found.map fun row => (row.maxMessages, row.messageCount)

namespace Vault

variable {vault : Vault} {state : State}

/-- Over an open pool the outbound session of a room reports what the counters of its row hold. -/
theorem reportsCounters_getOutbound (nonce : Aead.Nonce) (online : vault.online = true)
    (room : RoomId)
    : ReportsCounters (state.database.outbound? vault.owner room)
        (vault.perform nonce (.getOutbound room) state).result := by
  cases found : state.database.outbound? vault.owner room with
  | none =>
    have answered
        : (vault.perform nonce (.getOutbound room) state).result = .ok (.outbound none) := by
      simp only [perform, getOutbound, online, found, if_true]
      rfl
    rw [answered]
    exact ⟨by simp, by simp, fun answer same => ⟨none, (Except.ok.inj same).symm, rfl⟩⟩
  | some row =>
    rcases outboundFacts_cases row with
      ⟨counts, facts, reads, limit, count⟩ | ⟨column, value, uncounted, fails⟩
    · cases opens : OutboundSession.unpickle row.blob vault.key facts with
      | error fault =>
        have failed
            : (vault.perform nonce (.getOutbound room) state).result = .error (.pickle fault) := by
          simp only [perform, getOutbound, online, found, reads, opens, if_true]
          rfl
        rw [failed]
        refine ⟨by simp [counts], ?_, by simp⟩
        intro reason same
        exact .inr ⟨row, fault, rfl, counts, (Except.error.inj same).symm⟩
      | ok session =>
        have answered
            : (vault.perform nonce (.getOutbound room) state).result
              = .ok (.outbound (some session)) := by
          simp only [perform, getOutbound, online, found, reads, opens, if_true]
          rfl
        rw [answered]
        refine ⟨by simp [counts], by simp, fun answer same => ?_⟩
        refine ⟨some session, (Except.ok.inj same).symm, ?_⟩
        simp [OutboundSession.counters, OutboundSession.facts_of_unpickle opens, limit, count]
    · have failed
          : (vault.perform nonce (.getOutbound room) state).result
            = .error (.outOfRange column value) := by
        simp only [perform, getOutbound, online, found, fails, if_true]
        rfl
      rw [failed]
      refine ⟨by simp [uncounted], ?_, by simp⟩
      intro reason same
      exact .inl ⟨column, value, (Except.error.inj same).symm⟩

end Vault

-----------------------------------------------------------------------------------------
-- What reads report
-----------------------------------------------------------------------------------------

end KeyVault
