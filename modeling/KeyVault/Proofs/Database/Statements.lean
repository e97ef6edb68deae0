import KeyVault.Database.Statement
/-!
What the writing statements change. Each of them changes the columns of one table, so that
the tables after it can be written as the tables before it with that one replaced.
-/

namespace KeyVault.Database

/-- A session is inserted behind the others, and only where its account has none with its
identifier.
-/
theorem insertOlm_eq_ok {db after : Database} {row : OlmRow} (h : db.insertOlm row = .ok after)
    : (∀ old ∈ db.olm, old.owner = row.owner → old.session ≠ row.session)
      ∧ after = { db with olm := db.olm ++ [row] } := by
  unfold insertOlm at h
  by_cases stored : db.olm.any (fun old => old.owner = row.owner ∧ old.session = row.session)
  · rw [if_pos stored] at h
    cases h
  · rw [if_neg stored] at h
    refine ⟨?_, (Except.ok.inj h).symm⟩
    intro old member owned same
    exact stored (List.any_eq_true.mpr ⟨old, member, by simp [owned, same]⟩)

/-- A session that is not inserted is stored by its account already. -/
theorem exists_of_insertOlm_eq_error {db : Database} {row : OlmRow} {fault : DatabaseFault}
    (h : db.insertOlm row = .error fault)
    : ∃ old ∈ db.olm, old.owner = row.owner ∧ old.session = row.session := by
  unfold insertOlm at h
  by_cases stored : db.olm.any (fun old => old.owner = row.owner ∧ old.session = row.session)
  · simpa using stored
  · rw [if_neg stored] at h
    cases h

/-- An inbound session is inserted behind the others, and only where its account has none
with its identifier.
-/
theorem insertInbound_eq_ok {db after : Database} {row : InboundRow}
    (h : db.insertInbound row = .ok after)
    : (∀ old ∈ db.inbound, old.owner = row.owner → old.session ≠ row.session)
      ∧ after = { db with inbound := db.inbound ++ [row] } := by
  unfold insertInbound at h
  by_cases stored : db.inbound.any (fun old => old.owner = row.owner ∧ old.session = row.session)
  · rw [if_pos stored] at h
    cases h
  · rw [if_neg stored] at h
    refine ⟨?_, (Except.ok.inj h).symm⟩
    intro old member owned same
    exact stored (List.any_eq_true.mpr ⟨old, member, by simp [owned, same]⟩)

/-- An inbound session that is not inserted is stored by its account already. -/
theorem exists_of_insertInbound_eq_error {db : Database} {row : InboundRow}
    {fault : DatabaseFault} (h : db.insertInbound row = .error fault)
    : ∃ old ∈ db.inbound, old.owner = row.owner ∧ old.session = row.session := by
  unfold insertInbound at h
  by_cases stored : db.inbound.any (fun old => old.owner = row.owner ∧ old.session = row.session)
  · simpa using stored
  · rw [if_neg stored] at h
    cases h

/-- Tracking a user touches nothing but the tracked users. -/
theorem track_eq (db : Database) (user : UserId)
    : db.track user = { db with tracked := (db.track user).tracked } := by
  unfold track
  cases db.isTracked user <;> rfl

/-- Replacing devices touches the tracked users and the devices. -/
theorem replaceDevices_eq (db : Database) (user : UserId) (rows : List DeviceRow)
    : db.replaceDevices user rows
      = { db with
          tracked := (db.track user).tracked
          devices := Rows.remove (fun row => row.user = user) db.devices ++ rows } := by
  simp only [replaceDevices]
  rw [track_eq]

/-- A row is in one of two lists of rooms when it is in the first or in the second. -/
theorem isOutboundIn_append (owner : AccountId) (first second : List RoomId) (row : OutboundRow)
    : isOutboundIn owner (first ++ second) row
      = (isOutboundIn owner first row || isOutboundIn owner second row) := by
  simp only [isOutboundIn, List.mem_append, ← Bool.decide_or]
  rw [decide_eq_decide]
  exact and_or_left

/-- Removing the sessions of some rooms and then of others removes those of all of them. -/
theorem remove_isOutboundIn_append (owner : AccountId) (first second : List RoomId)
    (rows : List OutboundRow)
    : Rows.remove (isOutboundIn owner second) (Rows.remove (isOutboundIn owner first) rows)
      = Rows.remove (isOutboundIn owner (first ++ second)) rows := by
  simp only [Rows.remove, List.filter_filter]
  apply List.filter_congr
  intro row _
  rw [isOutboundIn_append, ← Bool.not_or, Bool.or_comm]

/-- The sessions of some rooms and those of others that are then left are all of them, by
induction over the rows.
-/
theorem countP_isOutboundIn_append (owner : AccountId) (first second : List RoomId)
    (rows : List OutboundRow)
    : rows.countP (isOutboundIn owner first)
        + (Rows.remove (isOutboundIn owner first) rows).countP (isOutboundIn owner second)
      = rows.countP (isOutboundIn owner (first ++ second)) := by
  induction rows with
  | nil => rfl
  | cons row rows ih =>
    simp only [Rows.remove] at ih ⊢
    rw [List.countP_cons, List.countP_cons, List.filter_cons, isOutboundIn_append, ← ih]
    cases here : isOutboundIn owner first row with
    | true => simp; omega
    | false => simp [List.countP_cons, Nat.add_assoc]

/-- No room is in the empty list, so nothing is removed for it. -/
theorem removeOutbound_nil (db : Database) (owner : AccountId)
    : db.removeOutbound owner [] = (0, db) := by
  have apart : ∀ row ∈ db.outbound, isOutboundIn owner [] row = false := by
    simp [isOutboundIn]
  have kept : Rows.remove (isOutboundIn owner []) db.outbound = db.outbound :=
    List.filter_eq_self.mpr fun row member => by rw [apart row member]; rfl
  have uncounted : db.outbound.countP (isOutboundIn owner []) = 0 :=
    List.countP_eq_zero.mpr fun row member => by rw [apart row member]; exact Bool.false_ne_true
  rw [removeOutbound, kept, uncounted]

end KeyVault.Database
