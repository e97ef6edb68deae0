import KeyVault.Proofs.Database.Statements
import KeyVault.Vault.Devices
import KeyVault.Vault.Group
/-!
Calls of several statements. The statements that are done come before those that are not. A call
that asks for the pieces of a list asks for a first part of the list, and it fails where this is
not the whole list.
-/

namespace KeyVault

/-- The first pieces together are as many of the first items as they hold. -/
theorem flatten_take_chunks {α : Type} {size : Nat} (positive : 0 < size) (number : Nat)
    (items : List α)
    : ((chunks size items).take number).flatten = items.take (size * number) := by
  fun_induction chunks size items generalizing number with
  | case1 items stop =>
    have empty := List.isEmpty_iff.mp (stop.resolve_left (Nat.ne_of_gt positive))
    simp [empty]
  | case2 items more ih =>
    cases number with
    | zero => simp
    | succ number =>
      rw [List.take_succ_cons, List.flatten_cons, ih, Nat.mul_succ, Nat.add_comm, List.take_add]

/-- There is a piece for every position that starts one. -/
theorem lt_length_chunks_iff {α : Type} {size : Nat} (positive : 0 < size) {number : Nat}
    {items : List α}
    : number < (chunks size items).length ↔ size * number < items.length := by
  fun_induction chunks size items generalizing number with
  | case1 items stop =>
    have empty := List.isEmpty_iff.mp (stop.resolve_left (Nat.ne_of_gt positive))
    simp [empty]
  | case2 items more ih =>
    have filled : 0 < items.length := by
      rw [not_or, List.isEmpty_iff] at more
      exact List.length_pos_iff.mpr more.2
    cases number with
    | zero => simpa using filled
    | succ number =>
      rw [List.length_cons, Nat.succ_lt_succ_iff, ih, List.length_drop, Nat.mul_succ]
      omega

namespace Vault

variable {vault : Vault} {α β : Type}

-----------------------------------------------------------------------------------------
-- Which statements are done
-----------------------------------------------------------------------------------------

/-- Where nothing is lost during a call, every statement is done that is asked for over an open
pool.
-/
theorem reaches_of_whole (online : vault.online = true) (whole : vault.further = none)
    (number : Nat)
    : vault.reaches number = true := by
  cases number <;> simp [reaches, online, whole]

/-- Where the first statement is not done, none is. -/
theorem reaches_of_offline (offline : vault.online = false) (number : Nat)
    : vault.reaches number = false := by
  cases number <;> simp [reaches, offline]

/-- Where any statement is done, the first one is. -/
theorem online_of_reaches {number : Nat} (reached : vault.reaches number = true)
    : vault.online = true := by
  cases online : vault.online with
  | true => rfl
  | false => exact absurd reached (by simp [reaches_of_offline online])

/-- The first statement of a call is not done over a closed pool, and where the database is lost
before it.
-/
theorem online_during_eq_false_iff {interruption : Option Interruption}
    : (vault.during interruption).online = false
      ↔ vault.online = false ∨ ∃ lost, interruption = some lost ∧ lost.done = 0 := by
  cases interruption <;> cases online : vault.online <;> simp [during, online]

/-- Over a closed pool no call does its first statement. -/
theorem online_during_of_offline (offline : vault.online = false)
    (interruption : Option Interruption)
    : (vault.during interruption).online = false :=
  online_during_eq_false_iff.mpr (.inl offline)

/-- Over an open pool an interrupted call has as many statements done as the interruption says,
and over a closed one none.
-/
theorem reaches_during_iff (interruption : Interruption) (number : Nat)
    : (vault.during (some interruption)).reaches number = true
      ↔ vault.online = true ∧ number < interruption.done := by
  cases online : vault.online with
  | false =>
    simp [reaches_of_offline (online_during_of_offline online (some interruption))]
  | true =>
    cases number with
    | zero => simp [during, online, reaches]
    | succ number =>
      simp only [during, online, reaches, Option.elim_some, Option.all_some, Bool.and_eq_true,
        decide_eq_true_iff, true_and]
      omega

/-- The pieces whose statements are done, where the first of them has a number. -/
def reached (vault : Vault) : Nat → List α → List α
  | _, [] => []
  | number, piece :: pieces =>
    if vault.reaches number then piece :: vault.reached (number + 1) pieces else []

/-- The pieces whose statements are done are the first ones, by induction over the pieces. -/
theorem reached_prefix (number : Nat) (pieces : List α)
    : vault.reached number pieces <+: pieces := by
  induction pieces generalizing number with
  | nil => exact List.prefix_rfl
  | cons piece pieces ih =>
    unfold reached
    split
    · exact List.prefix_cons_inj piece |>.mpr (ih (number + 1))
    · exact List.nil_prefix

/-- Where a number of statements is done, so many pieces are asked for. -/
theorem reached_eq_take {stop : Nat}
    (done : ∀ number, vault.reaches number = true ↔ number < stop)
    (number : Nat) (pieces : List α)
    : vault.reached number pieces = pieces.take (stop - number) := by
  induction pieces generalizing number with
  | nil => rw [reached, List.take_nil]
  | cons piece pieces ih =>
    unfold reached
    by_cases more : number < stop
    · rw [if_pos ((done number).mpr more), ih, ← Nat.sub_add_cancel (Nat.sub_pos_of_lt more),
        List.take_succ_cons, Nat.sub_sub]
    · rw [if_neg fun here => more ((done number).mp here),
        Nat.sub_eq_zero_of_le (Nat.le_of_not_lt more), List.take_zero]

/-- All pieces are asked for just when the statement of each is done. -/
theorem reached_eq_self_iff {number : Nat} {pieces : List α}
    : vault.reached number pieces = pieces
      ↔ ∀ later < pieces.length, vault.reaches (number + later) = true := by
  induction pieces generalizing number with
  | nil => simp [reached]
  | cons piece pieces ih =>
    unfold reached
    by_cases here : vault.reaches number = true
    · rw [if_pos here, List.cons_inj_right, ih, List.length_cons]
      constructor
      · intro rest later within
        cases later with
        | zero => exact here
        | succ later =>
          have next := rest later (Nat.lt_of_succ_lt_succ within)
          rwa [Nat.add_right_comm] at next
      · intro all later within
        rw [Nat.add_right_comm]
        exact all (later + 1) (Nat.succ_lt_succ within)
    · rw [if_neg here]
      refine iff_of_false (List.cons_ne_nil piece pieces).symm ?_
      intro all
      exact here (all 0 (Nat.zero_lt_succ _))

/-- Where nothing is lost, all pieces are asked for. -/
theorem reached_of_whole (online : vault.online = true) (whole : vault.further = none)
    (number : Nat) (pieces : List α)
    : vault.reached number pieces = pieces :=
  reached_eq_self_iff.mpr fun later _ => reaches_of_whole online whole (number + later)

/-- Where the first statement is not done, no piece is asked for. -/
theorem reached_of_offline (offline : vault.online = false) (number : Nat) (pieces : List α)
    : vault.reached number pieces = [] := by
  cases pieces <;> simp [reached, reaches_of_offline offline]

-----------------------------------------------------------------------------------------
-- What a call leaves that asks for pieces
-----------------------------------------------------------------------------------------

/-- Asking for pieces leaves the tables as the statements that are done leave them, and fails just
where one is not done, by induction over the pieces.
-/
theorem inPieces_cases (vault : Vault) (ask : β → List α → Database → β × Database)
    (number : Nat) (pieces : List (List α)) (value : β) (state : State)
    : let asked :=
        (vault.reached number pieces).foldl (fun found piece => ask found.1 piece found.2)
          (value, state.database)
      let after := { state with database := asked.2 }
      (vault.reached number pieces = pieces
        ∧ vault.inPieces ask number pieces value state = .done asked.1 after)
      ∨ (vault.reached number pieces ≠ pieces
        ∧ vault.inPieces ask number pieces value state = vault.offline after) := by
  induction pieces generalizing number value state with
  | nil => exact .inl ⟨rfl, rfl⟩
  | cons piece pieces ih =>
    by_cases here : vault.reaches number = true
    · simp only [reached, inPieces, if_pos here, List.foldl_cons, ne_eq, List.cons_inj_right]
      exact ih ..
    · simp only [reached, inPieces, if_neg here]
      exact .inr ⟨(List.cons_ne_nil piece pieces).symm, rfl⟩

/-- The rooms of the pieces whose statements are done. -/
def roomsReached (vault : Vault) (rooms : List RoomId) : List RoomId :=
  (vault.reached 0 (chunks Database.listLimit rooms)).flatten

/-- They are the first ones. -/
theorem roomsReached_prefix (vault : Vault) (rooms : List RoomId)
    : vault.roomsReached rooms <+: rooms := by
  obtain ⟨rest, whole⟩ := vault.reached_prefix 0 (chunks Database.listLimit rooms)
  refine ⟨rest.flatten, ?_⟩
  rw [roomsReached, ← List.flatten_append, whole, flatten_chunks (by decide)]

/-- An interrupted removal over an open pool reaches the rooms of as many pieces as statements are
done.
-/
theorem roomsReached_during (online : vault.online = true) (interruption : Interruption)
    (rooms : List RoomId)
    : (vault.during (some interruption)).roomsReached rooms
      = rooms.take (Database.listLimit * interruption.done) := by
  have done (number : Nat)
      : (vault.during (some interruption)).reaches number = true ↔ number < interruption.done := by
    rw [reaches_during_iff]
    exact and_iff_right online
  rw [roomsReached, reached_eq_take done, Nat.sub_zero, flatten_take_chunks (by decide)]

/-- The statements that are done remove the sessions of their rooms and count them, by induction
over the pieces.
-/
theorem foldl_removeMore (owner : AccountId) (pieces : List (List RoomId)) (removed : Nat)
    (db : Database)
    : pieces.foldl (fun found piece => removeMore owner found.1 piece found.2) (removed, db)
      = (removed + (db.removeOutbound owner pieces.flatten).1,
          (db.removeOutbound owner pieces.flatten).2) := by
  induction pieces generalizing db removed with
  | nil => rw [List.foldl_nil, List.flatten_nil, Database.removeOutbound_nil, Nat.add_zero]
  | cons piece rest ih =>
    rw [List.foldl_cons, List.flatten_cons, removeMore, ih]
    simp only [Database.removeOutbound, Database.remove_isOutboundIn_append, Nat.add_assoc,
      Database.countP_isOutboundIn_append]

/-- A removal that reaches all pieces reaches all rooms. -/
theorem roomsReached_of_all {rooms : List RoomId}
    (all : vault.reached 0 (chunks Database.listLimit rooms) = chunks Database.listLimit rooms)
    : vault.roomsReached rooms = rooms :=
  (congrArg List.flatten all).trans (flatten_chunks (by decide) rooms)

/-- A removal of the sessions of several rooms removes those of the rooms that it reaches. It
counts them where it reaches all pieces, and fails elsewhere.
-/
theorem removeOutbounds_cases (vault : Vault) (rooms : List RoomId) (state : State)
    : let pieces := chunks Database.listLimit rooms
      let removed := state.database.removeOutbound vault.owner (vault.roomsReached rooms)
      let after := { state with database := removed.2 }
      (vault.reached 0 pieces = pieces ∧ vault.removeOutbounds rooms state = .done removed.1 after)
      ∨ (vault.reached 0 pieces ≠ pieces
        ∧ vault.removeOutbounds rooms state = vault.offline after) := by
  intro pieces
  cases rooms with
  | nil =>
    have all : vault.reached 0 pieces = pieces := by simp [pieces, chunks, reached]
    rw [roomsReached_of_all all, Database.removeOutbound_nil]
    exact .inl ⟨all, rfl⟩
  | cons room rooms =>
    have asked := vault.inPieces_cases (removeMore vault.owner) 0 pieces 0 state
    rw [foldl_removeMore, Nat.zero_add] at asked
    exact asked

/-- Done or failed, a removal leaves the tables without the sessions of the rooms it reached. -/
theorem database_removeOutbounds (rooms : List RoomId) (state : State)
    : (vault.removeOutbounds rooms state).state.database
      = (state.database.removeOutbound vault.owner (vault.roomsReached rooms)).2 := by
  rcases vault.removeOutbounds_cases rooms state with ⟨_, done⟩ | ⟨_, failed⟩
  · rw [done]
    rfl
  · rw [failed]
    rfl

/-- Some statement of a removal is not done just when that of some piece of its rooms is not. -/
theorem reached_chunks_ne_iff {rooms : List RoomId}
    : vault.reached 0 (chunks Database.listLimit rooms) ≠ chunks Database.listLimit rooms
      ↔ ∃ number, Database.listLimit * number < rooms.length ∧ vault.reaches number = false := by
  have starts {number : Nat}
      : number < (chunks Database.listLimit rooms).length
        ↔ Database.listLimit * number < rooms.length :=
    lt_length_chunks_iff (by decide)
  simp only [ne_eq, reached_eq_self_iff, Nat.zero_add, Classical.not_forall, Bool.not_eq_true,
    exists_prop, starts]

/-- Where nothing is lost, a removal removes and counts the sessions of all its rooms. -/
theorem removeOutbounds_of_whole (online : vault.online = true) (whole : vault.further = none)
    (rooms : List RoomId) (state : State)
    : vault.removeOutbounds rooms state
      = .done (state.database.removeOutbound vault.owner rooms).1
          { state with database := (state.database.removeOutbound vault.owner rooms).2 } := by
  rcases vault.removeOutbounds_cases rooms state with ⟨all, done⟩ | ⟨part, _⟩
  · rw [done, roomsReached_of_all all]
  · exact absurd (reached_of_whole online whole 0 _) part

/-- Where the first statement is not done, a removal for any rooms fails and removes nothing. -/
theorem removeOutbounds_of_offline (offline : vault.online = false) {rooms : List RoomId}
    (filled : rooms ≠ []) (state : State)
    : vault.removeOutbounds rooms state = vault.offline state := by
  have unreached : vault.roomsReached rooms = [] := by
    rw [roomsReached, reached_of_offline offline, List.flatten_nil]
  rcases vault.removeOutbounds_cases rooms state with ⟨all, _⟩ | ⟨_, failed⟩
  · exact absurd ((roomsReached_of_all all).symm.trans unreached) filled
  · rw [failed, unreached, Database.removeOutbound_nil]

end Vault

/-- The tracked users among some, by one statement for each piece of the list. -/
def Database.trackedAmong (db : Database) (users : List UserId) : List UserId :=
  (chunks Database.listLimit users).flatMap db.trackedIn

namespace Vault

variable {vault : Vault}

/-- The statements that are done find the tracked users among theirs, by induction over the
pieces.
-/
theorem foldl_findTracked (pieces : List (List UserId)) (found : List UserId) (db : Database)
    : pieces.foldl (fun found piece => findTracked found.1 piece found.2) (found, db)
      = (found ++ pieces.flatMap db.trackedIn, db) := by
  induction pieces generalizing found with
  | nil => rw [List.foldl_nil, List.flatMap_nil, List.append_nil]
  | cons piece rest ih =>
    rw [List.foldl_cons, findTracked, ih, List.flatMap_cons, List.append_assoc]

/-- The tracked users among some are found where every statement is done, and nothing is found
elsewhere.
-/
theorem filterTracked_cases (vault : Vault) (users : List UserId) (state : State)
    : let pieces := chunks Database.listLimit users
      (vault.reached 0 pieces = pieces
        ∧ vault.filterTracked users state = .done (state.database.trackedAmong users) state)
      ∨ (vault.reached 0 pieces ≠ pieces
        ∧ vault.filterTracked users state = vault.offline state) := by
  intro pieces
  cases users with
  | nil =>
    refine .inl ⟨by simp [pieces, chunks, reached], ?_⟩
    simp [filterTracked, Database.trackedAmong, chunks]
  | cons user users =>
    have asked := vault.inPieces_cases findTracked 0 pieces [] state
    rw [foldl_findTracked, List.nil_append] at asked
    refine asked.imp_left fun ⟨whole, done⟩ => ⟨whole, ?_⟩
    rw [whole] at done
    exact done

/-- Where nothing is lost, all tracked users among some are found. -/
theorem filterTracked_of_whole (online : vault.online = true) (whole : vault.further = none)
    (users : List UserId) (state : State)
    : vault.filterTracked users state = .done (state.database.trackedAmong users) state := by
  rcases vault.filterTracked_cases users state with ⟨_, done⟩ | ⟨part, _⟩
  · exact done
  · exact absurd (reached_of_whole online whole 0 _) part

/-- Where the first statement is not done, no tracked users are found among any. -/
theorem filterTracked_of_offline (offline : vault.online = false) {users : List UserId}
    (filled : users ≠ []) (state : State)
    : vault.filterTracked users state = vault.offline state := by
  rcases vault.filterTracked_cases users state with ⟨all, _⟩ | ⟨_, failed⟩
  · rw [reached_of_offline offline] at all
    have whole : (chunks Database.listLimit users).flatten = users :=
      flatten_chunks (by decide) users
    rw [← all] at whole
    exact absurd whole.symm filled
  · exact failed

end Vault

end KeyVault
