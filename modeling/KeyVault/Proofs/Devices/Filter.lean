import KeyVault.Proofs.Devices.Reads
/-!
Asking for the tracked users among some. The answer has exactly the tracked ones, however long
the list is. A user is told once for every piece of the list that has the user, so that a user
who stands in two pieces is told twice.
-/

namespace KeyVault

-----------------------------------------------------------------------------------------
-- Tracked users in the pieces of a list
-----------------------------------------------------------------------------------------

namespace Database

variable {db : Database}

/-- A tracked user is told once for every piece of the list that has the user, by induction
over the pieces.
-/
theorem count_trackedAmong (unique : db.tracked.Nodup) (users : List UserId) (user : UserId)
    : (db.trackedAmong users).count user
      = if db.isTracked user then
          (chunks listLimit users).countP fun piece => piece.contains user
        else 0 := by
  unfold trackedAmong
  induction chunks listLimit users with
  | nil => simp
  | cons piece pieces ih =>
    -- One statement tells a tracked user once, if its piece has the user.
    have told
        : (db.trackedIn piece).count user
          = if db.isTracked user ∧ piece.contains user then 1 else 0 := by
      simp only [trackedIn, (unique.filter _).count, List.mem_filter, isTracked,
        List.contains_iff_mem]
    rw [List.flatMap_cons, List.count_append, ih, told, List.countP_cons]
    cases db.isTracked user with
    | false => simp
    | true => simp [Nat.add_comm]

/-- No user is told twice exactly when no tracked user stands in two pieces of the list, by
the positions of the pieces.
-/
theorem nodup_trackedAmong_iff (unique : db.tracked.Nodup) (users : List UserId)
    : (db.trackedAmong users).Nodup
      ↔ ∀ i j user,
          users[i]? = some user
          → users[j]? = some user
          → db.isTracked user = true
          → i / listLimit = j / listLimit := by
  have within (position : Nat) (user : UserId) (there : users[position]? = some user)
      : ∃ piece, (chunks listLimit users)[position / listLimit]? = some piece ∧ user ∈ piece :=
    (mem_piece_iff (by decide)).mpr ⟨position, there, rfl⟩
  have told {piece : List UserId} {user : UserId} (tracked : user ∈ db.tracked)
      (member : user ∈ piece)
      : user ∈ db.trackedIn piece :=
    List.mem_filter.mpr ⟨tracked, List.contains_iff_mem.mpr member⟩
  rw [trackedAmong, List.nodup_flatMap, List.pairwise_iff_getElem]
  constructor
  · rintro ⟨_, apart⟩ i j user first second tracked
    have tracked := List.contains_iff_mem.mp tracked
    obtain ⟨piece, here, member⟩ := within i user first
    obtain ⟨other, there, member'⟩ := within j user second
    obtain ⟨most, rfl⟩ := List.getElem?_eq_some_iff.mp here
    obtain ⟨most', rfl⟩ := List.getElem?_eq_some_iff.mp there
    -- The piece that comes first would share the user with the other one.
    rcases Nat.lt_trichotomy (i / listLimit) (j / listLimit) with before | same | after
    · exact absurd (told tracked member') (apart _ _ most most' before (told tracked member))
    · exact same
    · exact absurd (told tracked member) (apart _ _ most' most after (told tracked member'))
  · intro together
    refine ⟨fun piece _ => unique.filter _, ?_⟩
    intro i j most most' ordered user first second
    obtain ⟨tracked, member⟩ := List.mem_filter.mp first
    obtain ⟨_, member'⟩ := List.mem_filter.mp second
    rw [List.contains_iff_mem] at member member'
    obtain ⟨position, there, rfl⟩ := (mem_piece_iff (by decide)).mp
      ⟨_, List.getElem?_eq_getElem most, member⟩
    obtain ⟨position', there', rfl⟩ := (mem_piece_iff (by decide)).mp
      ⟨_, List.getElem?_eq_getElem most', member'⟩
    have same := together position position' user there there' (List.contains_iff_mem.mpr tracked)
    exact absurd same (Nat.ne_of_lt ordered)

/-- No user is told twice exactly when the answer is that of one statement for the whole list. -/
theorem nodup_trackedAmong_iff_perm (unique : db.tracked.Nodup) (users : List UserId)
    : (db.trackedAmong users).Nodup
      ↔ (db.trackedAmong users).Perm (db.tracked.filter fun user => users.contains user) := by
  have single := unique.filter fun user => users.contains user
  constructor
  · intro distinct
    refine (List.perm_ext_iff_of_nodup distinct single).mpr fun user => ?_
    rw [mem_trackedAmong, List.mem_filter, List.contains_iff_mem, and_comm, isTracked,
      List.contains_iff_mem]
  · intro same
    exact same.nodup_iff.mpr single

end Database

-----------------------------------------------------------------------------------------
-- No user is tracked twice
-----------------------------------------------------------------------------------------

/-- Tracking a user gives no user twice. -/
theorem Database.nodup_tracked_track {db : Database} (unique : db.tracked.Nodup) (user : UserId)
    : (db.track user).tracked.Nodup := by
  unfold track
  by_cases already : db.isTracked user = true
  · rw [if_pos already]
    exact unique
  · rw [if_neg already]
    refine unique.append (List.nodup_singleton user) (List.disjoint_singleton.mpr ?_)
    rwa [← List.contains_iff_mem]

/-- No operation gives the table of tracked users a user twice. -/
theorem Vault.Effect.nodup_tracked {vault : Vault} {nonce : Aead.Nonce} {state after : State}
    {operation : Operation} (effect : vault.Effect nonce state operation after)
    (unique : state.database.tracked.Nodup)
    : after.database.tracked.Nodup := by
  cases effect
  case putDevices user rows => exact Database.nodup_tracked_track unique user
  all_goals exact unique

/-- After every history on new tables no user is tracked twice. -/
theorem nodup_tracked_run (history : List (Aead.Nonce × Event))
    : (Deployment.empty.run history).2.database.tracked.Nodup :=
  Deployment.run_keeps_database (motive := fun db => db.tracked.Nodup) List.nodup_nil
    Vault.Effect.nodup_tracked history

-----------------------------------------------------------------------------------------
-- What the call answers
-----------------------------------------------------------------------------------------

section Calls

variable {deployment : Deployment} {name : String} {handle : Handle}

/-- Over an open pool a vault tells what the statements for the pieces of the list give. -/
theorem step_filterTracked (opened : deployment.handle? name = some handle) (nonce : Aead.Nonce)
    (online : deployment.isOnline handle.backend = true)
    (users : List UserId)
    : deployment.step nonce (.call name (.filterTracked users))
      = (⟨.ok (.users (deployment.database.trackedAmong users)), []⟩, deployment) :=
  Deployment.step_of_done opened (Vault.perform_filterTracked nonce online rfl users)

/-- Of the users that are asked for, exactly the tracked ones are told, in whatever piece of
the list they stand, and nothing is changed. Over a closed pool this fails, unless nobody is
asked for.
-/
theorem filter_tells_tracked_users (opened : deployment.handle? name = some handle)
    (nonce : Aead.Nonce) (users : List UserId)
    : if deployment.isOnline handle.backend = true ∨ users = [] then
        ∃ found,
          deployment.step nonce (.call name (.filterTracked users))
          = (⟨.ok (.users found), []⟩, deployment)
          ∧ ∀ user, user ∈ found ↔ user ∈ users ∧ deployment.database.isTracked user = true
      else
        deployment.step nonce (.call name (.filterTracked users))
        = (.failed (.database .poolClosed), deployment) := by
  by_cases reached : deployment.isOnline handle.backend = true ∨ users = []
  · rw [if_pos reached]
    refine ⟨deployment.database.trackedAmong users, ?_, fun user => Database.mem_trackedAmong⟩
    rcases reached with online | rfl
    · exact step_filterTracked opened nonce online users
    · have nobody : deployment.database.trackedAmong [] = [] := by
        simp [Database.trackedAmong, chunks]
      rw [nobody]
      exact Deployment.step_of_done opened rfl
  · rw [if_neg reached]
    obtain ⟨offline, filled⟩ := not_or.mp reached
    obtain ⟨user, member⟩ := List.exists_mem_of_ne_nil users filled
    exact Deployment.step_of_failed opened
      ((Vault.perform_reads_of_offline nonce (Bool.not_eq_true _ ▸ offline) user).2.2.2 users member)

/-- A tracked user is told once for every piece of the list in which the user stands. So no
user is told twice exactly when every tracked user stands in one piece only, and exactly then
the answer is that of one statement for the whole list.
-/
theorem filter_repeats_no_user_iff (opened : deployment.handle? name = some handle)
    (online : deployment.isOnline handle.backend = true)
    (unique : deployment.database.tracked.Nodup)
    (nonce : Aead.Nonce) (users : List UserId)
    : ∃ found,
        deployment.step nonce (.call name (.filterTracked users))
        = (⟨.ok (.users found), []⟩, deployment)
        ∧ (∀ user,
            found.count user
            = if deployment.database.isTracked user then
                (chunks Database.listLimit users).countP fun piece => piece.contains user
              else 0)
        ∧ (found.Nodup
          ↔ ∀ i j user,
              users[i]? = some user
              → users[j]? = some user
              → deployment.database.isTracked user = true
              → i / Database.listLimit = j / Database.listLimit)
        ∧ (found.Nodup
          ↔ found.Perm (deployment.database.tracked.filter fun user => users.contains user)) := by
  refine ⟨_, step_filterTracked opened nonce online users, ?_, ?_, ?_⟩
  · exact Database.count_trackedAmong unique users
  · exact Database.nodup_trackedAmong_iff unique users
  · exact Database.nodup_trackedAmong_iff_perm unique users

end Calls

/-- A vault puts the list of one user, who is tracked from then on. -/
def trackingOne : List (Aead.Nonce × Event) :=
  let events : List Event :=
    [.openVault "first" ⟨"@a"⟩ ⟨.replicate 32 0⟩, .call "first" (.putDevices ⟨"@a:x"⟩ [])]
  events.map fun event => (.replicate 24 0, event)

/-- The tracked user is told when asked for behind more others than fit one statement. -/
theorem trackingOne_tells_user
    : let reached := (Deployment.empty.run trackingOne).2
      let handle := Handle.fresh ⟨"@a"⟩ ⟨.replicate 32 0⟩ (.sqlite 0)
      let users : List UserId := .replicate 1200 ⟨"@b:x"⟩ ++ [⟨"@a:x"⟩]
      reached.handle? "first" = some handle
      ∧ ∃ found,
          (reached.step (.replicate 24 0) (.call "first" (.filterTracked users))).1
          = ⟨.ok (.users found), []⟩
          ∧ (⟨"@a:x"⟩ : UserId) ∈ found
          ∧ (⟨"@b:x"⟩ : UserId) ∉ found := by
  intro reached handle users
  have opened : reached.handle? "first" = some handle := by decide
  have online : reached.isOnline handle.backend = true := by decide
  have tells := filter_tells_tracked_users opened (.replicate 24 0) users
  rw [if_pos (.inl online)] at tells
  obtain ⟨found, answered, told⟩ := tells
  refine ⟨opened, found, congrArg Prod.fst answered, ?_, ?_⟩
  · exact (told _).mpr ⟨List.mem_append_right _ (List.mem_singleton_self _), by decide⟩
  · intro member
    exact absurd ((told _).mp member).2 (by decide)

/-- Where the tracked user is asked for twice in front and another one in every piece, the
answer is that of one statement.
-/
theorem trackingOne_repeats_no_user
    : let reached := (Deployment.empty.run trackingOne).2
      let handle := Handle.fresh ⟨"@a"⟩ ⟨.replicate 32 0⟩ (.sqlite 0)
      let users : List UserId := ⟨"@a:x"⟩ :: ⟨"@a:x"⟩ :: .replicate 1200 ⟨"@b:x"⟩
      reached.handle? "first" = some handle
      ∧ reached.isOnline handle.backend = true
      ∧ reached.database.tracked.Nodup
      ∧ ∃ found,
          (reached.step (.replicate 24 0) (.call "first" (.filterTracked users))).1
          = ⟨.ok (.users found), []⟩
          ∧ found.Perm [⟨"@a:x"⟩] := by
  intro reached handle users
  have opened : reached.handle? "first" = some handle := by decide
  have online : reached.isOnline handle.backend = true := by decide
  have unique : reached.database.tracked.Nodup := nodup_tracked_run trackingOne
  have tracked : reached.database.tracked = [⟨"@a:x"⟩] := by decide
  obtain ⟨found, answered, _, distinct, single⟩ :=
    filter_repeats_no_user_iff opened online unique (.replicate 24 0) users
  refine ⟨opened, online, unique, found, congrArg Prod.fst answered, ?_⟩
  have once : found.Nodup := by
    -- The tracked user stands in the first two places.
    have front (i : Nat) (user : UserId) (there : users[i]? = some user)
        (known : reached.database.isTracked user = true)
        : i / Database.listLimit = 0 := by
      rw [Database.isTracked, tracked, List.contains_iff_mem, List.mem_singleton] at known
      subst known
      rcases i with _ | _ | i
      · rfl
      · rfl
      · have other := List.eq_of_mem_replicate (List.mem_of_getElem? there)
        exact absurd other (by decide)
    refine distinct.mpr fun i j user first second known => ?_
    rw [front i user first known, front j user second known]
  have asked : users.contains ⟨"@a:x"⟩ = true := List.contains_iff_mem.mpr (.head _)
  have answer := single.mp once
  rwa [tracked, List.filter_cons_of_pos asked, List.filter_nil] at answer

/-- A tracked user who is asked for in front of five hundred others and behind them is told
twice.
-/
theorem filter_repeats_user
    : let reached := (Deployment.empty.run trackingOne).2
      let others := (List.range 500).map fun n => UserId.mk ("@u" ++ toString n ++ ":x")
      let users := ⟨"@a:x"⟩ :: (others ++ [⟨"@a:x"⟩])
      ∃ found,
        (reached.step (.replicate 24 0) (.call "first" (.filterTracked users))).1
        = ⟨.ok (.users found), []⟩
        ∧ ¬ found.Nodup := by
  intro reached others users
  have opened
      : reached.handle? "first"
        = some (Handle.fresh ⟨"@a"⟩ ⟨.replicate 32 0⟩ (.sqlite 0)) := by
    decide
  refine ⟨_, congrArg Prod.fst (step_filterTracked opened (.replicate 24 0) (by decide) users), ?_⟩
  rw [Database.nodup_trackedAmong_iff (nodup_tracked_run trackingOne)]
  intro together
  have last : users[501]? = some ⟨"@a:x"⟩ := by simp [users, others]
  have same := together 0 501 ⟨"@a:x"⟩ rfl last (by decide)
  exact absurd same (by decide)

end KeyVault
