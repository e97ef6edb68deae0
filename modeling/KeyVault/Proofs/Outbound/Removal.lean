import KeyVault.Proofs.Deployment.Handles
import KeyVault.Proofs.Outbound.Rows
/-!
Removing the outbound sessions of several rooms at once. However the list of rooms is cut into
pieces, this leaves what removing the sessions of its rooms one by one leaves, and it counts
the different rooms that had one.
-/

namespace KeyVault

namespace Vault

variable {vault : Vault} {state : State} (nonce : Aead.Nonce)

/-- Over an open pool the session of a room is removed. -/
theorem perform_removeOutbound (online : vault.online = true) (room : RoomId)
    : vault.perform nonce (.removeOutbound room) state
      = .done .nothing
          { state with database := (state.database.removeOutbound vault.owner [room]).2 } := by
  simp [perform, removeOutbound, online]

/-- Where nothing is lost, the sessions of the rooms are removed and counted. No rooms are removed
without asking the database, which would leave the same.
-/
theorem perform_removeOutbounds (whole : vault.further = none) {rooms : List RoomId}
    (reached : vault.online = true ∨ rooms = [])
    : vault.perform nonce (.removeOutbounds rooms) state
      = .done (.count (state.database.removeOutbound vault.owner rooms).1)
          { state with database := (state.database.removeOutbound vault.owner rooms).2 } := by
  cases rooms with
  | nil =>
    rw [Database.removeOutbound_nil]
    rfl
  | cons room rooms =>
    have online : vault.online = true := reached.resolve_right (List.cons_ne_nil room rooms)
    rw [perform, removeOutbounds_of_whole online whole, Outcome.answering_done]

theorem perform_removeOutbound_of_offline (offline : vault.online = false) (room : RoomId)
    : vault.perform nonce (.removeOutbound room) state = vault.offline state := by
  simp [perform, removeOutbound, offline]

theorem perform_removeOutbounds_of_offline (offline : vault.online = false)
    {rooms : List RoomId} (filled : rooms ≠ [])
    : vault.perform nonce (.removeOutbounds rooms) state = vault.offline state := by
  rw [perform, removeOutbounds_of_offline offline filled, Outcome.answering_offline]

end Vault

/-- After every history on new tables no two outbound rows have one account and one room. -/
theorem outboundUnique_run (history : List (Aead.Nonce × Event))
    : (Deployment.empty.run history).2.database.OutboundUnique :=
  Deployment.run_keeps_database List.nodup_nil Vault.Effect.outboundUnique history

section Calls

variable {deployment : Deployment} {name : String} {handle : Handle}

/-- Calls that remove the sessions of some rooms one by one, each with the nonce that it is
made with.
-/
def removals (name : String) (calls : List (Aead.Nonce × RoomId)) : List (Aead.Nonce × Event) :=
  calls.map fun call => (call.1, .call name (.removeOutbound call.2))

/-- A run of removals is the first of them and then the others. -/
theorem run_removals_cons {next : Deployment} {reply : Reply} {call : Aead.Nonce × RoomId}
    (first
      : deployment.step call.1 (.call name (.removeOutbound call.2)) = (reply, next))
    (calls : List (Aead.Nonce × RoomId))
    : deployment.run (removals name (call :: calls))
      = (reply :: (next.run (removals name calls)).1, (next.run (removals name calls)).2) := by
  simp only [removals, List.map_cons, Deployment.run, first]

/-- Over an open pool removing the sessions of rooms one by one leaves what one removal for all
of them leaves, by induction over the calls.
-/
theorem run_removals (opened : deployment.handle? name = some handle)
    {calls : List (Aead.Nonce × RoomId)}
    (reached : deployment.isOnline handle.backend = true ∨ calls = [])
    : deployment.run (removals name calls)
      = (calls.map fun _ => .nothing,
          { deployment with
            database :=
              (deployment.database.removeOutbound handle.owner (calls.map Prod.snd)).2 }) := by
  induction calls generalizing deployment with
  | nil =>
    rw [List.map_nil, List.map_nil, Database.removeOutbound_nil]
    rfl
  | cons call calls ih =>
    have online : deployment.isOnline handle.backend = true :=
      reached.resolve_right (List.cons_ne_nil call calls)
    let next : Deployment :=
      { deployment with
        database := (deployment.database.removeOutbound handle.owner [call.2]).2 }
    have first
        : deployment.step call.1 (.call name (.removeOutbound call.2)) = (.nothing, next) :=
      Deployment.step_of_done opened (Vault.perform_removeOutbound call.1 online call.2)
    have rest
        : next.run (removals name calls)
          = (calls.map fun _ => .nothing,
              { next with
                database :=
                  (next.database.removeOutbound handle.owner (calls.map Prod.snd)).2 }) :=
      ih opened (.inl online)
    rw [run_removals_cons first, rest]
    simp only [next, Database.removeOutbound, Database.remove_isOutboundIn_append,
      List.singleton_append, List.map_cons]

/-- Over a closed pool every one of the calls fails. -/
theorem run_removals_of_offline (opened : deployment.handle? name = some handle)
    (offline : deployment.isOnline handle.backend = false)
    (calls : List (Aead.Nonce × RoomId))
    : deployment.run (removals name calls)
      = (calls.map fun _ => .failed (.database .poolClosed), deployment) := by
  induction calls with
  | nil => rfl
  | cons call calls ih =>
    have first
        : deployment.step call.1 (.call name (.removeOutbound call.2))
          = (.failed (.database .poolClosed), deployment) :=
      Deployment.step_of_failed opened
        (Vault.perform_removeOutbound_of_offline call.1 offline call.2)
    rw [run_removals_cons first, ih, List.map_cons]

/-- Removing the sessions of rooms at once leaves what removing them one by one leaves, however
the rooms are named, and counts the different rooms of which the account had a session. Over a
closed pool both ways fail and change nothing.
-/
theorem batch_removal_is_one_by_one (opened : deployment.handle? name = some handle)
    (unique : deployment.database.OutboundUnique)
    (nonce : Aead.Nonce) (calls : List (Aead.Nonce × RoomId))
    : let rooms := calls.map Prod.snd
      let batch := deployment.step nonce (.call name (.removeOutbounds rooms))
      let single := deployment.run (removals name calls)
      let before := deployment.database.outbound
      let kept :=
        Rows.remove (fun row => row.owner = handle.owner ∧ row.room ∈ rooms) before
      let held :=
        rooms.dedup.countP fun room =>
          (deployment.database.outbound? handle.owner room).isSome
      batch.2 = single.2
      ∧ if deployment.isOnline handle.backend = true ∨ rooms = [] then
          batch
          = (⟨.ok (.count held), []⟩,
              { deployment with database := { deployment.database with outbound := kept } })
          ∧ (∀ reply ∈ single.1, reply = .nothing)
          ∧ kept.length + held = before.length
        else
          batch = (.failed (.database .poolClosed), deployment)
          ∧ ∀ reply ∈ single.1, reply = .failed (.database .poolClosed) := by
  intro rooms batch single before kept held
  by_cases reached : deployment.isOnline handle.backend = true ∨ rooms = []
  · rw [if_pos reached]
    have counted : before.countP (Database.isOutboundIn handle.owner rooms) = held :=
      Database.countP_isOutboundIn unique handle.owner rooms
    have removed
        : batch
          = (⟨.ok (.count held), []⟩,
              { deployment with database := { deployment.database with outbound := kept } }) := by
      rw [← counted]
      exact Deployment.step_of_done opened (Vault.perform_removeOutbounds nonce rfl reached)
    have alone
        : single
          = (calls.map fun _ => .nothing,
              { deployment with database := { deployment.database with outbound := kept } }) :=
      run_removals opened (reached.imp_right List.map_eq_nil_iff.mp)
    refine ⟨?_, removed, ?_, ?_⟩
    · rw [removed, alone]
    · intro reply member
      rw [alone] at member
      obtain ⟨_, _, rfl⟩ := List.mem_map.mp member
      rfl
    · have parts :=
        List.length_eq_countP_add_countP (Database.isOutboundIn handle.owner rooms) (l := before)
      rw [counted, List.countP_eq_length_filter] at parts
      rw [parts, Nat.add_comm]
      simp only [Bool.not_eq_true, Bool.decide_eq_false]
      rfl
  · rw [if_neg reached]
    obtain ⟨closed, filled⟩ := not_or.mp reached
    have offline : deployment.isOnline handle.backend = false := (Bool.not_eq_true _).mp closed
    have refused : batch = (.failed (.database .poolClosed), deployment) :=
      Deployment.step_of_failed opened
        (Vault.perform_removeOutbounds_of_offline nonce offline filled)
    have alone : single = (calls.map fun _ => .failed (.database .poolClosed), deployment) :=
      run_removals_of_offline opened offline calls
    refine ⟨?_, refused, ?_⟩
    · rw [refused, alone]
    · intro reply member
      rw [alone] at member
      obtain ⟨_, _, rfl⟩ := List.mem_map.mp member
      rfl

end Calls

/-- Two accounts store sessions of one room, and the first account one of another room. -/
def storingRooms : List (Aead.Nonce × Event) :=
  let stored (room : String) : Operation :=
    .addOutbound (.fresh ⟨room⟩ ⟨"id"⟩ [1] ⟨2, 0, by decide⟩)
  let events : List Event :=
    [.openVault "first" ⟨"@a"⟩ ⟨.replicate 32 0⟩,
     .openVault "second" ⟨"@b"⟩ ⟨.replicate 32 0⟩,
     .call "first" (stored "!room"),
     .call "first" (stored "!kept"),
     .call "second" (stored "!room")]
  events.map fun event => (.replicate 24 0, event)

/-- Where a room is named twice and another one has no session, one session is counted, and
that of the other room and that of the other account stay.
-/
theorem storingRooms_one_by_one
    : let reached := (Deployment.empty.run storingRooms).2
      let handle := Handle.fresh ⟨"@a"⟩ ⟨.replicate 32 0⟩ (.sqlite 0)
      let rooms : List RoomId := [⟨"!room"⟩, ⟨"!none"⟩, ⟨"!room"⟩]
      let batch := reached.step (.replicate 24 0) (.call "first" (.removeOutbounds rooms))
      reached.handle? "first" = some handle
      ∧ reached.database.OutboundUnique
      ∧ batch.1 = ⟨.ok (.count 1), []⟩
      ∧ batch.2 = (reached.run (removals "first" (rooms.map (Prod.mk (.replicate 24 0))))).2
      ∧ batch.2.database.outbound.map OutboundRow.place
        = [(⟨"@a"⟩, ⟨"!kept"⟩), (⟨"@b"⟩, ⟨"!room"⟩)] := by
  intro reached handle rooms batch
  have opened : reached.handle? "first" = some handle := by decide
  have online : reached.isOnline handle.backend = true := by decide
  have unique : reached.database.OutboundUnique := outboundUnique_run storingRooms
  obtain ⟨same, removed⟩ :=
    batch_removal_is_one_by_one opened unique (.replicate 24 0)
      (rooms.map (Prod.mk (.replicate 24 0)))
  rw [if_pos (.inl online)] at removed
  obtain ⟨answered, _, _⟩ := removed
  have counted
      : (rooms.dedup.countP fun room => (reached.database.outbound? ⟨"@a"⟩ room).isSome) = 1 := by
    decide
  have left
      : (Rows.remove (fun row => row.owner = ⟨"@a"⟩ ∧ row.room ∈ rooms)
            reached.database.outbound).map OutboundRow.place
        = [(⟨"@a"⟩, ⟨"!kept"⟩), (⟨"@b"⟩, ⟨"!room"⟩)] := by
    decide
  refine ⟨opened, unique, ?_, same, ?_⟩
  · exact (congrArg Prod.fst answered).trans
      (congrArg (fun count => Reply.mk (.ok (.count count)) []) counted)
  · exact (congrArg (fun after => after.2.database.outbound.map OutboundRow.place) answered).trans
      left

end KeyVault
