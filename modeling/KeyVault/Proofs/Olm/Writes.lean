import KeyVault.Proofs.Deployment.Handles
/-!
The writes of an account's one-to-one sessions over a history, and the sessions that they
say are stored: those that were added since the account was last deleted, as they were last
written.
-/

namespace KeyVault

/-- A successful write of the one-to-one sessions of an account. -/
inductive OlmWrite where
  /-- The account was deleted. -/
  | wiped
  /-- A session was added under a key. -/
  | added (sender : IdentityKey) (session : Session)
  /-- A session was written after use. -/
  | updated (session : Session)
  deriving DecidableEq

namespace OlmWrite

/-- The session that a write was given, with the value that it had then. -/
def session? : OlmWrite → Option Session
  | wiped => none
  | added _ session | updated session => some session

/-- The key and the session that a write adds. -/
def added? : OlmWrite → Option (IdentityKey × Session)
  | added sender session => some (sender, session)
  | _ => none

/-- The writes since the last deletion. -/
def sinceWiped (writes : List OlmWrite) : List OlmWrite :=
  (writes.reverse.takeWhile fun write => write ≠ wiped).reverse

/-- The value that the last write of a session with an identifier was given. -/
def lastWritten (id : SessionId) (writes : List OlmWrite) : Option Session :=
  ((writes.filterMap session?).filter fun session => session.id = id).getLast?

/-- An added session as it was last written; when it was created stays as it was added. -/
def asLastWritten (writes : List OlmWrite) (session : Session) : Session :=
  match lastWritten session.id writes with
  | some last => { last with times := { last.times with created := session.times.created } }
  | none => session

/-- The sessions that writes without a deletion leave: the added ones with their keys, as
they were last written.
-/
def current (writes : List OlmWrite) : List (IdentityKey × Session) :=
  (writes.filterMap added?).map fun (sender, session) => (sender, asLastWritten writes session)

end OlmWrite

/-- What an operation writes of the one-to-one sessions of its account when it succeeds. A
reference to no session writes nothing.
-/
def Operation.olmWrite? (operation : Operation) (shared : SharedSessions) : Option OlmWrite :=
  match operation with
  | delete => some .wiped
  | addSession sender session => some (.added sender session)
  | updateSession _ ref => (shared.get? ref).map .updated
  | _ => none

/-- What a moment writes of the one-to-one sessions of an account: a call of one of its open
vaults that succeeds.
-/
def Moment.olmWrite? (owner : AccountId) (moment : Moment) : Option OlmWrite :=
  match moment.call?, moment.reply.result with
  | some (handle, operation), .ok _ =>
    if handle.owner = owner then operation.olmWrite? moment.met.shared else none
  | _, _ => none

/-- The sessions of an account that the successful writes of a history say are stored. -/
def olmSessionsWritten (owner : AccountId) (moments : List Moment)
    : List (IdentityKey × Session) :=
  OlmWrite.current (OlmWrite.sinceWiped (moments.filterMap (Moment.olmWrite? owner)))

namespace OlmWrite

variable {writes : List OlmWrite}

/-- Only a deletion makes the writes before it count no more. -/
theorem sinceWiped_append_of_ne {write : OlmWrite} (other : write ≠ wiped)
    : sinceWiped (writes ++ [write]) = sinceWiped writes ++ [write] := by
  simp [sinceWiped, other]

/-- A deletion makes all writes before it count no more. -/
theorem sinceWiped_append_wiped : sinceWiped (writes ++ [wiped]) = [] := by
  simp [sinceWiped]

/-- The last write decides for its own identifier and for no other. -/
theorem lastWritten_append {write : OlmWrite} {session : Session}
    (given : write.session? = some session) (id : SessionId)
    : lastWritten id (writes ++ [write])
      = if session.id = id then some session else lastWritten id writes := by
  simp only [lastWritten, List.filterMap_append, List.filterMap_cons, given, List.filterMap_nil,
    List.filter_append]
  split <;> simp_all

/-- A write of another identifier leaves a session as it was last written. -/
theorem asLastWritten_append_of_ne {write : OlmWrite} {session added : Session}
    (given : write.session? = some session) (other : session.id ≠ added.id)
    : asLastWritten (writes ++ [write]) added = asLastWritten writes added := by
  simp only [asLastWritten, lastWritten_append given, if_neg other]

/-- A write of the same identifier gives all but when the session was created. -/
theorem asLastWritten_append_of_eq {write : OlmWrite} {session added : Session}
    (given : write.session? = some session) (same : session.id = added.id)
    : asLastWritten (writes ++ [write]) added
      = { session with times := { session.times with created := added.times.created } } := by
  simp only [asLastWritten, lastWritten_append given, if_pos same]

/-- What was last written of a session has its identifier, and keeps when it was created. -/
theorem asLastWritten_fixed (writes : List OlmWrite) (added : Session)
    : (asLastWritten writes added).id = added.id
      ∧ (asLastWritten writes added).times.created = added.times.created := by
  unfold asLastWritten
  cases found : lastWritten added.id writes with
  | some last =>
    have member := List.mem_of_getLast? found
    exact ⟨by simpa using (List.mem_filter.mp member).2, rfl⟩
  | none => exact ⟨rfl, rfl⟩

/-- A write after use changes the session with its identifier. -/
theorem current_append_updated (session : Session)
    : current (writes ++ [updated session])
      = (current writes).map fun (sender, old) =>
          if old.id = session.id then
            (sender,
              { old with
                ratchet := session.ratchet
                times := { session.times with created := old.times.created } })
          else (sender, old) := by
  simp only [current, List.filterMap_append, added?, List.filterMap_cons, List.filterMap_nil,
    List.append_nil, List.map_map]
  apply List.map_congr_left
  rintro ⟨sender, old⟩ _
  obtain ⟨id, created⟩ := asLastWritten_fixed writes old
  have given : (updated session).session? = some session := rfl
  by_cases same : session.id = old.id
  · simp only [Function.comp, asLastWritten_append_of_eq given same, id, same, if_true, created]
  · simp only [Function.comp, asLastWritten_append_of_ne given same, id, Ne.symm same, if_false]

/-- Adding a session with a new identifier leaves the others as they were last written. -/
theorem current_append_added {sender : IdentityKey} {session : Session}
    (new : ∀ entry ∈ current writes, entry.2.id ≠ session.id)
    : current (writes ++ [added sender session]) = current writes ++ [(sender, session)] := by
  have self : asLastWritten (writes ++ [added sender session]) session = session :=
    asLastWritten_append_of_eq rfl rfl
  simp only [current, List.filterMap_append, added?, List.filterMap_cons, List.filterMap_nil,
    List.map_append, List.map_cons, List.map_nil, self]
  congr 1
  apply List.map_congr_left
  rintro ⟨other, old⟩ member
  have different := new _ (List.mem_map_of_mem member)
  rw [(asLastWritten_fixed writes old).1] at different
  have given : (added sender session).session? = some session := rfl
  simp only [asLastWritten_append_of_ne given (Ne.symm different)]

end OlmWrite

/-- A session that was made when 1970 started and was not used yet. -/
def madeSession (id : String) : Session :=
  .fresh ⟨id⟩ [1] ⟨0, 0, by decide⟩

end KeyVault
