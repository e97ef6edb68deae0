import KeyVault.Proofs.Olm.Filing
/-!
One shared object for each one-to-one session of a vault. From when a vault is opened, and
as long as its account is not deleted, everything that it hands out stays cached under its
key and its own identifier, so that it hands out the same object again.
-/

namespace KeyVault

-----------------------------------------------------------------------------------------
-- Calls of a vault whose cache is filed
-----------------------------------------------------------------------------------------

/-- Any session of a key is cached just when one is found under its identifier. -/
theorem Cache.hasAny_iff {cache : Cache} {sender : IdentityKey}
    : cache.hasAny sender = true ↔ ∃ id ref, cache.get? sender id = some ref := by
  unfold hasAny get?
  cases cache.under sender with
  | nil => simp [Rows.get?]
  | cons entry rest =>
    refine ⟨fun _ => ⟨entry.1, entry.2, by simp [Rows.get?]⟩, fun _ => rfl⟩

namespace Vault

variable {vault : Vault} {nonce : Aead.Nonce} {sender : IdentityKey} {state : State}

/-- Whether a key has sessions is whether the account has a row of it, since what is cached
is filed. It is answered unless the database is needed and not reached.
-/
theorem hasSession_result (vault : Vault) (sender : IdentityKey)
    (filing : state.Filing vault.owner)
    : ∃ value,
        (value = true ↔ ∃ row ∈ state.database.olmOf vault.owner, row.sender = sender)
        ∧ ((vault.hasSession sender state).result = .ok value
            ∨ vault.online = false
              ∧ (vault.hasSession sender state).result = .error (.database vault.fault)) := by
  unfold hasSession
  cases any : state.cache.hasAny sender with
  | true =>
    obtain ⟨id, ref, cached⟩ := Cache.hasAny_iff.mp any
    obtain ⟨_, row, member, _, under⟩ := filing sender id ref cached
    exact ⟨true, by simpa using ⟨row, member, under⟩, .inl rfl⟩
  | false =>
    refine ⟨state.database.hasOlmSession vault.owner sender, Database.hasOlmSession_iff, ?_⟩
    cases online : vault.online with
    | true => exact .inl rfl
    | false => exact .inr ⟨rfl, rfl⟩

/-- Adding a session that is cached already is logged only when it fails, since what is
cached is filed.
-/
theorem addSession_fails_of_noted (nonce : Aead.Nonce) (sender : IdentityKey) (session : Session)
    (filing : state.Filing vault.owner)
    (noted : (vault.addSession nonce sender session state).notices ≠ [])
    : ∃ fault, (vault.addSession nonce sender session state).result = .error fault := by
  rcases addSession_cases nonce sender session filing with
    ⟨fault, failed, _⟩ | ⟨ref, after, added, _⟩
  · exact ⟨fault, failed⟩
  · rw [added] at noted
    exact absurd rfl noted

/-- Nothing is logged when the cached object of a session is itself written. -/
theorem updateSession_silent (nonce : Aead.Nonce) {ref : SessionRef} {session : Session}
    (there : state.shared.get? ref = some session)
    (cached : state.cache.get? sender session.id = some ref)
    : (vault.updateSession nonce sender ref state).notices = [] := by
  cases online : vault.online <;>
    simp [updateSession, divergence, there, cached, online, Outcome.noting, Outcome.done,
      Vault.offline, Outcome.failed]

end Vault

-----------------------------------------------------------------------------------------
-- What is handed out stays cached
-----------------------------------------------------------------------------------------

namespace Moment

/-- The references that a moment hands out to the caller of the vault under a name, with
their keys.
-/
def handedOut (name : String) (moment : Moment) : List (IdentityKey × SessionRef) :=
  match moment.event with
  | .call other operation _ => if other = name then operation.handsOut moment.reply.result else []
  | _ => []

/-- What a moment leaves of a vault that stays open under a name: its cache grew, is filed,
and holds what the moment handed out.
-/
structure LeavesOpen (moment : Moment) (name : String) (handle after : Handle) : Prop where
  opened : moment.left.handle? name = some after
  owner : after.owner = handle.owner
  key : after.key = handle.key
  grown : (moment.met.stateOf handle).Extends handle.owner (moment.left.stateOf after)
  filing : (moment.left.stateOf after).Filing handle.owner
  cached : ∀ entry ∈ moment.handedOut name, ∃ id, after.cache.get? entry.1 id = some entry.2

variable {moment : Moment} {name : String} {handle : Handle}
variable {entries : List (IdentityKey × Session)}

/-- A call of the vault itself leaves it with what the operation cached. -/
theorem leavesOpen_of_call {operation : Operation} {interruption : Option Interruption}
    (event : moment.event = .call name operation interruption)
    (opened : moment.met.handle? name = some handle)
    (holds : HoldsOlm handle.key (moment.met.database.olmOf handle.owner) entries)
    (filing : (moment.met.stateOf handle).Filing handle.owner)
    (undeleted : moment.olmWrite? handle.owner ≠ some .wiped)
    : moment.LeavesOpen name handle
        (handle.keeping (moment.outcome handle operation).state) := by
  have called : moment.call? = some (handle, operation) := call?_of_event event opened
  obtain ⟨other, same, _, settled⟩ := settled_of_call called
  obtain rfl : name = other := by
    cases event.symm.trans same
    rfl
  rw [olmWrite?_of_call called, if_pos rfl] at undeleted
  have leaves
      : (moment.vaultOf handle).LeavesFiled (moment.met.stateOf handle) operation
          (moment.outcome handle operation) :=
    Vault.perform_leavesFiled moment.nonce operation holds filing undeleted
  refine ⟨?_, rfl, rfl, ?_, ?_, ?_⟩
  · rw [settled]
    exact Deployment.handle?_setHandle_self ..
  · rw [settled]
    exact leaves.grown
  · rw [settled]
    exact leaves.filing
  · simp only [handedOut, event, if_true, reply_of_call called]
    exact leaves.cached

/-- Without a call of the vault nothing is handed out. -/
theorem handedOut_of_no_call
    (idle : ∀ operation interruption, moment.event ≠ .call name operation interruption)
    : moment.handedOut name = [] := by
  unfold handedOut
  cases event : moment.event with
  | call other operation interruption =>
    refine if_neg ?_
    rintro rfl
    exact idle operation interruption event
  | _ => rfl

/-- Any other event leaves the vault as it was. Other vaults of the account may write rows,
but they lose none.
-/
theorem leavesOpen_of_no_call
    (idle : ∀ operation interruption, moment.event ≠ .call name operation interruption)
    (opened : moment.met.handle? name = some handle)
    (keyed : moment.met.Keyed handle.owner handle.key)
    (filing : (moment.met.stateOf handle).Filing handle.owner)
    (stays : ∀ owner key, moment.event.opens? ≠ some (name, owner, key))
    (undeleted : moment.olmWrite? handle.owner ≠ some .wiped)
    : moment.LeavesOpen name handle handle := by
  have grown
      : (moment.met.stateOf handle).Extends handle.owner (moment.left.stateOf handle) :=
    { shared := moment.keeps
      rows := (moment.olmChange keyed).kept undeleted
      cached := fun _ _ _ there => there }
  have same : moment.left.handle? name = moment.met.handle? name := by
    rcases moment.handle?_left name with
      same | ⟨owner, key, _, opens, _⟩ | ⟨_, operation, event, _, _⟩
    · exact same
    · exact absurd opens (stays owner key)
    · exact absurd event (idle operation _)
  refine ⟨same.trans opened, rfl, rfl, grown, grown.filing_of_eq rfl filing, ?_⟩
  simp [handedOut_of_no_call idle]

/-- A moment that neither reopens the vault nor deletes its account leaves it open. -/
theorem exists_leavesOpen (opened : moment.met.handle? name = some handle)
    (keyed : moment.met.Keyed handle.owner handle.key)
    (holds : HoldsOlm handle.key (moment.met.database.olmOf handle.owner) entries)
    (filing : (moment.met.stateOf handle).Filing handle.owner)
    (stays : ∀ owner key, moment.event.opens? ≠ some (name, owner, key))
    (undeleted : moment.olmWrite? handle.owner ≠ some .wiped)
    : ∃ after, moment.LeavesOpen name handle after := by
  by_cases calls : ∃ operation interruption, moment.event = .call name operation interruption
  · obtain ⟨operation, interruption, event⟩ := calls
    exact ⟨_, leavesOpen_of_call event opened holds filing undeleted⟩
  · have idle := fun operation => not_exists.mp (not_exists.mp calls operation)
    exact ⟨handle, leavesOpen_of_no_call idle opened keyed filing stays undeleted⟩

end Moment

/-- A vault under a name that has been open over some moments: all it has cached is filed,
and all that it handed out is still cached under its own identifier.
-/
structure KeepsObjects (name : String) (past : List Moment) (deployment : Deployment)
    (handle : Handle)
    : Prop where
  opened : deployment.handle? name = some handle
  filing : (deployment.stateOf handle).Filing handle.owner
  handed
    : ∀ moment ∈ past,
        ∀ entry ∈ moment.handedOut name,
          ∃ session,
            moment.left.shared.get? entry.2 = some session
            ∧ handle.cache.get? entry.1 session.id = some entry.2

namespace KeepsObjects

variable {name : String} {past : List Moment} {owner : AccountId} {key : PickleKey}

/-- A vault that was just opened has cached and handed out nothing. -/
theorem start {deployment : Deployment} {backend : Backend}
    (opened : deployment.handle? name = some (.fresh owner key backend))
    : KeepsObjects name [] deployment (.fresh owner key backend) where
  opened := opened
  filing _ _ _ there := by cases there
  handed _ member := by cases member

/-- A moment that leaves the vault open keeps its objects. -/
theorem further {moment : Moment} {handle after : Handle}
    (keeps : KeepsObjects name past moment.met handle)
    (leaves : moment.LeavesOpen name handle after)
    : KeepsObjects name (past ++ [moment]) moment.left after where
  opened := leaves.opened
  filing := leaves.owner ▸ leaves.filing
  handed := by
    intro earlier member entry handed
    rcases List.mem_append.mp member with before | now
    · obtain ⟨session, there, kept⟩ := keeps.handed earlier before entry handed
      exact ⟨session, there, leaves.grown.cached _ _ _ kept⟩
    · cases List.mem_singleton.mp now
      obtain ⟨id, kept⟩ := leaves.cached entry handed
      obtain ⟨⟨session, there, own⟩, _⟩ := leaves.filing _ _ _ kept
      exact ⟨session, there, own ▸ kept⟩

end KeepsObjects

/-- A deployment after some moments that were lived through with a vault open: the tables
follow the writes of all moments, and the vault keeps its objects unless its account was
deleted. What a row opens to is known from the writes, so both are carried together.
-/
structure FollowsOpen (name : String) (owner : AccountId) (key : PickleKey)
    (earlier past : List Moment) (deployment : Deployment)
    : Prop where
  follows : FollowsWrites owner key (earlier ++ past) deployment
  keeps
    : (∀ moment ∈ past, moment.olmWrite? owner ≠ some .wiped)
      → ∃ handle,
          KeepsObjects name past deployment handle
          ∧ handle.owner = owner
          ∧ handle.key = key

/-- A further moment that opens vaults of the account with its key, and none under the name
of the vault.
-/
theorem FollowsOpen.further {name : String} {owner : AccountId} {key : PickleKey}
    {earlier past : List Moment} {moment : Moment}
    (was : FollowsOpen name owner key earlier past moment.met)
    (keyed : moment.event.Keyed owner key)
    (stays : ∀ owner key, moment.event.opens? ≠ some (name, owner, key))
    : FollowsOpen name owner key earlier (past ++ [moment]) moment.left where
  follows := by
    rw [← List.append_assoc]
    exact was.follows.further keyed
  keeps := by
    intro undeleted
    obtain ⟨handle, keeps, rfl, rfl⟩ :=
      was.keeps fun earlier member => undeleted earlier (List.mem_append_left _ member)
    obtain ⟨after, leaves⟩ :=
      Moment.exists_leavesOpen keeps.opened was.follows.keyed was.follows.holds
        keeps.filing stays
        (undeleted moment (List.mem_append_right _ (List.mem_singleton.mpr rfl)))
    exact ⟨after, keeps.further leaves, leaves.owner, leaves.key⟩

/-- A vault keeps its objects over every history from when it was opened, as long as it is
not reopened and its account is not deleted, by induction over the moments.
-/
theorem keepsObjects_run {earlier later : List (Aead.Nonce × Event)} {owner : AccountId}
    {key : PickleKey} {name : String} {backend : Backend}
    (keyed : ∀ entry ∈ earlier ++ later, entry.2.Keyed owner key)
    (opened : (Deployment.empty.run earlier).2.handle? name = some (.fresh owner key backend))
    (stays : ∀ entry ∈ later, ∀ owner key, entry.2.opens? ≠ some (name, owner, key))
    (undeleted
      : ∀ moment ∈ (Deployment.empty.run earlier).2.moments later,
          moment.olmWrite? owner ≠ some .wiped)
    : ∃ handle,
        KeepsObjects name ((Deployment.empty.run earlier).2.moments later)
          ((Deployment.empty.run earlier).2.run later).2 handle
        ∧ handle.owner = owner
        ∧ handle.key = key := by
  have start
      : FollowsOpen name owner key (Deployment.empty.moments earlier) []
          (Deployment.empty.run earlier).2 :=
    { follows := by
        rw [List.append_nil]
        exact followsWrites_run fun entry member => keyed entry (List.mem_append_left _ member)
      keeps := fun _ => ⟨_, .start opened, rfl, rfl⟩ }
  have followed :=
    Deployment.run_induction later
      (motive := FollowsOpen name owner key (Deployment.empty.moments earlier)) start
      fun _ _ member was =>
        was.further (keyed _ (List.mem_append_right _ member)) (stays _ member)
  exact followed.keeps undeleted

-----------------------------------------------------------------------------------------
-- What a vault that kept its objects answers
-----------------------------------------------------------------------------------------

namespace KeepsObjects

variable {name : String} {past : List Moment} {deployment : Deployment} {handle : Handle}

/-- A further call of the vault answers what its operation returns and logs. -/
theorem reply_call (keeps : KeepsObjects name past deployment handle) (nonce : Aead.Nonce)
    (operation : Operation)
    : let outcome :=
        (deployment.vaultOf handle).perform nonce operation (deployment.stateOf handle)
      (deployment.step nonce (.call name operation)).1
      = ⟨outcome.result, outcome.notices⟩ := by
  exact congrArg Prod.fst (Deployment.step_call keeps.opened nonce operation)

/-- What was handed out for a key is the object that is cached under its identifier. -/
theorem exists_objectOf (keeps : KeepsObjects name past deployment handle)
    : ∃ objectOf : IdentityKey → SessionId → SessionRef,
        ∀ moment ∈ past,
          ∀ sender ref,
            (sender, ref) ∈ moment.handedOut name
            → ∃ session,
                moment.left.shared.get? ref = some session
                ∧ ref = objectOf sender session.id := by
  refine ⟨fun sender id => (handle.cache.get? sender id).getD ⟨handle.owner, 0⟩, ?_⟩
  intro moment member sender ref handed
  obtain ⟨session, there, cached⟩ := keeps.handed moment member (sender, ref) handed
  exact ⟨session, there, by simp [cached]⟩

/-- Whether a key has sessions is answered by the rows. -/
theorem reply_hasSession (keeps : KeepsObjects name past deployment handle) (nonce : Aead.Nonce)
    (sender : IdentityKey)
    : let reply := (deployment.step nonce (.call name (.hasSession sender))).1
      ∃ value,
        (value = true ↔ ∃ row ∈ deployment.database.olmOf handle.owner, row.sender = sender)
        ∧ (reply.result = .ok (.flag value)
            ∨ deployment.isOnline handle.backend = false
              ∧ reply.result = .error (.database .poolClosed)) := by
  intro reply
  obtain ⟨value, rows, answered⟩ :=
    (deployment.vaultOf handle).hasSession_result sender keeps.filing
  refine ⟨value, rows, ?_⟩
  simp only [reply, keeps.reply_call, Vault.perform, Outcome.answering]
  rcases answered with returned | ⟨offline, failed⟩
  · exact .inl (congrArg (Except.map Answer.flag) returned)
  · exact .inr ⟨offline, congrArg (Except.map Answer.flag) failed⟩

/-- Adding a session is noted only when it fails. -/
theorem reply_addSession (keeps : KeepsObjects name past deployment handle) (nonce : Aead.Nonce)
    (sender : IdentityKey) (session : Session)
    : let reply := (deployment.step nonce (.call name (.addSession sender session))).1
      reply.notices ≠ [] → ∃ fault, reply.result = .error fault := by
  intro reply noted
  simp only [reply, keeps.reply_call, Vault.perform, Outcome.answering] at noted ⊢
  obtain ⟨fault, failed⟩ :=
    Vault.addSession_fails_of_noted nonce sender session keeps.filing noted
  exact ⟨fault, congrArg (Except.map Answer.session) failed⟩

/-- Writing an object that was handed out is not noted: it is still the one that is cached
under its identifier, which it has kept.
-/
theorem reply_updateSession (keeps : KeepsObjects name past deployment handle)
    (nonce : Aead.Nonce)
    {moment : Moment} (member : moment ∈ past) {sender : IdentityKey} {ref : SessionRef}
    (handed : (sender, ref) ∈ moment.handedOut name)
    : (deployment.step nonce (.call name (.updateSession sender ref))).1.notices = [] := by
  obtain ⟨_, _, cached⟩ := keeps.handed moment member (sender, ref) handed
  obtain ⟨⟨session, there, own⟩, _⟩ := keeps.filing _ _ _ cached
  rw [keeps.reply_call]
  exact Vault.updateSession_silent nonce there (own ▸ cached)

end KeepsObjects

/-- A vault hands out one object for each one-to-one session, from when it is opened until it is
reopened or its account is deleted, as long as the vaults of the account have one key. What it has
cached is stored under the same key, and a key has sessions just where it has rows; only an addition
that fails is noted, and writing what was handed out is not.
-/
theorem vault_hands_out_one_object {earlier later : List (Aead.Nonce × Event)}
    {owner : AccountId} {key : PickleKey} {name : String} {backend : Backend}
    (keyed : ∀ entry ∈ earlier ++ later, entry.2.Keyed owner key)
    (opened : (Deployment.empty.run earlier).2.handle? name = some (.fresh owner key backend))
    (stays : ∀ entry ∈ later, ∀ owner key, entry.2.opens? ≠ some (name, owner, key))
    (undeleted
      : ∀ moment ∈ (Deployment.empty.run earlier).2.moments later,
          moment.olmWrite? owner ≠ some .wiped)
    : let moments := (Deployment.empty.run earlier).2.moments later
      let reached := ((Deployment.empty.run earlier).2.run later).2
      ∃ handle,
        reached.handle? name = some handle
        ∧ handle.owner = owner
        ∧ (∃ objectOf : IdentityKey → SessionId → SessionRef,
            ∀ moment ∈ moments,
              ∀ sender ref,
                (sender, ref) ∈ moment.handedOut name
                → ∃ session,
                    moment.left.shared.get? ref = some session
                    ∧ ref = objectOf sender session.id)
        ∧ (∀ sender id ref,
            handle.cache.get? sender id = some ref
            → (∃ session, reached.shared.get? ref = some session ∧ session.id = id)
              ∧ ∃ row ∈ reached.database.olmOf owner,
                  row.session = id ∧ row.sender = sender)
        ∧ (∀ nonce sender,
            let reply := (reached.step nonce (.call name (.hasSession sender))).1
            ∃ value,
              (value = true ↔ ∃ row ∈ reached.database.olmOf owner, row.sender = sender)
              ∧ (reply.result = .ok (.flag value)
                  ∨ reached.isOnline handle.backend = false
                    ∧ reply.result = .error (.database .poolClosed)))
        ∧ (∀ nonce sender session,
            let reply := (reached.step nonce (.call name (.addSession sender session))).1
            reply.notices ≠ [] → ∃ fault, reply.result = .error fault)
        ∧ ∀ nonce,
            ∀ moment ∈ moments,
              ∀ sender ref,
                (sender, ref) ∈ moment.handedOut name
                → (reached.step nonce (.call name (.updateSession sender ref))).1.notices
                  = [] := by
  intro moments reached
  obtain ⟨handle, keeps, rfl, rfl⟩ := keepsObjects_run keyed opened stays undeleted
  refine ⟨handle, keeps.opened, rfl, keeps.exists_objectOf, keeps.filing,
    keeps.reply_hasSession, keeps.reply_addSession, ?_⟩
  intro nonce moment member sender ref handed
  exact keeps.reply_updateSession nonce member handed

-----------------------------------------------------------------------------------------
-- Two vaults of one account
-----------------------------------------------------------------------------------------

/-- Two vaults are opened on an account. -/
def openingTwo : List (Aead.Nonce × Event) :=
  let events : List Event :=
    [.openVault "first" ⟨"@a"⟩ ⟨.replicate 32 0⟩,
     .shareVault "second" "first" ⟨"@a"⟩ ⟨.replicate 32 0⟩]
  events.map fun event => (.replicate 24 0, event)

/-- The first vault adds a session, which the second one refuses to add again; the session
is used, and the first vault reads it and refuses it too.
-/
def sharingOne : List (Aead.Nonce × Event) :=
  let events : List Event :=
    [.call "first" (.addSession ⟨"curve"⟩ (madeSession "one")),
     .call "second" (.addSession ⟨"other"⟩ (madeSession "one")),
     .setRatchet ⟨⟨"@a"⟩, 0⟩ [2],
     .call "first" (.getLatestSession ⟨"curve"⟩),
     .call "first" (.addSession ⟨"curve"⟩ (madeSession "one"))]
  events.map fun event => (.replicate 24 0, event)

/-- The first vault hands out the object of the session twice and can write it without a
notice.
-/
theorem sharingOne_hands_out_one_object
    : let opened := (Deployment.empty.run openingTwo).2
      let reached := (opened.run sharingOne).2
      (∀ entry ∈ openingTwo ++ sharingOne, entry.2.Keyed ⟨"@a"⟩ ⟨.replicate 32 0⟩)
      ∧ opened.handle? "first" = some (.fresh ⟨"@a"⟩ ⟨.replicate 32 0⟩ (.sqlite 0))
      ∧ (∀ entry ∈ sharingOne, ∀ owner key, entry.2.opens? ≠ some ("first", owner, key))
      ∧ (∀ moment ∈ opened.moments sharingOne, moment.olmWrite? ⟨"@a"⟩ ≠ some .wiped)
      ∧ (opened.moments sharingOne).flatMap (Moment.handedOut "first")
          = [(⟨"curve"⟩, ⟨⟨"@a"⟩, 0⟩), (⟨"curve"⟩, ⟨⟨"@a"⟩, 0⟩)]
      ∧ ∀ nonce,
          (reached.step nonce
            (.call "first" (.updateSession ⟨"curve"⟩ ⟨⟨"@a"⟩, 0⟩))).1.notices = [] := by
  intro opened reached
  have keyed
      : ∀ entry ∈ openingTwo ++ sharingOne, entry.2.Keyed ⟨"@a"⟩ ⟨.replicate 32 0⟩ := by
    simp [openingTwo, sharingOne, Event.Keyed, Event.opens?]
  have first
      : opened.handle? "first" = some (.fresh ⟨"@a"⟩ ⟨.replicate 32 0⟩ (.sqlite 0)) := by
    decide
  have stays
      : ∀ entry ∈ sharingOne, ∀ owner key, entry.2.opens? ≠ some ("first", owner, key) := by
    simp [sharingOne, Event.opens?]
  have undeleted
      : ∀ moment ∈ opened.moments sharingOne, moment.olmWrite? ⟨"@a"⟩ ≠ some .wiped := by
    decide +kernel
  have handed
      : (opened.moments sharingOne).flatMap (Moment.handedOut "first")
        = [(⟨"curve"⟩, ⟨⟨"@a"⟩, 0⟩), (⟨"curve"⟩, ⟨⟨"@a"⟩, 0⟩)] := by
    decide +kernel
  obtain ⟨_, _, _, _, _, _, _, silent⟩ :=
    vault_hands_out_one_object keyed first stays undeleted
  refine ⟨keyed, first, stays, undeleted, handed, ?_⟩
  intro nonce
  have among
      : (⟨"curve"⟩, ⟨⟨"@a"⟩, 0⟩)
        ∈ (opened.moments sharingOne).flatMap (Moment.handedOut "first") := by
    rw [handed]
    exact List.mem_cons_self ..
  obtain ⟨moment, member, out⟩ := List.mem_flatMap.mp among
  exact silent nonce moment member _ _ out

end KeyVault
