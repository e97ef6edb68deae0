import KeyVault.Proofs.Deployment.Handles
import Mathlib.Data.List.Nodup
/-!
The graph of signatures. An edge stands from the moment in which it is signed until its signer
is revoked, over all histories, whatever else is signed, fails or is deleted; a revocation
counts the edges that it removes and touches no other.
-/

namespace KeyVault

-----------------------------------------------------------------------------------------
-- The signatures of a history that stand
-----------------------------------------------------------------------------------------

/-- An operation that signs a target or revokes a signer. -/
def Operation.WritesSignatures (operation : Operation) : Prop :=
  (∃ target signer signature, operation = .putSignature target signer signature)
  ∨ ∃ signer, operation = .dropSignatures signer

namespace Moment

/-- Whether a moment signs a target for a signer: a call of an open vault that logs no failure.
Signing never fails for the caller.
-/
def signs (target signer : Signer) (moment : Moment) : Bool :=
  match moment.call?, moment.reply.notices with
  | some (_, .putSignature signed signing _), [] => signed = target ∧ signing = signer
  | _, _ => false

/-- Whether a moment revokes a signer: a call of an open vault that gives a count. -/
def revokes (signer : Signer) (moment : Moment) : Bool :=
  match moment.call?, moment.reply.result with
  | some (_, .dropSignatures revoked), .ok (.dropped (some _)) => revoked = signer
  | _, _ => false

end Moment

/-- An edge stands when some moment signed it and no later one revoked its signer. -/
def Standing (target signer : Signer) (past : List Moment) : Prop :=
  Lasting (Moment.signs target signer) (Moment.revokes signer) past

instance decidableStanding (target signer : Signer) (past : List Moment)
    : Decidable (Standing target signer past) :=
  inferInstanceAs (Decidable (Lasting _ _ past))

/-- After a further moment those edges stand that it signs, and those that stood unless it
revokes their signer.
-/
theorem standing_append {target signer : Signer} {past : List Moment} {moment : Moment}
    : Standing target signer (past ++ [moment])
      ↔ moment.signs target signer = true
        ∨ (Standing target signer past ∧ moment.revokes signer = false) :=
  lasting_append

-----------------------------------------------------------------------------------------
-- The rows of signatures
-----------------------------------------------------------------------------------------

/-- The two ends of a row, which identify it. -/
def SignatureRow.edge (row : SignatureRow) : Signer × Signer :=
  (row.target, row.signer)

namespace Database

/-- The targets that a signer has signed. -/
def signedBy (db : Database) (signer : Signer) : List Signer :=
  (db.signatures.filter fun row => row.signer = signer).map SignatureRow.target

variable (db : Database) (target signer : Signer)

/-- A signer has signed a target when there is a row from the one to the other. -/
theorem mem_signedBy : target ∈ db.signedBy signer ↔ db.isSigned target signer = true := by
  simp only [signedBy, isSigned, List.mem_map, List.mem_filter, List.any_eq_true,
    decide_eq_true_iff]
  constructor
  · rintro ⟨row, ⟨member, own⟩, same⟩
    exact ⟨row, member, same, own⟩
  · rintro ⟨row, member, same, own⟩
    exact ⟨row, ⟨member, own⟩, same⟩

/-- What a removal counts are the targets that the signer has signed. -/
theorem removeSignatures_fst : (db.removeSignatures signer).1 = (db.signedBy signer).length := by
  rw [removeSignatures, signedBy, List.length_map, List.countP_eq_length_filter]

/-- Where no two rows have the same ends, a signer has signed each target once. -/
theorem nodup_signedBy (unique : (db.signatures.map SignatureRow.edge).Nodup)
    : (db.signedBy signer).Nodup := by
  have edges
      : (db.signedBy signer).map (fun target => (target, signer))
        = (db.signatures.filter fun row => row.signer = signer).map SignatureRow.edge := by
    rw [signedBy, List.map_map]
    apply List.map_congr_left
    intro row member
    have own : row.signer = signer := of_decide_eq_true (List.mem_filter.mp member).2
    rw [Function.comp, SignatureRow.edge, own]
  have distinct
      : ((db.signatures.filter fun row => row.signer = signer).map SignatureRow.edge).Nodup :=
    unique.sublist (List.filter_sublist.map SignatureRow.edge)
  exact List.Nodup.of_map _ (edges ▸ distinct)

/-- Storing a signature adds its edge and keeps the others. -/
theorem isSigned_upsertSignature (row : SignatureRow)
    : (db.upsertSignature row).isSigned target signer = true
      ↔ (row.target = target ∧ row.signer = signer) ∨ db.isSigned target signer = true := by
  unfold isSigned upsertSignature
  rw [Rows.any_upsert_self, Bool.or_eq_true, decide_eq_true_iff]
  intro old met
  obtain ⟨signed, signing⟩ := of_decide_eq_true met
  rw [signed, signing]

/-- Removing the signatures of a signer keeps exactly the edges of the others. -/
theorem isSigned_removeSignatures (revoked : Signer)
    : (db.removeSignatures revoked).2.isSigned target signer = true
      ↔ db.isSigned target signer = true ∧ signer ≠ revoked := by
  simp only [isSigned, removeSignatures, Rows.remove, List.any_eq_true, List.mem_filter,
    decide_eq_true_iff, Bool.not_eq_true', decide_eq_false_iff_not]
  constructor
  · rintro ⟨row, ⟨member, kept⟩, same, rfl⟩
    exact ⟨⟨row, member, same, rfl⟩, kept⟩
  · rintro ⟨⟨row, member, same, rfl⟩, kept⟩
    exact ⟨row, ⟨member, kept⟩, same, rfl⟩

end Database

/-- The state of a history: no two rows have the same ends, and there is a row for exactly the
edges that stand.
-/
structure KeepsSignatures (past : List Moment) (db : Database) : Prop where
  unique : (db.signatures.map SignatureRow.edge).Nodup
  standing
    : ∀ target signer, db.isSigned target signer = true ↔ Standing target signer past

-----------------------------------------------------------------------------------------
-- What calls answer and leave
-----------------------------------------------------------------------------------------

namespace Vault

variable {vault : Vault} {state : State} (nonce : Aead.Nonce) (target signer : Signer)
  (signature : String)

/-- Over an open pool a signature is stored. -/
theorem perform_putSignature (online : vault.online = true)
    : vault.perform nonce (.putSignature target signer signature) state
      = .done .nothing
          { state with
            database := state.database.upsertSignature ⟨target, signer, signature⟩ } := by
  simp [perform, putSignature, online]

/-- Over a closed pool it is logged that a signature is not stored. -/
theorem perform_putSignature_of_offline (offline : vault.online = false)
    : vault.perform nonce (.putSignature target signer signature) state
      = (Outcome.done .nothing state).noting [.signatureNotStored target signer vault.fault] := by
  simp only [perform, putSignature, offline, Bool.false_eq_true, if_false]
  rfl

/-- Over an open pool it is told whether there is a row between two ends. -/
theorem perform_isKeySignedBy (online : vault.online = true)
    : vault.perform nonce (.isKeySignedBy target signer) state
      = .done (.flag (state.database.isSigned target signer)) state := by
  simp [perform, isKeySignedBy, online]

/-- Over a closed pool no signatures are read. -/
theorem perform_isKeySignedBy_of_offline (offline : vault.online = false)
    : vault.perform nonce (.isKeySignedBy target signer) state = vault.offline state := by
  simp [perform, isKeySignedBy, offline]

/-- Over an open pool the signatures of a signer are removed, and their targets counted. -/
theorem perform_dropSignatures (online : vault.online = true)
    : vault.perform nonce (.dropSignatures signer) state
      = .done (.dropped (some (state.database.signedBy signer).length))
          { state with database := (state.database.removeSignatures signer).2 } := by
  simp [perform, dropSignatures, online, Database.removeSignatures_fst]

/-- Over a closed pool it is logged that signatures are not removed, and there is no count. -/
theorem perform_dropSignatures_of_offline (offline : vault.online = false)
    : vault.perform nonce (.dropSignatures signer) state
      = (Outcome.done (.dropped none) state).noting [.signaturesNotDropped signer vault.fault] := by
  simp only [perform, dropSignatures, offline, Bool.false_eq_true, if_false]
  rfl

/-- No other operation touches the signatures. -/
theorem Effect.signatures {nonce : Aead.Nonce} {after : State} {operation : Operation}
    (effect : vault.Effect nonce state operation after) (other : ¬ operation.WritesSignatures)
    : after.database.signatures = state.database.signatures := by
  cases effect
  case putSignature => exact absurd (.inl ⟨_, _, _, rfl⟩) other
  case dropSignatures => exact absurd (.inr ⟨_, rfl⟩) other
  all_goals rfl

end Vault

namespace KeepsSignatures

variable {past present : List Moment} {db : Database}

/-- Tables with the same signatures keep them where the same edges stand. -/
theorem of_same {after : Database} (keeps : KeepsSignatures past db)
    (same : after.signatures = db.signatures)
    (stood
      : ∀ target signer, Standing target signer present ↔ Standing target signer past)
    : KeepsSignatures present after where
  unique := by
    rw [same]
    exact keeps.unique
  standing target signer := by
    unfold Database.isSigned
    rw [same, stood]
    exact keeps.standing target signer

/-- Storing a signature keeps them where its edge stands beside the others. -/
theorem signed (keeps : KeepsSignatures past db) (row : SignatureRow)
    (stood
      : ∀ target signer,
          Standing target signer present
          ↔ (row.target = target ∧ row.signer = signer) ∨ Standing target signer past)
    : KeepsSignatures present (db.upsertSignature row) where
  unique := by
    refine Rows.nodup_map_upsert ?_ ?_ keeps.unique
    · intro old met
      obtain ⟨target, signer⟩ := of_decide_eq_true met
      rw [SignatureRow.edge, SignatureRow.edge, target, signer]
    · intro old same
      exact decide_eq_true (Prod.mk.inj same)
  standing target signer := by
    rw [db.isSigned_upsertSignature, stood, keeps.standing]

/-- Removing the signatures of a signer keeps them where the edges of the others stand. -/
theorem revoked (keeps : KeepsSignatures past db) (revoked : Signer)
    (stood
      : ∀ target signer,
          Standing target signer present ↔ Standing target signer past ∧ signer ≠ revoked)
    : KeepsSignatures present (db.removeSignatures revoked).2 where
  unique := Rows.nodup_map_remove _ keeps.unique
  standing target signer := by
    rw [db.isSigned_removeSignatures, stood, keeps.standing]

end KeepsSignatures

namespace Moment

variable {moment : Moment} {handle : Handle} {target signer : Signer} {signature : String}

/-- A moment that does neither signs nothing and revokes nobody. -/
theorem signs_revokes_eq_false
    (silent
      : ∀ handle operation,
          moment.call? = some (handle, operation) → ¬ operation.WritesSignatures)
    (target signer : Signer)
    : moment.signs target signer = false ∧ moment.revokes signer = false := by
  unfold signs revokes
  cases called : moment.call? with
  | none => exact ⟨rfl, rfl⟩
  | some call =>
    obtain ⟨handle, operation⟩ := call
    cases operation
    case putSignature => exact absurd (.inl ⟨_, _, _, rfl⟩) (silent _ _ called)
    case dropSignatures => exact absurd (.inr ⟨_, rfl⟩) (silent _ _ called)
    all_goals exact ⟨rfl, rfl⟩

/-- A call that signs does so over an open pool, for its own edge, and revokes nobody. -/
theorem signs_revokes_of_putSignature
    (called : moment.call? = some (handle, .putSignature target signer signature))
    (other another : Signer)
    : moment.signs other another
        = ((moment.vaultOf handle).online && decide (target = other ∧ signer = another))
      ∧ moment.revokes another = false := by
  refine ⟨?_, by simp only [revokes, called]⟩
  cases online : (moment.vaultOf handle).online with
  | true =>
    have performed :=
      @Vault.perform_putSignature (moment.vaultOf handle) (moment.met.stateOf handle)
        moment.nonce target signer signature online
    simp only [signs, called, reply_of_call called, outcome, performed, Outcome.done,
      Bool.true_and]
  | false =>
    have performed :=
      @Vault.perform_putSignature_of_offline (moment.vaultOf handle)
        (moment.met.stateOf handle) moment.nonce target signer signature online
    simp only [signs, called, reply_of_call called, outcome, performed, Outcome.done,
      Outcome.noting, List.append_nil, Bool.false_and]

/-- A call that revokes does so over an open pool, for its own signer, and signs nothing. -/
theorem signs_revokes_of_dropSignatures
    (called : moment.call? = some (handle, .dropSignatures signer)) (other another : Signer)
    : moment.signs other another = false
      ∧ moment.revokes another
        = ((moment.vaultOf handle).online && decide (signer = another)) := by
  refine ⟨by simp only [signs, called], ?_⟩
  cases online : (moment.vaultOf handle).online with
  | true =>
    have performed :=
      @Vault.perform_dropSignatures (moment.vaultOf handle) (moment.met.stateOf handle)
        moment.nonce signer online
    simp only [revokes, called, reply_of_call called, outcome, performed, Outcome.done,
      Bool.true_and]
  | false =>
    have performed :=
      @Vault.perform_dropSignatures_of_offline (moment.vaultOf handle)
        (moment.met.stateOf handle) moment.nonce signer online
    simp only [revokes, called, reply_of_call called, outcome, performed, Outcome.done,
      Outcome.noting, Bool.false_and]

/-- A moment that leaves the signatures, signs nothing and revokes nobody keeps them. -/
theorem keepsSignatures_unmoved {past : List Moment}
    (keeps : KeepsSignatures past moment.met.database)
    (same : moment.left.database.signatures = moment.met.database.signatures)
    (silent
      : ∀ target signer,
          moment.signs target signer = false ∧ moment.revokes signer = false)
    : KeepsSignatures (past ++ [moment]) moment.left.database := by
  refine keeps.of_same same ?_
  intro target signer
  obtain ⟨unsigned, unrevoked⟩ := silent target signer
  rw [standing_append, unsigned, unrevoked]
  simp

/-- Every moment keeps the signatures: it signs, or revokes, or does neither. -/
theorem keepsSignatures {past : List Moment}
    (keeps : KeepsSignatures past moment.met.database)
    : KeepsSignatures (past ++ [moment]) moment.left.database := by
  rcases moment.calls_or_leaves Database.signatures Vault.Effect.signatures with
    ⟨handle, _, called, ⟨target, signer, signature, rfl⟩ | ⟨revoked, rfl⟩⟩ | ⟨silent, same⟩
  · have written := signs_revokes_of_putSignature called
    cases online : (moment.vaultOf handle).online with
    | true =>
      rw [database_of_call called, outcome, Vault.perform_putSignature _ _ _ _ online]
      refine keeps.signed ⟨target, signer, signature⟩ ?_
      intro other another
      obtain ⟨signs, unrevoked⟩ := written other another
      rw [standing_append, signs, unrevoked, online]
      simp
    | false =>
      refine keepsSignatures_unmoved keeps ?_ ?_
      · rw [database_of_call called, outcome,
          Vault.perform_putSignature_of_offline _ _ _ _ online]
        rfl
      · intro other another
        obtain ⟨signs, unrevoked⟩ := written other another
        exact ⟨by rw [signs, online, Bool.false_and], unrevoked⟩
  · have written := signs_revokes_of_dropSignatures called
    cases online : (moment.vaultOf handle).online with
    | true =>
      rw [database_of_call called, outcome, Vault.perform_dropSignatures _ _ online]
      refine keeps.revoked revoked ?_
      intro other another
      obtain ⟨unsigned, revokes⟩ := written other another
      rw [standing_append, unsigned, revokes, online]
      simp [ne_comm]
    | false =>
      refine keepsSignatures_unmoved keeps ?_ ?_
      · rw [database_of_call called, outcome, Vault.perform_dropSignatures_of_offline _ _ online]
        rfl
      · intro other another
        obtain ⟨unsigned, revokes⟩ := written other another
        exact ⟨unsigned, by rw [revokes, online, Bool.false_and]⟩
  · exact keepsSignatures_unmoved keeps same (signs_revokes_eq_false silent)

end Moment

/-- After every history on new tables there is a row for exactly the edges that stand, by
induction over the events.
-/
theorem keepsSignatures_run (history : List (Aead.Nonce × Event))
    : KeepsSignatures (Deployment.empty.moments history)
        (Deployment.empty.run history).2.database := by
  refine Deployment.run_induction history (motive := fun past deployment =>
    KeepsSignatures past deployment.database) ?_ ?_
  · refine ⟨List.nodup_nil, ?_⟩
    simp [Deployment.empty, Database.empty, Database.isSigned, Standing, Lasting]
  · intro past moment _ keeps
    exact moment.keepsSignatures keeps

/-- What a vault is told of a signature hangs on the row of that signature only. -/
theorem Deployment.reply_isKeySignedBy {deployment : Deployment} {database : Database}
    {target signer : Signer}
    (same : database.isSigned target signer = deployment.database.isSigned target signer)
    (nonce : Aead.Nonce) (name : String)
    : (({ deployment with database } : Deployment).step nonce
          (.call name (.isKeySignedBy target signer))).1
      = (deployment.step nonce (.call name (.isKeySignedBy target signer))).1 := by
  let later : Deployment := { deployment with database }
  cases opened : deployment.handle? name with
  | none =>
    have absent : later.handle? name = none := opened
    simp only [step, opened, later, absent]
  | some handle =>
    have still : later.handle? name = some handle := opened
    rw [step_call opened, step_call still]
    cases online : deployment.isOnline handle.backend with
    | true =>
      have reached : later.isOnline handle.backend = true := online
      rw [Vault.perform_isKeySignedBy _ _ _ online, Vault.perform_isKeySignedBy _ _ _ reached]
      exact congrArg (fun flag => Reply.mk (.ok (.flag flag)) []) same
    | false =>
      have unreached : later.isOnline handle.backend = false := online
      rw [Vault.perform_isKeySignedBy_of_offline _ _ _ online,
        Vault.perform_isKeySignedBy_of_offline _ _ _ unreached]
      rfl

/-- Signatures stand until their signer is revoked, over every history of any vaults. A signer is
said to have signed a target just where that was signed without failure and the signer not revoked
since. A revocation counts the targets whose signatures stood, and changes nothing that a vault is
told of other signers. Over a closed pool all this fails, and that is logged.
-/
theorem signatures_stand_until_revoked {history : List (Aead.Nonce × Event)} {name : String}
    {handle : Handle} (opened : (Deployment.empty.run history).2.handle? name = some handle)
    (nonce : Aead.Nonce)
    : let reached := (Deployment.empty.run history).2
      let past := Deployment.empty.moments history
      let step (operation : Operation) : Reply × Deployment :=
        reached.step nonce (.call name operation)
      let told (deployment : Deployment) (vault : String) (target signer : Signer) : Reply :=
        (deployment.step nonce (.call vault (.isKeySignedBy target signer))).1
      if reached.isOnline handle.backend then
        (∀ target signer,
          told reached name target signer
          = ⟨.ok (.flag (decide (Standing target signer past))), []⟩)
        ∧ (∀ target signer signature,
            (step (.putSignature target signer signature)).1 = .nothing)
        ∧ ∀ signer,
            let revoked := step (.dropSignatures signer)
            (∃ targets : List Signer,
              revoked.1 = ⟨.ok (.dropped (some targets.length)), []⟩
              ∧ targets.Nodup
              ∧ ∀ target, target ∈ targets ↔ Standing target signer past)
            ∧ (∀ target, told revoked.2 name target signer = ⟨.ok (.flag false), []⟩)
            ∧ ∀ vault target other,
                other ≠ signer
                → told revoked.2 vault target other = told reached vault target other
      else
        (∀ target signer,
          step (.isKeySignedBy target signer) = (.failed (.database .poolClosed), reached))
        ∧ (∀ target signer signature,
            step (.putSignature target signer signature)
            = (⟨.ok .nothing, [.signatureNotStored target signer .poolClosed]⟩, reached))
        ∧ ∀ signer,
            step (.dropSignatures signer)
            = (⟨.ok (.dropped none), [.signaturesNotDropped signer .poolClosed]⟩, reached) := by
  intro reached past step told
  have keeps := keepsSignatures_run history
  cases online : reached.isOnline handle.backend with
  | true =>
    rw [if_pos rfl]
    have answered (target signer : Signer)
        : told reached name target signer
          = ⟨.ok (.flag (reached.database.isSigned target signer)), []⟩ :=
      Deployment.reply_of_done opened (Vault.perform_isKeySignedBy nonce target signer online)
    refine ⟨?_, ?_, ?_⟩
    · intro target signer
      have stands
          : reached.database.isSigned target signer = decide (Standing target signer past) :=
        Bool.eq_iff_iff.mpr ((keeps.standing target signer).trans decide_eq_true_iff.symm)
      rw [answered, stands]
    · intro target signer signature
      exact Deployment.reply_of_done opened
        (Vault.perform_putSignature nonce target signer signature online)
    · intro signer revoked
      let later : Deployment :=
        { reached with database := (reached.database.removeSignatures signer).2 }
      have left
          : revoked
            = (⟨.ok (.dropped (some (reached.database.signedBy signer).length)), []⟩,
                later) :=
        Deployment.step_of_done opened (Vault.perform_dropSignatures nonce signer online)
      rw [left]
      refine ⟨⟨reached.database.signedBy signer, rfl, ?_, ?_⟩, ?_, ?_⟩
      · exact reached.database.nodup_signedBy signer keeps.unique
      · intro target
        rw [reached.database.mem_signedBy, keeps.standing]
      · intro target
        have gone : later.database.isSigned target signer = false := by
          apply eq_false_of_ne_true
          intro signed
          exact ((Database.isSigned_removeSignatures _ _ _ _).mp signed).2 rfl
        have still : later.handle? name = some handle := opened
        rw [← gone]
        exact Deployment.reply_of_done still
          (Vault.perform_isKeySignedBy nonce target signer online)
      · intro vault target other different
        apply Deployment.reply_isKeySignedBy
        apply Bool.eq_iff_iff.mpr
        rw [Database.isSigned_removeSignatures]
        exact and_iff_left different
  | false =>
    rw [if_neg Bool.false_ne_true]
    refine ⟨?_, ?_, ?_⟩
    · intro target signer
      exact Deployment.step_of_failed opened
        (Vault.perform_isKeySignedBy_of_offline nonce target signer online)
    · intro target signer signature
      exact Deployment.step_of_noting opened
        (Vault.perform_putSignature_of_offline nonce target signer signature online)
    · intro signer
      exact Deployment.step_of_noting opened
        (Vault.perform_dropSignatures_of_offline nonce signer online)

/-- Two vaults sign: a signer has two targets, of which one is signed twice, and is a target
itself; another signer is revoked. The first account is deleted, and over a closed pool the
first signer is not revoked.
-/
def signingTogether : List (Aead.Nonce × Event) :=
  let events : List Event :=
    [.openVault "first" ⟨"@a"⟩ ⟨.replicate 32 0⟩,
     .openVault "second" ⟨"@b"⟩ ⟨.replicate 32 0⟩,
     .call "first" (.putSignature ⟨⟨"@user"⟩, ⟨"k1"⟩⟩ ⟨⟨"@user"⟩, ⟨"master"⟩⟩ "s1"),
     .call "second" (.putSignature ⟨⟨"@user"⟩, ⟨"k1"⟩⟩ ⟨⟨"@user"⟩, ⟨"master"⟩⟩ "s2"),
     .call "second" (.putSignature ⟨⟨"@user"⟩, ⟨"k2"⟩⟩ ⟨⟨"@user"⟩, ⟨"master"⟩⟩ "s3"),
     .call "first" (.putSignature ⟨⟨"@user"⟩, ⟨"master"⟩⟩ ⟨⟨"@other"⟩, ⟨"master"⟩⟩ "s4"),
     .call "first" (.putSignature ⟨⟨"@user"⟩, ⟨"k2"⟩⟩ ⟨⟨"@user"⟩, ⟨"old"⟩⟩ "s5"),
     .call "second" (.dropSignatures ⟨⟨"@user"⟩, ⟨"old"⟩⟩),
     .call "first" .delete,
     .closePool "second",
     .call "second" (.dropSignatures ⟨⟨"@user"⟩, ⟨"master"⟩⟩)]
  events.map fun event => (.replicate 24 0, event)

/-- Then the edges of the first signer stand and that of the revoked one does not. Revoking the
first signer counts both targets and leaves the edge to it.
-/
theorem signingTogether_stands_until_revoked
    : let reached := (Deployment.empty.run signingTogether).2
      let handle := Handle.fresh ⟨"@a"⟩ ⟨.replicate 32 0⟩ (.sqlite 0)
      let told (deployment : Deployment) (target signer : Signer) : Reply :=
        (deployment.step (.replicate 24 0) (.call "first" (.isKeySignedBy target signer))).1
      let revoked :=
        reached.step (.replicate 24 0) (.call "first" (.dropSignatures ⟨⟨"@user"⟩, ⟨"master"⟩⟩))
      reached.handle? "first" = some handle
      ∧ reached.isOnline handle.backend = true
      ∧ told reached ⟨⟨"@user"⟩, ⟨"k1"⟩⟩ ⟨⟨"@user"⟩, ⟨"master"⟩⟩ = ⟨.ok (.flag true), []⟩
      ∧ told reached ⟨⟨"@user"⟩, ⟨"k2"⟩⟩ ⟨⟨"@user"⟩, ⟨"old"⟩⟩ = ⟨.ok (.flag false), []⟩
      ∧ (∃ targets : List Signer,
          revoked.1 = ⟨.ok (.dropped (some targets.length)), []⟩
          ∧ targets.Nodup
          ∧ ⟨⟨"@user"⟩, ⟨"k1"⟩⟩ ∈ targets
          ∧ ⟨⟨"@user"⟩, ⟨"k2"⟩⟩ ∈ targets
          ∧ ⟨⟨"@user"⟩, ⟨"master"⟩⟩ ∉ targets)
      ∧ told revoked.2 ⟨⟨"@user"⟩, ⟨"k1"⟩⟩ ⟨⟨"@user"⟩, ⟨"master"⟩⟩ = ⟨.ok (.flag false), []⟩
      ∧ told revoked.2 ⟨⟨"@user"⟩, ⟨"master"⟩⟩ ⟨⟨"@other"⟩, ⟨"master"⟩⟩
        = ⟨.ok (.flag true), []⟩ := by
  intro reached handle told revoked
  let past := Deployment.empty.moments signingTogether
  have opened : reached.handle? "first" = some handle := by decide
  have online : reached.isOnline handle.backend = true := by decide
  have first : Standing ⟨⟨"@user"⟩, ⟨"k1"⟩⟩ ⟨⟨"@user"⟩, ⟨"master"⟩⟩ past := by decide
  have second : Standing ⟨⟨"@user"⟩, ⟨"k2"⟩⟩ ⟨⟨"@user"⟩, ⟨"master"⟩⟩ past := by decide
  have inward : Standing ⟨⟨"@user"⟩, ⟨"master"⟩⟩ ⟨⟨"@other"⟩, ⟨"master"⟩⟩ past := by decide
  have unsigned : ¬ Standing ⟨⟨"@user"⟩, ⟨"master"⟩⟩ ⟨⟨"@user"⟩, ⟨"master"⟩⟩ past := by decide
  have gone : ¬ Standing ⟨⟨"@user"⟩, ⟨"k2"⟩⟩ ⟨⟨"@user"⟩, ⟨"old"⟩⟩ past := by decide
  have stands := signatures_stand_until_revoked opened (.replicate 24 0)
  rw [if_pos online] at stands
  obtain ⟨answers, _, drops⟩ := stands
  obtain ⟨⟨targets, counted, distinct, signed⟩, revoked, kept⟩ :=
    drops ⟨⟨"@user"⟩, ⟨"master"⟩⟩
  refine ⟨opened, online, ?_, ?_, ⟨targets, counted, distinct, ?_, ?_, ?_⟩, revoked _, ?_⟩
  · exact (answers _ _).trans (by rw [decide_eq_true first])
  · exact (answers _ _).trans (by rw [decide_eq_false gone])
  · exact (signed _).mpr first
  · exact (signed _).mpr second
  · exact fun member => unsigned ((signed _).mp member)
  · refine (kept "first" _ ⟨⟨"@other"⟩, ⟨"master"⟩⟩ (by decide)).trans ((answers _ _).trans ?_)
    rw [decide_eq_true inward]

end KeyVault
