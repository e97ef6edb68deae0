import KeyVault.Proofs.Pickle.Sealing
/-!
Pickles are canonical. A pickle that opens is the one that sealing its body with its nonce
makes, so that no other pickle with that nonce opens to the body, and every change of its
version or of its tag is found.
-/

namespace KeyVault

open Json (Form)

namespace Aead

variable {key : Key} {nonce : Nonce} {associated masked sealed body : List UInt8}

/-- What decrypts to a body is what the body encrypts to. -/
theorem decrypt_eq_some_iff
    : decrypt key nonce associated sealed = some body
      ↔ sealed = encrypt key nonce associated body := by
  constructor
  · intro decrypted
    simp only [decrypt, Option.ite_none_right_eq_some, Option.some.injEq] at decrypted
    obtain ⟨⟨_, tagged⟩, rfl⟩ := decrypted
    let length := sealed.length - tagLength
    have unmasked : mask key nonce (mask key nonce (sealed.take length)) = sealed.take length :=
      ChaCha20.apply_apply _ _ _ _
    rw [encrypt, unmasked, ← tagged, List.take_append_drop]
  · rintro rfl
    exact decrypt_encrypt key nonce associated body

/-- A masked body with other bytes in the place of its tag does not decrypt. -/
theorem decrypt_append_eq_none {last : List UInt8} (length : last.length = tagLength)
    (other : last ≠ tag key nonce associated masked)
    : decrypt key nonce associated (masked ++ last) = none := by
  cases decrypted : decrypt key nonce associated (masked ++ last) with
  | none => rfl
  | some body =>
    have tagged
        : (tag key nonce associated (mask key nonce body)).length = last.length :=
      (Poly1305.length_tag _ _).trans length.symm
    obtain ⟨rfl, same⟩ := List.append_inj' (decrypt_eq_some_iff.mp decrypted) tagged.symm
    exact absurd same other

end Aead

namespace Pickle

variable {key : PickleKey} {kind : PickleKind} {nonce : Aead.Nonce} {blob : Blob}
  {body : List UInt8}

/-- A pickle that is shorter than version, nonce and tag does not open, whatever its version
is.
-/
theorem openBody_of_short (short : blob.length < overhead)
    : openBody key kind blob = .error .undecipherable := by
  cases blob with
  | nil => rfl
  | cons first rest => simp only [openBody, if_pos short]

/-- A pickle of another version is found to be so before it is decrypted. -/
theorem openBody_of_version {first : UInt8} {rest : List UInt8}
    (long : overhead ≤ (first :: rest).length) (other : first ≠ version)
    : openBody key kind (first :: rest) = .error (.version first) := by
  simp only [openBody, if_neg (Nat.not_lt.mpr long), if_pos other]

/-- The nonce of a pickle is made of the 24 bytes behind its version. -/
theorem toList_nonceOf (long : overhead ≤ blob.length)
    : (nonceOf blob).toList = (blob.drop 1).take nonceLength := by
  have reaches : 1 + nonceLength ≤ blob.length := by
    simp only [overhead] at long
    omega
  refine List.ext_getElem ?_ ?_
  · simp only [nonceLength] at reaches
    simp [nonceLength]
    omega
  · intro place within _
    have there : place + 1 < blob.length := by
      simp only [Vector.length_toList] at within
      simp only [nonceLength] at reaches
      omega
    simp [nonceOf, Nat.add_comm 1, there]

/-- A pickle that is long enough falls into its version, its nonce and the rest. -/
theorem eq_append_nonceOf {rest : List UInt8} (long : overhead ≤ (version :: rest).length)
    : version :: rest
      = version :: (nonceOf (version :: rest)).toList ++ rest.drop nonceLength := by
  rw [toList_nonceOf long, List.drop_one, List.tail_cons, List.cons_append,
    List.take_append_drop]

/-- A pickle that opens is long enough and of the current version. -/
theorem exists_of_openBody (opened : openBody key kind blob = .ok body)
    : ∃ rest, blob = version :: rest ∧ overhead ≤ blob.length := by
  by_cases short : blob.length < overhead
  · rw [openBody_of_short short] at opened
    cases opened
  · have long : overhead ≤ blob.length := Nat.not_lt.mp short
    cases blob with
    | nil => cases opened
    | cons first rest =>
      by_cases current : first = version
      · exact ⟨rest, congrArg (· :: rest) current, long⟩
      · rw [openBody_of_version long current] at opened
        cases opened

/-- A pickle opens to a body exactly if it is what sealing the body with its nonce makes. -/
theorem openBody_eq_ok_iff
    : openBody key kind blob = .ok body ↔ blob = sealBody key kind (nonceOf blob) body := by
  constructor
  · intro opened
    obtain ⟨rest, rfl, long⟩ := exists_of_openBody opened
    have behind : Aead.tagLength ≤ (rest.drop nonceLength).length := by
      simp only [overhead, List.length_cons] at long
      rw [List.length_drop]
      omega
    rw [eq_append_nonceOf long, openBody_append key kind _ behind] at opened
    cases decrypted
        : Aead.decrypt key.bytes (nonceOf (version :: rest)) (associated version kind)
            (rest.drop nonceLength) with
    | none =>
      rw [decrypted] at opened
      cases opened
    | some found =>
      rw [decrypted] at opened
      cases opened
      rw [sealBody, ← Aead.decrypt_eq_some_iff.mp decrypted]
      exact eq_append_nonceOf long
  · intro same
    rw [same]
    exact openBody_sealBody key kind _ body

/-- A pickle in which nothing but bytes of the tag were changed. -/
structure Retagged (sealed blob : Blob) : Prop where
  length : blob.length = sealed.length
  kept
    : blob.take (sealed.length - Aead.tagLength) = sealed.take (sealed.length - Aead.tagLength)
  changed : blob ≠ sealed

/-- A sealed pickle with a changed tag does not open. -/
theorem Retagged.openBody (damaged : Retagged (sealBody key kind nonce body) blob)
    : openBody key kind blob = .error .undecipherable := by
  let associated := associated version kind
  let masked := Aead.mask key.bytes nonce body
  let tag := Aead.tag key.bytes nonce associated masked
  let start := version :: nonce.toList ++ masked
  have length : tag.length = Aead.tagLength := Poly1305.length_tag _ _
  have sealed : sealBody key kind nonce body = start ++ tag := by
    simp only [sealBody, Aead.encrypt, start, tag, masked, associated, List.append_assoc]
  have cut : (start ++ tag).length - Aead.tagLength = start.length := by
    rw [List.length_append, length, Nat.add_sub_cancel]
  obtain ⟨same, kept, changed⟩ := damaged
  rw [sealed] at same kept changed
  rw [cut, List.take_left] at kept
  let last := blob.drop start.length
  have split : blob = start ++ last :=
    calc blob
        = blob.take start.length ++ last := (List.take_append_drop ..).symm
      _ = start ++ last := by rw [kept]
  have lengthLast : last.length = Aead.tagLength := by
    rw [List.length_drop, same, List.length_append, length, Nat.add_sub_cancel_left]
  have other : last ≠ tag := by
    intro untouched
    exact changed (split.trans (congrArg (start ++ ·) untouched))
  have failed : Aead.decrypt key.bytes nonce associated (masked ++ last) = none :=
    Aead.decrypt_append_eq_none lengthLast other
  have long : Aead.tagLength ≤ (masked ++ last).length := by
    rw [List.length_append, lengthLast]
    exact Nat.le_add_left ..
  rw [split, List.append_assoc, openBody_append key kind nonce long, failed]
  rfl

/-- Flipping bits of one of the last sixteen bytes changes nothing but the tag. -/
theorem retagged_flip (long : Aead.tagLength ≤ blob.length) {place : Int} {mask : UInt8}
    (last : -16 ≤ place) (behind : place < 0) (flips : mask ≠ 0)
    : Retagged blob ((Damage.flip place mask).apply blob) := by
  obtain ⟨index, found⟩ : ∃ index : Nat, place + blob.length = index :=
    Int.eq_ofNat_of_zero_le (by simp only [Aead.tagLength] at long; omega)
  have flipped
      : (Damage.flip place mask).apply blob = blob.modify index (· ^^^ mask) := by
    simp only [Damage.apply, if_pos behind, found]
    rfl
  rw [flipped]
  refine ⟨List.length_modify .., ?_, ?_⟩
  · rw [List.take_modify]
    refine List.modify_eq_self ?_
    simp only [Aead.tagLength, List.length_take]
    omega
  · intro same
    have there : index < blob.length := by omega
    have byte := congrArg (·[index]?) same
    simp only [List.getElem?_modify, List.getElem?_eq_getElem there, if_true, Option.map_some,
      Option.map_eq_map, Option.some.injEq] at byte
    exact flips ((UInt8.xor_right_inj _).mp (byte.trans UInt8.xor_zero.symm))

/-- A sealed pickle with another version is found to have it, whatever it is opened as. -/
theorem openBody_set_version (opener : PickleKey) (claimed : PickleKind) {first : UInt8}
    (changed : first ≠ version)
    : openBody opener claimed ((sealBody key kind nonce body).set 0 first)
      = .error (.version first) := by
  have length : ((sealBody key kind nonce body).set 0 first).length = 41 + body.length :=
    List.length_set.trans (laidOut_sealBody key kind nonce body).length
  exact openBody_of_version (Nat.le_trans (Nat.le_add_right 41 _) (Nat.le_of_eq length.symm))
    changed

/-- What does not open is not read. -/
theorem unpack_of_openBody {α : Type} (form : Form α) {fault : PickleFault}
    (failed : openBody key kind blob = .error fault)
    : unpack form key kind blob = .error fault := by
  rw [unpack, failed]
  rfl

end Pickle

/-- Pickles are canonical. A pickle opens to a body just where it is the version, its nonce and the
body encrypted with that nonce, so that no two pickles with one nonce open to one body. Another
version is reported as such; changed bytes of the tag, or fewer than 41 bytes in all, make a pickle
undecipherable.
-/
theorem pickles_are_canonical {α : Type} (form : Form α) (key : PickleKey) (kind : PickleKind)
    : (∀ blob body,
        let nonce := Pickle.nonceOf blob
        Pickle.openBody key kind blob = .ok body
        ↔ nonce.toList = (blob.drop 1).take 24
          ∧ blob
            = 1 :: nonce.toList
              ++ Aead.encrypt key.bytes nonce (1 :: PickleKey.labelled kind.label) body)
      ∧ (∀ blob other body,
          Pickle.openBody key kind blob = .ok body
          → Pickle.openBody key kind other = .ok body
          → Pickle.nonceOf blob = Pickle.nonceOf other
          → blob = other)
      ∧ (∀ nonce body,
          let sealed := Pickle.sealBody key kind nonce body
          (∀ first opener claimed,
            first ≠ 1
            → Pickle.unpack form opener claimed (sealed.set 0 first) = .error (.version first))
          ∧ ∀ blob,
              Pickle.Retagged sealed blob
              → Pickle.unpack form key kind blob = .error .undecipherable)
      ∧ ∀ blob : Blob,
          blob.length < 41 → Pickle.unpack form key kind blob = .error .undecipherable := by
  refine ⟨?_, ?_, ?_, ?_⟩
  · intro blob body nonce
    constructor
    · intro opened
      obtain ⟨_, _, long⟩ := Pickle.exists_of_openBody opened
      exact ⟨Pickle.toList_nonceOf long, Pickle.openBody_eq_ok_iff.mp opened⟩
    · intro ⟨_, sealed⟩
      exact Pickle.openBody_eq_ok_iff.mpr sealed
  · intro blob other body opened openedOther same
    have canonical := Pickle.openBody_eq_ok_iff.mp opened
    have canonicalOther := Pickle.openBody_eq_ok_iff.mp openedOther
    rw [canonical, canonicalOther, same]
  · intro nonce body sealed
    refine ⟨?_, ?_⟩
    · intro first opener claimed changed
      exact Pickle.unpack_of_openBody form (Pickle.openBody_set_version opener claimed changed)
    · intro blob damaged
      exact Pickle.unpack_of_openBody form damaged.openBody
  · intro blob short
    exact Pickle.unpack_of_openBody form (Pickle.openBody_of_short short)

/-- The pickle of an empty text is the only one with its nonce that opens to it. It is found
out when its version is changed and when a bit of its last byte is flipped, and four bytes are
no pickle.
-/
theorem damaged_pickle_is_found_out
    : let key := PickleKey.ofPassphrase "correct horse"
      let form : Form String := .ofKind .text id id
      let sealed := Pickle.sealBody key .account (.replicate 24 0) [0x22, 0x22]
      let damaged := (Pickle.Damage.flip (-1) 1).apply sealed
      Pickle.openBody key .account sealed = .ok [0x22, 0x22]
      ∧ (∀ other,
          Pickle.openBody key .account other = .ok [0x22, 0x22]
          → Pickle.nonceOf other = .replicate 24 0
          → other = sealed)
      ∧ Pickle.unpack form key .session (sealed.set 0 9) = .error (.version 9)
      ∧ Pickle.unpack form key .account damaged = .error .undecipherable
      ∧ Pickle.unpack form key .account [9, 1, 2, 3] = .error .undecipherable := by
  intro key form sealed damaged
  have opened : Pickle.openBody key .account sealed = .ok [0x22, 0x22] :=
    Pickle.openBody_sealBody key .account (.replicate 24 0) [0x22, 0x22]
  have long : Aead.tagLength ≤ sealed.length := by
    rw [(Pickle.laidOut_sealBody key .account (.replicate 24 0) [0x22, 0x22]).length]
    decide
  obtain ⟨_, unique, damage, short⟩ := pickles_are_canonical form key .account
  obtain ⟨version, tag⟩ := damage (.replicate 24 0) [0x22, 0x22]
  refine ⟨opened, ?_, version 9 key .session (by decide), ?_, short _ (by decide)⟩
  · intro other openedOther same
    exact unique other sealed [0x22, 0x22] openedOther opened
      (same.trans (Pickle.nonceOf_sealBody key .account (.replicate 24 0) [0x22, 0x22]).symm)
  · exact tag damaged (Pickle.retagged_flip long (by decide) (by decide) (by decide))

end KeyVault
