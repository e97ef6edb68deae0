import KeyVault.Pickle
/-!
Sealing loses nothing. The stream cipher undoes itself, so that what is encrypted decrypts
to its body under the same key, nonce and associated data, and a sealed pickle opens as its
kind. It is longer than its body by a version, a nonce and a tag.
-/

namespace KeyVault

namespace ChaCha20

variable (key : Key) (nonce : Vector UInt32 3) (counter : UInt32) (text : List UInt8)

/-- The key stream applied to nothing gives nothing. -/
theorem apply_nil : apply key nonce counter [] = [] := by
  unfold apply chunks
  rfl

/-- One block of the key stream masks the first piece of a text, and the stream goes on
behind it.
-/
theorem apply_eq
    : apply key nonce counter text
      = mask (block key nonce counter) (text.take 64)
        ++ apply key nonce (counter + 1) (text.drop 64) := by
  by_cases empty : text = []
  · subst empty
    simp [apply_nil, mask]
  · unfold apply
    rw [chunks, if_neg (by simp [empty])]
    rfl

/-- A block of the key stream is as long as a whole piece, so that no byte of a piece is
left unmasked.
-/
theorem take_le_block : (text.take 64).length ≤ (block key nonce counter).length := by
  rw [length_block]
  exact List.length_take_le 64 text

/-- The first piece of a masked text is the masked first piece. -/
theorem take_apply
    : (apply key nonce counter text).take 64 = mask (block key nonce counter) (text.take 64) := by
  have length := length_mask (take_le_block key nonce counter text)
  rw [apply_eq]
  by_cases whole : 64 ≤ text.length
  · exact List.take_left' (by rw [length, List.length_take]; omega)
  · have last : text.drop 64 = [] := List.drop_of_length_le (by omega)
    rw [last, apply_nil, List.append_nil, List.take_of_length_le]
    rw [length]
    exact List.length_take_le 64 text

/-- What stands behind the first piece of a masked text is what stood there, masked from the
next block on.
-/
theorem drop_apply
    : (apply key nonce counter text).drop 64 = apply key nonce (counter + 1) (text.drop 64) := by
  have length := length_mask (take_le_block key nonce counter text)
  rw [apply_eq]
  by_cases whole : 64 ≤ text.length
  · exact List.drop_left' (by rw [length, List.length_take]; omega)
  · have last : text.drop 64 = [] := List.drop_of_length_le (by omega)
    rw [last, apply_nil, List.append_nil, List.drop_of_length_le]
    rw [length]
    exact List.length_take_le 64 text

/-- The key stream undoes itself, by induction over the pieces of the text: a masked piece
is masked by the same block again.
-/
theorem apply_apply : apply key nonce counter (apply key nonce counter text) = text := by
  fun_induction chunks 64 text generalizing counter with
  | case1 text none =>
    have empty : text = [] := by simpa using none
    rw [empty, apply_nil, apply_nil]
  | case2 text _ ih =>
    rw [apply_eq key nonce counter (apply key nonce counter text), take_apply, drop_apply, ih,
      mask_mask (take_le_block key nonce counter text), List.take_append_drop]

/-- A masked text is as long as the text, by induction over its pieces. -/
theorem length_apply : (apply key nonce counter text).length = text.length := by
  fun_induction chunks 64 text generalizing counter with
  | case1 text none =>
    have empty : text = [] := by simpa using none
    rw [empty, apply_nil]
  | case2 text _ ih =>
    rw [apply_eq, List.length_append, length_mask (take_le_block key nonce counter text), ih,
      ← List.length_append, List.take_append_drop]

end ChaCha20

namespace Aead

variable (key : Key) (nonce : Nonce) (associated : List UInt8)

/-- A masked body with its tag behind it is unmasked. -/
theorem decrypt_append_tag (masked : List UInt8)
    : decrypt key nonce associated (masked ++ tag key nonce associated masked)
      = some (mask key nonce masked) := by
  have tagged : (tag key nonce associated masked).length = tagLength := Poly1305.length_tag _ _
  have cut : (masked ++ tag key nonce associated masked).length - tagLength = masked.length := by
    rw [List.length_append, tagged]
    omega
  have long : tagLength ≤ (masked ++ tag key nonce associated masked).length := by
    rw [List.length_append, tagged]
    omega
  simp only [decrypt, cut, long, List.take_left', List.drop_left', true_and, if_true]

/-- A body that was encrypted decrypts to itself under the same key, nonce and associated
data.
-/
theorem decrypt_encrypt (body : List UInt8)
    : decrypt key nonce associated (encrypt key nonce associated body) = some body := by
  unfold encrypt
  rw [decrypt_append_tag]
  exact congrArg some (ChaCha20.apply_apply _ _ _ _)

/-- An encrypted body is longer than the body by the tag. -/
theorem length_encrypt (body : List UInt8)
    : (encrypt key nonce associated body).length = body.length + tagLength := by
  have masked : (mask key nonce body).length = body.length := ChaCha20.length_apply _ _ _ _
  have tagged : (tag key nonce associated (mask key nonce body)).length = tagLength :=
    Poly1305.length_tag _ _
  rw [encrypt, List.length_append, masked, tagged]

end Aead

namespace Pickle

/-- The layout of a pickle: a version, the nonce, and behind them what is sealed, which is
longer than the body by a tag.
-/
structure LaidOut (nonce : Aead.Nonce) (body : List UInt8) (blob : Blob) : Prop where
  version : blob.head? = some version
  nonce : (blob.drop 1).take nonceLength = nonce.toList
  length : blob.length = 41 + body.length

variable (key : PickleKey) (kind : PickleKind) (nonce : Aead.Nonce) (body : List UInt8)

/-- The nonce of a pickle is the one that stands behind its version. -/
theorem nonceOf_append (sealed : List UInt8)
    : nonceOf (version :: nonce.toList ++ sealed) = nonce := by
  apply Vector.ext
  intro place within
  simp [nonceOf, List.getElem?_append, Nat.add_comm 1]

/-- The nonce of a sealed pickle is the one that it was sealed with. -/
theorem nonceOf_sealBody : nonceOf (sealBody key kind nonce body) = nonce :=
  nonceOf_append nonce _

/-- Behind a version and a nonce a pickle opens to what the rest decrypts to. -/
theorem openBody_append {sealed : List UInt8} (long : Aead.tagLength ≤ sealed.length)
    : openBody key kind (version :: nonce.toList ++ sealed)
      = (Aead.decrypt key.bytes nonce (associated version kind) sealed).elim
          (.error .undecipherable) .ok := by
  have length : ¬ (version :: nonce.toList ++ sealed).length < overhead := by
    simp [overhead, nonceLength]
    omega
  have behind : (version :: nonce.toList ++ sealed).drop (1 + nonceLength) = sealed :=
    List.drop_left' (by simp [nonceLength])
  have nonceOf := nonceOf_append nonce sealed
  rw [List.cons_append] at length behind nonceOf ⊢
  simp only [openBody, length, behind, nonceOf, if_false, ne_eq, not_true_eq_false]
  cases Aead.decrypt key.bytes nonce (associated version kind) sealed <;> rfl

/-- A sealed pickle opens under its key, as its kind, to the body that was sealed. -/
theorem openBody_sealBody : openBody key kind (sealBody key kind nonce body) = .ok body := by
  have long
      : Aead.tagLength
        ≤ (Aead.encrypt key.bytes nonce (associated version kind) body).length := by
    rw [Aead.length_encrypt]
    exact Nat.le_add_left ..
  rw [sealBody, openBody_append key kind nonce long, Aead.decrypt_encrypt]
  rfl

/-- A sealed pickle has the layout of a pickle. -/
theorem laidOut_sealBody : LaidOut nonce body (sealBody key kind nonce body) where
  version := rfl
  nonce := List.take_left' (by simp [nonceLength])
  length := by
    have header : (version :: nonce.toList).length = 25 := by simp
    rw [sealBody, List.length_append, header, Aead.length_encrypt, Aead.tagLength]
    omega

end Pickle

end KeyVault
