/-!
Characters of a byte string. Text that arrives as bytes need not be valid UTF-8; it is taken
apart into characters and stray bytes, so that a reader may accept a stray byte where nobody
asks for the text. Main statement: the characters of encoded text are the characters that
were encoded.
-/

namespace KeyVault.Utf8

/-- A character, or none for a byte that belongs to no character. -/
abbrev Glyph := Option Char

def encode (text : List Char) : List UInt8 :=
  text.flatMap String.utf8EncodeChar

/-- The character that starts a byte string. No character takes more than four bytes. -/
def leading (bytes : List UInt8) : Option Char :=
  (bytes.take 4).toByteArray.utf8DecodeChar? 0

/-- Takes the longest characters that stand in front; a byte that starts none stands for
itself.
-/
def decode (bytes : List UInt8) : List Glyph :=
  match bytes with
  | [] => []
  | byte :: rest =>
    match leading (byte :: rest) with
    | some c => some c :: decode ((byte :: rest).drop c.utf8Size)
    | none => none :: decode rest
termination_by bytes.length
decreasing_by
  · have := c.utf8Size_pos
    simp only [List.length_drop, List.length_cons]
    omega
  · simp

/-- The characters of a text that is known to be valid. -/
def glyphs (text : String) : List Glyph :=
  text.toList.map some

theorem encode_cons (c : Char) (text : List Char)
    : encode (c :: text) = String.utf8EncodeChar c ++ encode text := by
  simp [encode]

/-- The first four bytes hold the whole first character, whatever follows it. -/
theorem leading_utf8EncodeChar_append (c : Char) (rest : List UInt8)
    : leading (String.utf8EncodeChar c ++ rest) = some c := by
  have size : (String.utf8EncodeChar c).length ≤ 4 := by
    rw [String.length_utf8EncodeChar]
    exact c.utf8Size_le_four
  unfold leading
  rw [List.take_append, List.take_of_length_le size, List.toByteArray_append]
  exact ByteArray.utf8DecodeChar?_utf8EncodeChar_append

theorem decode_utf8EncodeChar_append (c : Char) (rest : List UInt8)
    : decode (String.utf8EncodeChar c ++ rest) = some c :: decode rest := by
  have first := leading_utf8EncodeChar_append c rest
  have size := String.length_utf8EncodeChar c
  have positive := c.utf8Size_pos
  cases bytes : String.utf8EncodeChar c with
  | nil => simp [bytes] at size; omega
  | cons byte tail =>
    rw [bytes] at first size
    rw [List.cons_append] at first ⊢
    rw [decode, first]
    simp only
    rw [← List.cons_append, List.drop_append_of_le_length (by omega), ← size, List.drop_length,
      List.nil_append]

/-- Decoding gives back the text that was encoded, and nothing in it is stray. -/
theorem decode_encode (text : List Char)
    : decode (encode text) = text.map some := by
  induction text with
  | nil => simp [encode, decode]
  | cons c text ih => rw [encode_cons, decode_utf8EncodeChar_append, ih, List.map_cons]

end KeyVault.Utf8
