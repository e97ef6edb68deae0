import KeyVault.Chunks
/-!
The stream cipher ChaCha20 and the derivation of a subkey from a long nonce. The cipher is
the bytewise exclusive or with a key stream, so applying it twice changes nothing.
-/

namespace KeyVault.ChaCha20

abbrev State := Vector UInt32 16

abbrev Key := Vector UInt32 8

/-- The word of four bytes, the least significant first. -/
def word (b0 b1 b2 b3 : UInt8) : UInt32 :=
  b0.toUInt32 ||| (b1.toUInt32 <<< 8) ||| (b2.toUInt32 <<< 16) ||| (b3.toUInt32 <<< 24)

/-- The bytes of a word, the least significant first. -/
def bytes (w : UInt32) : List UInt8 :=
  [w.toUInt8, (w >>> 8).toUInt8, (w >>> 16).toUInt8, (w >>> 24).toUInt8]

/-- The words of a byte string whose length is a multiple of four. -/
def words {n : Nat} (b : Vector UInt8 (4 * n)) : Vector UInt32 n :=
  Vector.ofFn fun i => word b[4 * i.val] b[4 * i.val + 1] b[4 * i.val + 2] b[4 * i.val + 3]

def rotate (x : UInt32) (count : UInt32) : UInt32 :=
  (x <<< count) ||| (x >>> (32 - count))

/-- Adds one word to another and mixes the sum into a third. -/
def mix (s : State) (a b d : Fin 16) (count : UInt32) : State :=
  let sum := s[a] + s[b]
  (s.set a sum).set d (rotate (s[d] ^^^ sum) count)

/-- Four mixing steps on four words. -/
def quarterRound (s : State) (a b c d : Fin 16) : State :=
  mix (mix (mix (mix s a b d 16) c d b 12) a b d 8) c d b 7

/-- A round on the columns and one on the diagonals. -/
def doubleRound (s : State) : State :=
  let columns := quarterRound (quarterRound (quarterRound (quarterRound s
    0 4 8 12) 1 5 9 13) 2 6 10 14) 3 7 11 15
  quarterRound (quarterRound (quarterRound (quarterRound columns
    0 5 10 15) 1 6 11 12) 2 7 8 13) 3 4 9 14

def permute (s : State) : State :=
  (List.range 10).foldl (fun state _ => doubleRound state) s

/-- The constants that fill the first row of the state. -/
def constants : Vector UInt32 4 :=
  #v[0x61707865, 0x3320646e, 0x79622d32, 0x6b206574]

/-- The state of a key and the four words that follow it. -/
def start (key : Key) (last : Vector UInt32 4) : State :=
  constants ++ key ++ last

/-- The key that a key and the first sixteen bytes of a long nonce make: the first and the
last row of the permuted state.
-/
def subkey (key : Key) (nonce : Vector UInt32 4) : Key :=
  let mixed := permute (start key nonce)
  mixed.take 4 ++ mixed.drop 12

def block (key : Key) (nonce : Vector UInt32 3) (counter : UInt32) : List UInt8 :=
  let state := start key #v[counter, nonce[0], nonce[1], nonce[2]]
  (state.zipWith (· + ·) (permute state)).toList.flatMap bytes

/-- The bytewise exclusive or of a piece of text and a block of key stream. -/
def mask (stream piece : List UInt8) : List UInt8 :=
  List.zipWith (· ^^^ ·) piece stream

/-- Applies the key stream to the pieces of a text, one block to each. -/
def applyFrom (key : Key) (nonce : Vector UInt32 3) : UInt32 → List (List UInt8) → List UInt8
  | _, [] => []
  | counter, piece :: rest => mask (block key nonce counter) piece ++ applyFrom key nonce (counter + 1) rest

/-- Applies the key stream from a block counter on. -/
def apply (key : Key) (nonce : Vector UInt32 3) (counter : UInt32) (text : List UInt8)
    : List UInt8 :=
  applyFrom key nonce counter (chunks 64 text)

theorem length_bytes (w : UInt32) : (bytes w).length = 4 :=
  rfl

theorem length_flatMap_bytes (s : State) : (s.toList.flatMap bytes).length = 64 := by
  simp [List.length_flatMap, length_bytes, List.map_const']

theorem length_block (key : Key) (nonce : Vector UInt32 3) (counter : UInt32)
    : (block key nonce counter).length = 64 :=
  length_flatMap_bytes _

theorem length_mask {stream piece : List UInt8} (h : piece.length ≤ stream.length)
    : (mask stream piece).length = piece.length := by
  simp [mask]
  omega

/-- Masking twice with one stream is the identity. -/
theorem mask_mask {stream piece : List UInt8} (h : piece.length ≤ stream.length)
    : mask stream (mask stream piece) = piece := by
  induction piece generalizing stream with
  | nil => simp [mask]
  | cons byte piece ih =>
    cases stream with
    | nil => simp at h
    | cons key stream =>
      have inner := ih (show piece.length ≤ stream.length by simpa using h)
      simp only [mask, List.zipWith_cons_cons, UInt8.xor_assoc, UInt8.xor_self, UInt8.xor_zero] at inner ⊢
      rw [inner]

end KeyVault.ChaCha20
