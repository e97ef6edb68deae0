import KeyVault.Chunks
/-!
The hash function SHA-256: a message is padded to whole blocks of 64 bytes, and each block
is mixed into a state of eight words.
-/

namespace KeyVault.Sha256

abbrev State := Vector UInt32 8

/-- The sixteen words of the schedule that the next word is made from. -/
abbrev Window := Vector UInt32 16

def initial : State :=
  #v[0x6a09e667, 0xbb67ae85, 0x3c6ef372, 0xa54ff53a, 0x510e527f, 0x9b05688c, 0x1f83d9ab, 0x5be0cd19]

/-- The constants of the sixty-four rounds. -/
def constants : List UInt32 :=
  [0x428a2f98, 0x71374491, 0xb5c0fbcf, 0xe9b5dba5, 0x3956c25b, 0x59f111f1, 0x923f82a4, 0xab1c5ed5,
   0xd807aa98, 0x12835b01, 0x243185be, 0x550c7dc3, 0x72be5d74, 0x80deb1fe, 0x9bdc06a7, 0xc19bf174,
   0xe49b69c1, 0xefbe4786, 0x0fc19dc6, 0x240ca1cc, 0x2de92c6f, 0x4a7484aa, 0x5cb0a9dc, 0x76f988da,
   0x983e5152, 0xa831c66d, 0xb00327c8, 0xbf597fc7, 0xc6e00bf3, 0xd5a79147, 0x06ca6351, 0x14292967,
   0x27b70a85, 0x2e1b2138, 0x4d2c6dfc, 0x53380d13, 0x650a7354, 0x766a0abb, 0x81c2c92e, 0x92722c85,
   0xa2bfe8a1, 0xa81a664b, 0xc24b8b70, 0xc76c51a3, 0xd192e819, 0xd6990624, 0xf40e3585, 0x106aa070,
   0x19a4c116, 0x1e376c08, 0x2748774c, 0x34b0bcb5, 0x391c0cb3, 0x4ed8aa4a, 0x5b9cca4f, 0x682e6ff3,
   0x748f82ee, 0x78a5636f, 0x84c87814, 0x8cc70208, 0x90befffa, 0xa4506ceb, 0xbef9a3f7, 0xc67178f2]

def rotate (x : UInt32) (count : UInt32) : UInt32 :=
  (x >>> count) ||| (x <<< (32 - count))

/-- The word of the schedule that follows a window. -/
def nextWord (w : Window) : UInt32 :=
  let early := rotate w[1] 7 ^^^ rotate w[1] 18 ^^^ (w[1] >>> 3)
  let late := rotate w[14] 17 ^^^ rotate w[14] 19 ^^^ (w[14] >>> 10)
  w[0] + early + w[9] + late

/-- Moves the window on by one word. -/
def slide (w : Window) : Window :=
  (w.drop 1).push (nextWord w)

/-- One round with a word of the schedule and a constant. -/
def round (s : State) (word constant : UInt32) : State :=
  let mixed := rotate s[4] 6 ^^^ rotate s[4] 11 ^^^ rotate s[4] 25
  let chosen := (s[4] &&& s[5]) ^^^ (~~~s[4] &&& s[6])
  let fresh := s[7] + mixed + chosen + constant + word
  let spread := rotate s[0] 2 ^^^ rotate s[0] 13 ^^^ rotate s[0] 22
  let agreed := (s[0] &&& s[1]) ^^^ (s[0] &&& s[2]) ^^^ (s[1] &&& s[2])
  #v[fresh + (spread + agreed), s[0], s[1], s[2], s[3] + fresh, s[4], s[5], s[6]]

/-- Mixes the words of a block into the state. -/
def compress (s : State) (block : Window) : State :=
  let (mixed, _) := constants.foldl
    (fun (state, window) constant => (round state window[0] constant, slide window)) (s, block)
  s.zipWith (· + ·) mixed

/-- The word of four bytes, the most significant first. -/
def word (bytes : List UInt8) (start : Nat) : UInt32 :=
  let byte (i : Nat) : UInt32 := (bytes.getD (start + i) 0).toUInt32
  (byte 0 <<< 24) ||| (byte 1 <<< 16) ||| (byte 2 <<< 8) ||| byte 3

def words (block : List UInt8) : Window :=
  Vector.ofFn fun i => word block (4 * i.val)

/-- The bytes of a number, the most significant first. -/
def bigEndian : Nat → Nat → List UInt8
  | 0, _ => []
  | count + 1, n => bigEndian count (n / 256) ++ [UInt8.ofNat n]

/-- A message followed by a single bit, zeros, and its length in bits. -/
def pad (message : List UInt8) : List UInt8 :=
  let zeros := (119 - message.length % 64) % 64
  message ++ [0x80] ++ List.replicate zeros 0 ++ bigEndian 8 (8 * message.length)

def digest (message : List UInt8) : List UInt8 :=
  let final := (chunks 64 (pad message)).foldl (fun state block => compress state (words block)) initial
  final.toList.flatMap fun word => bigEndian 4 word.toNat

theorem length_bigEndian (count n : Nat) : (bigEndian count n).length = count := by
  induction count generalizing n with
  | zero => rfl
  | succ count ih => simp [bigEndian, ih]

theorem length_digest (message : List UInt8) : (digest message).length = 32 := by
  simp [digest, List.length_flatMap, length_bigEndian, List.map_const']

end KeyVault.Sha256
