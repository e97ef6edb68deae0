import KeyVault.Chunks
/-!
The one-time authenticator Poly1305: the blocks of a message are the coefficients of a
polynomial, which is evaluated modulo a prime at a secret point and then shifted by a secret
number.
-/

namespace KeyVault.Poly1305

/-- The modulus: five less than a power of two. -/
def prime : Nat :=
  0x3fffffffffffffffffffffffffffffffb

/-- The number of a byte string, the least significant byte first. -/
def littleEndian : List UInt8 → Nat
  | [] => 0
  | byte :: rest => byte.toNat + 256 * littleEndian rest

/-- The bytes of a number, the least significant first. -/
def bytes : Nat → Nat → List UInt8
  | 0, _ => []
  | count + 1, n => UInt8.ofNat n :: bytes count (n / 256)

/-- The point of a key: some of its bits are cleared. -/
def clamp (r : Nat) : Nat :=
  r &&& 0x0ffffffc0ffffffc0ffffffc0fffffff

/-- A block as a coefficient, with a one above its highest byte. -/
def coefficient (block : List UInt8) : Nat :=
  littleEndian (block ++ [1])

/-- The value of the message's polynomial at a point. -/
def evaluate (point : Nat) (message : List UInt8) : Nat :=
  (chunks 16 message).foldl (fun sum block => (sum + coefficient block) * point % prime) 0

/-- The tag of a message under a key of thirty-two bytes. -/
def tag (key message : List UInt8) : List UInt8 :=
  bytes 16 (evaluate (clamp (littleEndian (key.take 16))) message + littleEndian (key.drop 16))

theorem length_bytes (count n : Nat) : (bytes count n).length = count := by
  induction count generalizing n with
  | zero => rfl
  | succ count ih => simp [bytes, ih]

theorem length_tag (key message : List UInt8) : (tag key message).length = 16 :=
  length_bytes _ _

end KeyVault.Poly1305
