import KeyVault.Cipher.ChaCha20
import KeyVault.Cipher.Poly1305
/-!
Authenticated encryption with a long nonce: the body is masked by a stream cipher under a
subkey of the nonce, and a tag over the associated data and the masked body is put behind
it.
-/

namespace KeyVault.Aead

abbrev Key := Vector UInt8 32

abbrev Nonce := Vector UInt8 24

def tagLength : Nat :=
  16

/-- The key of the stream: made from the key and the first sixteen bytes of the nonce. -/
def streamKey (key : Key) (nonce : Nonce) : ChaCha20.Key :=
  ChaCha20.subkey (ChaCha20.words (n := 8) key)
    (ChaCha20.words (n := 4) (Vector.ofFn fun i => nonce[i.val]))

/-- The nonce of the stream: a zero word and the last eight bytes of the nonce. -/
def streamNonce (nonce : Nonce) : Vector UInt32 3 :=
  let tail := ChaCha20.words (n := 2) (Vector.ofFn fun i => nonce[16 + i.val])
  #v[0, tail[0], tail[1]]

/-- Zeros up to the next multiple of sixteen. -/
def padding (bytes : List UInt8) : List UInt8 :=
  List.replicate ((16 - bytes.length % 16) % 16) 0

/-- What the tag covers: the associated data and the masked body, each padded, and both
lengths.
-/
def covered (associated masked : List UInt8) : List UInt8 :=
  associated ++ padding associated ++ masked ++ padding masked
    ++ Poly1305.bytes 8 associated.length ++ Poly1305.bytes 8 masked.length

/-- Masks or unmasks a body; the first block of the stream is left to the tag. -/
def mask (key : Key) (nonce : Nonce) (body : List UInt8) : List UInt8 :=
  ChaCha20.apply (streamKey key nonce) (streamNonce nonce) 1 body

/-- The tag of a masked body, keyed by the first block of the stream. -/
def tag (key : Key) (nonce : Nonce) (associated masked : List UInt8) : List UInt8 :=
  let once := (ChaCha20.block (streamKey key nonce) (streamNonce nonce) 0).take 32
  Poly1305.tag once (covered associated masked)

/-- Encrypts a body and puts its tag behind it. -/
def encrypt (key : Key) (nonce : Nonce) (associated body : List UInt8) : List UInt8 :=
  let masked := mask key nonce body
  masked ++ tag key nonce associated masked

/-- Gives back the body when the last sixteen bytes are the tag of what stands before them. -/
def decrypt (key : Key) (nonce : Nonce) (associated sealed : List UInt8) : Option (List UInt8) :=
  let length := sealed.length - tagLength
  let masked := sealed.take length
  if tagLength ≤ sealed.length ∧ sealed.drop length = tag key nonce associated masked then
    some (mask key nonce masked)
  else none

end KeyVault.Aead
