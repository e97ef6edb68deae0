import KeyVault.Hash.Sha256
/-!
Message authentication with a keyed hash, and the derivation of keys from a secret by it.
-/

namespace KeyVault.Hmac

/-- A key in one block: a longer one is hashed first, a shorter one is filled with zeros. -/
def keyBlock (key : List UInt8) : List UInt8 :=
  let short := if key.length ≤ 64 then key else Sha256.digest key
  short ++ List.replicate (64 - short.length) 0

/-- The code of a message under a key: an inner and an outer hash, each behind the masked
key.
-/
def code (key message : List UInt8) : List UInt8 :=
  let block := keyBlock key
  let inner := Sha256.digest (block.map (· ^^^ 0x36) ++ message)
  Sha256.digest (block.map (· ^^^ 0x5c) ++ inner)

theorem length_code (key message : List UInt8) : (code key message).length = 32 :=
  Sha256.length_digest _

/-- The key of a secret that is spread evenly by a salt. -/
def extract (salt secret : List UInt8) : List UInt8 :=
  code salt secret

/-- So many blocks of key material, each made from the one before it, the purpose and a
counter.
-/
def expand (key purpose : List UInt8) : Nat → List UInt8 → UInt8 → List UInt8
  | 0, _, _ => []
  | count + 1, previous, counter =>
    let block := code key (previous ++ purpose ++ [counter])
    block ++ expand key purpose count block (counter + 1)

/-- Thirty-two bytes derived from a secret for a purpose. -/
def derive (salt secret purpose : List UInt8) : List UInt8 :=
  expand (extract salt secret) purpose 1 [] 1

theorem length_derive (salt secret purpose : List UInt8)
    : (derive salt secret purpose).length = 32 := by
  simp [derive, expand, length_code]

end KeyVault.Hmac
