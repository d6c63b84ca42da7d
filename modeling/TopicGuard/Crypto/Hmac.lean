import TopicGuard.Crypto.Sha2

/-!
Keyed hashes.

`Hmac.tag` authenticates a message under a secret: the secret, filled up to a whole block, goes into the
hash twice with two different masks. A secret longer than a block is replaced by its hash first.
-/

set_option autoImplicit false

namespace TopicGuard.Crypto

/-- A hash function and the length of its blocks in bytes. -/
structure Hash where
  apply : Bytes → Bytes
  block : Nat
  length : Nat

namespace Hash

/-- SHA-256 with its block of 64 bytes. -/
def sha256 : Hash := ⟨Sha2.sha256, 64, 32⟩

/-- SHA-384 with its block of 128 bytes. -/
def sha384 : Hash := ⟨Sha2.sha384, 128, 48⟩

/-- SHA-512 with its block of 128 bytes. -/
def sha512 : Hash := ⟨Sha2.sha512, 128, 64⟩

end Hash

namespace Hmac

/-- A secret as exactly one block. -/
def blockKey (h : Hash) (secret : Bytes) : Bytes :=
  let key := if h.block < secret.length then h.apply secret else secret
  key ++ List.replicate (h.block - key.length) 0

/-- The authentication tag of a message. -/
def tag (h : Hash) (secret message : Bytes) : Bytes :=
  let key := blockKey h secret
  let inner := h.apply (key.map (· ^^^ 0x36) ++ message)
  h.apply (key.map (· ^^^ 0x5C) ++ inner)

-- A known answer.
example : tag .sha256 (Utf8.encode "Jefe") (Utf8.encode "what do ya want for nothing?") =
    [0x5b, 0xdc, 0xc1, 0x46, 0xbf, 0x60, 0x75, 0x4e, 0x6a, 0x04, 0x24, 0x26, 0x08, 0x95, 0x75, 0xc7,
      0x5a, 0x00, 0x3f, 0x08, 0x9d, 0x27, 0x39, 0x83, 0x9d, 0xec, 0x58, 0xb9, 0x64, 0xec, 0x38, 0x43] := by
  decide +kernel

end Hmac

end TopicGuard.Crypto
