import TopicGuard.Crypto.Der
import TopicGuard.Crypto.Hmac
import TopicGuard.Crypto.Modular

/-!
RSA signatures.

Raising a signature to the public exponent gives back the encoded message. With plain padding there is one
encoding of a message, and it is compared as a whole. With probabilistic padding the encoding holds a salt:
it is unmasked and the hash over message and salt is compared.
-/

set_option autoImplicit false

namespace TopicGuard.Crypto.Rsa

/-! ## Keys -/

/-- A modulus and a public exponent. -/
structure Key where
  modulus : Nat
  exponent : Nat
deriving DecidableEq, Repr

/-- A positive integer in its shortest form. -/
def positive? : Der → Option Bytes
  | .integer (0 :: b :: rest) => if 0x80 ≤ b.toNat then some (b :: rest) else none
  | .integer (b :: rest) => if 0 < b.toNat ∧ b.toNat < 0x80 then some (b :: rest) else none
  | _ => none

/-- The length of the modulus in bytes. -/
def Key.size (k : Key) : Nat :=
  (k.modulus.log2 + 8) / 8

/-- Odd moduli of 2048 to 8192 bits and odd exponents from 3 to 33 bits are accepted. -/
def Key.isAcceptable (k : Key) : Bool :=
  k.modulus % 2 = 1 && 2041 ≤ k.modulus.log2 + 1 && k.modulus.log2 + 1 ≤ 8192
    && k.exponent % 2 = 1 && 3 ≤ k.exponent && k.exponent < 0x200000000

/-- The key in distinguished encoding. -/
def Key.ofDer? (der : Bytes) : Option Key := do
  match ← Der.ofBytes? der with
  | [.sequence [n, e]] =>
    let n ← positive? n
    let e ← positive? e
    let key : Key := ⟨Der.natOfBytes n, Der.natOfBytes e⟩
    guard key.isAcceptable
    return key
  | _ => none

/-- The encoded message that a signature carries. -/
def Key.open? (k : Key) (signature : Bytes) : Option Bytes :=
  let s := Der.natOfBytes signature
  if signature.length = k.size ∧ s < k.modulus then
    some (Sha2.bigEndian (powMod s k.exponent k.modulus) k.size)
  else none

/-! ## Plain padding -/

/-- The encoded name of a hash function, up to the hash itself. -/
def digestHeader (h : Hash) : Bytes :=
  let function : UInt8 := if h.length = 32 then 1 else if h.length = 48 then 2 else 3
  [0x30, (17 + h.length).toUInt8, 0x30, 0x0D, 0x06, 0x09, 0x60, 0x86, 0x48, 0x01, 0x65, 0x03, 0x04, 0x02,
    function, 0x05, 0x00, 0x04, h.length.toUInt8]

/-- The only plain encoding of a message that fills `size` bytes. -/
def plainEncoding (h : Hash) (message : Bytes) (size : Nat) : Bytes :=
  let digest := digestHeader h ++ h.apply message
  0x00 :: 0x01 :: (List.replicate (size - digest.length - 3) 0xFF ++ 0x00 :: digest)

/-- The signature belongs to the message under plain padding. -/
def verifyPlain (h : Hash) (der message signature : Bytes) : Bool :=
  match Key.ofDer? der with
  | none => false
  | some key => key.open? signature = some (plainEncoding h message key.size)

/-! ## Probabilistic padding -/

/-- A mask of so many bytes, grown from a seed. -/
def mask (h : Hash) (seed : Bytes) (length : Nat) : Bytes :=
  let blocks := (List.range ((length + h.length - 1) / h.length)).flatMap fun i =>
    h.apply (seed ++ Sha2.bigEndian i 4)
  blocks.take length

/-- Clears all but the lowest `bits` bits of the first byte. -/
def keepLowBits (bits : Nat) : Bytes → Bytes
  | [] => []
  | b :: rest => (b.toNat % Nat.pow 2 bits).toUInt8 :: rest

/-- The encoded message belongs to the message, with a salt as long as the hash. The encoding is one bit
shorter than the modulus. -/
def checkSalted (h : Hash) (message encoded : Bytes) (bits : Nat) : Bool :=
  let size := (bits + 7) / 8
  let encoded := encoded.drop (encoded.length - size)
  let spare := 8 * size - bits
  let dataLength := size - h.length - 1
  let masked := encoded.take dataLength
  let check := (encoded.drop dataLength).take h.length
  let unmasked := keepLowBits (8 - spare)
    ((masked.zip (mask h check dataLength)).map fun (x, y) => x ^^^ y)
  let zeros := dataLength - h.length - 1
  let salt := unmasked.drop (zeros + 1)
  2 * h.length + 2 ≤ size && encoded.getLast? = some 0xBC
    && keepLowBits (8 - spare) masked = masked
    && unmasked.take (zeros + 1) = List.replicate zeros 0 ++ [0x01]
    && h.apply (List.replicate 8 0 ++ h.apply message ++ salt) = check

/-- The signature belongs to the message under probabilistic padding. -/
def verifySalted (h : Hash) (der message signature : Bytes) : Bool :=
  match Key.ofDer? der with
  | none => false
  | some key =>
    match key.open? signature with
    | none => false
    | some encoded =>
      let bits := key.modulus.log2
      -- with a whole number of bytes less one bit, the leading byte must be empty
      (bits % 8 ≠ 0 || encoded.head? = some 0) && checkSalted h message encoded bits

end TopicGuard.Crypto.Rsa
