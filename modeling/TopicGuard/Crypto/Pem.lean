import TopicGuard.Crypto.Der
import TopicGuard.Text.Base64
import TopicGuard.Text.Blank

/-!
Armoured keys.

A key file is base-64 text between a `BEGIN` and an `END` line that carry the same label. A blank line inside
separates header lines, which are ignored, from the text. `PublicKey.ofPem?` reads the label and the blocks
inside and finds the key of the wanted family; it does not look into the key itself.
-/

set_option autoImplicit false

namespace TopicGuard.Crypto

/-! ## Armour -/

namespace Pem

/-- The text before the first occurrence of a mark, and the text after it. -/
def cutAt? (mark : List Char) : List Char → Option (List Char × List Char)
  | [] => if mark.isEmpty then some ([], []) else none
  | c :: cs =>
    if mark.isPrefixOf (c :: cs) then some ([], (c :: cs).drop mark.length)
    else (cutAt? mark cs).map fun (before, after) => (c :: before, after)

/-- The blanks that may follow a line of dashes. -/
def isGap (c : Char) : Bool :=
  c == ' ' || c == '\t' || c == '\n' || c == '\r'

/-- What follows the header lines, if there are any. -/
def withoutHeaders (body : List Char) : List Char :=
  match cutAt? ['\n', '\n'] body with
  | some (_, rest) => rest
  | none =>
    match cutAt? ['\r', '\n', '\r', '\n'] body with
    | some (_, rest) => rest
    | none => body

/-- The lines of a text, without white space at their ends, joined. -/
def joinLines (cs : List Char) : List Char :=
  let lines := cs.foldr
    (fun c (line, done) => if c = '\n' then ([], line :: done) else (c :: line, done)) ([], [])
  (lines.1 :: lines.2).flatMap fun line => (line.reverse.dropWhile Text.isBlank).reverse

/-- The label of an armoured text and the bytes inside. -/
def read? (text : String) : Option (String × Bytes) := do
  let (_, rest) ← cutAt? "-----BEGIN ".toList text.toList
  let (label, rest) ← cutAt? "-----".toList rest
  let (body, rest) ← cutAt? "-----END ".toList (rest.dropWhile isGap)
  let (closing, _) ← cutAt? "-----".toList rest
  guard (!label.isEmpty && label = closing)
  let bytes ← Base64.decodePadded? .standard (joinLines (withoutHeaders body))
  return (String.ofList label, bytes)

end Pem

/-! ## Public keys -/

/-- A public key by its family. The bytes are checked when a signature is. -/
inductive PublicKey where
  /-- A modulus and an exponent in distinguished encoding. -/
  | rsa (der : Bytes)
  /-- A point on one of the prime curves. -/
  | prime (point : Bytes)
  /-- A compressed point on the Edwards curve. -/
  | edwards (point : Bytes)
deriving DecidableEq, Repr

namespace PublicKey

/-- The families of public keys. -/
inductive Family where
  | rsa
  | prime
  | edwards
deriving DecidableEq, Repr

/-- The family that an object identifier announces. -/
def Family.ofObjectId? (id : Bytes) : Option Family :=
  if id = [0x2A, 0x86, 0x48, 0xCE, 0x3D, 0x02, 0x01] then some .prime
  else if id = [0x2A, 0x86, 0x48, 0x86, 0xF7, 0x0D, 0x01, 0x01, 0x01] then some .rsa
  else if id = [0x2B, 0x65, 0x70] then some .edwards
  else none

/-- What an armoured text holds. -/
structure Contents where
  label : String
  bytes : Bytes
  blocks : List Der

/-- The bytes of the key of the wanted family, if the text holds one. -/
def Contents.key? (c : Contents) (wanted : Family) : Option Bytes :=
  if c.label = "RSA PRIVATE KEY" ∨ c.label = "RSA PUBLIC KEY" then
    if wanted = .rsa then some c.bytes else none
  else if c.label = "PRIVATE KEY" ∨ c.label = "PUBLIC KEY" ∨ c.label = "CERTIFICATE" then do
    let family ← (Der.objectIdsIn c.blocks).findSome? Family.ofObjectId?
    guard (family = wanted && (wanted = .rsa || c.label ≠ "PRIVATE KEY"))
    Der.firstStringIn? c.blocks
  else none

/-- The key of the wanted family in an armoured text. -/
def ofPem? (wanted : Family) (text : String) : Option PublicKey := do
  let (label, bytes) ← Pem.read? text
  let blocks ← Der.ofBytes? bytes
  let key ← (Contents.mk label bytes blocks).key? wanted
  return match wanted with
    | .rsa => .rsa key
    | .prime => .prime key
    | .edwards => .edwards key

end PublicKey

end TopicGuard.Crypto
