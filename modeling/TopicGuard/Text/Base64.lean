import TopicGuard.Text.Utf8

/-!
Base 64.

Three bytes become four digits; one or two bytes left over become two or three digits. Reading is strict:
every digit must be in the alphabet, and the bits that a final group does not need must be zero. So each
sequence of bytes has exactly one written form.

Two alphabets are in use. Tokens are written with `-` and `_` and without padding, keys with `+` and `/`
and padded to a multiple of four.
-/

set_option autoImplicit false

namespace TopicGuard.Base64

/-! ## Alphabets -/

/-- The two digits on which alphabets differ. -/
inductive Alphabet where
  /-- Safe inside addresses: digit 62 is `-` and digit 63 is `_`. -/
  | url
  /-- Digit 62 is `+` and digit 63 is `/`. -/
  | standard
deriving DecidableEq, Repr

/-- Digit 62. -/
def Alphabet.digit62 : Alphabet → Char
  | .url => '-'
  | .standard => '+'

/-- Digit 63. -/
def Alphabet.digit63 : Alphabet → Char
  | .url => '_'
  | .standard => '/'

/-- The digit with a value below 64. -/
def digit (a : Alphabet) (n : Nat) : Char :=
  if n < 26 then Char.ofNat (65 + n)
  else if n < 52 then Char.ofNat (97 + (n - 26))
  else if n < 62 then Char.ofNat (48 + (n - 52))
  else if n = 62 then a.digit62
  else a.digit63

/-- The value of a digit. -/
def value? (a : Alphabet) (c : Char) : Option Nat :=
  if 65 ≤ c.toNat && c.toNat ≤ 90 then some (c.toNat - 65)
  else if 97 ≤ c.toNat && c.toNat ≤ 122 then some (c.toNat - 97 + 26)
  else if 48 ≤ c.toNat && c.toNat ≤ 57 then some (c.toNat - 48 + 52)
  else if c = a.digit62 then some 62
  else if c = a.digit63 then some 63
  else none

/-! ## Writing -/

/-- The digits of a sequence of bytes, without padding. -/
def encode (a : Alphabet) : Bytes → List Char
  | [] => []
  | [x] => [digit a (x.toNat / 4), digit a (x.toNat % 4 * 16)]
  | [x, y] =>
    [digit a (x.toNat / 4), digit a (x.toNat % 4 * 16 + y.toNat / 16), digit a (y.toNat % 16 * 4)]
  | x :: y :: z :: rest =>
    digit a (x.toNat / 4) :: digit a (x.toNat % 4 * 16 + y.toNat / 16)
      :: digit a (y.toNat % 16 * 4 + z.toNat / 64) :: digit a (z.toNat % 64) :: encode a rest

/-! ## Reading -/

/-- The bytes of a sequence of digits without padding. -/
def decode? (a : Alphabet) : List Char → Option Bytes
  | [] => some []
  | [_] => none
  | [c, d] => do
    let v ← value? a c
    let w ← value? a d
    guard (w % 16 = 0)
    return [(v * 4 + w / 16).toUInt8]
  | [c, d, e] => do
    let v ← value? a c
    let w ← value? a d
    let x ← value? a e
    guard (x % 4 = 0)
    return [(v * 4 + w / 16).toUInt8, (w % 16 * 16 + x / 4).toUInt8]
  | c :: d :: e :: f :: rest => do
    let v ← value? a c
    let w ← value? a d
    let x ← value? a e
    let y ← value? a f
    let bytes ← decode? a rest
    return (v * 4 + w / 16).toUInt8 :: (w % 16 * 16 + x / 4).toUInt8 :: (x % 4 * 64 + y).toUInt8
      :: bytes

/-- Drops the padding of a text whose length is a multiple of four: at most two signs at the end. -/
def unpad? (cs : List Char) : Option (List Char) :=
  if cs.length % 4 ≠ 0 then none
  else match cs.reverse with
    | '=' :: '=' :: rest => some rest.reverse
    | '=' :: rest => some rest.reverse
    | _ => some cs

/-- The bytes of a padded sequence of digits. -/
def decodePadded? (a : Alphabet) (cs : List Char) : Option Bytes :=
  (unpad? cs).bind (decode? a)

end TopicGuard.Base64
