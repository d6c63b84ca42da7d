import TopicGuard.Crypto.Hmac
import TopicGuard.Crypto.Modular

/-!
Signatures on the Edwards curve with modulus `2 ^ 255 - 19`.

Points are kept in projective coordinates, so that only encoding a point needs an inverse. Numbers are
little-endian, and a point is encoded as its second coordinate with the parity of the first in the top bit.
-/

set_option autoImplicit false

namespace TopicGuard.Crypto.Edwards

/-! ## Points -/

/-- The modulus of the field. -/
def p : Nat := Nat.pow 2 255 - 19

/-- The order of the base point. -/
def order : Nat := Nat.pow 2 252 + 27742317777372353535851937790883648493

/-- The constant of the equation `-x² + y² = 1 + d x² y²`. -/
def d : Nat := 37095705934669439343138083508754565189542113879843219016388785533085940283555

/-- A square root of minus one. -/
def rootOfMinusOne : Nat := powMod 2 ((p - 1) / 4) p

/-- A point as `(x / z, y / z)`. -/
structure Point where
  x : Nat
  y : Nat
  z : Nat
deriving DecidableEq, Repr

/-- The neutral point. -/
def Point.zero : Point := ⟨0, 1, 1⟩

/-- The sum of two points; the formula has no exceptions. -/
def Point.add (s t : Point) : Point :=
  let a := s.z * t.z % p
  let b := a * a % p
  let c := s.x * t.x % p
  let e := s.y * t.y % p
  let f := d * (c * e % p) % p
  let g := subMod b f p
  let h := (b + f) % p
  let cross := subMod ((s.x + s.y) * (t.x + t.y)) ((c + e) % p) p
  ⟨a * g % p * cross % p, a * h % p * ((e + c) % p) % p, g * h % p⟩

/-- A multiple of a point. -/
def Point.mul (n : Nat) (s : Point) : Point :=
  if n = 0 then .zero
  else
    let half := Point.mul (n / 2) (s.add s)
    if n % 2 = 1 then s.add half else half
termination_by n
decreasing_by omega

/-- The point reflected, so that the sum with the point itself is neutral. -/
def Point.neg (s : Point) : Point :=
  { s with x := subMod 0 s.x p }

/-! ## Encodings -/

/-- The number that bytes spell, the least significant first. -/
def ofLittleEndian (bs : Bytes) : Nat :=
  bs.foldr (fun b n => n * 256 + b.toNat) 0

/-- A root of `u / v`, if there is one. -/
def rootOfQuotient? (u v : Nat) : Option Nat :=
  let quotient := u * invMod v p % p
  let root := powMod quotient ((p + 3) / 8) p
  if root * root % p = quotient then some root
  else
    let root := root * rootOfMinusOne % p
    if root * root % p = quotient then some root else none

/-- The point of an encoding of 32 bytes. -/
def Point.decode? (bytes : Bytes) : Option Point := do
  guard (bytes.length = 32)
  let n := ofLittleEndian bytes
  let odd := n / Nat.pow 2 255
  let y := n % Nat.pow 2 255 % p
  let square := y * y % p
  let x ← rootOfQuotient? (subMod square 1 p) ((d * square + 1) % p)
  return ⟨if x % 2 = odd then x else subMod 0 x p, y, 1⟩

/-- The encoding of a point as a number. -/
def Point.encode (s : Point) : Nat :=
  let inverse := invMod s.z p
  let x := s.x * inverse % p
  s.y * inverse % p + (if x % 2 = 1 then Nat.pow 2 255 else 0)

/-- The base point, with its first coordinate even. -/
def Point.base? : Option Point :=
  let y := 4 * invMod 5 p % p
  Point.decode? ((List.range 32).map fun i => (y / Nat.pow 256 i).toUInt8)

/-! ## Signatures -/

/-- The signature, an encoded point and a number below the order, belongs to the message. -/
def verify (key message signature : Bytes) : Bool :=
  let r := signature.take 32
  let s := ofLittleEndian (signature.drop 32)
  match Point.decode? key, Point.base? with
  | some a, some base =>
    signature.length = 64 && s < order &&
      let k := ofLittleEndian (Sha2.sha512 (r ++ key ++ message)) % order
      ((Point.mul s base).add (Point.mul k a.neg)).encode = ofLittleEndian r
  | _, _ => false

end TopicGuard.Crypto.Edwards
