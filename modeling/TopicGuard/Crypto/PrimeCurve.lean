import TopicGuard.Crypto.Der
import TopicGuard.Crypto.Hmac
import TopicGuard.Crypto.Modular

/-!
Signatures on the curves P-256 and P-384.

The curves have the equation `y² = x³ - 3x + b` over a prime field. A point is a pair of coordinates, or
`none` for the point at infinity.
-/

set_option autoImplicit false

namespace TopicGuard.Crypto.PrimeCurve

/-! ## Points -/

/-- A curve with its base point and the order of that point. -/
structure Curve where
  p : Nat
  b : Nat
  order : Nat
  base : Nat × Nat
  /-- The length of a coordinate in bytes. -/
  size : Nat

/-- A point in coordinates, or the point at infinity. -/
abbrev Point := Option (Nat × Nat)

/-- The coordinates satisfy the equation. -/
def Curve.contains (c : Curve) (x y : Nat) : Bool :=
  y * y % c.p = subMod (x * x % c.p * x + c.b) (3 * x % c.p) c.p

/-- The third point on the line through two points, reflected; `slope` is the line's. -/
def Curve.chord (c : Curve) (slope x₁ y₁ x₂ : Nat) : Point :=
  let x := subMod (slope * slope) ((x₁ + x₂) % c.p) c.p
  let y := subMod (slope * subMod x₁ x c.p) y₁ c.p
  some (x, y)

/-- The sum of a point with itself. -/
def Curve.double (c : Curve) : Point → Point
  | none => none
  | some (x, y) =>
    if y = 0 then none
    else
      let rise := subMod (3 * (x * x % c.p)) 3 c.p
      c.chord (rise * invMod (2 * y % c.p) c.p % c.p) x y x

/-- The sum of two points. -/
def Curve.add (c : Curve) : Point → Point → Point
  | none, q => q
  | p, none => p
  | some (x₁, y₁), some (x₂, y₂) =>
    if x₁ = x₂ then if y₁ = y₂ then c.double (some (x₁, y₁)) else none
    else c.chord (subMod y₂ y₁ c.p * invMod (subMod x₂ x₁ c.p) c.p % c.p) x₁ y₁ x₂

/-- A multiple of a point. -/
def Curve.mul (c : Curve) (n : Nat) (p : Point) : Point :=
  if n = 0 then none
  else
    let half := c.mul (n / 2) (c.double p)
    if n % 2 = 1 then c.add p half else half
termination_by n
decreasing_by omega

/-! ## Signatures -/

/-- The point of an uncompressed encoding, if it lies on the curve. -/
def Curve.point? (c : Curve) (bytes : Bytes) : Option (Nat × Nat) :=
  match bytes with
  | 0x04 :: rest =>
    let x := Der.natOfBytes (rest.take c.size)
    let y := Der.natOfBytes (rest.drop c.size)
    if rest.length = 2 * c.size ∧ x < c.p ∧ y < c.p ∧ c.contains x y then some (x, y) else none
  | _ => none

/-- The signature, two numbers of fixed length, belongs to the message. -/
def Curve.verify (c : Curve) (h : Hash) (key message signature : Bytes) : Bool :=
  let r := Der.natOfBytes (signature.take c.size)
  let s := Der.natOfBytes (signature.drop c.size)
  match c.point? key with
  | none => false
  | some point =>
    signature.length = 2 * c.size && 0 < r && r < c.order && 0 < s && s < c.order &&
      let e := Der.natOfBytes (h.apply message)
      let w := invMod s c.order
      match c.add (c.mul (e * w % c.order) (some c.base)) (c.mul (r * w % c.order) (some point)) with
      | none => false
      | some (x, _) => x % c.order = r

/-- The curve P-256. -/
def p256 : Curve where
  p := 0xffffffff00000001000000000000000000000000ffffffffffffffffffffffff
  b := 0x5ac635d8aa3a93e7b3ebbd55769886bc651d06b0cc53b0f63bce3c3e27d2604b
  order := 0xffffffff00000000ffffffffffffffffbce6faada7179e84f3b9cac2fc632551
  base := (0x6b17d1f2e12c4247f8bce6e563a440f277037d812deb33a0f4a13945d898c296,
    0x4fe342e2fe1a7f9b8ee7eb4a7c0f9e162bce33576b315ececbb6406837bf51f5)
  size := 32

/-- The curve P-384. -/
def p384 : Curve where
  p := 0xfffffffffffffffffffffffffffffffffffffffffffffffffffffffffffffffeffffffff0000000000000000ffffffff
  b := 0xb3312fa7e23ee7e4988e056be3f82d19181d9c6efe8141120314088f5013875ac656398d8a2ed19d2a85c8edd3ec2aef
  order :=
    0xffffffffffffffffffffffffffffffffffffffffffffffffc7634d81f4372ddf581a0db248b0a77aecec196accc52973
  base := (
    0xaa87ca22be8b05378eb1c71ef320ad746e1d3b628ba79b9859f741e082542a385502f25dbf55296c3a545e3872760ab7,
    0x3617de4a96262c6f5d9e98bf9292dc29f8f41dbd289a147ce9da3113b5f0b8c00a60b1ce1d7e819d7a431d7c90ea0e5f)
  size := 48

end TopicGuard.Crypto.PrimeCurve
