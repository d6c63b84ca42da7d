/-!
Magnitudes in the binary64 format, computed exactly.

A magnitude is a natural number times a power of two. `nearest` rounds a positive quotient to the format:
53 significant bits, fewer near zero, ties to the even neighbour. Everything is arithmetic on natural
numbers, so a rounded value can be reasoned about like any other number.
-/

set_option autoImplicit false

namespace TopicGuard

/-- The number `mantissa * 2 ^ exponent`. -/
structure Binary64 where
  mantissa : Nat
  exponent : Int
deriving DecidableEq, Repr

namespace Binary64

/-- The exponent of the smallest positive magnitude. -/
def leastExponent : Int := -1074

/-- The quotient rounded to the nearest natural number, ties to even. -/
def divEven (num den : Nat) : Nat :=
  let q := num / den
  let r := num % den
  if 2 * r < den then q
  else if den < 2 * r then q + 1
  else if q % 2 = 0 then q else q + 1

/-- `num / den` in units of `2 ^ exponent`, as a quotient. -/
def inUnits (num den : Nat) (exponent : Int) : Nat × Nat :=
  if 0 ≤ exponent then (num, den * Nat.pow 2 exponent.toNat) else (num * Nat.pow 2 (-exponent).toNat, den)

/-- The magnitude nearest to `num / den`. -/
def nearest (num den : Nat) : Binary64 :=
  if num = 0 ∨ den = 0 then ⟨0, 0⟩
  else
    let e : Int := (num.log2 : Int) - (den.log2 : Int) - 52
    let (n, d) := inUnits num den e
    -- the logarithms leave the leading bit in one of two places
    let e := if n / d < 0x10000000000000 then e - 1 else e
    let e := max e leastExponent
    let (n, d) := inUnits num den e
    ⟨divEven n d, e⟩

/-- The magnitude as a quotient. -/
def quotient (x : Binary64) : Nat × Nat :=
  if 0 ≤ x.exponent then (x.mantissa * Nat.pow 2 x.exponent.toNat, 1)
  else (x.mantissa, Nat.pow 2 (-x.exponent).toNat)

/-- The integer part. -/
def floor (x : Binary64) : Nat :=
  let (n, d) := x.quotient
  n / d

/-- The magnitude is too large for the format. -/
def isInfinite (x : Binary64) : Bool :=
  Nat.pow 2 1024 ≤ x.floor

/-- The magnitude of a natural number. -/
def ofNat (n : Nat) : Binary64 :=
  nearest n 1

/-- The product, rounded. -/
def mul (x y : Binary64) : Binary64 :=
  let (a, b) := x.quotient
  let (c, d) := y.quotient
  nearest (a * c) (b * d)

/-- The quotient, rounded. -/
def div (x y : Binary64) : Binary64 :=
  let (a, b) := x.quotient
  let (c, d) := y.quotient
  nearest (a * d) (b * c)

/-- The magnitude nearest to a power of ten. -/
def tenPow (k : Nat) : Binary64 :=
  ofNat (Nat.pow 10 k)

end Binary64

end TopicGuard
