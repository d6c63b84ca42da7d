import TopicGuard.Number.Binary64

/-!
Decimal numbers with an exponent, and the binary magnitudes that stand for them.

A decimal is scaled in two roundings: its significand is rounded first, then multiplied or divided by the
rounded power of ten. Powers below the format's range are divided out in steps of `10 ^ 308`. The result is
the value that a decimal is compared and truncated by; it can differ from the exact decimal in its last
bit.
-/

set_option autoImplicit false

namespace TopicGuard

/-- The number `significand * 10 ^ exponent`, with a sign that zero has too. -/
structure Decimal where
  negative : Bool
  significand : Nat
  exponent : Int
deriving DecidableEq, Repr

namespace Decimal

/-- The largest power of ten that the binary format holds. -/
def greatestPower : Nat := 308

/-- Divides by `10 ^ k` in steps. -/
def divSteps (x : Binary64) (k : Nat) : Binary64 :=
  if x.mantissa = 0 then x
  else if k ≤ greatestPower then x.div (.tenPow k)
  else divSteps (x.div (.tenPow greatestPower)) (k - greatestPower)
termination_by k
decreasing_by simp only [greatestPower] at *; omega

/-- The magnitude that stands for a decimal, unless it is beyond the format's range. -/
def magnitude? (d : Decimal) : Option Binary64 :=
  let x := Binary64.ofNat d.significand
  if 0 ≤ d.exponent then
    if x.mantissa = 0 then some x
    else if d.exponent ≤ greatestPower then
      let y := x.mul (.tenPow d.exponent.toNat)
      if y.isInfinite then none else some y
    else none
  else some (divSteps x (-d.exponent).toNat)

/-- The integer part of the number, towards zero. -/
def truncate? (d : Decimal) : Option Int :=
  d.magnitude?.map fun x => if d.negative then -(x.floor : Int) else x.floor

end Decimal

end TopicGuard
