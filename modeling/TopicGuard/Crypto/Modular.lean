/-!
Arithmetic modulo a number.

Exponentiation goes through the bits of the exponent, and the inverse modulo a prime is the power with the
prime less two.
-/

set_option autoImplicit false

namespace TopicGuard.Crypto

/-- `b ^ e` modulo `m`. -/
def powMod (b e m : Nat) : Nat :=
  if e = 0 then 1 % m
  else
    let half := powMod (b * b % m) (e / 2) m
    if e % 2 = 1 then b * half % m else half
termination_by e
decreasing_by omega

/-- The inverse of `x` modulo the prime `p`. -/
def invMod (x p : Nat) : Nat :=
  powMod x (p - 2) p

/-- The difference modulo `p` of two numbers below `p`. -/
def subMod (x y p : Nat) : Nat :=
  (x + (p - y % p)) % p

end TopicGuard.Crypto
