/-!
Whole numbers in plain decimal form, as settings and arguments spell them.

At least one digit has to be there, and nothing but digits behind an optional sign. A plus sign is allowed
everywhere, a minus sign only where negative numbers are, and there are no limits on zeros in front.
-/

set_option autoImplicit false

namespace TopicGuard.Numeral

/-- The greatest number with so many binary digits. -/
def greatest (bits : Nat) : Nat :=
  Nat.pow 2 bits - 1

/-- The value of a digit. -/
def digit? (c : Char) : Option Nat :=
  if '0' ≤ c ∧ c ≤ '9' then some (c.toNat - '0'.toNat) else none

/-- The number that at least one digit spells. -/
def digits? (cs : List Char) : Option Nat :=
  if cs.isEmpty then none
  else (cs.mapM digit?).map fun ds => ds.foldl (fun n d => n * 10 + d) 0

/-- The text without a plus sign in front. -/
def withoutPlus : List Char → List Char
  | '+' :: cs => cs
  | cs => cs

/-- The natural number up to a bound that a text spells. -/
def natural? (greatest : Nat) (s : String) : Option Nat := do
  let n ← digits? (withoutPlus s.toList)
  guard (n ≤ greatest)
  return n

/-- The integer that a text spells. -/
def integer? (s : String) : Option Int :=
  match s.toList with
  | '-' :: cs => (digits? cs).map fun n => -(n : Int)
  | cs => (digits? (withoutPlus cs)).map Int.ofNat

end TopicGuard.Numeral
