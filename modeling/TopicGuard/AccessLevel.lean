import TopicGuard.Json.Value

/-!
Access levels.

Levels are ordered: a higher level includes every lower one, and there are no combinations. A level is the
number itself wherever one is written.
-/

set_option autoImplicit false

namespace TopicGuard

/-- How much access a grant gives or a request asks for; a signed 64-bit number. -/
abbrev AccessLevel := Int64

namespace AccessLevel

/-- A granted level includes the requested one. -/
def includes (granted requested : AccessLevel) : Bool :=
  requested ≤ granted

/-- The level to read. -/
def read : AccessLevel := 1

/-- The level that a number stands for, if it fits. -/
def ofInt? (n : Int) : Option AccessLevel :=
  if Int64.minValue.toInt ≤ n ∧ n ≤ Int64.maxValue.toInt then some (Int64.ofInt n) else none

/-- The level that a value in a document stands for. A decimal is no level, even without a fraction. -/
def ofJson? : Json → Option AccessLevel
  | .number (.int n) => ofInt? n
  | _ => none

/-- A level as a text. -/
def render (level : AccessLevel) : String :=
  toString level.toInt

end AccessLevel

end TopicGuard
