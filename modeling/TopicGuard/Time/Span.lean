/-!
Lengths of time.

A span is written in the largest unit that leaves a whole part: seconds, milliseconds, microseconds or
nanoseconds, with the remainder as a decimal fraction without trailing zeros.
-/

set_option autoImplicit false

namespace TopicGuard

/-- A length of time in nanoseconds. -/
structure Span where
  nanoseconds : Nat
deriving DecidableEq, Repr

namespace Span

/-- A span of whole seconds. -/
def ofSeconds (n : Nat) : Span := ⟨n * 1000000000⟩

/-- A span of whole milliseconds. -/
def ofMilliseconds (n : Nat) : Span := ⟨n * 1000000⟩

/-- The span is empty. -/
def isZero (s : Span) : Bool := s.nanoseconds == 0

/-- The whole seconds of a span. -/
def seconds (s : Span) : Nat := s.nanoseconds / 1000000000

/-- The digits of `n / 10 ^ width` after the point, without zeros at the end. -/
def fractionDigits (width n : Nat) : List Char :=
  let digits := Nat.toDigits 10 n
  let filled := List.replicate (width - digits.length) '0' ++ digits
  (filled.reverse.dropWhile (· == '0')).reverse

/-- A span in units of `10 ^ width` nanoseconds. -/
def renderIn (s : Span) (width : Nat) (unit : String) : String :=
  let fraction := fractionDigits width (s.nanoseconds % Nat.pow 10 width)
  toString (s.nanoseconds / Nat.pow 10 width)
    ++ (if fraction.isEmpty then "" else "." ++ String.ofList fraction) ++ unit

/-- A span in its largest fitting unit. -/
def render (s : Span) : String :=
  if 1000000000 ≤ s.nanoseconds then s.renderIn 9 "s"
  else if 1000000 ≤ s.nanoseconds then s.renderIn 6 "ms"
  else if 1000 ≤ s.nanoseconds then s.renderIn 3 "µs"
  else toString s.nanoseconds ++ "ns"

end Span

end TopicGuard
