import TopicGuard.Text.Visible

/-!
Encoded labels of domain names.

A label that starts with `xn--` stands for a label with characters outside ASCII. Behind the prefix come the ASCII
characters and a hyphen, if there are any, and then a row of numbers, each of which says how far to go, through
the code points and the places of the label, before the next character is put in. `decode?` reads such a label
from behind its prefix; `isWellFormed` accepts one that stands for at least one character outside ASCII and for
visible characters only.
-/

set_option autoImplicit false

namespace TopicGuard.Punycode

/-! ## Numbers -/

/-- The value of a digit. Letters come before decimal digits. -/
def digit? (c : Char) : Option Nat :=
  if 'a' ≤ c ∧ c ≤ 'z' then some (c.toNat - 'a'.toNat)
  else if '0' ≤ c ∧ c ≤ '9' then some (c.toNat - '0'.toNat + 26)
  else none

/-- A digit below the threshold is the last one of a number. -/
def threshold (bias place : Nat) : Nat :=
  max 1 (min 26 (place - bias))

/-- The number at the front, from its least digit on, and what follows it, which is shorter. -/
def number? (bias place weight n : Nat) :
    (cs : List Char) → Option (Nat × { rest : List Char // rest.length < cs.length })
  | [] => none
  | c :: cs => do
    let d ← digit? c
    let n := n + d * weight
    let t := threshold bias place
    if d < t then return (n, ⟨cs, by simp⟩)
    else
      let (n, rest) ← number? bias (place + 36) (weight * (36 - t)) n cs
      return (n, ⟨rest.1, Nat.lt_succ_of_lt rest.2⟩)

/-- The bias for numbers around the given size. -/
def biasFor (place size : Nat) : Nat :=
  if 455 < size then biasFor (place + 36) (size / 35) else place + 36 * size / (size + 38)
termination_by size

/-- The bias after a number, when the label has so many characters. -/
def nextBias (number count : Nat) (isFirst : Bool) : Nat :=
  let size := if isFirst then number / 700 else number / 2
  biasFor 0 (size + size / count)

/-! ## Labels -/

/-- Puts characters into a label while there are numbers. The place and the code point go on from those of
the last character put in. -/
def fill? (label : List Char) (code place bias : Nat) (isFirst : Bool) (cs : List Char) :
    Option (List Char) :=
  if cs.isEmpty then some label
  else
    match number? bias 36 1 0 cs with
    | none => none
    | some (n, rest) =>
      let count := label.length + 1
      let code := code + (place + n) / count
      let place := (place + n) % count
      if code.isValidChar then
        let label := label.take place ++ Char.ofNat code :: label.drop place
        fill? label code (place + 1) (nextBias n count isFirst) false rest.1
      else none
termination_by cs.length
decreasing_by exact rest.2

/-- The label that a text behind the prefix stands for. -/
def decode? (cs : List Char) : Option (List Char) :=
  let plain := ((cs.reverse.dropWhile (· ≠ '-')).drop 1).reverse
  let numbers := if plain.isEmpty then cs else (cs.reverse.takeWhile (· ≠ '-')).reverse
  fill? plain 0x80 0 72 true numbers

/-- The text behind the prefix is an encoded label. -/
def isWellFormed (cs : List Char) : Bool :=
  match decode? cs with
  | some label => label.any (fun c => 0x7F < c.toNat) && label.all Text.isVisible
  | none => false

/-- The prefix of encoded labels. -/
def marker : List Char := "xn--".toList

/-- The label is either not encoded or well formed. -/
def accepts (label : List Char) : Bool :=
  !marker.isPrefixOf label || isWellFormed (label.drop marker.length)

end TopicGuard.Punycode
