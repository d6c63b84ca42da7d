import TopicGuard.Text.Utf8

/-!
Percent encoding and forms.

A byte that must not appear as itself is written as a percent sign and two upper-case hexadecimal digits.
Forms are lists of named values in which a space is written as a plus sign; `Form.parse` reads what
`Form.render` writes.
-/

set_option autoImplicit false

namespace TopicGuard

namespace Percent

/-- A hexadecimal digit, in upper case. -/
def digit (n : Nat) : Char :=
  if n < 10 then Char.ofNat (48 + n) else Char.ofNat (55 + n)

/-- The value of a hexadecimal digit of either case. -/
def value? (c : Char) : Option Nat :=
  if 48 ≤ c.toNat && c.toNat ≤ 57 then some (c.toNat - 48)
  else if 65 ≤ c.toNat && c.toNat ≤ 70 then some (c.toNat - 55)
  else if 97 ≤ c.toNat && c.toNat ≤ 102 then some (c.toNat - 87)
  else none

/-- A byte behind a percent sign. -/
def encodeByte (b : UInt8) : List Char :=
  ['%', digit (b.toNat / 16), digit (b.toNat % 16)]

/-- Encodes the characters that must not stand for themselves, byte by byte. -/
def encode (mustEncode : Char → Bool) (cs : List Char) : List Char :=
  cs.flatMap fun c => if mustEncode c then (Utf8.encodeChar c).flatMap encodeByte else [c]

/-- The bytes that a text stands for. A percent sign without two digits after it stands for itself. -/
def decode : List Char → Bytes
  | [] => []
  | '%' :: x :: y :: rest =>
    match value? x, value? y with
    | some h, some l => (h * 16 + l).toUInt8 :: decode rest
    | _, _ => 0x25 :: decode (x :: y :: rest)
  | c :: rest => Utf8.encodeChar c ++ decode rest

end Percent

namespace Form

/-- The characters that stand for themselves in a form. -/
def isPlain (c : Char) : Bool :=
  (48 ≤ c.toNat && c.toNat ≤ 57) || (65 ≤ c.toNat && c.toNat ≤ 90)
    || (97 ≤ c.toNat && c.toNat ≤ 122) || c == '*' || c == '-' || c == '.' || c == '_'

/-- A name or a value in a form. -/
def encodePart (cs : List Char) : List Char :=
  cs.flatMap fun c =>
    if c = ' ' then ['+']
    else if isPlain c then [c]
    else (Utf8.encodeChar c).flatMap Percent.encodeByte

/-- A named value in a form. -/
def renderPair (pair : String × String) : List Char :=
  encodePart pair.1.toList ++ '=' :: encodePart pair.2.toList

/-- A form as text. -/
def render (pairs : List (String × String)) : String :=
  String.ofList (['&'].intercalate (pairs.map renderPair))

/-- The stretches between occurrences of a mark. -/
def splitAt (mark : Char) : List Char → List (List Char)
  | [] => [[]]
  | c :: cs =>
    if c = mark then [] :: splitAt mark cs
    else match splitAt mark cs with
      | [] => [[c]]
      | part :: parts => (c :: part) :: parts

/-- The text that a name or a value in a form stands for. -/
def decodePart (cs : List Char) : Option String :=
  Utf8.decode? (Percent.decode (cs.map fun c => if c = '+' then ' ' else c))

/-- A named value in a form; without an equals sign it is a name with an empty value. -/
def parsePair (cs : List Char) : Option (String × String) := do
  let name ← decodePart (cs.takeWhile (· ≠ '='))
  let value ← decodePart ((cs.dropWhile (· ≠ '=')).drop 1)
  return (name, value)

/-- The pairs of a form; empty stretches are no pairs. -/
def parse (s : String) : Option (List (String × String)) :=
  ((splitAt '&' s.toList).filter fun part => !part.isEmpty).mapM parsePair

end Form

end TopicGuard
