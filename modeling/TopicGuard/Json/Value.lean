import TopicGuard.Json.Raw
import TopicGuard.Number.Decimal

/-!
JSON values.

A value is what a text means once everything in it has been decoded: numbers in range, strings of
characters, and at most `Json.depthLimit` containers inside each other. An object keeps its members in the
order of the text, and a repeated key is kept too; `Json.lookup?` gives the last value of a key, since a later
member replaces an earlier one.

Written out, a value is compact, and the members of every object stand in the order of their keys.
-/

set_option autoImplicit false

namespace TopicGuard

/-- A number that a text can hold: an integer of 64 bits, signed or not, or a decimal. -/
inductive Json.Number where
  | int (n : Int)
  | decimal (d : Decimal)
deriving DecidableEq, Repr

/-- A JSON value. -/
inductive Json where
  | null
  | bool (b : Bool)
  | number (n : Json.Number)
  | string (s : String)
  | array (items : List Json)
  | object (members : List (String × Json))
deriving Repr

namespace Json

/-! ## Numbers -/

namespace Number

/-- The least signed 64-bit integer. -/
def leastInt : Int := -0x8000000000000000

/-- The greatest unsigned 64-bit integer. -/
def greatestInt : Int := 0xFFFFFFFFFFFFFFFF

/-- A significand under construction, with the power of ten that its dropped digits left behind. -/
structure Digits where
  significand : Nat
  exponent : Int
  /-- No further digit is taken. -/
  full : Bool
deriving DecidableEq, Repr

/-- The significand with one more digit, if it still fits 64 bits. -/
def Digits.take? (s : Digits) (digit : Nat) : Option Nat :=
  let n := s.significand * 10 + digit
  if n < 0x10000000000000000 then some n else none

/-- A digit before the point. Once a digit has been dropped, all later ones before the point are. -/
def Digits.whole (s : Digits) (digit : Nat) : Digits :=
  if s.full then { s with exponent := s.exponent + 1 }
  else match s.take? digit with
    | some n => { s with significand := n }
    | none => { s with exponent := s.exponent + 1, full := true }

/-- A digit after the point. Once a digit has been dropped, all later ones are. -/
def Digits.fraction (s : Digits) (digit : Nat) : Digits :=
  if s.full then s
  else match s.take? digit with
    | some n => { s with significand := n, exponent := s.exponent - 1 }
    | none => { s with full := true }

/-- The number of a digit list. -/
def ofDigits (ds : List Nat) : Nat :=
  ds.foldl (fun n d => n * 10 + d) 0

/-- Exponents are kept within 32 bits. -/
def clampExponent (e : Int) : Int :=
  max (-0x80000000) (min 0x7FFFFFFF e)

/-- The decimal that a numeral writes, with as many of its leading digits as fit 64 bits. An exponent of
more than 31 bits stands for zero when it is negative or the digits are zeros, and for nothing
otherwise. -/
def decimal? (n : Numeral) : Option Decimal :=
  let before := n.whole.foldl Digits.whole ⟨0, 0, false⟩
  let digits := (n.fraction.getD []).foldl Digits.fraction { before with full := false }
  match n.exponent with
  | none => some ⟨n.negative, digits.significand, digits.exponent⟩
  | some (negative, ds) =>
    let e := ofDigits ds
    if e < 0x80000000 then
      let e : Int := if negative then -(e : Int) else e
      some ⟨n.negative, digits.significand, clampExponent (digits.exponent + e)⟩
    else if digits.significand = 0 ∨ negative then some ⟨n.negative, 0, 0⟩
    else none

/-- A decimal within the range of the binary format. -/
def inRange? (d : Decimal) : Option Number :=
  d.magnitude?.map fun _ => .decimal d

/-- What a numeral means: an integer if it is written as one and fits, a decimal otherwise. Negative zero
is a decimal, since integers have no sign of zero. -/
def ofNumeral? (n : Numeral) : Option Number :=
  let asDecimal := (decimal? n).bind inRange?
  if n.fraction.isNone && n.exponent.isNone then
    let m := ofDigits n.whole
    if n.negative then
      if 0 < m ∧ m ≤ 0x8000000000000000 then some (.int (-(m : Int))) else asDecimal
    else if m < 0x10000000000000000 then some (.int m) else asDecimal
  else asDecimal

/-- A number in text form. -/
def render : Number → String
  | .int n => toString n
  | .decimal d =>
    (if d.negative then "-" else "") ++ toString d.significand ++ "e" ++ toString d.exponent

end Number

/-! ## Reading -/

/-- The greatest number of containers inside each other. -/
def depthLimit : Nat := 127

mutual

/-- The value of a part, with at most `depth` containers inside each other. -/
def ofRaw? (depth : Nat) : Raw → Option Json
  | .null => some .null
  | .bool b => some (.bool b)
  | .number n => (Number.ofNumeral? n).map .number
  | .string s => s.text?.map .string
  | .array items =>
    match depth with
    | 0 => none
    | depth + 1 => (itemsOfRaw? depth items).map .array
  | .object members =>
    match depth with
    | 0 => none
    | depth + 1 => (membersOfRaw? depth members).map .object

/-- The values of the items of an array. -/
def itemsOfRaw? (depth : Nat) : List Raw → Option (List Json)
  | [] => some []
  | x :: xs => do
    let x ← ofRaw? depth x
    let xs ← itemsOfRaw? depth xs
    return x :: xs

/-- The values of the members of an object. -/
def membersOfRaw? (depth : Nat) : List (Literal × Raw) → Option (List (String × Json))
  | [] => some []
  | (key, x) :: members => do
    let key ← key.text?
    let x ← ofRaw? depth x
    let members ← membersOfRaw? depth members
    return (key, x) :: members

end

/-- The value that bytes spell. -/
def ofBytes? (bs : Bytes) : Option Json :=
  (Raw.ofBytes? bs).bind (ofRaw? depthLimit)

/-- The value that a text spells. -/
def ofString? (s : String) : Option Json :=
  (Raw.ofString? s).bind (ofRaw? depthLimit)

/-! ## Access -/

/-- The value of the last member with a key. -/
def lookup? (members : List (String × Json)) (key : String) : Option Json :=
  (members.reverse.find? fun m => m.1 == key).map Prod.snd

/-! ## Writing -/

/-- How one character is written in a string: quotation marks and backslashes are escaped, controls have a
letter or a code, and everything else stands for itself. -/
def escapeChar (c : Char) : List Char :=
  if c = '"' then ['\\', '"']
  else if c = '\\' then ['\\', '\\']
  else if c = '\x08' then ['\\', 'b']
  else if c = '\x0c' then ['\\', 'f']
  else if c = '\n' then ['\\', 'n']
  else if c = '\r' then ['\\', 'r']
  else if c = '\t' then ['\\', 't']
  else if c.toNat < 0x20 then
    ['\\', 'u', '0', '0', Nat.digitChar (c.toNat / 16), Nat.digitChar (c.toNat % 16)]
  else [c]

/-- A string in quotation marks. -/
def renderString (s : String) : List Char :=
  '"' :: s.toList.flatMap escapeChar ++ ['"']

/-- Puts a member where its key belongs; a member with the same key is replaced. -/
def insertMember (key : String) (x : Json) : List (String × Json) → List (String × Json)
  | [] => [(key, x)]
  | (k, y) :: members =>
    if key < k then (key, x) :: (k, y) :: members
    else if key = k then (key, x) :: members
    else (k, y) :: insertMember key x members

/-- The members in the order of their keys, the last one of each key. -/
def sortMembers (members : List (String × Json)) : List (String × Json) :=
  members.foldl (fun sorted m => insertMember m.1 m.2 sorted) []

mutual

/-- The same value with the members of every object in order. -/
def canonical : Json → Json
  | .array items => .array (canonicalItems items)
  | .object members => .object (sortMembers (canonicalMembers members))
  | x => x

/-- The items of an array, each with its members in order. -/
def canonicalItems : List Json → List Json
  | [] => []
  | x :: xs => canonical x :: canonicalItems xs

/-- The members of an object, each value with its members in order. -/
def canonicalMembers : List (String × Json) → List (String × Json)
  | [] => []
  | (key, x) :: members => (key, canonical x) :: canonicalMembers members

end

mutual

/-- A value as compact text, members in the order they have. -/
def renderChars : Json → List Char
  | .null => "null".toList
  | .bool true => "true".toList
  | .bool false => "false".toList
  | .number n => n.render.toList
  | .string s => renderString s
  | .array [] => ['[', ']']
  | .array (x :: xs) => '[' :: renderChars x ++ renderItems xs
  | .object [] => ['\x7b', '\x7d']
  | .object ((key, x) :: members) =>
    '\x7b' :: renderString key ++ ':' :: renderChars x ++ renderMembers members

/-- The items after the first, and the end of the array. -/
def renderItems : List Json → List Char
  | [] => [']']
  | x :: xs => ',' :: renderChars x ++ renderItems xs

/-- The members after the first, and the end of the object. -/
def renderMembers : List (String × Json) → List Char
  | [] => ['\x7d']
  | (key, x) :: members =>
    ',' :: renderString key ++ ':' :: renderChars x ++ renderMembers members

end

/-- A value as compact text, the members of every object in the order of their keys. -/
def render (x : Json) : String :=
  String.ofList (renderChars x.canonical)

end Json

end TopicGuard
