import TopicGuard.Text.Utf8

/-!
The grammar of JSON, without its meaning.

`Raw.parse` cuts a text into the parts that the grammar names and decodes none of them: a numeral keeps its
digits, a string its pieces, an object its members in the order of the text, repeated keys included. What
a part means, and whether it means anything, is asked of the part later, and only of those parts that
somebody wants. A member that nobody reads therefore has to be well formed, but it may hold a number beyond
any range, a lone surrogate, stray bytes or any depth of nesting.

The input has one entry per character (`Utf8.scalars`). All of JSON's punctuation is ASCII, so only string
literals can hold an entry that is no character.
-/

set_option autoImplicit false

namespace TopicGuard.Json

/-- A text as its well-formed characters and stray bytes. -/
abbrev Scalars := List (Option Char)

/-! ## Parts -/

/-- A piece of a string literal. -/
inductive Piece where
  /-- A character, written as itself or as a short escape, or a stray byte. -/
  | scalar (c : Option Char)
  /-- A UTF-16 code unit, written as four hexadecimal digits. -/
  | unit (n : Nat)
deriving DecidableEq, Repr

/-- The pieces between two quotation marks. -/
abbrev Literal := List Piece

/-- A numeral by its digits. -/
structure Numeral where
  negative : Bool
  /-- The digits before the point, at least one. -/
  whole : List Nat
  /-- The digits after the point, at least one if there is a point. -/
  fraction : Option (List Nat)
  /-- The sign and the digits of the exponent. -/
  exponent : Option (Bool × List Nat)
deriving DecidableEq, Repr

/-- A JSON text by its parts. -/
inductive Raw where
  | null
  | bool (b : Bool)
  | number (n : Numeral)
  | string (s : Literal)
  | array (items : List Raw)
  | object (members : List (Literal × Raw))
deriving Repr

namespace Raw

/-! ## Reading the leaves -/

/-- The four blanks of JSON. -/
def isBlank (c : Char) : Bool :=
  c == ' ' || c == '\t' || c == '\n' || c == '\r'

/-- Drops the blanks at the front. -/
def skipBlanks : Scalars → Scalars
  | some c :: rest => if isBlank c then skipBlanks rest else some c :: rest
  | s => s

/-- The value of a decimal digit. -/
def digit? (c : Char) : Option Nat :=
  if '0' ≤ c && c ≤ '9' then some (c.toNat - '0'.toNat) else none

/-- The value of a hexadecimal digit of either case. -/
def hexDigit? (c : Char) : Option Nat :=
  if '0' ≤ c && c ≤ '9' then some (c.toNat - '0'.toNat)
  else if 'a' ≤ c && c ≤ 'f' then some (c.toNat - 'a'.toNat + 10)
  else if 'A' ≤ c && c ≤ 'F' then some (c.toNat - 'A'.toNat + 10)
  else none

/-- The longest run of decimal digits at the front. -/
def digits : Scalars → List Nat × Scalars
  | some c :: rest =>
    match digit? c with
    | some d => let (ds, rest) := digits rest; (d :: ds, rest)
    | none => ([], some c :: rest)
  | s => ([], s)

/-- At least one digit. -/
def digits₁ (s : Scalars) : Option (List Nat × Scalars) :=
  match digits s with
  | ([], _) => none
  | (ds, rest) => some (ds, rest)

/-- The digits before the point: a zero stands alone. -/
def whole (s : Scalars) : Option (List Nat × Scalars) := do
  let (ds, rest) ← digits₁ s
  match ds with
  | 0 :: _ :: _ => none
  | _ => some (ds, rest)

/-- The point and the digits after it, if there is a point. -/
def fraction : Scalars → Option (Option (List Nat) × Scalars)
  | some '.' :: rest => (digits₁ rest).map fun (ds, rest) => (some ds, rest)
  | s => some (none, s)

/-- The mark, sign and digits of the exponent, if there is a mark. -/
def exponent : Scalars → Option (Option (Bool × List Nat) × Scalars)
  | some c :: rest =>
    if c = 'e' ∨ c = 'E' then
      match rest with
      | some '-' :: rest => (digits₁ rest).map fun (ds, rest) => (some (true, ds), rest)
      | some '+' :: rest => (digits₁ rest).map fun (ds, rest) => (some (false, ds), rest)
      | rest => (digits₁ rest).map fun (ds, rest) => (some (false, ds), rest)
    else some (none, some c :: rest)
  | s => some (none, s)

/-- A numeral without its sign. -/
def magnitude (negative : Bool) (s : Scalars) : Option (Numeral × Scalars) := do
  let (whole, s) ← whole s
  let (fraction, s) ← fraction s
  let (exponent, s) ← exponent s
  return (⟨negative, whole, fraction, exponent⟩, s)

/-- A numeral. -/
def numeral : Scalars → Option (Numeral × Scalars)
  | some '-' :: rest => magnitude true rest
  | s => magnitude false s

/-- The character that a short escape stands for. -/
def shortEscape? (c : Char) : Option Char :=
  if c = '"' then some '"'
  else if c = '\\' then some '\\'
  else if c = '/' then some '/'
  else if c = 'b' then some '\x08'
  else if c = 'f' then some '\x0c'
  else if c = 'n' then some '\n'
  else if c = 'r' then some '\r'
  else if c = 't' then some '\t'
  else none

/-- Four hexadecimal digits. -/
def codeUnit? : Option Char → Option Char → Option Char → Option Char → Option Nat
  | some a, some b, some c, some d => do
    let a ← hexDigit? a
    let b ← hexDigit? b
    let c ← hexDigit? c
    let d ← hexDigit? d
    return ((a * 16 + b) * 16 + c) * 16 + d
  | _, _, _, _ => none

/-- The rest of a string literal, after its opening quotation mark. Bare control characters are not
allowed. -/
def literal : Scalars → Option (Literal × Scalars)
  | [] => none
  | none :: rest => (literal rest).map fun (ps, rest) => (.scalar none :: ps, rest)
  | some c :: rest =>
    if c = '"' then some ([], rest)
    else if c = '\\' then
      match rest with
      | some 'u' :: a :: b :: c :: d :: rest => do
        let n ← codeUnit? a b c d
        let (ps, rest) ← literal rest
        return (.unit n :: ps, rest)
      | some e :: rest => do
        let c ← shortEscape? e
        let (ps, rest) ← literal rest
        return (.scalar (some c) :: ps, rest)
      | _ => none
    else if c.toNat < 0x20 then none
    else (literal rest).map fun (ps, rest) => (.scalar (some c) :: ps, rest)

/-! ## Reading values -/

mutual

/-- A value. Each call, also to the two readers below, takes one unit of fuel. -/
def value : Nat → Scalars → Option (Raw × Scalars)
  | 0, _ => none
  | fuel + 1, s =>
    match skipBlanks s with
    | some 'n' :: some 'u' :: some 'l' :: some 'l' :: rest => some (.null, rest)
    | some 't' :: some 'r' :: some 'u' :: some 'e' :: rest => some (.bool true, rest)
    | some 'f' :: some 'a' :: some 'l' :: some 's' :: some 'e' :: rest => some (.bool false, rest)
    | some '"' :: rest => (literal rest).map fun (ps, rest) => (.string ps, rest)
    | some '[' :: rest =>
      match skipBlanks rest with
      | some ']' :: rest => some (.array [], rest)
      | rest => (items fuel rest).map fun (xs, rest) => (.array xs, rest)
    | some '{' :: rest =>
      match skipBlanks rest with
      | some '}' :: rest => some (.object [], rest)
      | rest => (members fuel rest).map fun (ms, rest) => (.object ms, rest)
    | s => (numeral s).map fun (n, rest) => (.number n, rest)

/-- The items of an array that is not empty, and its end. -/
def items : Nat → Scalars → Option (List Raw × Scalars)
  | 0, _ => none
  | fuel + 1, s => do
    let (x, rest) ← value fuel s
    match skipBlanks rest with
    | some ',' :: rest =>
      let (xs, rest) ← items fuel rest
      return (x :: xs, rest)
    | some ']' :: rest => return ([x], rest)
    | _ => none

/-- The members of an object that is not empty, and its end. -/
def members : Nat → Scalars → Option (List (Literal × Raw) × Scalars)
  | 0, _ => none
  | fuel + 1, s =>
    match skipBlanks s with
    | some '"' :: rest => do
      let (key, rest) ← literal rest
      match skipBlanks rest with
      | some ':' :: rest =>
        let (x, rest) ← value fuel rest
        match skipBlanks rest with
        | some ',' :: rest =>
          let (ms, rest) ← members fuel rest
          return ((key, x) :: ms, rest)
        | some '}' :: rest => return ([(key, x)], rest)
        | _ => none
      | _ => none
    | _ => none

end

/-- One value with nothing but blanks around it. Reading a character takes at most two calls, so the fuel
never runs out. -/
def parse (s : Scalars) : Option Raw := do
  let (x, rest) ← value (2 * s.length + 2) s
  guard (skipBlanks rest).isEmpty
  return x

/-- One value, read from bytes. -/
def ofBytes? (bs : Bytes) : Option Raw :=
  parse (Utf8.scalars bs)

/-- One value, read from a text. -/
def ofString? (s : String) : Option Raw :=
  parse (s.toList.map some)

end Raw

/-! ## What a literal spells -/

namespace Literal

/-- The first half of a surrogate pair. -/
def isLeading (n : Nat) : Bool :=
  0xD800 ≤ n && n < 0xDC00

/-- The second half of a surrogate pair. -/
def isTrailing (n : Nat) : Bool :=
  0xDC00 ≤ n && n < 0xE000

/-- The characters that a literal spells. A stray byte or half a surrogate pair spells nothing. -/
def chars? : Literal → Option (List Char)
  | [] => some []
  | .scalar none :: _ => none
  | .scalar (some c) :: rest => (chars? rest).map (c :: ·)
  | .unit n :: rest =>
    if isLeading n then
      match rest with
      | .unit m :: rest =>
        if isTrailing m then
          (chars? rest).map (Char.ofNat (0x10000 + (n - 0xD800) * 0x400 + (m - 0xDC00)) :: ·)
        else none
      | _ => none
    else if isTrailing n then none
    else (chars? rest).map (Char.ofNat n :: ·)

/-- The text that a literal spells. -/
def text? (s : Literal) : Option String :=
  s.chars?.map String.ofList

end Literal

end TopicGuard.Json
