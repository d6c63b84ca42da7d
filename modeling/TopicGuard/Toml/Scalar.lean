import TopicGuard.Number.Binary64

/-!
Numbers and dates of TOML documents.

Everything here looks at a word, a maximal run of the characters that numbers and dates are made of, and says
what the word stands for. Digits may be grouped by single underscores; a decimal integer has no leading zero and
has to fit 64 bits; a decimal must not be beyond the binary format's range on the positive side; a date has to be
in the calendar.
-/

set_option autoImplicit false

namespace TopicGuard.Toml

/-! ## Digits -/

/-- The value of a digit in a base up to sixteen. -/
def digit? (base : Nat) (c : Char) : Option Nat :=
  let n :=
    if '0' ≤ c ∧ c ≤ '9' then c.toNat - '0'.toNat
    else if 'a' ≤ c ∧ c ≤ 'f' then c.toNat - 'a'.toNat + 10
    else if 'A' ≤ c ∧ c ≤ 'F' then c.toNat - 'A'.toNat + 10
    else base
  if n < base then some n else none

/-- The values of grouped digits; `afterDigit` says that an underscore may come next. -/
def groupedDigits? (base : Nat) (afterDigit : Bool) : List Char → Option (List Nat)
  | [] => if afterDigit then some [] else none
  | '_' :: cs => if afterDigit then groupedDigits? base false cs else none
  | c :: cs => do
    let n ← digit? base c
    let ns ← groupedDigits? base true cs
    return n :: ns

/-- The values of at least one digit, grouped or not. -/
def digits? (base : Nat) (cs : List Char) : Option (List Nat) :=
  groupedDigits? base false cs

/-- The number that digits spell. -/
def ofDigits (base : Nat) (ds : List Nat) : Nat :=
  ds.foldl (fun n d => n * base + d) 0

/-! ## Integers -/

/-- A sign in front of a word, if there is one: whether it is negative, and the rest. -/
def cutSign : List Char → Bool × List Char
  | '+' :: cs => (false, cs)
  | '-' :: cs => (true, cs)
  | cs => (false, cs)

/-- The digits of a decimal integer: no zero in front of others. -/
def wholeDigits? (cs : List Char) : Option (List Nat) := do
  let ds ← digits? 10 cs
  guard (ds.length = 1 || ds.head? ≠ some 0)
  return ds

/-- An integer within 64 bits. -/
def inRange? (n : Int) : Option Int :=
  if -0x8000000000000000 ≤ n ∧ n < 0x8000000000000000 then some n else none

/-- The integer that a word stands for. Only decimal integers have a sign. -/
def integer? : List Char → Option Int
  | '0' :: 'x' :: cs => (digits? 16 cs).bind fun ds => inRange? (ofDigits 16 ds)
  | '0' :: 'o' :: cs => (digits? 8 cs).bind fun ds => inRange? (ofDigits 8 ds)
  | '0' :: 'b' :: cs => (digits? 2 cs).bind fun ds => inRange? (ofDigits 2 ds)
  | cs =>
    let (negative, cs) := cutSign cs
    (wholeDigits? cs).bind fun ds =>
      inRange? (if negative then -(ofDigits 10 ds : Int) else ofDigits 10 ds)

/-! ## Decimals -/

/-- The number with these digits times a power of ten is within the binary format's range. The size of most
numbers shows in their length. -/
def isFinite (ds : List Nat) (exponent : Int) : Bool :=
  let significant := ds.dropWhile (· == 0)
  let magnitude : Int := significant.length + exponent
  if significant.isEmpty || magnitude < 300 then true
  else if 320 < magnitude then false
  else
    let n := ofDigits 10 significant
    let x :=
      if 0 ≤ exponent then Binary64.ofNat (n * Nat.pow 10 exponent.toNat)
      else Binary64.nearest n (Nat.pow 10 (-exponent).toNat)
    !x.isInfinite

/-- The exponent behind its letter. -/
def exponent? (cs : List Char) : Option Int := do
  let (negative, cs) := cutSign cs
  let ds ← digits? 10 cs
  return if negative then -(ofDigits 10 ds : Int) else ofDigits 10 ds

/-- A letter that begins an exponent. -/
def isExponentLetter (c : Char) : Bool :=
  c == 'e' || c == 'E'

/-- The word is a decimal: it has a fraction, an exponent or both, or names infinity or no number. -/
def isDecimal (word : List Char) : Bool :=
  let (negative, cs) := cutSign word
  cs == ['i', 'n', 'f'] || cs == ['n', 'a', 'n'] || (do
    let mantissa := cs.takeWhile fun c => !isExponentLetter c
    let tail := cs.dropWhile fun c => !isExponentLetter c
    let fraction := mantissa.dropWhile (· ≠ '.')
    guard (!(fraction.isEmpty && tail.isEmpty))
    let whole ← wholeDigits? (mantissa.takeWhile (· ≠ '.'))
    let fraction ← if fraction.isEmpty then some [] else digits? 10 (fraction.drop 1)
    let exponent ← if tail.isEmpty then some 0 else exponent? (tail.drop 1)
    return negative || isFinite (whole ++ fraction) (exponent - fraction.length)).getD false

/-! ## Dates -/

/-- The number of plain digits. -/
def plain? (cs : List Char) : Option Nat :=
  if cs.isEmpty then none else (cs.mapM (digit? 10)).map (ofDigits 10)

/-- The number of two digits within bounds. -/
def two? (least greatest : Nat) (a b : Char) : Option Nat := do
  let n ← plain? [a, b]
  guard (least ≤ n && n ≤ greatest)
  return n

/-- The year has a leap day. -/
def isLeap (year : Nat) : Bool :=
  year % 4 == 0 && (year % 100 != 0 || year % 400 == 0)

/-- The number of days in a month. -/
def daysIn (year month : Nat) : Nat :=
  if month == 2 then if isLeap year then 29 else 28
  else if month == 4 || month == 6 || month == 9 || month == 11 then 30
  else 31

/-- What follows a date of the calendar at the front of a word. -/
def afterDay? : List Char → Option (List Char)
  | y₁ :: y₂ :: y₃ :: y₄ :: '-' :: m₁ :: m₂ :: '-' :: d₁ :: d₂ :: rest => do
    let year ← plain? [y₁, y₂, y₃, y₄]
    let month ← two? 1 12 m₁ m₂
    let _ ← two? 1 (daysIn year month) d₁ d₂
    return rest
  | _ => none

/-- What follows a time of day at the front of a word. A minute may have a leap second. -/
def afterTime? : List Char → Option (List Char)
  | h₁ :: h₂ :: ':' :: m₁ :: m₂ :: ':' :: s₁ :: s₂ :: rest => do
    let _ ← two? 0 23 h₁ h₂
    let _ ← two? 0 59 m₁ m₂
    let _ ← two? 0 60 s₁ s₂
    match rest with
    | '.' :: rest =>
      guard (!(rest.takeWhile Char.isDigit).isEmpty)
      return rest.dropWhile Char.isDigit
    | rest => return rest
  | _ => none

/-- The word is empty or the distance from universal time. -/
def isOffset : List Char → Bool
  | [] | ['Z'] | ['z'] => true
  | [sign, h₁, h₂, ':', m₁, m₂] =>
    (sign == '+' || sign == '-') && (two? 0 23 h₁ h₂).isSome && (two? 0 59 m₁ m₂).isSome
  | _ => false

/-- The word is a date. -/
def isDay (word : List Char) : Bool :=
  afterDay? word == some []

/-- The word is a time of day, with the distance from universal time if that is allowed. -/
def isTime (withOffset : Bool) (word : List Char) : Bool :=
  match afterTime? word with
  | some rest => rest.isEmpty || (withOffset && isOffset rest)
  | none => false

/-- The word is a date, a time of day, or both with a letter between them. -/
def isDate (word : List Char) : Bool :=
  isDay word || isTime false word ||
    match afterDay? word with
    | some (c :: rest) => (c == 'T' || c == 't') && isTime true rest
    | _ => false

end TopicGuard.Toml
