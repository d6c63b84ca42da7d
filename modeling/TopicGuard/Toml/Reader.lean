import TopicGuard.Toml.Quoted
import TopicGuard.Toml.Value

/-!
Reading TOML documents.

A document is a sequence of lines, each a pair, a heading or nothing, with a comment behind it. `lines?` cuts a
text into what its lines say and `ofText?` puts that together. Loops are bounded by the number of characters, of
which every round takes at least one, and nested values by `depthLimit`.
-/

set_option autoImplicit false

namespace TopicGuard.Toml

/-- Takes something from the front of a text, or fails. -/
abbrev Reader := StateT (List Char) Option

namespace Reader

variable {α : Type}

/-- The next character, which stays where it is. -/
def peek? : Reader (Option Char) := fun cs => some (cs.head?, cs)

/-- Takes one particular character. -/
def expect (c : Char) : Reader Unit
  | d :: cs => if d = c then some ((), cs) else none
  | [] => none

/-- Takes characters as long as they belong to a class. -/
def takeWhile (p : Char → Bool) : Reader (List Char) :=
  fun cs => some (cs.takeWhile p, cs.dropWhile p)

/-- Items with a separator between them, at least one and at most `more + 1`. -/
def separated (separator : Reader Unit) (item : Reader α) (more : Nat) : Reader (List α) := do
  let x ← item
  match more with
  | 0 => return [x]
  | more + 1 => (do separator; return x :: (← separated separator item more)) <|> return [x]

/-- Items with a separator between them, as many as there are. -/
def separatedBy (separator : Reader Unit) (item : Reader α) : Reader (List α) :=
  fun cs => separated separator item cs.length cs

/-! ## Blanks, comments and ends of lines -/

/-- Blanks within a line. -/
def spaces : Reader Unit := do
  let _ ← takeWhile isSpace

/-- A comment, if there is one. -/
def comment : Reader Unit := do
  if (← peek?) = some '#' then
    let _ ← takeWhile isPrintable

/-- The end of a line or of the document. -/
def endOfLine : Reader Unit
  | [] => some ((), [])
  | cs => (afterBreak? cs).map fun rest => ((), rest)

/-- What may stand behind a pair or a heading. -/
def lineTail : Reader Unit := do
  spaces
  comment
  endOfLine

/-- A line break, blanks or a comment inside an array, or nothing. -/
def gapPiece : Reader Bool := fun cs =>
  match afterBreak? cs with
  | some rest => some (true, rest)
  | none =>
    match cs with
    | '#' :: rest => some (true, rest.dropWhile isPrintable)
    | c :: rest => if isSpace c then some (true, rest) else some (false, c :: rest)
    | [] => some (false, [])

/-- At most so many pieces of a gap. -/
def gapPieces : Nat → Reader Unit
  | 0 => return ()
  | n + 1 => do
    if ← gapPiece then gapPieces n

/-- Line breaks, blanks and comments between the items of an array. -/
def gap : Reader Unit := fun cs => gapPieces cs.length cs

/-! ## Keys -/

/-- A character of a key without quotation marks. -/
def isKeyChar (c : Char) : Bool :=
  c.isAlphanum || c == '_' || c == '-'

/-- One part of a key. -/
def keyPart : Reader String := fun cs =>
  match cs with
  | '"' :: rest => (basic? rest).map fun (s, rest) => (String.ofList s, rest)
  | '\'' :: rest => (literal? rest).map fun (s, rest) => (String.ofList s, rest)
  | cs =>
    let part := cs.takeWhile isKeyChar
    if part.isEmpty then none else some (String.ofList part, cs.dropWhile isKeyChar)

/-- The greatest number of containers inside each other, and of parts in a key. -/
def depthLimit : Nat := 79

/-- A key with its dotted parts, the last of them apart. -/
def key : Reader (List String × String) := do
  let parts ← separatedBy (expect '.') do
    spaces
    let part ← keyPart
    spaces
    return part
  match parts.getLast? with
  | some last => if parts.length ≤ depthLimit then return (parts.dropLast, last) else failure
  | none => failure

/-! ## Values -/

/-- A character of a word: a number, a date or a truth value. -/
def isWordChar (c : Char) : Bool :=
  c.isAlphanum || c == '_' || c == '+' || c == '-' || c == '.' || c == ':'

/-- What a word stands for. -/
def ofWord? (word : List Char) : Option Toml :=
  if word = "true".toList then some (.bool true)
  else if word = "false".toList then some (.bool false)
  else if isDate word then some .date
  else if isDecimal word then some .decimal
  else (integer? word).map .integer

/-- A value in one word. A blank and a time may follow a date. -/
def word : Reader Toml := do
  let w ← takeWhile isWordChar
  let clock : Reader Toml := do
    guard (isDay w)
    expect ' '
    guard (isTime true (← takeWhile isWordChar))
    return .date
  clock <|> (ofWord? w).getM

/-- A value that holds no others. -/
def scalar : Reader Toml := fun cs =>
  match cs with
  | '"' :: _ | '\'' :: _ => (quoted? cs).map fun (s, rest) => (.text (String.ofList s), rest)
  | _ => word cs

/-- A pair of a key and a value. -/
def pair (value : Reader Toml) : Reader (List String × String × Toml) := do
  let (path, last) ← key
  expect '='
  spaces
  let x ← value
  return (path, last, x)

/-- The items of an array behind its bracket. -/
def arrayBody (value : Reader Toml) : Reader Toml := do
  let items ← (separatedBy (expect ',') do
    gap
    let x ← value
    gap
    return x) <|> return []
  if !items.isEmpty then (expect ',' <|> return ())
  gap
  expect ']'
  return .array false items

/-- The pairs of a table behind its brace. -/
def bracedBody (value : Reader Toml) : Reader Toml := do
  let pairs ← (separatedBy (expect ',') do
    let p ← pair value
    spaces
    return p) <|> return []
  spaces
  expect '\x7d'
  (ofPairs? pairs).getM

/-- A value with at most so many containers inside each other. -/
def value : Nat → Reader Toml
  | 0 => scalar
  | depth + 1 => do
    match ← peek? with
    | some '[' =>
      expect '['
      arrayBody (value depth)
    | some '\x7b' =>
      expect '\x7b'
      bracedBody (value depth)
    | _ => scalar

/-! ## Lines -/

/-- A heading. -/
def heading : Reader Line := do
  expect '['
  let isRepeated := (← peek?) = some '['
  if isRepeated then expect '['
  let (path, last) ← key
  expect ']'
  if isRepeated then expect ']'
  lineTail
  return if isRepeated then .repeated path last else .heading path last

/-- What the next line says, if it says anything. -/
def line? : Reader (Option Line) := do
  spaces
  match ← peek? with
  | none => return none
  | some '[' => return some (← heading)
  | some c =>
    if c = '#' ∨ c = '\n' ∨ c = '\r' then
      lineTail
      return none
    else
      let (path, last, x) ← pair (value depthLimit)
      lineTail
      return some (.pair path last x)

/-- What at most so many lines say. -/
def lines : Nat → Reader (List Line)
  | 0 => return []
  | n + 1 => do
    match ← line? with
    | some l => return l :: (← lines n)
    | none => if (← peek?).isNone then return [] else lines n

end Reader

/-- The text without a byte order mark in front. -/
def withoutMark : List Char → List Char
  | '\uFEFF' :: cs => cs
  | cs => cs

/-- What the lines of a text say. -/
def lines? (cs : List Char) : Option (List Line) :=
  match Reader.lines (cs.length + 1) cs with
  | some (lines, []) => some lines
  | _ => none

/-- What a document holds. -/
def ofText? (text : String) : Option Members :=
  (lines? (withoutMark text.toList)).bind ofLines?

end TopicGuard.Toml
