import TopicGuard.Text.Percent
import TopicGuard.Url.Punycode

/-!
Hosts in addresses.

A host is a domain name, or an address of version 4 or 6. Version 4 addresses come in many spellings: each
part may be decimal, octal or hexadecimal, and the last part may stand for several bytes. A host whose last
part looks like a number has to be such an address. Version 6 addresses stand in brackets. Written out, every
address has one spelling.

Domain names are limited to ASCII; a name with other characters is refused, and so is one with an encoded
label that cannot be read. A reader that knows international names reads more hosts than `Host.parse`, and
knows more reasons to refuse an encoded label; what is proved of where addresses lead holds for any reader.
-/

set_option autoImplicit false

namespace TopicGuard

/-- Why an address cannot be used. -/
inductive UrlError where
  | invalidPort
  | invalidDomain
  | invalidIpv4
  | invalidIpv6
  | emptyHost
deriving DecidableEq, Repr

/-- The wording of an address error. -/
def UrlError.message : UrlError → String
  | .invalidPort => "invalid port number"
  | .invalidDomain => "invalid international domain name"
  | .invalidIpv4 => "invalid IPv4 address"
  | .invalidIpv6 => "invalid IPv6 address"
  | .emptyHost => "empty host"

/-- Where an address leads. -/
inductive Host where
  | domain (name : String)
  /-- A 32-bit number. -/
  | ipv4 (address : Nat)
  /-- Eight 16-bit numbers. -/
  | ipv6 (pieces : List Nat)
deriving DecidableEq, Repr

namespace Host

/-! ## Numbers -/

/-- The number that digits spell in a base, if they all are digits of it. -/
def number? (base : Nat) (cs : List Char) : Option Nat :=
  cs.foldlM (fun n c => do
    let d ← Percent.value? c
    guard (d < base)
    return n * base + d) 0

/-- A part of a version 4 address: hexadecimal behind `0x`, octal behind a zero, else decimal. -/
def ipv4Part? : List Char → Option Nat
  | [] => none
  | '0' :: 'x' :: rest | '0' :: 'X' :: rest => number? 16 rest
  | '0' :: c :: rest => number? 8 (c :: rest)
  | cs => number? 10 cs

/-! ## Version 4 -/

/-- The parts of a name, without an empty last one. -/
def labels (cs : List Char) : List (List Char) :=
  let parts := Form.splitAt '.' cs
  if 1 < parts.length ∧ parts.getLast? = some [] then parts.dropLast else parts

/-- The last part looks like a number. -/
def endsInNumber (cs : List Char) : Bool :=
  match (labels cs).getLast? with
  | none => false
  | some last =>
    (!last.isEmpty && last.all fun c => '0' ≤ c && c ≤ '9') || (ipv4Part? last).isSome

/-- The number that bytes spell in the first places of four. -/
def leadingBytes (bytes : List Nat) : Nat :=
  bytes.foldr (fun b n => b * 0x1000000 + n / 256) 0

/-- The address that a dotted text spells: a byte for each part but the last, which fills the rest. -/
def ipv4? (cs : List Char) : Option Nat := do
  let parts := labels cs
  guard (parts.length ≤ 4)
  let numbers ← parts.mapM ipv4Part?
  let last ← numbers.getLast?
  let bytes := numbers.dropLast
  guard (bytes.all (· < 256) && last < Nat.pow 256 (4 - bytes.length))
  return leadingBytes bytes + last

/-- A version 4 address, byte by byte. -/
def renderIpv4 (address : Nat) : String :=
  ".".intercalate ([3, 2, 1, 0].map fun i => toString (address / Nat.pow 256 i % 256))

/-! ## Version 6 -/

/-- Up to `most` hexadecimal digits at the front: their value and number, and what follows them. -/
def hexRun : Nat → Nat → Nat → List Char → Nat × Nat × List Char
  | 0, value, count, cs => (value, count, cs)
  | _ + 1, value, count, [] => (value, count, [])
  | most + 1, value, count, c :: cs =>
    match Percent.value? c with
    | some d => hexRun most (value * 16 + d) (count + 1) cs
    | none => (value, count, c :: cs)

/-- A decimal byte without leading zeros. -/
def byte? (cs : List Char) : Option Nat := do
  guard (!cs.isEmpty && (cs.length = 1 || cs.head? ≠ some '0') && cs.length ≤ 3)
  let n ← number? 10 cs
  guard (n < 256)
  return n

/-- The two pieces of a version 4 address at the end of a version 6 address. -/
def embedded? (cs : List Char) : Option (Nat × Nat) := do
  match ← (Form.splitAt '.' cs).mapM byte? with
  | [a, b, c, d] => return (a * 256 + b, c * 256 + d)
  | _ => none

/-- Eight pieces from those read: zeros go where the double colon stood, after `gap` pieces. -/
def spread? (pieces : List Nat) : Option Nat → Option (List Nat)
  | none => if pieces.length = 8 then some pieces else none
  | some gap =>
    some (pieces.take gap ++ List.replicate (8 - pieces.length) 0 ++ pieces.drop gap)

/-- Reads pieces and separators. A double colon counts as one piece and may stand once. -/
def ipv6Pieces? : Nat → List Nat → Option Nat → List Char → Option (List Nat)
  | _, pieces, gap, [] => spread? pieces gap
  | 0, _, _, _ => none
  | fuel + 1, pieces, gap, c :: cs =>
    if 8 ≤ pieces.length then none
    else if c = ':' then
      if gap.isSome then none
      else ipv6Pieces? fuel (pieces ++ [0]) (some (pieces.length + 1)) cs
    else
      let (value, count, rest) := hexRun 4 0 0 (c :: cs)
      match rest with
      | [] => spread? (pieces ++ [value]) gap
      | '.' :: _ =>
        if count = 0 ∨ 6 < pieces.length then none
        else (embedded? (c :: cs)).bind fun (a, b) => spread? (pieces ++ [a, b]) gap
      | ':' :: rest => if rest.isEmpty then none else ipv6Pieces? fuel (pieces ++ [value]) gap rest
      | _ => none

/-- The address that a text without brackets spells. -/
def ipv6? (cs : List Char) : Option (List Nat) :=
  match cs with
  | [] | [_] => none
  | ':' :: ':' :: rest => ipv6Pieces? (rest.length + 1) [0] (some 1) rest
  | ':' :: _ => none
  | cs => ipv6Pieces? (cs.length + 1) [] none cs

/-- The length of the run of zeros at the front. -/
def zeroRun (pieces : List Nat) : Nat :=
  (pieces.takeWhile (· = 0)).length

/-- The start and the length of the first longest run of zeros. -/
def longestZeros (pieces : List Nat) : Nat × Nat :=
  (List.range pieces.length).foldl (fun best i =>
    let n := zeroRun (pieces.drop i)
    if best.2 < n then (i, n) else best) (0, 0)

/-- Pieces in hexadecimal between colons. -/
def joinPieces (pieces : List Nat) : String :=
  ":".intercalate (pieces.map fun n => String.ofList (Nat.toDigits 16 n))

/-- A version 6 address; the first longest run of at least two zeros becomes a double colon. -/
def renderIpv6 (pieces : List Nat) : String :=
  let (start, length) := longestZeros pieces
  if length < 2 then joinPieces pieces
  else joinPieces (pieces.take start) ++ "::" ++ joinPieces (pieces.drop (start + length))

/-! ## Hosts -/

/-- The characters that a domain name must not hold. -/
def isForbidden (c : Char) : Bool :=
  c.toNat ≤ 0x20 || 0x7F ≤ c.toNat || "%#/:<>?@[\\]^|".toList.contains c

/-- The host that a text spells. -/
def parse (cs : List Char) : Except UrlError Host :=
  if cs.isEmpty then .error .emptyHost
  else if cs.head? = some '[' then
    if cs.getLast? ≠ some ']' then .error .invalidIpv6
    else match ipv6? (cs.drop 1).dropLast with
      | some pieces => .ok (.ipv6 pieces)
      | none => .error .invalidIpv6
  else
    let name := (Utf8.scalars (Percent.decode cs)).map fun c => c.getD '\uFFFD'
    if name.any isForbidden then .error .invalidDomain
    else
      let name := name.map Char.toLower
      if !(Form.splitAt '.' name).all Punycode.accepts then .error .invalidDomain
      else if endsInNumber name then
        match ipv4? name with
        | some address => .ok (.ipv4 address)
        | none => .error .invalidIpv4
      else .ok (.domain (String.ofList name))

/-- A host as it stands in an address. -/
def render : Host → String
  | .domain name => name
  | .ipv4 address => renderIpv4 address
  | .ipv6 pieces => "[" ++ renderIpv6 pieces ++ "]"

end Host

end TopicGuard
