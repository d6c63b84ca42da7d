import TopicGuard.Text.Percent

/-!
Paths in addresses.

A path is a list of segments. A segment of one dot stays where it is, one of two dots takes the segment
before it away, and either leaves an empty segment behind when it comes last. A segment that looks like a
drive letter is never taken away. Dots may be percent-encoded.
-/

set_option autoImplicit false

namespace TopicGuard.Url

/-! ## Encoding -/

/-- The controls, and everything outside ASCII. -/
def isControl (c : Char) : Bool :=
  c.toNat < 0x20 || 0x7E < c.toNat

/-- The characters that a fragment cannot hold. -/
def inFragmentSet (c : Char) : Bool :=
  isControl c || " \"<>\x60".toList.contains c

/-- The characters that a path cannot hold. -/
def inPathSet (c : Char) : Bool :=
  inFragmentSet c || "#?\x7b\x7d".toList.contains c

/-- The characters that a query cannot hold. -/
def inQuerySet (c : Char) : Bool :=
  isControl c || " \"#<>'".toList.contains c

/-- The characters that credentials cannot hold. -/
def inUserSet (c : Char) : Bool :=
  inPathSet c || "/:;=@[\\]^|".toList.contains c

/-! ## Segments -/

/-- The stretches between slashes of either kind. -/
def splitSegments : List Char → List (List Char)
  | [] => [[]]
  | c :: cs =>
    if c = '/' ∨ c = '\\' then [] :: splitSegments cs
    else match splitSegments cs with
      | [] => [[c]]
      | segment :: segments => (c :: segment) :: segments

/-- The dots of a segment that is nothing else, encoded or not. -/
def dots? : List Char → Option Nat
  | [] => some 0
  | '.' :: rest => (dots? rest).map (· + 1)
  | '%' :: '2' :: 'e' :: rest => (dots? rest).map (· + 1)
  | '%' :: '2' :: 'E' :: rest => (dots? rest).map (· + 1)
  | _ => none

/-- A letter and a colon or a bar. -/
def isDriveLetter : List Char → Bool
  | [c, d] => c.isAlpha && (d == ':' || d == '|')
  | _ => false

/-- The segments read so far, the last one first, without the one that two dots take away. -/
def dropSegment : List (List Char) → List (List Char)
  | [] => []
  | segment :: rest => if isDriveLetter segment then segment :: rest else rest

/-- Resolves dots. The segments read so far are kept in reverse; `last` says that no slash follows. -/
def resolve (done : List (List Char)) : List (List Char) → List (List Char)
  | [] => done.reverse
  | [segment] =>
    match dots? segment with
    | some 1 => (([] : List Char) :: done).reverse
    | some 2 => (([] : List Char) :: dropSegment done).reverse
    | _ => (segment :: done).reverse
  | segment :: next :: rest =>
    match dots? segment with
    | some 1 => resolve done (next :: rest)
    | some 2 => resolve (dropSegment done) (next :: rest)
    | _ => resolve (segment :: done) (next :: rest)

/-- The segments of a path that follows its first slash. -/
def pathSegments (cs : List Char) : List (List Char) :=
  resolve [] ((splitSegments cs).map (Percent.encode inPathSet))

/-- A slash in front of each segment. -/
def renderPath (segments : List (List Char)) : List Char :=
  segments.flatMap ('/' :: ·)

end TopicGuard.Url
