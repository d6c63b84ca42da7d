import TopicGuard.Topic.Level

/-!
Topic filters.

A filter is a path whose levels may be wildcards. `+` stands for exactly one level, which may be empty;
`#` stands for all remaining levels, even none, and means anything only as the last level. Every other
level stands for itself, also when a wildcard character occurs inside it.

`Filter.covers` decides whether a filter admits a topic. A filter with a `#` in the wrong place covers
nothing; `Filter.parse` refuses such a filter and says at which level the `#` stands.
-/

set_option autoImplicit false

namespace TopicGuard

/-- What one level of a filter stands for. -/
inductive Segment where
  /-- The level itself. -/
  | literal (text : String)
  /-- Any one level. -/
  | single
  /-- All remaining levels. -/
  | multi
deriving DecidableEq, Repr

namespace Segment

/-- Only a level that is nothing but a wildcard character is a wildcard. -/
def ofLevel (level : String) : Segment :=
  if level = "+" then .single else if level = "#" then .multi else .literal level

/-- A wildcard of either kind. -/
def isWildcard : Segment → Bool
  | .literal _ => false
  | .single => true
  | .multi => true

end Segment

namespace Filter

/-! ## Matching -/

/-- The segments of a filter text. -/
def segments (filter : String) : List Segment :=
  (Topic.levels filter).map Segment.ofLevel

/-- Walks the segments and the levels of a topic side by side. -/
def coversLevels : List Segment → List String → Bool
  | [], levels => levels.isEmpty
  | .multi :: rest, _ => rest.isEmpty
  | .single :: _, [] => false
  | .single :: rest, _ :: levels => coversLevels rest levels
  | .literal _ :: _, [] => false
  | .literal text :: rest, level :: levels => level == text && coversLevels rest levels

/-- A filter text covers a topic. -/
def covers (filter topic : String) : Bool :=
  coversLevels (segments filter) (Topic.levels topic)

/-! ## Well-formed filters -/

/-- The index, counted from `start`, of the first `#` that is not the last segment. -/
def misplacedFrom (start : Nat) : List Segment → Option Nat
  | [] => none
  | [_] => none
  | .multi :: _ :: _ => some start
  | _ :: next :: rest => misplacedFrom (start + 1) (next :: rest)

/-- The index of the first `#` level that is not the last level. -/
def misplacedMulti? (filter : String) : Option Nat :=
  misplacedFrom 0 (segments filter)

/-- A filter whose `#` is not the last level. -/
structure MisplacedMulti where
  level : Nat
  filter : String
deriving DecidableEq, Repr

/-- The wording of a misplaced `#`. -/
def MisplacedMulti.message (e : MisplacedMulti) : String :=
  s!"'#' must be the last segment of a topic filter, found at level {e.level} of '{e.filter}'"

end Filter

/-- A filter in which `#` occurs as the last level or not at all. -/
structure Filter where
  text : String
  misplaced_eq_none : Filter.misplacedMulti? text = none

namespace Filter

/-- Accepts a well-formed filter text. -/
def parse (text : String) : Except MisplacedMulti Filter :=
  match h : misplacedMulti? text with
  | none => .ok ⟨text, h⟩
  | some level => .error ⟨level, text⟩

/-- The filter holds a wildcard. -/
def hasWildcards (f : Filter) : Bool :=
  (segments f.text).any Segment.isWildcard

/-- The filter covers a topic. -/
def admits (f : Filter) (topic : String) : Bool :=
  covers f.text topic

end Filter

end TopicGuard
