/-!
Values of TOML documents.

Settings are texts, integers, truth values and groups of these. A document may also hold decimals and dates,
which no setting is, so only that they are there is kept.

A table knows how it came to be. That decides what a later line of the document may still add to it: a table
in braces is complete, one under a heading may not get a second heading, and one that only a longer heading
or a dotted key speaks of can still get its own.
-/

set_option autoImplicit false

namespace TopicGuard

/-- How a table came to be. -/
inductive Toml.Origin where
  /-- Written in braces. -/
  | braces
  /-- Named by a heading of its own. -/
  | heading
  /-- Named only in front of a longer heading. -/
  | implied
  /-- Named only in front of a dotted key. -/
  | dotted
deriving DecidableEq, Repr

/-- A value. -/
inductive Toml where
  | text (s : String)
  | integer (n : Int)
  | decimal
  | bool (b : Bool)
  | date
  /-- An array, in brackets or as the tables of repeated headings. -/
  | array (isRepeated : Bool) (items : List Toml)
  | table (origin : Toml.Origin) (members : List (String × Toml))
deriving Repr

namespace Toml

/-- The members of a table. -/
abbrev Members := List (String × Toml)

namespace Members

/-- The members with another value for a key; a new key comes last. -/
def put (key : String) (x : Toml) : Members → Members
  | [] => [(key, x)]
  | (k, y) :: members => if k = key then (k, x) :: members else (k, y) :: put key x members

/-! ## Building tables -/

/-- Adds a value under a key that must be new, in the table that the dotted part in front of the key leads
to. Tables on the way are made as needed; one that has a heading or braces of its own is not entered. -/
def addPair : List String → String → Toml → Members → Option Members
  | [], key, x, members =>
    match members.lookup key with
    | none => some (members.put key x)
    | some _ => none
  | first :: path, key, x, members =>
    match members.lookup first with
    | none => do
      let inner ← addPair path key x []
      return members.put first (.table .dotted inner)
    | some (.table .dotted inner) => do
      let inner ← addPair path key x inner
      return members.put first (.table .dotted inner)
    | some (.table .implied inner) => do
      guard (!path.isEmpty)
      let inner ← addPair path key x inner
      return members.put first (.table .implied inner)
    | some (.array true items) => do
      guard (!path.isEmpty)
      match items.getLast? with
      | some (.table origin inner) =>
        let inner ← addPair path key x inner
        return members.put first (.array true (items.dropLast ++ [.table origin inner]))
      | _ => none
    | some _ => none

/-- Changes the members of the table that a heading's path leads to; the last of repeated tables is meant.
Tables on the way are made as needed. -/
def descend (change : Members → Option Members) : List String → Members → Option Members
  | [], members => change members
  | first :: path, members =>
    match members.lookup first with
    | none => do
      let inner ← descend change path []
      return members.put first (.table .implied inner)
    | some (.table .braces _) => none
    | some (.table origin inner) => do
      let inner ← descend change path inner
      return members.put first (.table origin inner)
    | some (.array true items) =>
      match items.getLast? with
      | some (.table origin inner) => do
        let inner ← descend change path inner
        return members.put first (.array true (items.dropLast ++ [.table origin inner]))
      | _ => none
    | some _ => none

/-- Gives a table its heading. -/
def openTable (key : String) (members : Members) : Option Members :=
  match members.lookup key with
  | none => some (members.put key (.table .heading []))
  | some (.table .implied inner) => some (members.put key (.table .heading inner))
  | some _ => none

/-- Begins the next of repeated tables. -/
def openRepeated (key : String) (members : Members) : Option Members :=
  match members.lookup key with
  | none => some (members.put key (.array true [.table .heading []]))
  | some (.array true items) => some (members.put key (.array true (items ++ [.table .heading []])))
  | some _ => none

end Members

/-! ## Lines -/

/-- What a line of a document says. The path of a heading and the key of a pair are never empty: the last
part stands alone. -/
inductive Line where
  | pair (path : List String) (key : String) (x : Toml)
  | heading (path : List String) (key : String)
  | repeated (path : List String) (key : String)
deriving Repr

/-- A document under construction: what it holds, and under which heading it stands. -/
structure Draft where
  heading : List String := []
  members : Members := []

namespace Draft

/-- The draft with one more line. -/
def add (d : Draft) : Line → Option Draft
  | .pair path key x => do
    let members ← d.members.descend (Members.addPair path key x) d.heading
    return { d with members }
  | .heading path key => do
    let members ← d.members.descend (Members.openTable key) path
    return ⟨path ++ [key], members⟩
  | .repeated path key => do
    let members ← d.members.descend (Members.openRepeated key) path
    return ⟨path ++ [key], members⟩

end Draft

/-- What the lines of a document hold together. -/
def ofLines? (lines : List Line) : Option Members :=
  (lines.foldlM Draft.add {}).map Draft.members

/-- A table in braces. -/
def ofPairs? (pairs : List (List String × String × Toml)) : Option Toml :=
  (pairs.foldlM (fun members p => Members.addPair p.1 p.2.1 p.2.2 members) []).map (.table .braces)

end Toml

end TopicGuard
