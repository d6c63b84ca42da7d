import TopicGuard.Grant
import TopicGuard.Text.Utf8

/-!
Queries and what comes back.

A query is a template with its parameters. A database replies with rows of cells, or fails, or does not reply
in time, or takes no queries any more.
-/

set_option autoImplicit false

namespace TopicGuard.Store

/-- A parameter of a query. -/
inductive Parameter where
  | text (s : String)
  | level (n : AccessLevel)
deriving DecidableEq, Repr

/-- A template and its parameters in order. -/
structure Query where
  template : String
  parameters : List Parameter
deriving DecidableEq, Repr

/-- A value in a row. -/
inductive Cell where
  | null
  | integer (n : Int64)
  | text (s : String)
  /-- A number with a fraction or an exponent. -/
  | real
  | blob (bytes : Bytes)
deriving DecidableEq, Repr

/-- The cells of a row. -/
abbrev Row := List Cell

/-- What a database replies. -/
inductive Reply where
  | rows (rows : List Row)
  | failed (text : String)
  /-- No reply in time. -/
  | late
  /-- No queries are taken any more. -/
  | refused
deriving DecidableEq, Repr

/-- How a database replies to queries. -/
abbrev Database := Query → Reply

/-! ## Reading cells -/

/-- An integer in a column. -/
def Row.integer? (r : Row) (column : Nat) : Option Int64 :=
  match r[column]? with
  | some (.integer n) => some n
  | _ => none

/-- A text in a column. -/
def Row.text? (r : Row) (column : Nat) : Option String :=
  match r[column]? with
  | some (.text s) => some s
  | _ => none

/-- The grant in a row: a filter, and its level if there is a second column. Without one the grant is at the
level that was asked for. -/
def Row.grant? (r : Row) (requested : AccessLevel) : Option Grant := do
  let filter ← r.text? 0
  if 1 < r.length then
    let level ← r.integer? 1
    return ⟨filter, level⟩
  else return ⟨filter, requested⟩

end TopicGuard.Store
