import TopicGuard.Store.Query

/-!
A policy database in memory.

`Tables` are the identities and the grants that a small database holds, in the order in which they came in. A
`Selection` says what a template asks of them; the first parameter of every query is an identity and the second,
if there is one, a level. A template that selects nothing known fails.
-/

set_option autoImplicit false

namespace TopicGuard.Store

/-- An identity that the database knows. -/
structure Member where
  name : String
  isSuperuser : Bool
deriving DecidableEq, Repr

/-- A grant to an identity. -/
structure GrantTo where
  identity : String
  grant : Grant
deriving DecidableEq, Repr

/-- What a policy database holds. -/
structure Tables where
  members : List Member := []
  grants : List GrantTo := []
deriving DecidableEq, Repr

namespace Tables

/-- The tables with one more identity. -/
def addMember (t : Tables) (member : Member) : Tables :=
  { t with members := t.members ++ [member] }

/-- The tables with one more grant. -/
def addGrant (t : Tables) (grant : GrantTo) : Tables :=
  { t with grants := t.grants ++ [grant] }

end Tables

/-- What a template selects. -/
inductive Selection where
  /-- How many identities have the name. -/
  | memberCount
  /-- How many superusers have the name. -/
  | superuserCount
  /-- The filters granted to the identity at the level or above. -/
  | filters
  /-- The filters granted to the identity, each with its level. -/
  | leveledFilters
  /-- How often the name is among these. -/
  | nameCount (names : List String)
  /-- The filters among these grants, as for the table of grants. -/
  | filtersAmong (grants : List GrantTo)
  /-- The same rows for all parameters. -/
  | constant (rows : List Row)
  /-- Nothing: the query fails. -/
  | broken
deriving DecidableEq, Repr

namespace Selection

/-- A row with a count. -/
def countRow (n : Nat) : Row :=
  [.integer (Int64.ofNat n)]

/-- The grants to an identity, in order. -/
def grantsTo (identity : String) (grants : List GrantTo) : List Grant :=
  (grants.filter fun g => g.identity == identity).map GrantTo.grant

/-- The filters granted to an identity at a level or above, one a row. -/
def filterRows (identity : String) (level : AccessLevel) (grants : List GrantTo) : List Row :=
  ((grantsTo identity grants).filter fun g => g.level.includes level).map fun g => [.text g.filter]

/-- The filters granted to an identity, each with its level. -/
def leveledRows (identity : String) (grants : List GrantTo) : List Row :=
  (grantsTo identity grants).map fun g => [.text g.filter, .integer g.level]

/-- The reply of the tables to a query with these parameters. -/
def reply (t : Tables) : Selection → List Parameter → Reply
  | .constant rows, _ => .rows rows
  | .memberCount, .text name :: _ => .rows [countRow (t.members.countP fun m => m.name == name)]
  | .superuserCount, .text name :: _ =>
    .rows [countRow (t.members.countP fun m => m.name == name && m.isSuperuser)]
  | .nameCount names, .text name :: _ => .rows [countRow (names.count name)]
  | .filters, .text name :: .level level :: _ => .rows (filterRows name level t.grants)
  | .filtersAmong grants, .text name :: .level level :: _ => .rows (filterRows name level grants)
  | .leveledFilters, .text name :: _ => .rows (leveledRows name t.grants)
  | _, _ => .failed "the query cannot be answered"

end Selection

/-- Whether a database takes queries. -/
inductive Availability where
  | ready
  /-- Every connection is in use, so that queries wait until their time is over. -/
  | busy
  | closed
deriving DecidableEq, Repr

/-- A database that answers from tables, given what its templates select. -/
def Tables.database (t : Tables) (availability : Availability) (select : String → Selection) : Database :=
  fun q =>
    match availability with
    | .closed => .refused
    | .busy => .late
    | .ready => (select q.template).reply t q.parameters

end TopicGuard.Store
