import TopicGuard.Text.Blank
import TopicGuard.Time.Span

/-!
Settings of a policy store.

A store is a database with three questions, each a query template with places for parameters. The question
about superusers may be missing.
-/

set_option autoImplicit false

namespace TopicGuard.Store

/-- The questions that a store answers. -/
inductive Operation where
  | user
  | superuser
  | access
deriving DecidableEq, Repr

/-- The name of a query in faults. -/
def Operation.name : Operation → String
  | .user => "user query"
  | .superuser => "superuser query"
  | .access => "acl query"

/-- The query templates. -/
structure Templates where
  /-- Counts the identities of a name. -/
  user : String
  /-- Counts the superusers of a name; without it there are none. -/
  superuser : Option String
  /-- Lists the grants of a name at a level. -/
  access : String
deriving DecidableEq, Repr

/-- Where the store is and how it is asked. -/
structure Settings where
  databaseUrl : String
  maxConnections : UInt32
  queryTimeout : Span
  templates : Templates
  /-- The validity window does not count for questions about an identity. -/
  skipUserExpiration : Bool
  /-- The validity window does not count for questions about a topic. -/
  skipAccessExpiration : Bool
deriving DecidableEq, Repr

/-- What a pool of connections is opened with. -/
structure PoolOptions where
  databaseUrl : String
  maxConnections : UInt32
  /-- How long a query waits for a connection. -/
  acquireTimeout : Span
deriving DecidableEq, Repr

/-- Why settings cannot be used. -/
inductive SettingsError where
  | missingDatabaseUrl
  | missingQuery (operation : Operation)
  | invalidPoolSize
  | invalidTimeout
deriving DecidableEq, Repr

/-- The wording of a settings error. -/
def SettingsError.message : SettingsError → String
  | .missingDatabaseUrl => "local backend requires a database URL"
  | .missingQuery operation => s!"local backend requires a {operation.name}"
  | .invalidPoolSize => "max connections must be at least 1"
  | .invalidTimeout => "query timeout must be greater than zero"

namespace Settings

/-- How many connections there may be unless another number is set. -/
def defaultMaxConnections : UInt32 := 10

/-- How long a query may take unless another time is set. -/
def defaultQueryTimeout : Span := .ofSeconds 5

/-- Refuses incomplete settings. -/
def validate (s : Settings) : Except SettingsError Unit := do
  if Text.isAllBlank s.databaseUrl then throw .missingDatabaseUrl
  if Text.isAllBlank s.templates.user then throw (.missingQuery .user)
  if Text.isAllBlank s.templates.access then throw (.missingQuery .access)
  if s.maxConnections = 0 then throw .invalidPoolSize
  if s.queryTimeout.isZero then throw .invalidTimeout

/-- What the pool of the store is opened with. -/
def poolOptions (s : Settings) : PoolOptions where
  databaseUrl := s.databaseUrl
  maxConnections := s.maxConnections
  acquireTimeout := s.queryTimeout

end Settings

end TopicGuard.Store
