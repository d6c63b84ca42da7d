import TopicGuard.Policy.Consultation
import TopicGuard.Policy.Fault
import TopicGuard.Store.Query
import TopicGuard.Store.Settings
import TopicGuard.Token.Verifier
import TopicGuard.Topic.Placeholder

/-!
Decisions from a policy store.

A token is verified first; one that is rejected is a plain no, and the database is not asked. Otherwise the
identity in the token is the first parameter of one query. A grant whose filter cannot be expanded or is not
well formed is passed over, but a row that cannot be read is a fault, whatever the other rows say.
-/

set_option autoImplicit false

namespace TopicGuard

/-- A verifier and a database's settings, ready to decide. -/
structure Store where
  verifier : Token.Verifier
  templates : Store.Templates
  queryTimeout : Span
  skipUserExpiration : Bool
  skipAccessExpiration : Bool

namespace Store

/-! ## Faults -/

/-- Why a store could not decide. -/
inductive Fault where
  | settings (cause : SettingsError)
  | database (text : String)
  | closed
  | timeout (operation : Operation) (limit : Span)
  /-- The rows have another shape than the query promises. -/
  | decode (operation : Operation) (text : String)
deriving DecidableEq, Repr

namespace Fault

/-- The wording of a store fault. -/
def message : Fault → String
  | .settings cause => s!"Invalid local store configuration: {cause.message}"
  | .database text => s!"Database error: {text}"
  | .closed => "Database error: attempted to acquire a connection on a closed pool"
  | .timeout operation limit => s!"{operation.name} timed out after {limit.render}"
  | .decode operation text => s!"Unexpected result shape from {operation.name}: {text}"

/-- A store fault as a fault of the policy. -/
def toPolicy : Fault → Policy.Fault
  | .closed => .closed
  | .timeout operation limit => .timeout operation.name limit
  | fault => .store fault.message

end Fault

/-- A decision of a store, or a fault. -/
abbrev Verdict := Except Fault Bool

/-- A decision that may ask the database once. -/
abbrev Consultation := Policy.Consultation Query Reply Verdict

/-! ## Making a store -/

/-- A store for complete settings, on a pool that is open. -/
def ofSettings (s : Settings) (verifier : Token.Verifier) : Except SettingsError Store := do
  s.validate
  return ⟨verifier, s.templates, s.queryTimeout, s.skipUserExpiration, s.skipAccessExpiration⟩

/-- A store for which a pool is opened. `openPool` fails with the words of the database; it is not tried with
settings that are not complete. -/
def connect (s : Settings) (verifier : Token.Verifier) (openPool : PoolOptions → Except String Unit) :
    Except Fault Store := do
  s.validate.mapError .settings
  (openPool s.poolOptions).mapError .database
  (ofSettings s verifier).mapError .settings

/-! ## Decisions -/

/-- The rows of a reply. -/
def rowsOf (s : Store) (operation : Operation) : Reply → Except Fault (List Row)
  | .rows rows => .ok rows
  | .failed text => .error (.database text)
  | .late => .error (.timeout operation s.queryTimeout)
  | .refused => .error .closed

/-- The count is positive: the first integer of the first row. No row counts as zero. -/
def judgeCount (s : Store) (operation : Operation) (reply : Reply) : Verdict := do
  match ← s.rowsOf operation reply with
  | [] => return false
  | row :: _ =>
    match row.integer? 0 with
    | some n => return 0 < n
    | none => throw (.decode operation "the first column of the first row is no integer")

/-- The grants in the rows, in order. -/
def grantsOf (requested : AccessLevel) (rows : List Row) : Except Fault (List Grant) :=
  rows.mapM fun row =>
    match row.grant? requested with
    | some grant => .ok grant
    | none => .error (.decode .access "a row is no filter with a level")

/-- The grant as it applies to a client, unless its filter cannot be used. -/
def applicable? (σ : Substitution) (g : Grant) : Option Grant :=
  match σ.expand g.filter with
  | .error _ => none
  | .ok expansion =>
    match Filter.parse expansion.text with
    | .error _ => none
    | .ok filter => some ⟨filter.text, g.level⟩

/-- Some grant among the rows applies to the client and permits the request. -/
def judgeAccess (s : Store) (σ : Substitution) (topic : String) (requested : AccessLevel)
    (reply : Reply) : Verdict := do
  let rows ← s.rowsOf .access reply
  let grants ← grantsOf requested rows
  return Grant.anyPermits (grants.filterMap (applicable? σ)) topic requested

/-- Whether the window counts for questions about an identity. -/
def userExpiry (s : Store) : Token.Expiry :=
  if s.skipUserExpiration then .skip else .enforce

/-- Whether the window counts for questions about a topic. -/
def accessExpiry (s : Store) : Token.Expiry :=
  if s.skipAccessExpiration then .skip else .enforce

/-- Asks the database about the identity of a token that is not rejected. -/
def consult (s : Store) (expiry : Token.Expiry) (now : Instant) (token : String)
    (question : String → Query) (judge : String → Reply → Verdict) : Consultation :=
  match s.verifier.verify expiry now token with
  | .error _ => .settled (.ok false)
  | .ok claims => .ask (question claims.identity) (judge claims.identity)

/-- The token is valid and its identity is known. -/
def authenticate (s : Store) (now : Instant) (token : String) : Consultation :=
  s.consult s.userExpiry now token (fun identity => ⟨s.templates.user, [.text identity]⟩)
    fun _ => s.judgeCount .user

/-- The token is valid and its identity is a superuser. -/
def isPrivileged (s : Store) (now : Instant) (token : String) : Consultation :=
  match s.templates.superuser with
  | none => .settled (.ok false)
  | some template =>
    s.consult s.userExpiry now token (fun identity => ⟨template, [.text identity]⟩)
      fun _ => s.judgeCount .superuser

/-- The token is valid and a grant of its identity permits the request. -/
def checkAccess (s : Store) (now : Instant) (token topic clientId : String)
    (requested : AccessLevel) : Consultation :=
  s.consult s.accessExpiry now token
    (fun identity => ⟨s.templates.access, [.text identity, .level requested]⟩)
    fun identity => s.judgeAccess ⟨identity, clientId⟩ topic requested

end Store

end TopicGuard
