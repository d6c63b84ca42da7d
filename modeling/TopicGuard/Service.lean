import TopicGuard.Policy.Consultation
import TopicGuard.Policy.Fault
import TopicGuard.Service.Settings
import TopicGuard.Token.Verifier

/-!
Decisions from an authorization service.

Each decision is at most one request. Where tokens are verified here as well, one that is rejected is a plain
no; so is one that cannot travel in a header. A service that has been closed decides nothing.
-/

set_option autoImplicit false

namespace TopicGuard

/-- The addresses of a service and how it is spoken to. -/
structure Service where
  endpoints : Service.Endpoints
  paramsMode : Service.ParamsMode
  responseMode : Service.ResponseMode
  timeout : Span
  /-- Verifies tokens before they are sent. -/
  verifier : Option Token.Verifier

namespace Service

/-! ## Requests and replies -/

/-- A request, always a `POST`. -/
structure Request where
  url : Url
  /-- The token, unchanged. -/
  authorization : String
  content : Content
deriving DecidableEq, Repr

/-- Why nothing more is heard. -/
inductive Lapse where
  /-- The connection was refused or broke. -/
  | broken
  /-- Nothing came in time. -/
  | late
deriving DecidableEq, Repr

/-- What comes back. A response can break off before its body is complete. -/
inductive Reply where
  | response (status : Nat) (body : Except Lapse Bytes)
  | lapse (l : Lapse)

/-! ## Faults -/

/-- Why a service could not decide. -/
inductive Fault where
  | transport (text : String)
  | timeout (operation : Operation) (limit : Span)
  | malformedResponse (text : String)
  | closed
deriving DecidableEq, Repr

namespace Fault

/-- The wording of a service fault. -/
def message : Fault → String
  | .transport text => s!"HTTP request failed: {text}"
  | .timeout operation limit => s!"{operation.name} timed out after {limit.render}"
  | .malformedResponse text => s!"malformed response: {text}"
  | .closed => "policy service has been closed"

/-- A service fault as a fault of the policy. -/
def toPolicy : Fault → Policy.Fault
  | .transport text => .transport text
  | .timeout operation limit => .timeout operation.name limit
  | .malformedResponse text => .malformedResponse text
  | .closed => .closed

end Fault

/-- A decision of a service, or a fault. -/
abbrev Verdict := Except Fault Bool

/-- A decision that may send one request. -/
abbrev Consultation := Policy.Consultation Request Reply Verdict

/-! ## Making a service -/

/-- A service for complete settings. `buildClient` makes the client that sends its requests, or fails with the words
of whoever could not. -/
def ofSettings (s : Settings) (verifier : Option Token.Verifier) (buildClient : ClientOptions → Except String Unit) :
    Except SettingsError Service := do
  let endpoints ← s.endpoints
  (buildClient s.clientOptions).mapError .client
  return ⟨endpoints, s.paramsMode, s.responseMode, s.timeout, verifier⟩

/-! ## Decisions -/

/-- The byte can stand in the value of a header. -/
def isHeaderByte (b : UInt8) : Bool :=
  (0x20 ≤ b.toNat && b.toNat ≠ 0x7F) || b.toNat == 0x09

/-- The token can stand in the value of a header. -/
def isHeaderValue (token : String) : Bool :=
  (Utf8.encode token).all isHeaderByte

/-- The fault that a lapse is. -/
def lapseFault (s : Service) (operation : Operation) : Lapse → Fault
  | .broken => .transport "the connection broke"
  | .late => .timeout operation s.timeout

/-- The decision that a reply carries. Where the status alone decides, the body is not read. -/
def judge (s : Service) (operation : Operation) : Reply → Verdict
  | .lapse l => .error (s.lapseFault operation l)
  | .response status body => do
    let body ← match s.responseMode, body with
      | .status, _ => pure []
      | _, .ok bytes => pure bytes
      | _, .error l => throw (s.lapseFault operation l)
    match decode s.responseMode status body with
    | .ok allowed => return allowed
    | .error e => throw (.malformedResponse e.message)

/-- The token passes verification here, if there is any. -/
def passes (s : Service) (now : Instant) (token : String) : Bool :=
  match s.verifier with
  | none => true
  | some v =>
    match v.verify .enforce now token with
    | .ok _ => true
    | .error _ => false

/-- Asks the service a question about a token. -/
def consult (s : Service) (closed : Bool) (now : Instant) (operation : Operation) (token : String)
    (p : Parameters) : Consultation :=
  if closed then .settled (.error .closed)
  else if !s.passes now token || !isHeaderValue token then .settled (.ok false)
  else .ask ⟨s.endpoints.of operation, token, encode s.paramsMode p⟩ (s.judge operation)

/-- The identity of the token is known. -/
def authenticate (s : Service) (closed : Bool) (now : Instant) (token : String) : Consultation :=
  s.consult closed now .user token .none

/-- The identity of the token is a superuser. -/
def isPrivileged (s : Service) (closed : Bool) (now : Instant) (token : String) : Consultation :=
  s.consult closed now .superuser token .none

/-- The identity of the token may have the access. -/
def checkAccess (s : Service) (closed : Bool) (now : Instant) (token topic clientId : String)
    (requested : AccessLevel) : Consultation :=
  s.consult closed now .access token (.access topic clientId requested)

end Service

end TopicGuard
