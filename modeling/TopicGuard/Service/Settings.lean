import TopicGuard.Service.Wire
import TopicGuard.Time.Span
import TopicGuard.Url

/-!
Settings of an authorization service.

The three questions go to three addresses, which are made of one base and a path each. Settings are complete
if none of the texts is blank and the timeout is not zero; the addresses are resolved after that.
-/

set_option autoImplicit false

namespace TopicGuard.Service

/-- The questions that a service answers. -/
inductive Operation where
  | user
  | superuser
  | access
deriving DecidableEq, Repr

namespace Operation

/-- The name of a request in faults. -/
def name : Operation → String
  | .user => "getuser request"
  | .superuser => "superuser request"
  | .access => "aclcheck request"

/-- The name of the path of a question in setup errors. -/
def uriName : Operation → String
  | .user => "getuser URI"
  | .superuser => "superuser URI"
  | .access => "aclcheck URI"

end Operation

/-- Where the service is and how it is spoken to. -/
structure Settings where
  /-- A name or an address, with a port if none is set separately. -/
  host : String
  port : Option UInt16
  withTls : Bool
  /-- Whether the certificate of the service is verified. -/
  verifyPeer : Bool
  userUri : String
  superuserUri : String
  accessUri : String
  paramsMode : ParamsMode
  responseMode : ResponseMode
  timeout : Span
deriving DecidableEq, Repr

/-- What requests say about their sender. -/
def userAgent : String := "vigil/0.1.0"

/-- What a client for requests is built with. -/
structure ClientOptions where
  userAgent : String
  /-- How long a request may take, and how long a connection. -/
  timeout : Span
  /-- The service may have any certificate. -/
  acceptsAnyCertificate : Bool
deriving DecidableEq, Repr

/-- Why there is no service for settings. -/
inductive SettingsError where
  | missingHost
  | missingUri (operation : Operation)
  | invalidUrl (url : String) (cause : UrlError)
  | invalidTimeout
  /-- The client cannot be built. -/
  | client (text : String)
deriving DecidableEq, Repr

/-- The wording of a settings error. -/
def SettingsError.message : SettingsError → String
  | .missingHost => "remote backend requires a host"
  | .missingUri operation => s!"remote backend requires a {operation.uriName}"
  | .invalidUrl url cause => s!"invalid endpoint URL {url}: {cause.message}"
  | .invalidTimeout => "request timeout must be greater than zero"
  | .client text => s!"failed to build HTTP client: {text}"

/-- The addresses of the three questions. -/
structure Endpoints where
  user : Url
  superuser : Url
  access : Url
deriving DecidableEq, Repr

/-- The address of a question. -/
def Endpoints.of (e : Endpoints) : Operation → Url
  | .user => e.user
  | .superuser => e.superuser
  | .access => e.access

namespace Settings

/-- How long a request may take unless another time is set. -/
def defaultTimeout : Span := .ofSeconds 5

/-- The scheme of the addresses. -/
def scheme (s : Settings) : Scheme :=
  if s.withTls then .https else .http

/-- The host and the port as they were set. -/
def authority (s : Settings) : String :=
  match s.port with
  | none => s.host
  | some port => s.host ++ ":" ++ toString port

/-- The common beginning of the addresses. -/
def baseUrl (s : Settings) : String :=
  s.scheme.name ++ "://" ++ s.authority

/-- The path of a question. -/
def uri (s : Settings) : Operation → String
  | .user => s.userUri
  | .superuser => s.superuserUri
  | .access => s.accessUri

/-- Refuses incomplete settings. -/
def validate (s : Settings) : Except SettingsError Unit := do
  if Text.isAllBlank s.host then throw .missingHost
  for operation in [Operation.user, .superuser, .access] do
    if Text.isAllBlank (s.uri operation) then throw (.missingUri operation)
  if s.timeout.isZero then throw .invalidTimeout

/-- A path with a slash in front. -/
def rooted (uri : String) : List Char :=
  match Text.trimChars uri.toList with
  | '/' :: rest => '/' :: rest
  | cs => '/' :: cs

/-- The address of a question. -/
def endpoint (s : Settings) (operation : Operation) : Except SettingsError Url :=
  let path := rooted (s.uri operation)
  match Url.parse s.scheme ("//".toList ++ s.authority.toList ++ path) with
  | .ok url => .ok url
  | .error cause => .error (.invalidUrl (s.baseUrl ++ String.ofList path) cause)

/-- The addresses of all questions. -/
def endpoints (s : Settings) : Except SettingsError Endpoints := do
  s.validate
  let user ← s.endpoint .user
  let superuser ← s.endpoint .superuser
  let access ← s.endpoint .access
  return ⟨user, superuser, access⟩

/-- What the client of the service is built with. -/
def clientOptions (s : Settings) : ClientOptions where
  userAgent := Service.userAgent
  timeout := s.timeout
  acceptsAnyCertificate := s.withTls && !s.verifyPeer

end Settings

end TopicGuard.Service
