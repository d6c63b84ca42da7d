import TopicGuard.Service
import TopicGuard.Store

/-!
The decision engine.

An engine answers three questions for a broker: whether the holder of a token may connect, whether it is a
superuser, and whether it may use a topic. It has one backend, a store or a service, chosen when it is made.
What lies outside is opened through `Connector` and reached through `Outside`, so the same decisions run against
a machine's database and network or against values in a proof.
-/

set_option autoImplicit false

namespace TopicGuard

/-! ## Configuration -/

/-- The backend that a configuration chooses. -/
inductive BackendSettings where
  | store (settings : Store.Settings)
  | service (settings : Service.Settings)
deriving DecidableEq

/-- All that an engine is made from. -/
structure EngineSettings where
  token : Token.Settings
  backend : BackendSettings
deriving DecidableEq

/-- Why an engine could not be made. -/
inductive EngineError where
  | store (cause : Store.SettingsError)
  | token (cause : Token.SetupError)
  /-- The store cannot be connected. -/
  | database (cause : Store.Fault)
  | service (cause : Service.SettingsError)
deriving DecidableEq, Repr

/-- The wording of an engine error. -/
def EngineError.message : EngineError → String
  | .store cause => s!"invalid local backend configuration: {cause.message}"
  | .token cause => s!"invalid token configuration: {cause.message}"
  | .database cause => s!"failed to open policy store: {cause.message}"
  | .service cause => s!"invalid remote backend configuration: {cause.message}"

/-! ## Engines -/

/-- Where an engine takes its decisions from. -/
inductive Backend where
  | store (store : Store)
  | service (service : Service)

/-- A backend, and whether it has been closed. -/
structure Engine where
  backend : Backend
  isClosed : Bool := false

/-- How connections to the outside are made. What fails does so in its own words. -/
structure Connector where
  /-- Opens a pool of connections to a database. -/
  openPool : Store.PoolOptions → Except String Unit
  /-- Builds a client for requests to a service. -/
  buildClient : Service.ClientOptions → Except String Unit

/-- How the database and the service are reached. -/
structure Outside (m : Type → Type) where
  query : Store.Query → m Store.Reply
  /-- Sends a request once. Where the client follows redirects, the reply is the one at their end. -/
  request : Service.Request → m Service.Reply

namespace Engine

/-- An engine over a store. -/
def ofStore (store : Store) : Engine := { backend := .store store }

/-- An engine over a service. -/
def ofService (service : Service) : Engine := { backend := .service service }

/-- An engine for complete settings. A local backend always verifies tokens; a remote one does only if there is
something to verify them with. -/
def ofSettings (s : EngineSettings) (read : FileReader) (connector : Connector) : Except EngineError Engine :=
  match s.backend with
  | .store settings => do
    settings.validate.mapError .store
    let verifier ← (Token.Verifier.ofSettings s.token read).mapError .token
    let store ← (Store.connect settings verifier connector.openPool).mapError .database
    return ofStore store
  | .service settings => do
    let verifier ←
      if s.token.hasKey then
        pure (some (← (Token.Verifier.ofSettings s.token read).mapError EngineError.token))
      else pure none
    let service ← (Service.ofSettings settings verifier connector.buildClient).mapError .service
    return ofService service

/-- The name of the backend. -/
def backendName (e : Engine) : String :=
  match e.backend with
  | .store _ => "local"
  | .service _ => "remote"

/-- The engine after its connections have been released. -/
def close (e : Engine) : Engine := { e with isClosed := true }

/-! ## Decisions -/

variable {m : Type → Type} [Monad m]

/-- Asks the database, unless its connections have been released. -/
def respondTo (e : Engine) (outside : Outside m) (q : Store.Query) : m Store.Reply :=
  if e.isClosed then pure .refused else outside.query q

/-- Runs a decision of a store. -/
def runStore (e : Engine) (outside : Outside m) (c : Store.Consultation) : m Policy.Verdict :=
  (c.map fun v => v.mapError Store.Fault.toPolicy).run (e.respondTo outside)

/-- Runs a decision of a service. -/
def runService (outside : Outside m) (c : Service.Consultation) : m Policy.Verdict :=
  (c.map fun v => v.mapError Service.Fault.toPolicy).run outside.request

/-- Whether the holder of the token may connect. -/
def authenticate (e : Engine) (outside : Outside m) (now : Instant) (token : String) :
    m Policy.Verdict :=
  match e.backend with
  | .store store => e.runStore outside (store.authenticate now token)
  | .service service => runService outside (service.authenticate e.isClosed now token)

/-- Whether the holder of the token is a superuser. -/
def isPrivileged (e : Engine) (outside : Outside m) (now : Instant) (token : String) :
    m Policy.Verdict :=
  match e.backend with
  | .store store => e.runStore outside (store.isPrivileged now token)
  | .service service => runService outside (service.isPrivileged e.isClosed now token)

/-- Whether the holder of the token, connected as a client, may use the topic at a level. -/
def checkAccess (e : Engine) (outside : Outside m) (now : Instant)
    (token topic clientId : String) (requested : AccessLevel) : m Policy.Verdict :=
  match e.backend with
  | .store store => e.runStore outside (store.checkAccess now token topic clientId requested)
  | .service service =>
    runService outside (service.checkAccess e.isClosed now token topic clientId requested)

end Engine

end TopicGuard
