import TopicGuard.Config.Fault
import TopicGuard.Config.Layer
import TopicGuard.Number.Numeral

/-!
Layers from the environment.

Every setting has a variable. One that is empty counts as not set. Numbers and modes may have white space around
them; a truth value is the word for true, in any case, or a one, and every other text means false.
-/

set_option autoImplicit false

namespace TopicGuard.Config

/-- The variable of the secret. -/
def secretVariable : String := "VIGIL_TOKEN_SECRET"

/-- The variables of all settings. -/
def variableNames : List String :=
  ["VIGIL_BACKEND_MODE", secretVariable, Environment.fileVariable secretVariable,
    "VIGIL_TOKEN_ALGORITHM", "VIGIL_TOKEN_PUBLIC_KEY_PATH", "VIGIL_TOKEN_IDENTITY_CLAIM",
    "VIGIL_TOKEN_ISSUER", "VIGIL_TOKEN_AUDIENCE", "VIGIL_TOKEN_LEEWAY_SECS",
    "VIGIL_LOCAL_DATABASE_URL", "VIGIL_LOCAL_MAX_CONNECTIONS", "VIGIL_LOCAL_QUERY_TIMEOUT_SECS",
    "VIGIL_LOCAL_USER_QUERY", "VIGIL_LOCAL_SUPERUSER_QUERY", "VIGIL_LOCAL_ACL_QUERY",
    "VIGIL_LOCAL_SKIP_USER_EXPIRATION", "VIGIL_LOCAL_SKIP_ACL_EXPIRATION", "VIGIL_REMOTE_HOST",
    "VIGIL_REMOTE_PORT", "VIGIL_REMOTE_WITH_TLS", "VIGIL_REMOTE_VERIFY_PEER",
    "VIGIL_REMOTE_GETUSER_URI", "VIGIL_REMOTE_SUPERUSER_URI", "VIGIL_REMOTE_ACLCHECK_URI",
    "VIGIL_REMOTE_PARAMS_MODE", "VIGIL_REMOTE_RESPONSE_MODE", "VIGIL_REMOTE_TIMEOUT_SECS"]

/-- A truth value as a variable spells it. -/
def truthOf (value : String) : Bool :=
  value.map Char.toLower == "true" || value == "1"

/-- A variable that is a truth value. -/
def boolVariable (env : Environment) (name : String) : Option Bool :=
  (env.nonEmpty? name).map truthOf

/-- A variable of some kind, if it is set. -/
def parsedVariable {α : Type} (env : Environment) (kind : String) (parse? : String → Option α)
    (name : String) : Except Fault (Option α) :=
  match env.nonEmpty? name with
  | none => .ok none
  | some value =>
    match parse? (Text.trim value) with
    | some x => .ok (some x)
    | none => .error (.variableText name kind value)

/-- A variable that is a number of 16 bits. -/
def uint16Variable (env : Environment) : String → Except Fault (Option UInt16) :=
  parsedVariable env "u16" fun s => (Numeral.natural? (Numeral.greatest 16) s).map Nat.toUInt16

/-- A variable that is a number of 32 bits. -/
def uint32Variable (env : Environment) : String → Except Fault (Option UInt32) :=
  parsedVariable env "u32" fun s => (Numeral.natural? (Numeral.greatest 32) s).map Nat.toUInt32

/-- A variable that is a number of 64 bits. -/
def uint64Variable (env : Environment) : String → Except Fault (Option UInt64) :=
  parsedVariable env "u64" fun s => (Numeral.natural? (Numeral.greatest 64) s).map Nat.toUInt64

/-- The choice of a backend in the environment. -/
def BackendLayer.ofEnvironment (env : Environment) : Except Fault BackendLayer := do
  let kind ← parsedVariable env "backend mode" (fun s => (BackendKind.parse s).toOption)
    "VIGIL_BACKEND_MODE"
  return { kind }

/-- The settings of token verification in the environment. -/
def TokenLayer.ofEnvironment (env : Environment) (read : FileReader) : Except Fault TokenLayer := do
  let secret ← (env.secret? read secretVariable).mapError .secret
  let leeway ← uint64Variable env "VIGIL_TOKEN_LEEWAY_SECS"
  return {
    secret
    algorithm := env.nonEmpty? "VIGIL_TOKEN_ALGORITHM"
    publicKeyPath := env.nonEmpty? "VIGIL_TOKEN_PUBLIC_KEY_PATH"
    identityClaim := env.nonEmpty? "VIGIL_TOKEN_IDENTITY_CLAIM"
    issuer := env.nonEmpty? "VIGIL_TOKEN_ISSUER"
    audience := env.nonEmpty? "VIGIL_TOKEN_AUDIENCE"
    leeway }

/-- The settings of a store in the environment. -/
def StoreLayer.ofEnvironment (env : Environment) : Except Fault StoreLayer := do
  let maxConnections ← uint32Variable env "VIGIL_LOCAL_MAX_CONNECTIONS"
  let queryTimeout ← uint64Variable env "VIGIL_LOCAL_QUERY_TIMEOUT_SECS"
  return {
    databaseUrl := env.nonEmpty? "VIGIL_LOCAL_DATABASE_URL"
    maxConnections
    queryTimeout
    userQuery := env.nonEmpty? "VIGIL_LOCAL_USER_QUERY"
    superuserQuery := env.nonEmpty? "VIGIL_LOCAL_SUPERUSER_QUERY"
    accessQuery := env.nonEmpty? "VIGIL_LOCAL_ACL_QUERY"
    skipUserExpiration := boolVariable env "VIGIL_LOCAL_SKIP_USER_EXPIRATION"
    skipAccessExpiration := boolVariable env "VIGIL_LOCAL_SKIP_ACL_EXPIRATION" }

/-- The settings of a service in the environment. -/
def ServiceLayer.ofEnvironment (env : Environment) : Except Fault ServiceLayer := do
  let port ← uint16Variable env "VIGIL_REMOTE_PORT"
  let paramsMode ← parsedVariable env "params mode" (fun s => (Service.ParamsMode.parse s).toOption)
    "VIGIL_REMOTE_PARAMS_MODE"
  let responseMode ← parsedVariable env "response mode"
    (fun s => (Service.ResponseMode.parse s).toOption) "VIGIL_REMOTE_RESPONSE_MODE"
  let timeout ← uint64Variable env "VIGIL_REMOTE_TIMEOUT_SECS"
  return {
    host := env.nonEmpty? "VIGIL_REMOTE_HOST"
    port
    withTls := boolVariable env "VIGIL_REMOTE_WITH_TLS"
    verifyPeer := boolVariable env "VIGIL_REMOTE_VERIFY_PEER"
    userUri := env.nonEmpty? "VIGIL_REMOTE_GETUSER_URI"
    superuserUri := env.nonEmpty? "VIGIL_REMOTE_SUPERUSER_URI"
    accessUri := env.nonEmpty? "VIGIL_REMOTE_ACLCHECK_URI"
    paramsMode
    responseMode
    timeout }

/-- The layer in the environment. All its sections are there, if only with nothing in them. -/
def Layer.ofEnvironment (env : Environment) (read : FileReader) : Except Fault Layer := do
  let backend ← BackendLayer.ofEnvironment env
  let token ← TokenLayer.ofEnvironment env read
  let store ← StoreLayer.ofEnvironment env
  let service ← ServiceLayer.ofEnvironment env
  return ⟨some backend, some token, some store, some service⟩

end TopicGuard.Config
