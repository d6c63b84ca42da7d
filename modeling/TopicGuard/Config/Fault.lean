import TopicGuard.Config.SecretVariable
import TopicGuard.Service.Settings
import TopicGuard.Store.Settings

/-!
Why a configuration cannot be used.

A fault of a setting names the setting twice, as it is written in documents and as a variable, so that whoever
reads it can mend it in either place. No fault shows a secret.
-/

set_option autoImplicit false

namespace TopicGuard.Config

/-- Why a configuration cannot be used. -/
inductive Fault where
  | unreadable (path : String) (fault : FileFault)
  /-- The file is no document, or a setting in it is of the wrong kind. -/
  | document (path : String)
  | secret (cause : SecretFault)
  /-- The text of a variable is none of its kind. -/
  | variableText (name : String) (kind : String) (value : String)
  | algorithm (name : String)
  | store (cause : Store.SettingsError)
  | service (cause : Service.SettingsError)
  /-- A store verifies tokens, but there is nothing to verify them with. -/
  | missingKey
  | emptyIdentityClaim
deriving DecidableEq, Repr

/-- The setting that a fault of a store's settings is about. -/
def storeSetting : Store.SettingsError → String
  | .missingDatabaseUrl => "local.database_url (VIGIL_LOCAL_DATABASE_URL)"
  | .missingQuery .user => "local.user_query (VIGIL_LOCAL_USER_QUERY)"
  | .missingQuery _ => "local.acl_query (VIGIL_LOCAL_ACL_QUERY)"
  | .invalidPoolSize => "local.max_connections (VIGIL_LOCAL_MAX_CONNECTIONS)"
  | .invalidTimeout => "local.query_timeout_secs (VIGIL_LOCAL_QUERY_TIMEOUT_SECS)"

/-- The setting that a fault of a service's settings is about, if it is about a single one. -/
def serviceSetting? : Service.SettingsError → Option String
  | .missingHost => some "remote.host (VIGIL_REMOTE_HOST)"
  | .missingUri .user => some "remote.getuser_uri (VIGIL_REMOTE_GETUSER_URI)"
  | .missingUri .superuser => some "remote.superuser_uri (VIGIL_REMOTE_SUPERUSER_URI)"
  | .missingUri .access => some "remote.aclcheck_uri (VIGIL_REMOTE_ACLCHECK_URI)"
  | .invalidTimeout => some "remote.timeout_secs (VIGIL_REMOTE_TIMEOUT_SECS)"
  | .invalidUrl _ _ | .client _ => none

/-- A text with the advice to set something. -/
def advise (text setting : String) : String :=
  s!"invalid configuration: {text}: set {setting}"

namespace Fault

/-- The wording of a fault. -/
def message : Fault → String
  | .unreadable path fault => s!"failed to read config file {path}: {fault.message}"
  | .document path => s!"failed to parse config file {path}"
  | .secret cause => s!"failed to load secret: {cause.message}"
  | .variableText name kind value => s!"invalid value for {name}: invalid {kind} value '{value}'"
  | .algorithm name => s!"invalid value for token.algorithm: unsupported algorithm '{name}'"
  | .store cause => advise cause.message (storeSetting cause)
  | .service cause =>
    match serviceSetting? cause with
    | some setting => advise cause.message setting
    | none => s!"invalid configuration: {cause.message}"
  | .missingKey =>
    advise "local backend verifies tokens itself"
      "token.secret (VIGIL_TOKEN_SECRET) or token.public_key_path (VIGIL_TOKEN_PUBLIC_KEY_PATH)"
  | .emptyIdentityClaim =>
    "invalid configuration: token.identity_claim (VIGIL_TOKEN_IDENTITY_CLAIM) cannot be empty"

end Fault

end TopicGuard.Config
