import TopicGuard.Config.Layer
import TopicGuard.Number.Numeral
import TopicGuard.Toml.Reader

/-!
Layers from documents.

A section is a table with named fields, or an array with the values of the fields in their order; a date counts
as a section without fields. Fields and sections that are not known are passed over, but a known one has to be of
its kind, or the whole document is refused.
-/

set_option autoImplicit false

namespace TopicGuard.Toml

/-- The text that a value is. -/
def text? : Toml → Option String
  | .text s => some s
  | _ => none

/-- The truth value that a value is. -/
def bool? : Toml → Option Bool
  | .bool b => some b
  | _ => none

/-- The natural number up to a bound that a value is. -/
def natural? (greatest : Nat) : Toml → Option Nat
  | .integer n => if 0 ≤ n ∧ n ≤ greatest then some n.toNat else none
  | _ => none

/-- The value holds nothing. -/
def isHollow : Toml → Bool
  | .array _ items => items.isEmpty
  | .table _ members => members.isEmpty
  | _ => false

/-- The name that a value chooses: the text itself, or the only key of a table whose value holds nothing. -/
def choice? : Toml → Option String
  | .text s => some s
  | .table _ [(name, x)] => if x.isHollow then some name else none
  | _ => none

/-- The fields of a section, given the names of the fields in order. -/
def fields? (names : List String) : Toml → Option Members
  | .table _ members => some members
  | .array _ items => some (names.zip items)
  | .date => some []
  | _ => none

/-- A field that may be missing. -/
def optional? {α : Type} (read : Toml → Option α) (name : String) (members : Members) :
    Option (Option α) :=
  match members.lookup name with
  | none => some none
  | some x => (read x).map some

end TopicGuard.Toml

namespace TopicGuard.Config

/-- The choice of a backend in a document. -/
def BackendLayer.ofToml? (x : Toml) : Option BackendLayer := do
  let fields ← x.fields? ["mode"]
  let kind ← Toml.optional? (fun x => x.choice?.bind BackendKind.ofName?) "mode" fields
  return { kind }

/-- The names of the settings of token verification, in order. -/
def TokenLayer.names : List String :=
  ["secret", "algorithm", "public_key_path", "identity_claim", "issuer", "audience", "leeway_secs"]

/-- The settings of token verification in a document. -/
def TokenLayer.ofToml? (x : Toml) : Option TokenLayer := do
  let fields ← x.fields? names
  let text := fun name => Toml.optional? Toml.text? name fields
  return {
    secret := (← text "secret").map Secret.mk
    algorithm := ← text "algorithm"
    publicKeyPath := ← text "public_key_path"
    identityClaim := ← text "identity_claim"
    issuer := ← text "issuer"
    audience := ← text "audience"
    leeway := (← Toml.optional? (Toml.natural? (Numeral.greatest 64)) "leeway_secs" fields).map Nat.toUInt64 }

/-- The names of the settings of a store, in order. -/
def StoreLayer.names : List String :=
  ["database_url", "max_connections", "query_timeout_secs", "user_query", "superuser_query",
    "acl_query", "skip_user_expiration", "skip_acl_expiration"]

/-- The settings of a store in a document. -/
def StoreLayer.ofToml? (x : Toml) : Option StoreLayer := do
  let fields ← x.fields? names
  let text := fun name => Toml.optional? Toml.text? name fields
  let bool := fun name => Toml.optional? Toml.bool? name fields
  let natural := fun bits name => Toml.optional? (Toml.natural? (Numeral.greatest bits)) name fields
  return {
    databaseUrl := ← text "database_url"
    maxConnections := (← natural 32 "max_connections").map Nat.toUInt32
    queryTimeout := (← natural 64 "query_timeout_secs").map Nat.toUInt64
    userQuery := ← text "user_query"
    superuserQuery := ← text "superuser_query"
    accessQuery := ← text "acl_query"
    skipUserExpiration := ← bool "skip_user_expiration"
    skipAccessExpiration := ← bool "skip_acl_expiration" }

/-- The names of the settings of a service, in order. -/
def ServiceLayer.names : List String :=
  ["host", "port", "with_tls", "verify_peer", "getuser_uri", "superuser_uri", "aclcheck_uri",
    "params_mode", "response_mode", "timeout_secs"]

/-- The settings of a service in a document. -/
def ServiceLayer.ofToml? (x : Toml) : Option ServiceLayer := do
  let fields ← x.fields? names
  let text := fun name => Toml.optional? Toml.text? name fields
  let bool := fun name => Toml.optional? Toml.bool? name fields
  let natural := fun bits name => Toml.optional? (Toml.natural? (Numeral.greatest bits)) name fields
  return {
    host := ← text "host"
    port := (← natural 16 "port").map Nat.toUInt16
    withTls := ← bool "with_tls"
    verifyPeer := ← bool "verify_peer"
    userUri := ← text "getuser_uri"
    superuserUri := ← text "superuser_uri"
    accessUri := ← text "aclcheck_uri"
    paramsMode := ← Toml.optional? (fun x => x.choice?.bind Service.ParamsMode.ofName?) "params_mode" fields
    responseMode :=
      ← Toml.optional? (fun x => x.choice?.bind Service.ResponseMode.ofName?) "response_mode" fields
    timeout := (← natural 64 "timeout_secs").map Nat.toUInt64 }

/-- The layer in a document. -/
def Layer.ofDocument? (text : String) : Option Layer := do
  let members ← Toml.ofText? text
  return {
    backend := ← Toml.optional? BackendLayer.ofToml? "backend" members
    token := ← Toml.optional? TokenLayer.ofToml? "token" members
    store := ← Toml.optional? StoreLayer.ofToml? "local" members
    service := ← Toml.optional? ServiceLayer.ofToml? "remote" members }

end TopicGuard.Config
