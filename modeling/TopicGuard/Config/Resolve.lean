import TopicGuard.Config.Fault
import TopicGuard.Config.Layer
import TopicGuard.Engine

/-!
Complete settings from a layer.

What a layer leaves open takes its usual value. Only the settings of the backend that is chosen have to be
complete, and they are checked here, so that a fault can say which setting to mend.
-/

set_option autoImplicit false

namespace TopicGuard.Config

/-- The chosen backend. -/
def BackendLayer.resolve (l : BackendLayer) : BackendKind :=
  l.kind.getD .store

/-- The source of the key: a file wins over a secret, and an empty secret is none. -/
def TokenLayer.key (l : TokenLayer) : Option Token.KeySource :=
  match l.publicKeyPath, l.secret with
  | some path, _ => some (.file path)
  | none, some secret => if secret.isEmpty then none else some (.secret secret)
  | none, none => none

/-- The settings of token verification. -/
def TokenLayer.resolve (l : TokenLayer) : Except Fault Token.Settings := do
  let algorithm ←
    match l.algorithm with
    | none => pure .hs256
    | some name =>
      match Token.Algorithm.ofName? (Text.trim name) with
      | some a => pure a
      | none => throw (.algorithm name)
  return {
    algorithm
    key := l.key
    identityClaim := l.identityClaim.getD Token.Settings.defaultIdentityClaim
    issuer := l.issuer
    audience := l.audience
    leeway := l.leeway.getD 0 }

/-- The span that a number of seconds is, if it is set. -/
def spanOf (seconds : Option UInt64) (usual : Span) : Span :=
  match seconds with
  | some n => .ofSeconds n.toNat
  | none => usual

/-- The settings of a store. A blank query for superusers is none. -/
def StoreLayer.resolve (l : StoreLayer) : Except Fault Store.Settings := do
  let settings : Store.Settings := {
    databaseUrl := l.databaseUrl.getD ""
    maxConnections := l.maxConnections.getD Store.Settings.defaultMaxConnections
    queryTimeout := spanOf l.queryTimeout Store.Settings.defaultQueryTimeout
    templates := {
      user := l.userQuery.getD ""
      superuser := l.superuserQuery.filter fun q => !Text.isAllBlank q
      access := l.accessQuery.getD "" }
    skipUserExpiration := l.skipUserExpiration.getD false
    skipAccessExpiration := l.skipAccessExpiration.getD false }
  settings.validate.mapError .store
  return settings

/-- The settings of a service. -/
def ServiceLayer.resolve (l : ServiceLayer) : Except Fault Service.Settings := do
  let settings : Service.Settings := {
    host := l.host.getD ""
    port := l.port
    withTls := l.withTls.getD false
    verifyPeer := l.verifyPeer.getD true
    userUri := l.userUri.getD ""
    superuserUri := l.superuserUri.getD ""
    accessUri := l.accessUri.getD ""
    paramsMode := l.paramsMode.getD .json
    responseMode := l.responseMode.getD .json
    timeout := spanOf l.timeout Service.Settings.defaultTimeout }
  let _ ← settings.endpoints.mapError .service
  return settings

/-- Refuses settings that are complete but do not go together. -/
def checkEngine (s : EngineSettings) : Except Fault Unit := do
  match s.backend with
  | .store _ => if !s.token.hasKey then throw .missingKey
  | .service _ => pure ()
  if Text.isAllBlank s.token.identityClaim then throw .emptyIdentityClaim

/-- The settings of an engine. -/
def Layer.resolve (l : Layer) : Except Fault EngineSettings := do
  let token ← (l.token.getD {}).resolve
  let backend ←
    match (l.backend.getD {}).resolve with
    | .store => BackendSettings.store <$> (l.store.getD {}).resolve
    | .service => BackendSettings.service <$> (l.service.getD {}).resolve
  let settings : EngineSettings := ⟨token, backend⟩
  checkEngine settings
  return settings

end TopicGuard.Config
