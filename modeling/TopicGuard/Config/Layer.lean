import TopicGuard.Config.BackendKind
import TopicGuard.Secret
import TopicGuard.Service.Wire

/-!
Layers of a configuration.

A layer is what one source says: any part of the settings may be missing. Layers are laid over each other field
by field, so a later one replaces exactly what it sets.
-/

set_option autoImplicit false

namespace TopicGuard.Config

/-- The choice of a backend. -/
structure BackendLayer where
  kind : Option BackendKind := none
deriving DecidableEq, Repr

/-- Settings of token verification. -/
structure TokenLayer where
  secret : Option (Secret String) := none
  algorithm : Option String := none
  publicKeyPath : Option String := none
  identityClaim : Option String := none
  issuer : Option String := none
  audience : Option String := none
  /-- Seconds. -/
  leeway : Option UInt64 := none
deriving DecidableEq

/-- Settings of a store. -/
structure StoreLayer where
  databaseUrl : Option String := none
  maxConnections : Option UInt32 := none
  /-- Seconds. -/
  queryTimeout : Option UInt64 := none
  userQuery : Option String := none
  superuserQuery : Option String := none
  accessQuery : Option String := none
  skipUserExpiration : Option Bool := none
  skipAccessExpiration : Option Bool := none
deriving DecidableEq, Repr

/-- Settings of a service. -/
structure ServiceLayer where
  host : Option String := none
  port : Option UInt16 := none
  withTls : Option Bool := none
  verifyPeer : Option Bool := none
  userUri : Option String := none
  superuserUri : Option String := none
  accessUri : Option String := none
  paramsMode : Option Service.ParamsMode := none
  responseMode : Option Service.ResponseMode := none
  /-- Seconds. -/
  timeout : Option UInt64 := none
deriving DecidableEq, Repr

/-- What one source says. -/
structure Layer where
  backend : Option BackendLayer := none
  token : Option TokenLayer := none
  store : Option StoreLayer := none
  service : Option ServiceLayer := none
deriving DecidableEq

/-! ## Laying over -/

/-- The choice with another one laid over it. -/
def BackendLayer.overlay (base upper : BackendLayer) : BackendLayer where
  kind := upper.kind.or base.kind

/-- The settings with others laid over them. -/
def TokenLayer.overlay (base upper : TokenLayer) : TokenLayer where
  secret := upper.secret.or base.secret
  algorithm := upper.algorithm.or base.algorithm
  publicKeyPath := upper.publicKeyPath.or base.publicKeyPath
  identityClaim := upper.identityClaim.or base.identityClaim
  issuer := upper.issuer.or base.issuer
  audience := upper.audience.or base.audience
  leeway := upper.leeway.or base.leeway

/-- The settings with others laid over them. -/
def StoreLayer.overlay (base upper : StoreLayer) : StoreLayer where
  databaseUrl := upper.databaseUrl.or base.databaseUrl
  maxConnections := upper.maxConnections.or base.maxConnections
  queryTimeout := upper.queryTimeout.or base.queryTimeout
  userQuery := upper.userQuery.or base.userQuery
  superuserQuery := upper.superuserQuery.or base.superuserQuery
  accessQuery := upper.accessQuery.or base.accessQuery
  skipUserExpiration := upper.skipUserExpiration.or base.skipUserExpiration
  skipAccessExpiration := upper.skipAccessExpiration.or base.skipAccessExpiration

/-- The settings with others laid over them. -/
def ServiceLayer.overlay (base upper : ServiceLayer) : ServiceLayer where
  host := upper.host.or base.host
  port := upper.port.or base.port
  withTls := upper.withTls.or base.withTls
  verifyPeer := upper.verifyPeer.or base.verifyPeer
  userUri := upper.userUri.or base.userUri
  superuserUri := upper.superuserUri.or base.superuserUri
  accessUri := upper.accessUri.or base.accessUri
  paramsMode := upper.paramsMode.or base.paramsMode
  responseMode := upper.responseMode.or base.responseMode
  timeout := upper.timeout.or base.timeout

/-- A section that may be missing, with another that may be missing laid over it. -/
def overlaySection {α : Type} (overlay : α → α → α) : Option α → Option α → Option α
  | some base, some upper => some (overlay base upper)
  | base, upper => upper.or base

/-- The layer with another one laid over it. -/
def Layer.overlay (base upper : Layer) : Layer where
  backend := overlaySection BackendLayer.overlay base.backend upper.backend
  token := overlaySection TokenLayer.overlay base.token upper.token
  store := overlaySection StoreLayer.overlay base.store upper.store
  service := overlaySection ServiceLayer.overlay base.service upper.service

end TopicGuard.Config
