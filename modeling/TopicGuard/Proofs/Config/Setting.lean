import TopicGuard.Config.Resolve

/-!
The settings of a layer, one by one.

A layer has its settings in sections, any of which may be missing. `Setting` names all of them and `Layer.get` is what a
layer says about one, so that a missing section and one that leaves everything open are the same. Laying a layer over
another one is then one equation for all settings (`Layer.get_overlay`), and complete settings depend on nothing else
(`Layer.resolve_congr`).
-/

set_option autoImplicit false

namespace TopicGuard.Config

/-- The settings, by the kind of their values. -/
inductive Setting : Type → Type where
  | backend : Setting BackendKind
  | secret : Setting (Secret String)
  | algorithm : Setting String
  | publicKeyPath : Setting String
  | identityClaim : Setting String
  | issuer : Setting String
  | audience : Setting String
  | leeway : Setting UInt64
  | databaseUrl : Setting String
  | maxConnections : Setting UInt32
  | queryTimeout : Setting UInt64
  | userQuery : Setting String
  | superuserQuery : Setting String
  | accessQuery : Setting String
  | skipUserExpiration : Setting Bool
  | skipAccessExpiration : Setting Bool
  | host : Setting String
  | port : Setting UInt16
  | withTls : Setting Bool
  | verifyPeer : Setting Bool
  | userUri : Setting String
  | superuserUri : Setting String
  | accessUri : Setting String
  | paramsMode : Setting Service.ParamsMode
  | responseMode : Setting Service.ResponseMode
  | timeout : Setting UInt64

namespace Layer

variable {α β : Type} {l l' base upper : Layer}

/-- What a layer says about a setting. -/
def get : {α : Type} → Setting α → Layer → Option α
  | _, .backend, l => l.backend.bind (·.kind)
  | _, .secret, l => l.token.bind (·.secret)
  | _, .algorithm, l => l.token.bind (·.algorithm)
  | _, .publicKeyPath, l => l.token.bind (·.publicKeyPath)
  | _, .identityClaim, l => l.token.bind (·.identityClaim)
  | _, .issuer, l => l.token.bind (·.issuer)
  | _, .audience, l => l.token.bind (·.audience)
  | _, .leeway, l => l.token.bind (·.leeway)
  | _, .databaseUrl, l => l.store.bind (·.databaseUrl)
  | _, .maxConnections, l => l.store.bind (·.maxConnections)
  | _, .queryTimeout, l => l.store.bind (·.queryTimeout)
  | _, .userQuery, l => l.store.bind (·.userQuery)
  | _, .superuserQuery, l => l.store.bind (·.superuserQuery)
  | _, .accessQuery, l => l.store.bind (·.accessQuery)
  | _, .skipUserExpiration, l => l.store.bind (·.skipUserExpiration)
  | _, .skipAccessExpiration, l => l.store.bind (·.skipAccessExpiration)
  | _, .host, l => l.service.bind (·.host)
  | _, .port, l => l.service.bind (·.port)
  | _, .withTls, l => l.service.bind (·.withTls)
  | _, .verifyPeer, l => l.service.bind (·.verifyPeer)
  | _, .userUri, l => l.service.bind (·.userUri)
  | _, .superuserUri, l => l.service.bind (·.superuserUri)
  | _, .accessUri, l => l.service.bind (·.accessUri)
  | _, .paramsMode, l => l.service.bind (·.paramsMode)
  | _, .responseMode, l => l.service.bind (·.responseMode)
  | _, .timeout, l => l.service.bind (·.timeout)

theorem get_empty (s : Setting α) : get s {} = none := by
  cases s <;> rfl

/-! ## Laying over -/

/-- A field of a section that may be missing, with another section laid over it. -/
theorem bind_overlaySection {overlay : α → α → α} {field : α → Option β}
    (h : ∀ base upper, field (overlay base upper) = (field upper).or (field base)) (base upper : Option α) :
    (overlaySection overlay base upper).bind field = (upper.bind field).or (base.bind field) := by
  cases base with
  | none => cases upper <;> simp [overlaySection]
  | some b =>
    cases upper with
    | none => rfl
    | some u => exact h b u

/-- Of two layers over each other, the upper one wins where it says something. -/
theorem get_overlay (s : Setting α) (base upper : Layer) :
    get s (base.overlay upper) = (get s upper).or (get s base) := by
  -- Each setting is a field of one section.
  cases s <;> exact bind_overlaySection (fun _ _ => rfl) _ _

/-! ## Complete settings -/

attribute [ext] BackendLayer TokenLayer StoreLayer ServiceLayer

/-- A section that is missing is one that leaves the field open. -/
theorem field_getD {open₀ : α} {field : α → Option β} (hopen : field open₀ = none) (o : Option α) :
    field (o.getD open₀) = o.bind field := by
  cases o with
  | none => exact hopen
  | some a => rfl

/-- Sections that may be missing agree in a field if they say the same about it. -/
theorem field_getD_congr {open₀ : α} {field : α → Option β} {o o' : Option α} (hopen : field open₀ = none)
    (h : o.bind field = o'.bind field) : field (o.getD open₀) = field (o'.getD open₀) := by
  rw [field_getD hopen, field_getD hopen, h]

/-- Layers that say the same are completed in the same way. -/
theorem resolve_congr (h : ∀ {α : Type} (s : Setting α), get s l = get s l') : l.resolve = l'.resolve := by
  have hbackend : l.backend.getD {} = l'.backend.getD {} := BackendLayer.ext (field_getD_congr rfl (h .backend))
  have htoken : l.token.getD {} = l'.token.getD {} := TokenLayer.ext (field_getD_congr rfl (h .secret))
    (field_getD_congr rfl (h .algorithm)) (field_getD_congr rfl (h .publicKeyPath))
    (field_getD_congr rfl (h .identityClaim)) (field_getD_congr rfl (h .issuer)) (field_getD_congr rfl (h .audience))
    (field_getD_congr rfl (h .leeway))
  have hstore : l.store.getD {} = l'.store.getD {} := StoreLayer.ext (field_getD_congr rfl (h .databaseUrl))
    (field_getD_congr rfl (h .maxConnections)) (field_getD_congr rfl (h .queryTimeout))
    (field_getD_congr rfl (h .userQuery)) (field_getD_congr rfl (h .superuserQuery))
    (field_getD_congr rfl (h .accessQuery)) (field_getD_congr rfl (h .skipUserExpiration))
    (field_getD_congr rfl (h .skipAccessExpiration))
  have hservice : l.service.getD {} = l'.service.getD {} := ServiceLayer.ext (field_getD_congr rfl (h .host))
    (field_getD_congr rfl (h .port)) (field_getD_congr rfl (h .withTls)) (field_getD_congr rfl (h .verifyPeer))
    (field_getD_congr rfl (h .userUri)) (field_getD_congr rfl (h .superuserUri)) (field_getD_congr rfl (h .accessUri))
    (field_getD_congr rfl (h .paramsMode)) (field_getD_congr rfl (h .responseMode)) (field_getD_congr rfl (h .timeout))
  rw [resolve, resolve, hbackend, htoken, hstore, hservice]

end Layer

end TopicGuard.Config
