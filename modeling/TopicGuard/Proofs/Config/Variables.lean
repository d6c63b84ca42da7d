import TopicGuard.Config.Variables
import TopicGuard.Proofs.Config.Setting
import TopicGuard.Proofs.Outcome
import Mathlib.Data.List.Nodup

/-!
The variables of the settings.

Every setting has a variable of its own (`Setting.ofVariableName?_variableName`), and how its text is taken depends on
nothing but the kind of the value. So what an environment tells about a setting is one function for all of them
(`Setting.told`), and the layer in an environment is put together from what is told: about each setting the layer says
what is told (`Layer.told_of_ofEnvironment`), and without a layer the fault is that of the first setting, in the order
of `Setting.all`, of which nothing can be told (`Layer.ofEnvironment_eq_error_iff`). The functions that read the
sections are opened for these two facts only.
-/

set_option autoImplicit false

namespace TopicGuard.Config

/-- The kinds of values. -/
inductive Kind : Type → Type where
  | text : Kind String
  | secret : Kind (Secret String)
  | backend : Kind BackendKind
  | uint16 : Kind UInt16
  | uint32 : Kind UInt32
  | uint64 : Kind UInt64
  | bool : Kind Bool
  | paramsMode : Kind Service.ParamsMode
  | responseMode : Kind Service.ResponseMode

/-- A value of some kind in a variable, if it is set. -/
def Kind.ofVariable (env : Environment) (read : FileReader) (name : String) :
    {α : Type} → Kind α → Except Fault (Option α)
  | _, .text => .ok (env.nonEmpty? name)
  | _, .secret => (env.secret? read name).mapError .secret
  | _, .backend => parsedVariable env "backend mode" (fun s => (BackendKind.parse s).toOption) name
  | _, .uint16 => uint16Variable env name
  | _, .uint32 => uint32Variable env name
  | _, .uint64 => uint64Variable env name
  | _, .bool => .ok (boolVariable env name)
  | _, .paramsMode => parsedVariable env "params mode" (fun s => (Service.ParamsMode.parse s).toOption) name
  | _, .responseMode => parsedVariable env "response mode" (fun s => (Service.ResponseMode.parse s).toOption) name

namespace Setting

variable {α : Type}

/-- The kind of a setting's value. -/
def kind : {α : Type} → Setting α → Kind α
  | _, .backend => .backend
  | _, .secret => .secret
  | _, .algorithm | _, .publicKeyPath | _, .identityClaim | _, .issuer | _, .audience => .text
  | _, .leeway => .uint64
  | _, .databaseUrl => .text
  | _, .maxConnections => .uint32
  | _, .queryTimeout => .uint64
  | _, .userQuery | _, .superuserQuery | _, .accessQuery => .text
  | _, .skipUserExpiration | _, .skipAccessExpiration => .bool
  | _, .host => .text
  | _, .port => .uint16
  | _, .withTls | _, .verifyPeer => .bool
  | _, .userUri | _, .superuserUri | _, .accessUri => .text
  | _, .paramsMode => .paramsMode
  | _, .responseMode => .responseMode
  | _, .timeout => .uint64

/-- The variable of a setting. -/
def variableName : {α : Type} → Setting α → String
  | _, .backend => "VIGIL_BACKEND_MODE"
  | _, .secret => secretVariable
  | _, .algorithm => "VIGIL_TOKEN_ALGORITHM"
  | _, .publicKeyPath => "VIGIL_TOKEN_PUBLIC_KEY_PATH"
  | _, .identityClaim => "VIGIL_TOKEN_IDENTITY_CLAIM"
  | _, .issuer => "VIGIL_TOKEN_ISSUER"
  | _, .audience => "VIGIL_TOKEN_AUDIENCE"
  | _, .leeway => "VIGIL_TOKEN_LEEWAY_SECS"
  | _, .databaseUrl => "VIGIL_LOCAL_DATABASE_URL"
  | _, .maxConnections => "VIGIL_LOCAL_MAX_CONNECTIONS"
  | _, .queryTimeout => "VIGIL_LOCAL_QUERY_TIMEOUT_SECS"
  | _, .userQuery => "VIGIL_LOCAL_USER_QUERY"
  | _, .superuserQuery => "VIGIL_LOCAL_SUPERUSER_QUERY"
  | _, .accessQuery => "VIGIL_LOCAL_ACL_QUERY"
  | _, .skipUserExpiration => "VIGIL_LOCAL_SKIP_USER_EXPIRATION"
  | _, .skipAccessExpiration => "VIGIL_LOCAL_SKIP_ACL_EXPIRATION"
  | _, .host => "VIGIL_REMOTE_HOST"
  | _, .port => "VIGIL_REMOTE_PORT"
  | _, .withTls => "VIGIL_REMOTE_WITH_TLS"
  | _, .verifyPeer => "VIGIL_REMOTE_VERIFY_PEER"
  | _, .userUri => "VIGIL_REMOTE_GETUSER_URI"
  | _, .superuserUri => "VIGIL_REMOTE_SUPERUSER_URI"
  | _, .accessUri => "VIGIL_REMOTE_ACLCHECK_URI"
  | _, .paramsMode => "VIGIL_REMOTE_PARAMS_MODE"
  | _, .responseMode => "VIGIL_REMOTE_RESPONSE_MODE"
  | _, .timeout => "VIGIL_REMOTE_TIMEOUT_SECS"

/-- All settings, in the order in which their variables are read. -/
def all : List (Σ α : Type, Setting α) :=
  [⟨_, .backend⟩, ⟨_, .secret⟩, ⟨_, .algorithm⟩, ⟨_, .publicKeyPath⟩, ⟨_, .identityClaim⟩, ⟨_, .issuer⟩,
    ⟨_, .audience⟩, ⟨_, .leeway⟩, ⟨_, .databaseUrl⟩, ⟨_, .maxConnections⟩, ⟨_, .queryTimeout⟩, ⟨_, .userQuery⟩,
    ⟨_, .superuserQuery⟩, ⟨_, .accessQuery⟩, ⟨_, .skipUserExpiration⟩, ⟨_, .skipAccessExpiration⟩, ⟨_, .host⟩,
    ⟨_, .port⟩, ⟨_, .withTls⟩, ⟨_, .verifyPeer⟩, ⟨_, .userUri⟩, ⟨_, .superuserUri⟩, ⟨_, .accessUri⟩,
    ⟨_, .paramsMode⟩, ⟨_, .responseMode⟩, ⟨_, .timeout⟩]

theorem mem_all (s : Setting α) : ⟨α, s⟩ ∈ all := by
  cases s <;> simp [all]

/-- The setting that a variable is of. -/
def ofVariableName? (name : String) : Option (Σ α : Type, Setting α) :=
  all.find? fun s => s.2.variableName = name

theorem nodup_variableName : (all.map fun s => s.2.variableName).Nodup := by
  decide +kernel

/-- No two settings share a variable. -/
theorem ofVariableName?_variableName (s : Setting α) : ofVariableName? s.variableName = some ⟨α, s⟩ := by
  unfold ofVariableName?
  cases hfound : all.find? fun s' => s'.2.variableName = s.variableName with
  | none => exact absurd (decide_eq_true rfl) (List.find?_eq_none.mp hfound ⟨α, s⟩ (mem_all s))
  | some s' =>
    have hname : s'.2.variableName = s.variableName := by
      simpa using List.find?_some hfound
    rw [List.inj_on_of_nodup_map nodup_variableName (List.mem_of_find?_eq_some hfound) (mem_all s) hname]

/-- What an environment tells about a setting. -/
def told (env : Environment) (read : FileReader) (s : Setting α) : Except Fault (Option α) :=
  s.kind.ofVariable env read s.variableName

/-- Whether something can be told. -/
def check (env : Environment) (read : FileReader) (s : Σ α : Type, Setting α) : Except Fault Unit :=
  (s.2.told env read).map fun _ => ()

end Setting

/-! ## The layer in an environment -/

namespace Layer

open Outcome (bind_eq_ok_iff map_eq_ok_iff map_eq_error_iff exists_ok_iff map_unit_bind forM_eq_ok_iff
  forM_eq_error_iff)
open Setting (told check)

variable {α : Type} {env : Environment} {read : FileReader} {l : Layer} {fault : Fault}

/-- A layer says about each setting what the environment tells about it. -/
theorem told_of_ofEnvironment (h : ofEnvironment env read = .ok l) (s : Setting α) :
    told env read s = .ok (get s l) := by
  obtain ⟨backend, hbackend, h⟩ := bind_eq_ok_iff.mp h
  obtain ⟨token, htoken, h⟩ := bind_eq_ok_iff.mp h
  obtain ⟨store, hstore, h⟩ := bind_eq_ok_iff.mp h
  obtain ⟨service, hservice, h⟩ := bind_eq_ok_iff.mp h
  cases h
  obtain ⟨kind, hkind, h⟩ := bind_eq_ok_iff.mp hbackend
  cases h
  obtain ⟨secret, hsecret, h⟩ := bind_eq_ok_iff.mp htoken
  obtain ⟨leeway, hleeway, h⟩ := bind_eq_ok_iff.mp h
  cases h
  obtain ⟨maxConnections, hmaxConnections, h⟩ := bind_eq_ok_iff.mp hstore
  obtain ⟨queryTimeout, hqueryTimeout, h⟩ := bind_eq_ok_iff.mp h
  cases h
  obtain ⟨port, hport, h⟩ := bind_eq_ok_iff.mp hservice
  obtain ⟨paramsMode, hparamsMode, h⟩ := bind_eq_ok_iff.mp h
  obtain ⟨responseMode, hresponseMode, h⟩ := bind_eq_ok_iff.mp h
  obtain ⟨timeout, htimeout, h⟩ := bind_eq_ok_iff.mp h
  cases h
  cases s with
  | backend => exact hkind
  | secret => exact hsecret
  | leeway => exact hleeway
  | maxConnections => exact hmaxConnections
  | queryTimeout => exact hqueryTimeout
  | port => exact hport
  | paramsMode => exact hparamsMode
  | responseMode => exact hresponseMode
  | timeout => exact htimeout
  -- Of the others something can always be told.
  | _ => rfl

/-- Apart from the values, the layer is there if something can be told about one setting after the other. -/
theorem ofEnvironment_discard (env : Environment) (read : FileReader) :
    (ofEnvironment env read).map (fun _ => ()) = forM Setting.all (check env read) := by
  show (fun _ => ()) <$> ofEnvironment env read = _
  simp only [ofEnvironment, BackendLayer.ofEnvironment, TokenLayer.ofEnvironment, StoreLayer.ofEnvironment,
    ServiceLayer.ofEnvironment, Setting.all, List.forM_cons, List.forM_nil, map_bind, map_pure, bind_assoc, pure_bind,
    check, map_unit_bind]
  rfl

/-- There is a layer exactly if something can be told about every setting. -/
theorem exists_ofEnvironment_iff :
    (∃ l, ofEnvironment env read = .ok l) ↔ ∀ {α : Type} (s : Setting α), ∃ o, told env read s = .ok o := by
  rw [exists_ok_iff, ofEnvironment_discard, forM_eq_ok_iff]
  constructor
  · intro h α s
    obtain ⟨o, ho, -⟩ := map_eq_ok_iff.mp (h ⟨α, s⟩ (Setting.mem_all s))
    exact ⟨o, ho⟩
  · intro h s _
    obtain ⟨o, ho⟩ := h s.2
    exact map_eq_ok_iff.mpr ⟨o, ho, rfl⟩

/-- The fault is that of the first setting of which nothing can be told. -/
theorem ofEnvironment_eq_error_iff :
    ofEnvironment env read = .error fault ↔
      ∃ before s after, Setting.all = before ++ s :: after ∧ (∀ s' ∈ before, check env read s' = .ok ())
        ∧ s.2.told env read = .error fault := by
  rw [← map_eq_error_iff (f := fun _ => ()), ofEnvironment_discard, forM_eq_error_iff]
  simp only [check, map_eq_error_iff]

end Layer

end TopicGuard.Config
