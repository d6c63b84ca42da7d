import TopicGuard.Proofs.Config.Completion
import TopicGuard.Proofs.Config.Layering
import TopicGuard.Proofs.Engine.Closing

/-!
Making an engine from settings that were loaded.

Loading checks settings once, and making an engine checks them again, in other functions and partly for itself: the
settings of the backend, of a store even three times over, the name of the claim, the presence of a key. For complete
settings none of these later checks can fail (`Incomplete`), so what is left to fail is what loading cannot know:
whether the key is one for the algorithm (`KeyFault`), whether the database can be opened and whether a client for the
service can be built (`Obstacle`). The files may change in between, hence the reader is another one.

The engine that is made verifies tokens if there is anything to verify them with. For a local engine there always is.
-/

set_option autoImplicit false

namespace TopicGuard

/-! ## Keys -/

namespace Token

/-- Why a key that the settings name cannot be used: it is of the wrong kind for the algorithm, its file cannot be read,
or its text holds no key of that kind. -/
inductive KeyFault (s : Settings) (read : FileReader) : SetupError → Prop where
  | notSecret {h : Crypto.Hash} {source : KeySource} (hfamily : s.algorithm.family = .shared h)
    (hkey : s.key = some source) (hsource : ∀ secret, source ≠ .secret secret) :
    KeyFault s read (.keyMismatch s.algorithm "a shared secret")
  | notPublic {kind : Crypto.PublicKey.Family} {secret : Secret String} (hfamily : s.algorithm.family = .publicKey kind)
    (hkey : s.key = some (.secret secret)) :
    KeyFault s read (.keyMismatch s.algorithm "a PEM public key")
  | unreadable {kind : Crypto.PublicKey.Family} {path : String} {fault : FileFault}
    (hfamily : s.algorithm.family = .publicKey kind) (hkey : s.key = some (.file path))
    (hread : read path = .error fault) :
    KeyFault s read (.keyFile path fault)
  | noKeyInFile {kind : Crypto.PublicKey.Family} {path : String} {bytes : Bytes}
    (hfamily : s.algorithm.family = .publicKey kind) (hkey : s.key = some (.file path)) (hread : read path = .ok bytes)
    (hparse : Crypto.PublicKey.ofPem? kind (Utf8.decodeLossy bytes) = none) :
    KeyFault s read .invalidKey
  | noKeyInText {kind : Crypto.PublicKey.Family} {text : String} (hfamily : s.algorithm.family = .publicKey kind)
    (hkey : s.key = some (.pem text)) (hparse : Crypto.PublicKey.ofPem? kind text = none) :
    KeyFault s read .invalidKey

namespace Verifier

open Outcome (bind_eq_error_iff_of_ne)

variable {s : Settings} {read : FileReader} {cause : SetupError}

theorem ofText_eq_error_iff {kind : Crypto.PublicKey.Family} {text : String} :
    loadKey.ofText kind text = .error cause ↔ cause = .invalidKey ∧ Crypto.PublicKey.ofPem? kind text = none := by
  unfold loadKey.ofText
  cases Crypto.PublicKey.ofPem? kind text with
  | none => simp [eq_comm]
  | some key => simp

/-- Where there is a key, loading it fails for what is wrong with it. -/
theorem loadKey_eq_error_iff (hkey : s.hasKey = true) : loadKey s read = .error cause ↔ KeyFault s read cause := by
  unfold Settings.hasKey at hkey
  constructor
  · intro h
    unfold loadKey at h
    split at h
    · next hnone =>
      rw [hnone] at hkey
      cases hkey
    · next source hsource =>
      rw [hsource] at hkey
      split at h
      · next hash secret hfamily =>
        -- An empty secret does not count as a key.
        rw [if_neg (by simpa using hkey)] at h
        cases h
      · next hash source hfamily hother =>
        cases h
        exact .notSecret hfamily hsource hother
      · next kind secret hfamily =>
        cases h
        exact .notPublic hfamily hsource
      · next kind text hfamily =>
        obtain ⟨rfl, hparse⟩ := ofText_eq_error_iff.mp h
        exact .noKeyInText hfamily hsource hparse
      · next kind path hfamily =>
        split at h
        · next fault hread =>
          cases h
          exact .unreadable hfamily hsource hread
        · next bytes hread =>
          obtain ⟨rfl, hparse⟩ := ofText_eq_error_iff.mp h
          exact .noKeyInFile hfamily hsource hread hparse
  · intro h
    unfold loadKey
    cases h with
    | notSecret hfamily hsource hother => simp only [hsource, hfamily]
    | notPublic hfamily hsource => simp only [hsource, hfamily]
    | unreadable hfamily hsource hread => simp only [hsource, hfamily, hread]
    | noKeyInFile hfamily hsource hread hparse =>
      simp only [hsource, hfamily, hread]
      exact ofText_eq_error_iff.mpr ⟨rfl, hparse⟩
    | noKeyInText hfamily hsource hparse =>
      simp only [hsource, hfamily]
      exact ofText_eq_error_iff.mpr ⟨rfl, hparse⟩

/-- So does making a verifier from settings that name a claim. -/
theorem ofSettings_eq_error_iff (hclaim : s.identityClaim ≠ "") (hkey : s.hasKey = true) :
    ofSettings s read = .error cause ↔ KeyFault s read cause := by
  rw [← loadKey_eq_error_iff hkey]
  unfold ofSettings
  rw [if_neg (by simpa using hclaim)]
  exact bind_eq_error_iff_of_ne nofun

end Verifier

end Token

/-! ## Engines -/

namespace Engine

open Policy (Question)
open Outcome (bind_eq_ok_iff bind_eq_error_iff bind_eq_error_iff_of_ok bind_eq_error_iff_of_ne mapError_eq_ok_iff
  mapError_eq_error_iff mapError_eq_error_iff_of)

variable {s : EngineSettings} {read : FileReader} {connector : Connector} {e : Engine} {error : EngineError}

/-- The errors that find settings incomplete: something of the backend is missing or cannot be used, whichever of the
checks finds it, or there is no claim for the identity or no key. -/
inductive Incomplete : EngineError → Prop where
  | store (cause : Store.SettingsError) : Incomplete (.store cause)
  | connecting (cause : Store.SettingsError) : Incomplete (.database (.settings cause))
  | missingHost : Incomplete (.service .missingHost)
  | missingUri (operation : Service.Operation) : Incomplete (.service (.missingUri operation))
  | invalidUrl (url : String) (cause : UrlError) : Incomplete (.service (.invalidUrl url cause))
  | invalidTimeout : Incomplete (.service .invalidTimeout)
  | emptyIdentityClaim : Incomplete (.token .emptyIdentityClaim)
  | missingKey (algorithm : Token.Algorithm) : Incomplete (.token (.missingKey algorithm))

/-- What can stand in the way of an engine with complete settings: a key that cannot be used, or, once there is a
verifier or none is needed, a database that cannot be opened or a client that cannot be built. -/
inductive Obstacle (s : EngineSettings) (read : FileReader) (connector : Connector) : EngineError → Prop where
  | key {cause : Token.SetupError} (hkey : s.token.hasKey = true) (hfault : Token.KeyFault s.token read cause) :
    Obstacle s read connector (.token cause)
  | database {settings : Store.Settings} {verifier : Token.Verifier} {text : String}
    (hbackend : s.backend = .store settings) (hverifier : Token.Verifier.ofSettings s.token read = .ok verifier)
    (hopen : connector.openPool settings.poolOptions = .error text) :
    Obstacle s read connector (.database (.database text))
  | client {settings : Service.Settings} {text : String} (hbackend : s.backend = .service settings)
    (hverifier : s.token.hasKey = true → ∃ verifier, Token.Verifier.ofSettings s.token read = .ok verifier)
    (hbuild : connector.buildClient settings.clientOptions = .error text) :
    Obstacle s read connector (.service (.client text))

/-- No obstacle is a matter of settings that are not complete. -/
theorem Obstacle.not_incomplete (h : Obstacle s read connector error) : ¬ Incomplete error := by
  cases h with
  | key hkey hfault =>
    intro hincomplete
    cases hincomplete with
    | emptyIdentityClaim => cases hfault
    | missingKey algorithm => cases hfault
  | database hbackend hverifier hopen => nofun
  | client hbackend hverifier hbuild => nofun

variable {t : Token.Settings}

/-- The step that makes the verifier fails for what is wrong with the key. -/
theorem verifier_eq_error_iff (hclaim : t.identityClaim ≠ "") (hkey : t.hasKey = true) :
    (Token.Verifier.ofSettings t read).mapError EngineError.token = .error error ↔
      ∃ cause, Token.KeyFault t read cause ∧ .token cause = error := by
  rw [mapError_eq_error_iff]
  simp only [Token.Verifier.ofSettings_eq_error_iff hclaim hkey]

/-- The step that connects the store fails for what is wrong with its database. -/
theorem store_eq_error_iff {settings : Store.Settings} {verifier : Token.Verifier}
    (hvalid : settings.validate = .ok ()) :
    ((Store.connect settings verifier connector.openPool).mapError EngineError.database >>= fun store =>
        pure (ofStore store)) = .error error ↔
      ∃ text, connector.openPool settings.poolOptions = .error text ∧ .database (.database text) = error := by
  refine (bind_eq_error_iff_of_ne ?_).trans (mapError_eq_error_iff_of fun _ => Store.connect_eq_error_iff hvalid)
  intro store h
  cases h

/-- The step that makes the service, with a verifier or without, fails for what is wrong with its client. -/
theorem service_eq_error_iff {settings : Service.Settings} {endpoints : Service.Endpoints}
    {verifier : Option Token.Verifier} (hendpoints : settings.endpoints = .ok endpoints) :
    ((Service.ofSettings settings verifier connector.buildClient).mapError EngineError.service >>= fun service =>
        pure (ofService service)) = .error error ↔
      ∃ text, connector.buildClient settings.clientOptions = .error text ∧ .service (.client text) = error := by
  refine (bind_eq_error_iff_of_ne ?_).trans
    (mapError_eq_error_iff_of fun _ => Service.ofSettings_eq_error_iff hendpoints)
  intro service h
  cases h

/-- With complete settings a local engine fails for its key or for its database. -/
theorem ofSettings_store_eq_error_iff {settings : Store.Settings} (hclaim : t.identityClaim ≠ "")
    (hkey : t.hasKey = true) (hvalid : settings.validate = .ok ()) :
    ofSettings ⟨t, .store settings⟩ read connector = .error error ↔
      Obstacle ⟨t, .store settings⟩ read connector error := by
  unfold ofSettings
  dsimp only
  rw [bind_eq_error_iff_of_ok (mapError_eq_ok_iff.mpr hvalid), bind_eq_error_iff, verifier_eq_error_iff hclaim hkey]
  simp only [mapError_eq_ok_iff, store_eq_error_iff hvalid]
  constructor
  · rintro (⟨cause, hfault, rfl⟩ | ⟨verifier, hverifier, text, hopen, rfl⟩)
    · exact .key hkey hfault
    · exact .database rfl hverifier hopen
  · intro h
    cases h with
    | key _ hfault => exact .inl ⟨_, hfault, rfl⟩
    | database hbackend hverifier hopen =>
      cases hbackend
      exact .inr ⟨_, hverifier, _, hopen, rfl⟩
    | client hbackend _ _ => cases hbackend

/-- With complete settings a remote engine fails for its key, if there is one, or for its client. -/
theorem ofSettings_service_eq_error_iff {settings : Service.Settings} {endpoints : Service.Endpoints}
    (hclaim : t.identityClaim ≠ "") (hendpoints : settings.endpoints = .ok endpoints) :
    ofSettings ⟨t, .service settings⟩ read connector = .error error ↔
      Obstacle ⟨t, .service settings⟩ read connector error := by
  unfold ofSettings
  dsimp only
  by_cases hkey : t.hasKey = true
  · rw [if_pos hkey, bind_eq_error_iff, verifier_eq_error_iff hclaim hkey]
    simp only [pure_bind, mapError_eq_ok_iff, service_eq_error_iff hendpoints]
    constructor
    · rintro (⟨cause, hfault, rfl⟩ | ⟨verifier, hverifier, text, hbuild, rfl⟩)
      · exact .key hkey hfault
      · exact .client rfl (fun _ => ⟨verifier, hverifier⟩) hbuild
    · intro h
      cases h with
      | key _ hfault => exact .inl ⟨_, hfault, rfl⟩
      | database hbackend _ _ => cases hbackend
      | client hbackend hverifier hbuild =>
        cases hbackend
        obtain ⟨verifier, hverifier⟩ := hverifier hkey
        exact .inr ⟨verifier, hverifier, _, hbuild, rfl⟩
  · -- A service without a key is made without a verifier, and only the client is left to fail.
    rw [if_neg hkey, pure_bind, service_eq_error_iff hendpoints]
    constructor
    · rintro ⟨text, hbuild, rfl⟩
      exact .client rfl (fun hkey' => absurd hkey' hkey) hbuild
    · intro h
      cases h with
      | key hkey' _ => exact absurd hkey' hkey
      | database hbackend _ _ => cases hbackend
      | client hbackend _ hbuild =>
        cases hbackend
        exact ⟨_, hbuild, rfl⟩

/-- An engine is made of complete settings unless there is an obstacle. -/
theorem ofSettings_eq_error_iff (hs : Config.IsComplete s) :
    ofSettings s read connector = .error error ↔ Obstacle s read connector error := by
  obtain ⟨t, backend⟩ := s
  cases backend with
  | store settings =>
    obtain ⟨hvalid, hkey⟩ := hs.store settings rfl
    exact ofSettings_store_eq_error_iff hs.identityClaim_ne_empty hkey hvalid
  | service settings =>
    obtain ⟨endpoints, hendpoints⟩ := hs.service settings rfl
    exact ofSettings_service_eq_error_iff hs.identityClaim_ne_empty hendpoints

/-- A token that the verifier rejects is a no, and nothing outside is asked about it. -/
def Verifies (e : Engine) (verifier : Token.Verifier) (expiry : Question → Token.Expiry) : Prop :=
  ∀ (World : Type) (outside : Outside (StateM World)) (now : Instant) (token : String) (q : Question) (w : World)
    (r : Token.Rejection), verifier.verify (expiry q) now token = .error r →
      e.decision outside now token q w = (.ok false, w)

theorem verifies_ofStore {settings : Store.Settings} {verifier : Token.Verifier} {store : Store}
    (h : Store.ofSettings settings verifier = .ok store) : (ofStore store).Verifies verifier settings.expiryFor := by
  intro World outside now token q w r hr
  rw [decision_of_store rfl, Store.decision_eq_settled h (.inr ⟨r, hr⟩)]
  rfl

theorem verifies_ofService {service : Service} {verifier : Token.Verifier} (h : service.verifier = some verifier) :
    (ofService service).Verifies verifier fun _ => .enforce := by
  intro World outside now token q w r hr
  have hadmits : ¬ service.admits now token = true := by
    rw [Service.admits_of_verify_error h hr]
    exact Bool.false_ne_true
  rw [decision_of_service rfl, Service.decision_eq, if_neg hadmits]
  rfl

/-- An engine with a remote backend is a service, with the verifier of its settings if there is a key and without one
otherwise. -/
theorem exists_service_of_ofSettings {settings : Service.Settings}
    (h : ofSettings ⟨t, .service settings⟩ read connector = .ok e) :
    ∃ service, e = ofService service ∧ (service.verifier.isSome = true ↔ t.hasKey = true)
      ∧ ∀ verifier, service.verifier = some verifier → Token.Verifier.ofSettings t read = .ok verifier := by
  by_cases hkey : t.hasKey = true
  · obtain ⟨verifier, service, hverifier, hservice, rfl⟩ := (ofSettings_service_eq_ok_iff hkey).mp h
    obtain ⟨endpoints, -, -, rfl⟩ := Service.ofSettings_eq_ok_iff.mp hservice
    refine ⟨_, rfl, by simp [hkey], ?_⟩
    intro verifier' hsome
    cases hsome
    exact hverifier
  · unfold ofSettings at h
    dsimp only at h
    rw [if_neg hkey, pure_bind] at h
    obtain ⟨service, hservice, h⟩ := bind_eq_ok_iff.mp h
    obtain ⟨endpoints, -, -, rfl⟩ := Service.ofSettings_eq_ok_iff.mp (mapError_eq_ok_iff.mp hservice)
    cases h
    refine ⟨_, rfl, by simp [hkey], ?_⟩
    intro verifier' hsome
    cases hsome

/-- Whatever settings were loaded, and from whatever sources, and whatever the files, the database and the client are
like afterwards: making an engine never finds the settings incomplete. It fails exactly for a key that does not fit the
algorithm, cannot be read or cannot be parsed, for a database that cannot be opened, in the words of the database, and
for a client that cannot be built. A local engine that is made verifies tokens, with a key. A remote engine has a
verifier exactly if the sources together have a secret that is not empty, or the path of a public key; and then it
verifies tokens as well. -/
theorem ofSettings_of_load (read : FileReader) (sources : List Config.Source) (s : EngineSettings)
    (hload : Config.load read sources = .ok s) :
    ∃ merged, Config.Source.merge read sources = .ok merged ∧
      ∀ (later : FileReader) (connector : Connector),
        (∀ error, ofSettings s later connector = .error error → ¬ Incomplete error)
          ∧ (∀ error, ofSettings s later connector = .error error ↔ Obstacle s later connector error)
          ∧ ∀ e, ofSettings s later connector = .ok e →
            (∀ settings, s.backend = .store settings → ∃ store, e = ofStore store
              ∧ Token.Verifier.ofSettings s.token later = .ok store.verifier
              ∧ e.Verifies store.verifier settings.expiryFor)
            ∧ ∀ settings, s.backend = .service settings → ∃ service, e = ofService service
              ∧ (service.verifier.isSome = true ↔
                  (∃ secret, Config.Layer.get .secret merged = some secret ∧ secret.exposed ≠ "")
                    ∨ ∃ path, Config.Layer.get .publicKeyPath merged = some path)
              ∧ ∀ verifier, service.verifier = some verifier →
                  Token.Verifier.ofSettings s.token later = .ok verifier ∧ e.Verifies verifier fun _ => .enforce := by
  obtain ⟨merged, hmerge, hresolve⟩ := Config.exists_merge_of_load hload
  refine ⟨merged, hmerge, ?_⟩
  intro later connector
  have hobstacle (error : EngineError) :
      ofSettings s later connector = .error error ↔ Obstacle s later connector error :=
    ofSettings_eq_error_iff (Config.Layer.isComplete_of_resolve hresolve)
  refine ⟨fun error h => ((hobstacle error).mp h).not_incomplete, hobstacle, ?_⟩
  intro e he
  constructor
  · rintro settings hbackend
    obtain ⟨t, backend⟩ := s
    obtain rfl : backend = .store settings := hbackend
    obtain ⟨verifier, store, hverifier, -, hstore, rfl⟩ := ofSettings_store_eq_ok_iff.mp he
    obtain ⟨-, -, rfl⟩ := Store.for?_of_ofSettings (q := .authenticate) hstore
    exact ⟨store, rfl, hverifier, verifies_ofStore hstore⟩
  · rintro settings hbackend
    have hkey := Config.Layer.hasKey_iff hresolve
    obtain ⟨t, backend⟩ := s
    obtain rfl : backend = .service settings := hbackend
    obtain ⟨service, rfl, hsome, hverifier⟩ := exists_service_of_ofSettings he
    refine ⟨service, rfl, hsome.trans hkey, ?_⟩
    intro verifier hv
    exact ⟨hverifier verifier hv, verifies_ofService hv⟩

/-- Settings with a secret and a database. Whether there is an engine depends on the database alone, and to the engine
a word that is no token is a no. -/
theorem ofSettings_of_load_with_secret :
    let read : FileReader := fun _ => .error .missing
    let layer : Config.Layer := {
      token := some { secret := some ⟨"k"⟩ }
      store := some { databaseUrl := some "sqlite::memory:", userQuery := some "users", accessQuery := some "grants" } }
    let sources : List Config.Source := [.custom "embedded" 60 (.ok layer), .usual]
    let s : EngineSettings := ⟨⟨.hs256, some (.secret ⟨"k"⟩), "username", none, none, 0⟩,
      .store ⟨"sqlite::memory:", 10, .ofSeconds 5, ⟨"users", none, "grants"⟩, false, false⟩⟩
    let missing : Connector := ⟨fun _ => .error "unable to open database file", fun _ => .ok ()⟩
    let present : Connector := ⟨fun _ => .ok (), fun _ => .ok ()⟩
    Config.load read sources = .ok s
      ∧ ofSettings s read missing = .error (.database (.database "unable to open database file"))
      ∧ ∃ e, ofSettings s read present = .ok e
        ∧ ∀ (outside : Outside (StateM Nat)) (q : Question) (n : Nat),
            e.decision outside .epoch "garbage" q n = (.ok false, n) := by
  intro read layer sources s missing present
  have hordered : IsStableOrder Config.Source.precedence sources [.usual, .custom "embedded" 60 (.ok layer)] := by
    refine ⟨by decide, fun p => ?_⟩
    by_cases hp : p = 10 <;> simp [sources, Config.Source.precedence, List.filter_cons, hp, eq_comm]
  have hload : Config.load read sources = .ok s := by
    rw [Config.load_eq hordered]
    decide +kernel
  obtain ⟨merged, -, hbuild⟩ := ofSettings_of_load read sources s hload
  refine ⟨hload, ((hbuild read missing).2.1 _).mpr (.database rfl rfl rfl), _, rfl, ?_⟩
  intro outside q n
  obtain ⟨hstore, -⟩ := (hbuild read present).2.2 _ rfl
  obtain ⟨store, -, -, hverifies⟩ := hstore _ rfl
  have hshape : store.verifier.checkSignature "garbage" = .error (.malformed .shape) :=
    Token.Verifier.checkSignature_of_count_dot (by decide)
  exact hverifies Nat outside .epoch "garbage" q n _ (Token.Verifier.verify_of_checkSignature hshape)

end Engine

end TopicGuard
