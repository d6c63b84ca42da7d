import TopicGuard.Engine
import TopicGuard.Proofs.Service.Directory
import TopicGuard.Proofs.Store.Directory

/-!
Both backends decide by the same policy.

An engine decides as its backend does, and either backend gives the verdict of a policy when its other end follows that
policy. So a local engine, which expands and matches filters itself, and a remote engine, which writes a request and
reads a response, give the same answer to every question (`decision_parity`).
-/

set_option autoImplicit false

namespace TopicGuard.Engine

open Policy (Question Directory)

variable {e : Engine} {t : Token.Settings} {read : FileReader} {connector : Connector} {now : Instant} {token : String}
  {q : Question}

/-! ## Engines and their backends -/

/-- What an engine does with a question about a token. -/
def decision {m : Type → Type} [Monad m] (e : Engine) (outside : Outside m) (now : Instant) (token : String) :
    Question → m Policy.Verdict
  | .authenticate => e.authenticate outside now token
  | .isPrivileged => e.isPrivileged outside now token
  | .checkAccess topic clientId requested => e.checkAccess outside now token topic clientId requested

/-- An engine over a store decides as the store does. -/
theorem decision_ofStore {s : Store} {outside : Outside Id} :
    (ofStore s).decision outside now token q
      = ((s.decision now token q).answer outside.query).mapError Store.Fault.toPolicy := by
  have hrun (c : Store.Consultation) :
      (ofStore s).runStore outside c = (c.answer outside.query).mapError Store.Fault.toPolicy := by
    cases c <;> rfl
  cases q with
  | authenticate => exact hrun (s.authenticate now token)
  | isPrivileged => exact hrun (s.isPrivileged now token)
  | checkAccess topic clientId requested => exact hrun (s.checkAccess now token topic clientId requested)

/-- An engine over a service decides as the service does. -/
theorem decision_ofService {s : Service} {outside : Outside Id} :
    (ofService s).decision outside now token q
      = ((s.decision false now token q).answer outside.request).mapError Service.Fault.toPolicy := by
  have hrun (c : Service.Consultation) :
      runService outside c = (c.answer outside.request).mapError Service.Fault.toPolicy := by
    cases c <;> rfl
  cases q with
  | authenticate => exact hrun (s.authenticate false now token)
  | isPrivileged => exact hrun (s.isPrivileged false now token)
  | checkAccess topic clientId requested => exact hrun (s.checkAccess false now token topic clientId requested)

/-- An engine with a local backend is a store with a verifier, made when the database can be opened. -/
theorem ofSettings_store_eq_ok_iff {settings : Store.Settings} :
    ofSettings ⟨t, .store settings⟩ read connector = .ok e ↔
      ∃ verifier s, Token.Verifier.ofSettings t read = .ok verifier
        ∧ connector.openPool settings.poolOptions = .ok () ∧ Store.ofSettings settings verifier = .ok s
        ∧ e = ofStore s := by
  constructor
  · intro h
    obtain ⟨_, -, h⟩ := Outcome.bind_eq_ok_iff.mp h
    obtain ⟨verifier, hverifier, h⟩ := Outcome.bind_eq_ok_iff.mp h
    obtain ⟨s, hs, h⟩ := Outcome.bind_eq_ok_iff.mp h
    obtain ⟨hopen, hs⟩ := Store.connect_eq_ok_iff.mp (Outcome.mapError_eq_ok_iff.mp hs)
    cases h
    exact ⟨verifier, s, Outcome.mapError_eq_ok_iff.mp hverifier, hopen, hs, rfl⟩
  · rintro ⟨verifier, s, hverifier, hopen, hs, rfl⟩
    obtain ⟨hvalid, -⟩ := Store.ofSettings_eq_ok_iff.mp hs
    refine Outcome.bind_eq_ok_iff.mpr ⟨(), Outcome.mapError_eq_ok_iff.mpr hvalid, ?_⟩
    refine Outcome.bind_eq_ok_iff.mpr ⟨verifier, Outcome.mapError_eq_ok_iff.mpr hverifier, ?_⟩
    refine Outcome.bind_eq_ok_iff.mpr ⟨s, Outcome.mapError_eq_ok_iff.mpr ?_, rfl⟩
    exact Store.connect_eq_ok_iff.mpr ⟨hopen, hs⟩

/-- An engine with a remote backend is a service, which verifies tokens if there is a key. -/
theorem ofSettings_service_eq_ok_iff {settings : Service.Settings} (hkey : t.hasKey = true) :
    ofSettings ⟨t, .service settings⟩ read connector = .ok e ↔
      ∃ verifier s, Token.Verifier.ofSettings t read = .ok verifier
        ∧ Service.ofSettings settings (some verifier) connector.buildClient = .ok s ∧ e = ofService s := by
  unfold ofSettings
  dsimp only
  rw [if_pos hkey]
  constructor
  · intro h
    obtain ⟨verifier, hverifier, h⟩ := Outcome.bind_eq_ok_iff.mp h
    obtain ⟨_, hsome, h⟩ := Outcome.bind_eq_ok_iff.mp h
    cases hsome
    obtain ⟨s, hs, h⟩ := Outcome.bind_eq_ok_iff.mp h
    cases h
    exact ⟨verifier, s, Outcome.mapError_eq_ok_iff.mp hverifier, Outcome.mapError_eq_ok_iff.mp hs, rfl⟩
  · rintro ⟨verifier, s, hverifier, hs, rfl⟩
    refine Outcome.bind_eq_ok_iff.mpr ⟨verifier, Outcome.mapError_eq_ok_iff.mpr hverifier, ?_⟩
    refine Outcome.bind_eq_ok_iff.mpr ⟨some verifier, rfl, ?_⟩
    exact Outcome.bind_eq_ok_iff.mpr ⟨s, Outcome.mapError_eq_ok_iff.mpr hs, rfl⟩

/-! ## Parity -/

/-- Two engines that were made with the same settings for tokens, the one over a database that holds a policy, without
skipping the validity window, the other with a server that speaks for the policy, in any of the modes, give the same
yes or no to every question about every token at every time: the verdict of the policy. -/
theorem decision_parity (d : Directory) (t : Token.Settings) (localSettings : Store.Settings)
    (remoteSettings : Service.Settings) (read : FileReader) (connector : Connector) (outside : Outside Id)
    (localEngine remoteEngine : Engine) (hkey : t.hasKey = true)
    (hlocal : ofSettings ⟨t, .store localSettings⟩ read connector = .ok localEngine)
    (hremote : ofSettings ⟨t, .service remoteSettings⟩ read connector = .ok remoteEngine)
    (huser : localSettings.skipUserExpiration = false) (haccess : localSettings.skipAccessExpiration = false)
    (hdb : Store.Holds d localSettings.templates outside.query)
    (hserver : Service.SpeaksFor d t.identityClaim remoteSettings outside.request) :
    ∃ verifier, Token.Verifier.ofSettings t read = .ok verifier ∧ ∀ now token q,
      localEngine.decision outside now token q = .ok (d.verdict verifier now token q)
        ∧ remoteEngine.decision outside now token q = .ok (d.verdict verifier now token q) := by
  obtain ⟨verifier, s, hverifier, -, hs, rfl⟩ := ofSettings_store_eq_ok_iff.mp hlocal
  obtain ⟨verifier', s', hverifier', hs', rfl⟩ := (ofSettings_service_eq_ok_iff hkey).mp hremote
  -- The settings for tokens are the same, and so is the verifier.
  obtain rfl : verifier' = verifier := by
    rw [hverifier, Except.ok.injEq] at hverifier'
    exact hverifier'.symm
  have hclaim : verifier'.identityClaim = t.identityClaim := by
    obtain ⟨-, key, -, rfl⟩ := Token.Verifier.ofSettings_eq_ok_iff.mp hverifier
    rfl
  have hexpiry (q : Question) : localSettings.expiryFor q = .enforce := by
    cases q <;> simp [Store.Settings.expiryFor, Store.expiryUnder, Store.flagFor, huser, haccess]
  refine ⟨verifier', hverifier, fun now token q => ⟨?_, ?_⟩⟩
  · rw [decision_ofStore, Store.answer_of_holds hs (hexpiry q) hdb]
    rfl
  · rw [decision_ofService, Service.answer_of_speaksFor hs' (hclaim ▸ hserver)]
    rfl

/-- A database in memory, and a server that speaks for the same policy and answers by its status. The holder of the
token is known and is no superuser, and its grant is good for its own room at the level to read and not above. -/
theorem decision_parity_own_room :
    let t : Token.Settings := ⟨.hs256, some (.secret ⟨"k"⟩), "username", none, none, 0⟩
    let read : FileReader := fun _ => .error .missing
    let connector : Connector := ⟨fun _ => .ok (), fun _ => .ok ()⟩
    let localSettings : Store.Settings :=
      ⟨"sqlite::memory:", 1, .ofSeconds 5, ⟨"users", some "superusers", "grants"⟩, false, false⟩
    let remoteSettings : Service.Settings :=
      ⟨"127.0.0.1", some 18080, false, true, "/user", "/superuser", "/acl", .form, .status, .ofSeconds 5⟩
    let origin : Origin := ⟨.http, "", .ipv4 0x7F000001, some 18080⟩
    let endpoints : Service.Endpoints := ⟨⟨origin, ["user".toList], none, none⟩,
      ⟨origin, ["superuser".toList], none, none⟩, ⟨origin, ["acl".toList], none, none⟩⟩
    let tables : Store.Tables := ⟨[⟨"u", false⟩], [⟨"u", ⟨"rooms/%u", 1⟩⟩]⟩
    let select : String → Store.Selection := fun template =>
      if template = "users" then .memberCount else if template = "superusers" then .superuserCount else .filters
    let outside : Outside Id :=
      ⟨tables.database .ready select, Service.spokesman tables.directory "username" remoteSettings endpoints⟩
    let verifier : Token.Verifier := ⟨.hs256, .shared (Utf8.encode "k"), "username", none, none, 0⟩
    let localEngine := ofStore ⟨verifier, localSettings.templates, .ofSeconds 5, false, false⟩
    let remoteEngine := ofService ⟨endpoints, .form, .status, .ofSeconds 5, some verifier⟩
    let token := Token.sign (.object [("username", .string "u")]) "k"
    let agree (q : Question) (allowed : Bool) : Prop :=
      localEngine.decision outside .epoch token q = .ok allowed
        ∧ remoteEngine.decision outside .epoch token q = .ok allowed
    ofSettings ⟨t, .store localSettings⟩ read connector = .ok localEngine
      ∧ ofSettings ⟨t, .service remoteSettings⟩ read connector = .ok remoteEngine
      ∧ agree .authenticate true ∧ agree .isPrivileged false ∧ agree (.checkAccess "rooms/u" "c" 1) true
      ∧ agree (.checkAccess "rooms/u" "c" 2) false := by
  intro t read connector localSettings remoteSettings origin endpoints tables select outside verifier localEngine
    remoteEngine token agree
  have hendpoints : remoteSettings.endpoints = .ok endpoints := by decide +kernel
  have hverifier : Token.Verifier.ofSettings t read = .ok verifier := rfl
  have hlocal : ofSettings ⟨t, .store localSettings⟩ read connector = .ok localEngine :=
    ofSettings_store_eq_ok_iff.mpr
      ⟨verifier, _, hverifier, rfl, Store.ofSettings_eq_ok_iff.mpr ⟨by decide +kernel, rfl⟩, rfl⟩
  have hremote : ofSettings ⟨t, .service remoteSettings⟩ read connector = .ok remoteEngine :=
    (ofSettings_service_eq_ok_iff rfl).mpr
      ⟨verifier, _, hverifier, Service.ofSettings_eq_ok_iff.mpr ⟨endpoints, hendpoints, rfl, rfl⟩, rfl⟩
  have hdb : Store.Holds tables.directory localSettings.templates outside.query :=
    Store.Tables.holds_database (by decide) rfl rfl rfl rfl
  have hserver : Service.SpeaksFor tables.directory t.identityClaim remoteSettings outside.request :=
    Service.speaksFor_spokesman hendpoints (by decide)
  obtain ⟨verifier', hverifier', hagree⟩ := decision_parity tables.directory t localSettings remoteSettings read
    connector outside localEngine remoteEngine rfl hlocal hremote rfl rfl hdb hserver
  obtain rfl : verifier = verifier' := by
    rw [hverifier, Except.ok.injEq] at hverifier'
    exact hverifier'
  have hv : verifier.verify .enforce .epoch token = .ok ⟨"u", none, none, [], none, none, none⟩ := by decide +kernel
  -- The claims name the identity, so the verdict on the token is what the policy says about this identity.
  have hverdict (q : Question) : agree q (tables.directory.allows "u" q) := by
    have h := hagree .epoch token q
    rw [Directory.verdict_of_ok hv] at h
    exact h
  exact ⟨hlocal, hremote, hverdict .authenticate, hverdict .isPrivileged, hverdict (.checkAccess "rooms/u" "c" 1),
    hverdict (.checkAccess "rooms/u" "c" 2)⟩

end TopicGuard.Engine
