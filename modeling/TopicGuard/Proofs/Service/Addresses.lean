import Mathlib.Tactic.Choose
import TopicGuard.Proofs.Url.Authority
import TopicGuard.Service.Settings

/-!
Where the addresses of a service lead.

The three addresses are made of a base, which is the scheme, the host and the port, and of a path each, with a slash
between them. If there is a port, or anything in the host that is neither a slash nor ignored, then this slash closes
the authority: the addresses lead where the base alone leads, whatever the paths are, and they are unreadable exactly if
the base is (`exists_endpoints_of_base`, `exists_error_of_base`).

A host of slashes is not blank and passes validation, but it names nothing. Its slashes run together with that of the
path, and the path says where the tokens are sent (`origin_of_not_namesAuthority`). So the addresses follow their base
for all paths exactly if the base names something (`endpoints_origin_iff`).

Of how hosts are read it matters only that no host is empty, and that a letter is one; the rest is for any reader.
-/

set_option autoImplicit false

namespace TopicGuard.Service

open Outcome (bind_eq_ok_iff bind_eq_error_iff map_eq_ok_iff map_eq_error_iff check_eq_ok_iff)

namespace Settings

variable {s t : Settings} {operation : Operation}

/-! ## The base -/

/-- The address that is the base with a slash behind it. -/
def base (s : Settings) : Except UrlError Url :=
  Url.parse s.scheme ((s.baseUrl ++ "/").toList.drop (s.scheme.name.length + 1))

/-- What stands between the colon of the scheme and the path. -/
def front (s : Settings) : List Char :=
  "//".toList ++ s.authority.toList

/-- There is a port, or the host has a character that is neither a slash nor ignored. -/
def NamesAuthority (s : Settings) : Prop :=
  s.port ≠ none ∨ Url.Names s.host.toList

theorem base_eq : s.base = Url.parse s.scheme (s.front ++ ['/']) := by
  have htext : (s.baseUrl ++ "/").toList = (s.scheme.name.toList ++ [':']) ++ (s.front ++ ['/']) := by
    simp [baseUrl, front]
  rw [base, htext, List.drop_left' (by simp [String.length_toList])]

/-- The base is made of the scheme, the host and the port alone. -/
theorem base_congr (htls : t.withTls = s.withTls) (hhost : t.host = s.host) (hport : t.port = s.port) :
    t.base = s.base := by
  unfold base baseUrl authority scheme
  rw [htls, hhost, hport]

/-- The scheme of the base is the one that was set. -/
theorem scheme_of_base {base : Url} (h : s.base = .ok base) : base.origin.scheme = s.scheme := by
  have horigin := Url.origin_parseWith Host.parse s.scheme (s.front ++ ['/'])
  rw [← Url.parse, ← base_eq, h] at horigin
  exact Url.scheme_of_parseAuthority horigin.symm

theorem names_front_iff : Url.Names s.front ↔ s.NamesAuthority := by
  have hslashes : ¬ Url.Names "//".toList := by decide
  have hcolon : Url.Names ":".toList := by decide
  unfold front NamesAuthority authority
  rw [Url.names_append, or_iff_right hslashes]
  cases s.port with
  | none => simp
  | some port =>
    rw [String.toList_append, String.toList_append, Url.names_append, Url.names_append]
    exact iff_of_true (.inl (.inr hcolon)) (.inl (Option.some_ne_none port))

/-! ## The addresses -/

theorem validate_eq :
    s.validate =
      if Text.isAllBlank s.host then .error .missingHost
      else if Text.isAllBlank (s.uri .user) then .error (.missingUri .user)
      else if Text.isAllBlank (s.uri .superuser) then .error (.missingUri .superuser)
      else if Text.isAllBlank (s.uri .access) then .error (.missingUri .access)
      else if s.timeout.isZero then .error .invalidTimeout
      else .ok () := by
  unfold validate
  simp only [List.forIn_cons, List.forIn_nil]
  by_cases hhost : Text.isAllBlank s.host = true
  · simp only [if_pos hhost]
    rfl
  simp only [if_neg hhost]
  by_cases huser : Text.isAllBlank (s.uri .user) = true
  · simp only [if_pos huser]
    rfl
  simp only [if_neg huser]
  by_cases hsuperuser : Text.isAllBlank (s.uri .superuser) = true
  · simp only [if_pos hsuperuser]
    rfl
  simp only [if_neg hsuperuser]
  by_cases haccess : Text.isAllBlank (s.uri .access) = true
  · simp only [if_pos haccess]
    rfl
  simp only [if_neg haccess]
  rfl

/-- Settings are complete exactly if none of the texts is blank and the timeout is not zero. -/
theorem validate_eq_ok_iff :
    s.validate = .ok () ↔ ¬ Text.isAllBlank s.host = true ∧ ¬ Text.isAllBlank (s.uri .user) = true
      ∧ ¬ Text.isAllBlank (s.uri .superuser) = true ∧ ¬ Text.isAllBlank (s.uri .access) = true
      ∧ ¬ s.timeout.isZero = true := by
  simp only [validate_eq, check_eq_ok_iff, and_true]

/-- A path starts with a slash. -/
theorem exists_rooted (uri : String) : ∃ rest, rooted uri = '/' :: rest := by
  unfold rooted
  split
  · exact ⟨_, rfl⟩
  · exact ⟨_, rfl⟩

theorem endpoint_eq :
    s.endpoint operation = (Url.parse s.scheme (s.front ++ rooted (s.uri operation))).mapError
      (.invalidUrl (s.baseUrl ++ String.ofList (rooted (s.uri operation)))) := by
  unfold endpoint front
  dsimp only
  cases Url.parse s.scheme ("//".toList ++ s.authority.toList ++ rooted (s.uri operation)) with
  | error cause => rfl
  | ok url => rfl

theorem endpoints_eq_ok_iff {e : Endpoints} :
    s.endpoints = .ok e ↔ s.validate = .ok () ∧ ∀ operation, s.endpoint operation = .ok (e.of operation) := by
  unfold endpoints
  rw [bind_eq_ok_iff]
  constructor
  · rintro ⟨_, hvalid, h⟩
    obtain ⟨user, huser, h⟩ := bind_eq_ok_iff.mp h
    obtain ⟨superuser, hsuperuser, h⟩ := bind_eq_ok_iff.mp h
    obtain ⟨access, haccess, h⟩ := bind_eq_ok_iff.mp h
    cases h
    refine ⟨hvalid, ?_⟩
    intro operation
    cases operation with
    | user => exact huser
    | superuser => exact hsuperuser
    | access => exact haccess
  · rintro ⟨hvalid, h⟩
    refine ⟨(), hvalid, ?_⟩
    apply bind_eq_ok_iff.mpr ⟨_, h .user, ?_⟩
    apply bind_eq_ok_iff.mpr ⟨_, h .superuser, ?_⟩
    exact bind_eq_ok_iff.mpr ⟨_, h .access, rfl⟩

/-- If the addresses of all questions can be read and lead to one place, that is where the addresses lead. -/
theorem exists_endpoints {origin : Origin} (hvalid : s.validate = .ok ())
    (h : ∀ operation, ∃ url, s.endpoint operation = .ok url ∧ url.origin = origin) :
    ∃ e, s.endpoints = .ok e ∧ ∀ operation, (e.of operation).origin = origin := by
  choose url hurl horigin using h
  refine ⟨⟨url .user, url .superuser, url .access⟩, endpoints_eq_ok_iff.mpr ⟨hvalid, ?_⟩, ?_⟩
  · intro operation
    rw [hurl operation]
    cases operation <;> rfl
  · intro operation
    rw [← horigin operation]
    cases operation <;> rfl

/-! ## A base that names something -/

/-- Then the origin is that of the base, for any path, and there is one exactly if the base has one. -/
theorem origin_of_namesAuthority (h : s.NamesAuthority) (uri : String) :
    (Url.parse s.scheme (s.front ++ rooted uri)).map Url.origin = s.base.map Url.origin := by
  obtain ⟨rest, hrest⟩ := exists_rooted uri
  rw [hrest, base_eq]
  exact Url.origin_parseWith_append Host.parse s.scheme (names_front_iff.mpr h) rest

/-- Where the base can be read, so can every address, and it leads where the base does. -/
theorem exists_endpoint_of_base {base : Url} (h : s.NamesAuthority) (hbase : s.base = .ok base)
    (operation : Operation) : ∃ url, s.endpoint operation = .ok url ∧ url.origin = base.origin := by
  have horigin := origin_of_namesAuthority h (s.uri operation)
  rw [hbase] at horigin
  obtain ⟨url, hurl, heq⟩ := map_eq_ok_iff.mp horigin
  refine ⟨url, ?_, heq⟩
  rw [endpoint_eq, hurl]
  rfl

/-- Where it cannot be read, neither can any address, and the reason is the same. -/
theorem endpoint_of_base_error {cause : UrlError} (h : s.NamesAuthority) (hbase : s.base = .error cause) :
    s.endpoint operation = .error (.invalidUrl (s.baseUrl ++ String.ofList (rooted (s.uri operation))) cause) := by
  have horigin := origin_of_namesAuthority h (s.uri operation)
  rw [hbase] at horigin
  rw [endpoint_eq, map_eq_error_iff.mp horigin]
  rfl

theorem exists_endpoints_of_base {base : Url} (hvalid : s.validate = .ok ()) (h : s.NamesAuthority)
    (hbase : s.base = .ok base) :
    ∃ e, s.endpoints = .ok e ∧ ∀ operation, (e.of operation).origin = base.origin :=
  exists_endpoints hvalid (exists_endpoint_of_base h hbase)

theorem exists_error_of_base {cause : UrlError} (hvalid : s.validate = .ok ()) (h : s.NamesAuthority)
    (hbase : s.base = .error cause) : ∃ url, s.endpoints = .error (.invalidUrl url cause) := by
  -- The address of the first question is resolved first.
  refine ⟨s.baseUrl ++ String.ofList (rooted (s.uri .user)), ?_⟩
  apply bind_eq_error_iff.mpr
  refine .inr ⟨(), hvalid, ?_⟩
  exact bind_eq_error_iff.mpr (.inl (endpoint_of_base_error h hbase))

/-- So the addresses follow the base. -/
theorem endpoints_of_namesAuthority (hvalid : s.validate = .ok ()) (h : s.NamesAuthority) :
    (∀ e operation, s.endpoints = .ok e → ∃ base, s.base = .ok base ∧ (e.of operation).origin = base.origin)
      ∧ ((∃ url cause, s.endpoints = .error (.invalidUrl url cause)) ↔ ∃ cause, s.base = .error cause) := by
  cases hbase : s.base with
  | error cause =>
    obtain ⟨url, herror⟩ := exists_error_of_base hvalid h hbase
    rw [herror]
    refine ⟨?_, iff_of_true ⟨url, cause, rfl⟩ ⟨cause, rfl⟩⟩
    intro e operation he
    cases he
  | ok base =>
    obtain ⟨e, he, horigin⟩ := exists_endpoints_of_base hvalid h hbase
    rw [he]
    constructor
    · intro e' operation he'
      obtain rfl := Except.ok.inj he'
      exact ⟨base, rfl, horigin operation⟩
    · simp

/-! ## A base that names nothing -/

/-- Then the origin is in the path. -/
theorem origin_of_not_namesAuthority (h : ¬ s.NamesAuthority) (rest : List Char) :
    (Url.parse s.scheme (s.front ++ '/' :: rest)).map Url.origin
      = Url.parseAuthority Host.parse s.scheme (Url.authorityOf rest) :=
  Url.origin_parseWith_of_not_names Host.parse s.scheme (mt names_front_iff.mp h) rest

theorem base_of_not_namesAuthority (h : ¬ s.NamesAuthority) : s.base = .error .emptyHost := by
  have horigin := origin_of_not_namesAuthority h []
  have hempty : Url.parseAuthority Host.parse s.scheme (Url.authorityOf []) = .error .emptyHost := by
    cases s.scheme <;> rfl
  rw [← base_eq, hempty] at horigin
  exact map_eq_error_iff.mp horigin

/-- A path that is a name is taken for the host. -/
theorem exists_endpoint_of_not_namesAuthority (h : ¬ s.NamesAuthority) (huri : s.uri operation = "a") :
    ∃ url, s.endpoint operation = .ok url ∧ url.origin = ⟨s.scheme, "", .domain "a", none⟩ := by
  have hrooted : rooted "a" = ['/', 'a'] := by decide +kernel
  have hname : Url.parseAuthority Host.parse s.scheme (Url.authorityOf ['a'])
      = .ok ⟨s.scheme, "", .domain "a", none⟩ := by
    cases s.scheme <;> decide +kernel
  have horigin := origin_of_not_namesAuthority h ['a']
  rw [hname] at horigin
  obtain ⟨url, hurl, heq⟩ := map_eq_ok_iff.mp horigin
  refine ⟨url, ?_, heq⟩
  rw [endpoint_eq, huri, hrooted, hurl]
  rfl

/-- So with a name for each path there are addresses, although the base has no host. -/
theorem exists_endpoints_of_not_namesAuthority (hvalid : s.validate = .ok ()) (h : ¬ s.NamesAuthority) :
    ∃ t : Settings, t.withTls = s.withTls ∧ t.host = s.host ∧ t.port = s.port ∧ t.validate = .ok ()
      ∧ ∃ e, t.endpoints = .ok e := by
  let t : Settings := { s with userUri := "a", superuserUri := "a", accessUri := "a" }
  have hname : ¬ Text.isAllBlank "a" = true := by decide +kernel
  obtain ⟨hhost, -, -, -, htimeout⟩ := validate_eq_ok_iff.mp hvalid
  have hvalid' : t.validate = .ok () := validate_eq_ok_iff.mpr ⟨hhost, hname, hname, hname, htimeout⟩
  obtain ⟨e, he, -⟩ := exists_endpoints hvalid' fun operation =>
    exists_endpoint_of_not_namesAuthority (s := t) h (by cases operation <;> rfl)
  exact ⟨t, rfl, rfl, rfl, hvalid', e, he⟩

end Settings

/-- For complete settings, the addresses follow their base whatever the three paths are, exactly if there is a port or
the host has a character that is neither a slash nor ignored.

To follow the base is this, for all settings that are complete and have the same choice of TLS, the same host and the
same port, hence for any three paths: each address has the scheme, the credentials, the host and the port that the base
with a slash behind it has, where the scheme is `https` with TLS and `http` without; and the addresses cannot be read
exactly if that base cannot be read. -/
theorem endpoints_origin_iff (s : Settings) (hvalid : s.validate = .ok ()) :
    s.NamesAuthority ↔
      ∀ t : Settings, t.withTls = s.withTls → t.host = s.host → t.port = s.port → t.validate = .ok () →
        (∀ e operation, t.endpoints = .ok e →
            ∃ base, s.base = .ok base ∧ (e.of operation).origin = base.origin
              ∧ base.origin.scheme = if s.withTls then .https else .http)
          ∧ ((∃ url cause, t.endpoints = .error (.invalidUrl url cause)) ↔ ∃ cause, s.base = .error cause) := by
  constructor
  · intro hnames t htls hhost hport hvalid
    have hnames : t.NamesAuthority := by
      unfold Settings.NamesAuthority at hnames ⊢
      rw [hhost, hport]
      exact hnames
    obtain ⟨horigin, hfails⟩ := Settings.endpoints_of_namesAuthority hvalid hnames
    rw [Settings.base_congr htls hhost hport] at horigin hfails
    refine ⟨?_, hfails⟩
    intro e operation he
    obtain ⟨base, hbase, heq⟩ := horigin e operation he
    exact ⟨base, hbase, heq, Settings.scheme_of_base hbase⟩
  · intro hfollow
    by_contra hnames
    obtain ⟨t, htls, hhost, hport, hvalid', e, he⟩ := Settings.exists_endpoints_of_not_namesAuthority hvalid hnames
    obtain ⟨base, hbase, -⟩ := (hfollow t htls hhost hport hvalid').1 e .user he
    rw [Settings.base_of_not_namesAuthority hnames] at hbase
    cases hbase

/-- Paths that look like hosts, or that climb, do not lead away from a base with a host, a port and credentials. -/
theorem endpoints_origin_of_hostile_paths :
    let s : Settings := ⟨"user:pw@auth.example", some 8443, true, true, "//evil.example/u", "@evil.example:80",
      "\\..\\..\\evil.example?#", .json, .json, .ofSeconds 5⟩
    s.validate = .ok () ∧ s.NamesAuthority ∧ ∃ e, s.endpoints = .ok e
      ∧ ∀ operation, (e.of operation).origin = ⟨.https, "user:pw", .domain "auth.example", some 8443⟩ := by
  intro s
  have hvalid : s.validate = .ok () := by decide +kernel
  have hnames : s.NamesAuthority := .inl (Option.some_ne_none _)
  have hbase : s.base = .ok ⟨⟨.https, "user:pw", .domain "auth.example", some 8443⟩, [[]], none, none⟩ := by
    decide +kernel
  obtain ⟨horigin, -⟩ := (endpoints_origin_iff s hvalid).mp hnames s rfl rfl rfl hvalid
  obtain ⟨e, he, -⟩ := Settings.exists_endpoints_of_base hvalid hnames hbase
  refine ⟨hvalid, hnames, e, he, ?_⟩
  intro operation
  obtain ⟨base, hbase', heq, -⟩ := horigin e operation he
  rw [heq, ← Except.ok.inj (hbase.symm.trans hbase')]

/-- A host that is a slash passes validation, and the path says where the addresses lead: it is not so that addresses
always follow their base. -/
theorem not_forall_endpoints_origin :
    ¬ ∀ (s : Settings) (e : Endpoints) (operation : Operation), s.endpoints = .ok e →
        ∃ base, s.base = .ok base ∧ (e.of operation).origin = base.origin := by
  intro h
  let s : Settings := ⟨"/", none, false, true, "evil.example/user", "/superuser", "/acl", .json, .json, .ofSeconds 5⟩
  let urlAt (host : String) (segment : List Char) : Url := ⟨⟨.http, "", .domain host, none⟩, [segment], none, none⟩
  have hendpoints : s.endpoints
      = .ok ⟨urlAt "evil.example" "user".toList, urlAt "superuser" [], urlAt "acl" []⟩ := by
    decide +kernel
  have hnames : ¬ s.NamesAuthority := by
    rintro (hport | hname)
    · exact hport rfl
    · exact absurd hname (by decide)
  obtain ⟨base, hbase, -⟩ := h s _ .user hendpoints
  rw [Settings.base_of_not_namesAuthority hnames] at hbase
  cases hbase

end TopicGuard.Service
