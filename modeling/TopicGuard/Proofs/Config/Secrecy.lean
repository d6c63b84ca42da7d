import TopicGuard.Proofs.Config.SecretVariable

/-!
Two runs that differ in secrets only.

What is printed must not depend on a secret. So the sources of one run are compared with those of another one in which
the secrets have other texts, where none of them is empty (`Source.Alike`). At each stage the two runs stay alike: they
have the same fault, or results that are the same up to the secret. This holds of the layers, which are compared
setting by setting, of the complete settings (`load_alike`), and of the verifiers that are made from these
(`Token.Verifier.ofSettings_alike`), which no longer show that there was a difference.
-/

set_option autoImplicit false

namespace TopicGuard

/-! ## Printed secrets -/

section Printing

variable {α β : Type}

/-- A list is shown by what is shown of its elements. -/
theorem describe_list_congr [Diagnostic α] [Diagnostic β] {xs : List α} {ys : List β}
    (h : List.Forall₂ (fun x y => describe x = describe y) xs ys) : describe xs = describe ys := by
  have hmap : xs.map describe = ys.map describe := by
    induction h with
    | nil => rfl
    | cons hx _ ih => rw [List.map_cons, List.map_cons, hx, ih]
  show "[" ++ ", ".intercalate (xs.map describe) ++ "]" = "[" ++ ", ".intercalate (ys.map describe) ++ "]"
  rw [hmap]

/-- All secrets look alike. -/
theorem describe_secret (a : Secret α) (b : Secret β) : describe a = describe b :=
  rfl

/-- Of a list of secrets only the length shows. -/
theorem describe_secrets {xs : List (Secret α)} {ys : List (Secret β)} (h : xs.length = ys.length) :
    describe xs = describe ys :=
  describe_list_congr (List.forall₂_iff_zip.mpr ⟨h, fun _ => describe_secret _ _⟩)

/-- Of a secret that may be missing it shows only whether it is there. -/
theorem describe_secret? {o : Option (Secret α)} {o' : Option (Secret β)} (h : o.isSome = o'.isSome) :
    describe o = describe o' := by
  cases o with
  | none =>
    cases o' with
    | none => rfl
    | some b => cases h
  | some a =>
    cases o' with
    | none => cases h
    | some b => rfl

end Printing

theorem Secret.isEmpty_eq_false {a : Secret String} (h : a.exposed ≠ "") : a.isEmpty = false :=
  String.isEmpty_eq_false_iff.mpr h

/-! ## Tokens -/

namespace Token

/-- The same key, or two secrets that are not empty. -/
inductive KeySource.Alike : Option KeySource → Option KeySource → Prop where
  | same (key : Option KeySource) : Alike key key
  | secrets {a b : Secret String} (ha : a.exposed ≠ "") (hb : b.exposed ≠ "") :
    Alike (some (.secret a)) (some (.secret b))

/-- The same settings, except that the secret may be another one. -/
structure Settings.Alike (s s' : Settings) : Prop where
  eq_with_key : s' = { s with key := s'.key }
  key : KeySource.Alike s.key s'.key

variable {s s' : Settings}

/-- Settings that are alike agree on whether there is a key. -/
theorem Settings.Alike.hasKey_eq (h : s.Alike s') : s.hasKey = s'.hasKey := by
  have hkey := h.key
  unfold Settings.hasKey
  generalize s.key = key at hkey ⊢
  generalize s'.key = key' at hkey ⊢
  cases hkey with
  | same key => rfl
  | secrets ha hb => simp [Secret.isEmpty_eq_false ha, Secret.isEmpty_eq_false hb]

namespace Verifier

/-- Of the files, a key depends on its own only. -/
theorem loadKey_congr {keys keys' : FileReader}
    (hfile : ∀ path, s.key = some (.file path) → keys path = keys' path) : loadKey s keys = loadKey s keys' := by
  unfold loadKey
  cases hkey : s.key with
  | none => rfl
  | some source =>
    cases source with
    | secret | pem => cases s.algorithm.family <;> rfl
    | file path =>
      cases s.algorithm.family with
      | shared => rfl
      | publicKey kind =>
        dsimp only
        rw [hfile path hkey]

/-- Alike settings have keys or the same error, if the file of a public key is the same. -/
theorem loadKey_alike (h : s.Alike s') {keys keys' : FileReader}
    (hfile : ∀ path, s.key = some (.file path) → keys path = keys' path) :
    Outcome.Related (fun _ _ => True) (loadKey s keys) (loadKey s' keys') := by
  have hkey := h.key
  rw [loadKey_congr hfile, h.eq_with_key]
  unfold loadKey
  dsimp only
  generalize s.key = key at hkey ⊢
  generalize s'.key = key' at hkey ⊢
  cases hkey with
  | same key => exact .of_eq (fun _ => trivial) _
  | secrets ha hb =>
    cases s.algorithm.family with
    | publicKey kind => exact .error _
    | shared hash =>
      dsimp only
      rw [Secret.isEmpty_eq_false ha, Secret.isEmpty_eq_false hb]
      exact .ok trivial

/-- Alike settings have verifiers that look the same, or the same error. -/
theorem ofSettings_alike (h : s.Alike s') {keys keys' : FileReader}
    (hfile : ∀ path, s.key = some (.file path) → keys path = keys' path) :
    Outcome.Related (fun v v' => ∀ clock, v.describe clock = v'.describe clock) (ofSettings s keys)
      (ofSettings s' keys') := by
  have hkey := loadKey_alike h hfile
  rw [h.eq_with_key] at hkey ⊢
  unfold ofSettings
  dsimp only
  split
  · exact .error _
  · -- A verifier shows nothing of its key.
    exact hkey.bind fun _ _ _ => .ok fun _ => rfl

end Verifier

end Token

/-! ## Complete settings -/

/-- The same settings, except that the secret may be another one. -/
structure EngineSettings.Alike (s s' : EngineSettings) : Prop where
  token : s.token.Alike s'.token
  backend : s.backend = s'.backend

namespace Config

open Layer (get)

/-- What is said about the secret is the same, or two secrets that are not empty; what is said about any other setting
is the same. -/
def Setting.Alike : Setting.Relation
  | _, .secret, o, o' =>
    o = o' ∨ ∃ a b : Secret String, o = some a ∧ o' = some b ∧ a.exposed ≠ "" ∧ b.exposed ≠ ""
  | _, _, o, o' => o = o'

namespace Setting

variable {α : Type} {s : Setting α} {o o' : Option α}

/-- Values of a setting that is no secret are alike only if they are equal. -/
theorem IsPublic.alike_iff (hs : s.IsPublic) : Alike α s o o' ↔ o = o' := by
  cases s with
  | secret => exact hs.elim
  | _ => exact Iff.rfl

theorem Alike.refl (s : Setting α) (o : Option α) : Alike α s o o := by
  cases s with
  | secret => exact .inl rfl
  | _ => rfl

/-- Being alike is kept where nothing is said and where settings go over each other. -/
theorem isComparison_alike : IsComparison Alike where
  none s := .refl s none
  or {α s o o' base base'} h hbase := by
    cases s with
    | secret =>
      rcases h with rfl | ⟨a, b, rfl, rfl, hne⟩
      · cases o with
        | none => exact hbase
        | some a => exact .inl rfl
      · exact .inr ⟨a, b, rfl, rfl, hne⟩
    | _ =>
      obtain rfl : o = o' := h
      obtain rfl : base = base' := hbase
      rfl

end Setting

/-! ## Sources -/

/-- The same variables, except that the secret may have another text, in its variable or in its file, which is not
empty. -/
structure EnvironmentsAlike (read read' : FileReader) (env env' : Environment) : Prop where
  others : ∀ name, name ≠ secretVariable → env name = env' name
  direct : env secretVariable = env' secretVariable
    ∨ ∃ a b, env secretVariable = some a ∧ env' secretVariable = some b ∧ a ≠ "" ∧ b ≠ ""
  file : ∀ path, env (Environment.fileVariable secretVariable) = some path → read path = read' path
    ∨ ∃ a b, read.readText path = .ok a ∧ read'.readText path = .ok b
      ∧ Environment.withoutLastBreak a ≠ "" ∧ Environment.withoutLastBreak b ≠ ""

/-- The same source, except that a secret may have another text, which is not empty. -/
inductive Source.Alike (read read' : FileReader) : Source → Source → Prop where
  | usual : Alike read read' .usual .usual
  /-- A file that is the same, or two documents that say the same except for the secret. -/
  | file {path : String} (h : read path = read' path
      ∨ ∃ l l', Source.layerOfFile read path = .ok l ∧ Source.layerOfFile read' path = .ok l'
        ∧ Layer.Related Setting.Alike l l') : Alike read read' (.file path) (.file path)
  | environment {env env' : Environment} (h : EnvironmentsAlike read read' env env') :
    Alike read read' (.environment env) (.environment env')
  | custom (name : String) (precedence : Nat) {layer layer' : Except Fault Layer}
    (h : Outcome.Related (Layer.Related Setting.Alike) layer layer') :
    Alike read read' (.custom name precedence layer) (.custom name precedence layer')

variable {read read' : FileReader} {env env' : Environment} {source source' : Source}

theorem readText_congr {path : String} (h : read path = read' path) : read.readText path = read'.readText path := by
  rw [FileReader.readText, FileReader.readText, h]

/-- Environments that are alike tell secrets that are alike, or fail alike. -/
theorem secret?_alike (h : EnvironmentsAlike read read' env env') :
    Outcome.Related (Setting.Alike _ .secret) (env.secret? read secretVariable)
      (env'.secret? read' secretVariable) := by
  -- The path of the file is no secret, and so it is the same in both.
  have hfile := h.others (Environment.fileVariable secretVariable) (by decide)
  unfold Environment.secret?
  rw [← hfile]
  cases hpath : env (Environment.fileVariable secretVariable) with
  | none =>
    refine .ok ?_
    rcases h.direct with heq | ⟨a, b, ha, hb, hane, hbne⟩
    · exact .inl (by rw [Environment.nonEmpty?, Environment.nonEmpty?, heq])
    · rw [Environment.nonEmpty?_eq_some_iff.mpr ⟨ha, hane⟩, Environment.nonEmpty?_eq_some_iff.mpr ⟨hb, hbne⟩]
      exact .inr ⟨⟨a⟩, ⟨b⟩, rfl, rfl, hane, hbne⟩
  | some path =>
    dsimp only
    split
    · exact .error _
    · rcases h.file path hpath with heq | ⟨a, b, ha, hb, hne⟩
      · rw [readText_congr heq]
        exact .of_eq (.refl _) _
      · rw [ha, hb]
        exact .ok (.inr ⟨_, _, rfl, rfl, hne⟩)

/-- What alike environments tell is alike. -/
theorem told_alike (h : EnvironmentsAlike read read' env env') (α : Type) (s : Setting α) :
    Outcome.Related (Setting.Alike α s) (s.told env read) (s.told env' read') := by
  by_cases hs : s.IsPublic
  · rw [hs.told_congr (h.others _ hs.variableName_ne.1)]
    exact .of_eq (.refl s) _
  · cases s with
    | secret => exact (secret?_alike h).mapError _
    | _ => exact absurd trivial hs

/-- Sources that are alike give layers that are alike. -/
theorem Source.Alike.related (h : Source.Alike read read' source source') :
    Source.Related Setting.Alike read read' source source' := by
  have hrefl (l : Layer) : Layer.Related Setting.Alike l l := fun α s => .refl s _
  cases h with
  | usual => exact ⟨rfl, .ok (hrefl _)⟩
  | file h =>
    refine ⟨rfl, ?_⟩
    rcases h with heq | ⟨l, l', hl, hl', halike⟩
    · rw [Source.layer, Source.layer, Source.layerOfFile, Source.layerOfFile, readText_congr heq]
      exact .of_eq hrefl _
    · rw [Source.layer, Source.layer, hl, hl']
      exact .ok halike
  | environment h => exact ⟨rfl, Layer.related_ofEnvironment (told_alike h)⟩
  | custom name precedence h => exact ⟨rfl, h⟩

/-! ## Loading -/

/-- The layer with another secret, or none. -/
def Layer.withSecret (l : Layer) (secret : Option (Secret String)) : Layer :=
  { l with token := some { l.token.getD {} with secret } }

variable {l l' : Layer}

/-- Another secret changes no setting but the secret. -/
theorem Layer.get_withSecret_of_isPublic {α : Type} {s : Setting α} (hs : s.IsPublic)
    (secret : Option (Secret String)) : get s (l.withSecret secret) = get s l := by
  obtain ⟨backend, token, store, service⟩ := l
  cases s with
  | secret => exact hs.elim
  | _ => cases token <;> rfl

/-- An alike layer is completed like one that differs in the secret only. -/
theorem resolve_of_alike (h : Layer.Related Setting.Alike l l') :
    l'.resolve = (l.withSecret (get .secret l')).resolve := by
  refine Layer.resolve_congr fun s => ?_
  by_cases hs : s.IsPublic
  · rw [Layer.get_withSecret_of_isPublic hs, hs.alike_iff.mp (h _ s)]
  · cases s with
    | secret => rfl
    | _ => exact absurd trivial hs

theorem TokenLayer.key_alike (t : TokenLayer) {secret : Option (Secret String)}
    (h : Setting.Alike _ .secret t.secret secret) : Token.KeySource.Alike t.key { t with secret }.key := by
  unfold TokenLayer.key
  cases t.publicKeyPath with
  | some path => exact .same _
  | none =>
    rcases h with heq | ⟨a, b, ha, hb, hane, hbne⟩
    · rw [heq]
      exact .same _
    · rw [ha, hb]
      dsimp only
      rw [Secret.isEmpty_eq_false hane, Secret.isEmpty_eq_false hbne]
      exact .secrets hane hbne

/-- Another secret makes no other difference to the settings of tokens. -/
theorem TokenLayer.resolve_alike (t : TokenLayer) {secret : Option (Secret String)}
    (h : Setting.Alike _ .secret t.secret secret) :
    Outcome.Related Token.Settings.Alike t.resolve { t with secret }.resolve := by
  have hkey := t.key_alike h
  unfold TokenLayer.resolve
  dsimp only
  split
  · exact .ok ⟨rfl, hkey⟩
  · split
    · exact .ok ⟨rfl, hkey⟩
    · exact .error _

/-- The last check of settings does not look at the secret, but at whether there is one. -/
theorem checkEngine_alike {s s' : EngineSettings} (h : s.Alike s') : checkEngine s = checkEngine s' := by
  have hclaim : s.token.identityClaim = s'.token.identityClaim := by
    rw [h.token.eq_with_key]
  unfold checkEngine
  rw [h.token.hasKey_eq, h.backend, hclaim]

/-- Alike layers are completed to alike settings, or not at all for the same reason. -/
theorem Layer.resolve_alike (h : Layer.Related Setting.Alike l l') :
    Outcome.Related EngineSettings.Alike l.resolve l'.resolve := by
  rw [resolve_of_alike h]
  have hsecret : Setting.Alike _ .secret (l.token.getD {}).secret (get .secret l') := by
    have hown : (l.token.getD {}).secret = get .secret l := field_getD rfl l.token
    rw [hown]
    exact h _ .secret
  unfold Layer.resolve
  refine (TokenLayer.resolve_alike _ hsecret).bind fun t t' ht => ?_
  have hend (backend : BackendSettings) : Outcome.Related EngineSettings.Alike
      (do checkEngine ⟨t, backend⟩; return ⟨t, backend⟩) (do checkEngine ⟨t', backend⟩; return ⟨t', backend⟩) := by
    have halike : EngineSettings.Alike ⟨t, backend⟩ ⟨t', backend⟩ := ⟨ht, rfl⟩
    rw [checkEngine_alike halike]
    exact .of_step _ fun _ => .ok halike
  -- The section of the backend is the same, so both runs complete it in one step.
  dsimp only [withSecret]
  split
  · exact .of_step _ hend
  · exact .of_step _ hend

/-- Alike sources give alike settings, or the same fault. -/
theorem load_alike {sources sources' : List Source}
    (h : List.Forall₂ (Source.Alike read read') sources sources') :
    Outcome.Related EngineSettings.Alike (load read sources) (load read' sources') := by
  have hsources : List.Forall₂ (Source.Related Setting.Alike read read') sources sources' :=
    h.imp fun _ _ hsource => hsource.related
  exact (Source.related_merge Setting.isComparison_alike hsources).bind fun _ _ => Layer.resolve_alike

/-- No secret is printed. Take two runs whose sources are the same, except that the secrets of tokens may have other
texts, none of them empty, in the variable, in the file that a variable names, or in a document. Then both end in the
same fault, with the same text, or in settings that are the same except for the secret. Of these, verifiers are made
alike: both fail with the same error, or both look the same in a diagnostic, at any clock. For that the file of a
public key has to be the same, if there is one.

What is printed in place of a secret never depends on it: as a text, in a diagnostic, also in a list and where it is
optional, and in a document. -/
theorem secrets_not_shown :
    (∀ (read read' : FileReader) (sources sources' : List Source),
        List.Forall₂ (Source.Alike read read') sources sources' →
          Outcome.Related
            (fun s s' => s.Alike s' ∧ ∀ keys keys' : FileReader,
              (∀ path, s.token.key = some (.file path) → keys path = keys' path) →
                Outcome.Related (fun v v' => ∀ clock, v.describe clock = v'.describe clock)
                  (Token.Verifier.ofSettings s.token keys) (Token.Verifier.ofSettings s'.token keys'))
            (load read sources) (load read' sources'))
      ∧ ∀ (α β : Type),
        (∀ (a : Secret α) (b : Secret β), toString a = toString b ∧ describe a = describe b ∧ a.toJson = b.toJson)
          ∧ (∀ (o : Option (Secret α)) (o' : Option (Secret β)), o.isSome = o'.isSome → describe o = describe o')
          ∧ (∀ (xs : List (Secret α)) (ys : List (Secret β)), xs.length = ys.length → describe xs = describe ys)
          ∧ ∀ (os : List (Option (Secret α))) (os' : List (Option (Secret β))),
              List.Forall₂ (fun o o' => o.isSome = o'.isSome) os os' → describe os = describe os' := by
  constructor
  · intro read read' sources sources' h
    refine (load_alike h).mono fun s s' hs => ⟨hs, fun keys keys' hfile => ?_⟩
    exact Token.Verifier.ofSettings_alike hs.token hfile
  · intro α β
    exact ⟨fun a b => ⟨rfl, rfl, rfl⟩, fun o o' => describe_secret?, fun xs ys => describe_secrets,
      fun os os' h => describe_list_congr (h.imp fun _ _ => describe_secret?)⟩

/-- Two runs with other secrets in a document and in a mounted file, and with an algorithm that takes no secret. -/
theorem secrets_not_shown_of_mismatch :
    let read (secret : String) : FileReader := fun path =>
      if path = "vigil.toml" then .ok (Utf8.encode ("token = \x7b secret = '" ++ secret ++ "' \x7d\n"
        ++ "local = \x7b database_url = 'd', user_query = 'u', acl_query = 'a' \x7d"))
      else if path = "mount" then .ok (Utf8.encode (secret ++ "\n")) else .error .missing
    let env : Environment := fun name =>
      if name = "VIGIL_TOKEN_SECRET_FILE" then some "mount"
      else if name = "VIGIL_TOKEN_ALGORITHM" then some "RS256" else none
    let sources : List Source := [.usual, .file "vigil.toml", .environment env]
    ∃ s s', load (read "first") sources = .ok s ∧ load (read "second") sources = .ok s'
      ∧ s.token.key = some (.secret ⟨"first"⟩) ∧ s'.token.key = some (.secret ⟨"second"⟩)
      ∧ Token.Verifier.ofSettings s.token (read "first") = .error (.keyMismatch .rs256 "a PEM public key")
      ∧ Token.Verifier.ofSettings s'.token (read "second") = .error (.keyMismatch .rs256 "a PEM public key") := by
  intro read env sources
  let layer (secret : String) : Layer := {
    token := some { secret := some ⟨secret⟩ }
    store := some { databaseUrl := some "d", userQuery := some "u", accessQuery := some "a" } }
  let settings (secret : String) : EngineSettings := ⟨⟨.rs256, some (.secret ⟨secret⟩), "username", none, none, 0⟩,
    .store ⟨"d", 10, .ofSeconds 5, ⟨"u", none, "a"⟩, false, false⟩⟩
  have hlayer : Source.layerOfFile (read "first") "vigil.toml" = .ok (layer "first") := by
    decide +kernel
  have hlayer' : Source.layerOfFile (read "second") "vigil.toml" = .ok (layer "second") := by
    decide +kernel
  have hlayers : Layer.Related Setting.Alike (layer "first") (layer "second") := by
    intro α s
    cases s with
    | secret => exact .inr ⟨_, _, rfl, rfl, by decide, by decide⟩
    | _ => rfl
  have henv : EnvironmentsAlike (read "first") (read "second") env env := by
    refine ⟨fun _ _ => rfl, .inl rfl, fun path hpath => .inr ⟨"first\n", "second\n", ?_⟩⟩
    cases hpath
    decide +kernel
  have hsources : List.Forall₂ (Source.Alike (read "first") (read "second")) sources sources :=
    .cons .usual (.cons (.file (.inr ⟨_, _, hlayer, hlayer', hlayers⟩)) (.cons (.environment henv) .nil))
  have hordered : IsStableOrder Source.precedence sources sources := ⟨by decide, fun _ => rfl⟩
  have hload : load (read "first") sources = .ok (settings "first") := by
    rw [load_eq hordered]
    simp only [sources, Source.mergeAll_cons, Source.layer, hlayer]
    decide +kernel
  have hload' : load (read "second") sources = .ok (settings "second") := by
    rw [load_eq hordered]
    simp only [sources, Source.mergeAll_cons, Source.layer, hlayer']
    decide +kernel
  have hrelated := secrets_not_shown.1 _ _ _ _ hsources
  rw [hload, hload'] at hrelated
  cases hrelated with
  | ok h =>
    have hverifiers := h.2 (read "first") (read "second") fun path hpath => by cases hpath
    have hmismatch : Token.Verifier.ofSettings (settings "first").token (read "first")
        = .error (.keyMismatch .rs256 "a PEM public key") := by
      decide +kernel
    refine ⟨_, _, hload, hload', rfl, rfl, hmismatch, ?_⟩
    rw [hmismatch] at hverifiers
    exact hverifiers.eq_error

end Config

end TopicGuard
