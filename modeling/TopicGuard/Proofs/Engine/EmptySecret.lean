import TopicGuard.Proofs.Config.SecretVariable
import TopicGuard.Proofs.Engine.Building

/-!
Engines beside an empty secret.

A secret is a key only if it is not empty, and a remote engine without a key sends tokens on unverified. So it matters
whether an empty secret in the environment is one that is not set, which leaves the secret of a file in force, or one
that goes over it. The first is the case for a variable that is empty and the second for a file with nothing in it.
-/

set_option autoImplicit false

namespace TopicGuard

namespace Engine

open Config (Source load secretVariable)
open Config.Layer (get)

/-- Which secrets are found, and what an empty one does to an engine, for all sources of a configuration in any order.

For every variable, a secret is found exactly if the environment holds its text, and it is not empty unless it stands in
a file with nothing in it, or with nothing but a line break. If the variable of the secret is not set or empty, then
settings are loaded as if it were not there, and so the same engine is made; in particular the secret stays that of the
other sources. But if the secret stands in such a file, and no later source sets another one, then the secret is the
empty text, whatever the sources below say, and a remote engine verifies tokens only if there is the path of a public
key. -/
theorem ofSettings_beside_empty_secret (read : FileReader) (env : Environment) :
    (∀ name text, env.secret? read name = .ok (some ⟨text⟩) ↔ env.Holds read name text)
      ∧ (∀ name, (∀ secret, env.secret? read name = .ok (some secret) → secret.exposed ≠ "") ↔
          ¬ env.HasHollowFile read name)
      ∧ ∀ sources front back, IsStableOrder Source.precedence sources (front ++ .environment env :: back) →
        (env (Environment.fileVariable secretVariable) = none
            ∧ (env secretVariable = none ∨ env secretVariable = some "") →
          (∀ sources', IsStableOrder Source.precedence sources' (front ++ .environment env.withoutSecret :: back) →
              load read sources = load read sources')
            ∧ ∀ merged, Source.merge read sources = .ok merged →
                get .secret merged = ((front ++ back).filterMap (Source.tells read .secret)).getLast?)
        ∧ (env.HasHollowFile read secretVariable → (∀ source ∈ back, Source.tells read .secret source = none) →
          ∀ s, load read sources = .ok s → ∃ merged, Source.merge read sources = .ok merged
            ∧ get .secret merged = some ⟨""⟩
            ∧ ∀ (later : FileReader) (connector : Connector) (e : Engine) settings,
                ofSettings s later connector = .ok e → s.backend = .service settings → ∃ service, e = ofService service
                  ∧ (service.verifier.isSome = true ↔ ∃ path, get .publicKeyPath merged = some path)) := by
  refine ⟨fun name text => Environment.secret?_eq_some_iff, fun name => ?_, ?_⟩
  · rw [← Environment.holds_empty_iff, ← Environment.secret?_eq_some_iff]
    constructor
    · exact fun h hempty => h _ hempty rfl
    · rintro h ⟨text⟩ hsecret rfl
      exact h hsecret
  · intro sources front back hordered
    constructor
    · intro hunset
      have hnone : env.secret? read secretVariable = .ok none := Environment.secret?_eq_none_iff.mpr hunset
      exact ⟨fun sources' => Config.load_withoutSecret hnone hordered,
        fun merged hmerged => Config.get_secret_of_none hordered hmerged hnone⟩
    · intro hhollow hback s hload
      obtain ⟨merged, hmerged, hresolve⟩ := Config.exists_merge_of_load hload
      have hsecret : get .secret merged = some ⟨""⟩ :=
        Config.get_secret_of_holds hordered hmerged (Environment.holds_empty_iff.mpr hhollow) hback
      refine ⟨merged, hmerged, hsecret, ?_⟩
      intro later connector e settings he hbackend
      have hkey := Config.Layer.hasKey_iff hresolve
      obtain ⟨t, backend⟩ := s
      obtain rfl : backend = .service settings := hbackend
      obtain ⟨service, rfl, hsome, -⟩ := exists_service_of_ofSettings he
      -- The only secret there is is empty, and so the key can only be a public one.
      refine ⟨service, rfl, hsome.trans (hkey.trans ?_)⟩
      simp [hsecret]

/-- A document with a secret, over which goes a variable that is empty, or a file with a line break in it. -/
theorem ofSettings_beside_empty_secret_of_document :
    let text : String := "backend = \x7b mode = 'remote' \x7d\ntoken = \x7b secret = 's' \x7d\n"
      ++ "[remote]\nhost = 'h'\ngetuser_uri = '/u'\nsuperuser_uri = '/s'\naclcheck_uri = '/a'"
    let read : FileReader := fun path =>
      if path = "vigil.toml" then .ok (Utf8.encode text) else if path = "mount" then .ok [10] else .error .missing
    let blank : Environment := fun name => if name = "VIGIL_TOKEN_SECRET" then some "" else none
    let hollow : Environment := fun name => if name = "VIGIL_TOKEN_SECRET_FILE" then some "mount" else none
    let settings (key : Option Token.KeySource) : EngineSettings := ⟨⟨.hs256, key, "username", none, none, 0⟩,
      .service ⟨"h", none, false, true, "/u", "/s", "/a", .json, .json, Service.Settings.defaultTimeout⟩⟩
    let key : Token.KeySource := .secret ⟨"s"⟩
    let connector : Connector := ⟨fun _ => .ok (), fun _ => .ok ()⟩
    load read [.environment blank, .file "vigil.toml"] = .ok (settings (some key))
      ∧ load read [.file "vigil.toml", .environment blank.withoutSecret] = .ok (settings (some key))
      ∧ load read [.environment hollow, .file "vigil.toml"] = .ok (settings none)
      ∧ ∃ service, ofSettings (settings none) read connector = .ok (ofService service)
        ∧ ¬ service.verifier.isSome = true := by
  intro text read blank hollow settings key connector
  have hordered (env : Environment) : IsStableOrder Source.precedence [.environment env, .file "vigil.toml"]
      ([.file "vigil.toml"] ++ .environment env :: []) := by
    refine ⟨by simp [Source.precedence], fun p => ?_⟩
    by_cases hp : p = 20 <;> simp [List.filter_cons, Source.precedence, hp, eq_comm]
  have hordered' (env : Environment) : IsStableOrder Source.precedence [.file "vigil.toml", .environment env]
      ([.file "vigil.toml"] ++ .environment env :: []) :=
    ⟨by simp [Source.precedence], fun p => rfl⟩
  have hlayer : Source.layerOfFile read "vigil.toml" = .ok {
      backend := some { kind := some .service }
      token := some { secret := some ⟨"s"⟩ }
      service := some {
        host := some "h", userUri := some "/u", superuserUri := some "/s", accessUri := some "/a" } } := by
    decide +kernel
  have hblank : load read [.environment blank, .file "vigil.toml"] = .ok (settings (some key)) := by
    rw [Config.load_eq (hordered blank)]
    simp only [List.singleton_append, Source.mergeAll_cons, Source.layer, hlayer]
    decide +kernel
  have hhollow : load read [.environment hollow, .file "vigil.toml"] = .ok (settings none) := by
    rw [Config.load_eq (hordered hollow)]
    simp only [List.singleton_append, Source.mergeAll_cons, Source.layer, hlayer]
    decide +kernel
  have hmade : (ofSettings (settings none) read connector).isOk = true := by
    decide +kernel
  obtain ⟨-, -, hunset⟩ := ofSettings_beside_empty_secret read blank
  obtain ⟨-, -, hfile⟩ := ofSettings_beside_empty_secret read hollow
  obtain ⟨merged, hmerged, -, hverifier⟩ := (hfile _ _ _ (hordered hollow)).2
    ⟨"mount", rfl, by decide, .inr (by decide +kernel)⟩ (by simp) _ hhollow
  refine ⟨hblank, ?_, hhollow, ?_⟩
  · rw [← ((hunset _ _ _ (hordered blank)).1 ⟨rfl, .inr rfl⟩).1 _ (hordered' _)]
    exact hblank
  · cases he : ofSettings (settings none) read connector with
    | error fault =>
      rw [he] at hmade
      cases hmade
    | ok e =>
      obtain ⟨service, rfl, hsome⟩ := hverifier read connector e _ he rfl
      refine ⟨service, rfl, fun h => ?_⟩
      obtain ⟨merged', hmerged', hresolve⟩ := Config.exists_merge_of_load hhollow
      obtain rfl : merged' = merged := Except.ok.inj (hmerged'.symm.trans hmerged)
      -- The path of a public key would be a key, but the settings have none.
      have hkey : (settings none).token.hasKey = true := (Config.Layer.hasKey_iff hresolve).mpr (.inr (hsome.mp h))
      cases hkey

/-- An empty secret is not always one that is not set: a file with nothing in it makes a secret of an empty text, and
takes the one of the settings below out of force. -/
theorem not_forall_empty_secret_unset :
    (¬ ∀ (env : Environment) (read : FileReader) (name : String) (secret : Secret String),
        env.secret? read name = .ok (some secret) → secret.exposed ≠ "")
      ∧ ¬ ∀ (env : Environment) (read : FileReader) (source : Source),
        (∀ secret, env.secret? read secretVariable = .ok (some secret) → secret.exposed = "") →
          load read [source, .environment env] = load read [source, .environment env.withoutSecret] := by
  let env : Environment := fun name => if name = "VIGIL_TOKEN_SECRET_FILE" then some "mount" else none
  let read : FileReader := fun _ => .ok []
  have hsecret : env.secret? read secretVariable = .ok (some ⟨""⟩) := by
    decide +kernel
  constructor
  · intro h
    exact h env read secretVariable ⟨""⟩ hsecret rfl
  · intro h
    let source : Source := .custom "settings" 20 (.ok {
      backend := some { kind := some .service }
      token := some { secret := some ⟨"s"⟩ }
      service := some { host := some "h", userUri := some "/u", superuserUri := some "/s", accessUri := some "/a" } })
    have hordered (env : Environment) : IsStableOrder Source.precedence [source, .environment env]
        [source, .environment env] :=
      ⟨by simp [source, Source.precedence], fun p => rfl⟩
    have hload := h env read source fun secret hfound => by
      rw [hsecret] at hfound
      cases hfound
      rfl
    rw [Config.load_eq (hordered env), Config.load_eq (hordered env.withoutSecret)] at hload
    exact absurd hload (by decide +kernel)

end Engine

end TopicGuard
