import TopicGuard.Config.Source
import TopicGuard.Proofs.Config.Setting
import TopicGuard.Proofs.Outcome

/-!
What has been checked of settings that were loaded.

A layer is completed section by section, and each section is checked as it is completed; what goes beyond a section is
checked at the end. `IsComplete` collects all these checks as properties of the settings that come out
(`Layer.isComplete_of_resolve`), so that a later step can rely on them without going back to layers. The checks are
spread over several functions, and this is the one place where these are opened.
-/

set_option autoImplicit false

namespace TopicGuard.Config

open Outcome (bind_eq_ok_iff map_eq_ok_iff mapError_eq_ok_iff check_eq_ok_iff)

/-- The settings name a claim, those of a store are valid and come with a key, and those of a service lead to
addresses. -/
structure IsComplete (s : EngineSettings) : Prop where
  identityClaim : Text.isAllBlank s.token.identityClaim = false
  store : ∀ settings, s.backend = .store settings → settings.validate = .ok () ∧ s.token.hasKey = true
  service : ∀ settings, s.backend = .service settings → ∃ endpoints, settings.endpoints = .ok endpoints

theorem IsComplete.identityClaim_ne_empty {s : EngineSettings} (h : IsComplete s) : s.token.identityClaim ≠ "" := by
  intro hempty
  have hblank := h.identityClaim
  rw [hempty] at hblank
  exact absurd hblank (by decide)

/-! ## Sections -/

theorem TokenLayer.key_of_resolve {l : TokenLayer} {t : Token.Settings} (h : l.resolve = .ok t) : t.key = l.key := by
  unfold resolve at h
  dsimp only at h
  split at h
  · cases h
    rfl
  · split at h
    · cases h
      rfl
    · cases h

theorem StoreLayer.validate_of_resolve {l : StoreLayer} {settings : Store.Settings} (h : l.resolve = .ok settings) :
    settings.validate = .ok () := by
  unfold resolve at h
  obtain ⟨_, hvalid, h⟩ := bind_eq_ok_iff.mp h
  cases h
  exact mapError_eq_ok_iff.mp hvalid

theorem ServiceLayer.endpoints_of_resolve {l : ServiceLayer} {settings : Service.Settings}
    (h : l.resolve = .ok settings) : ∃ endpoints, settings.endpoints = .ok endpoints := by
  unfold resolve at h
  obtain ⟨endpoints, hendpoints, h⟩ := bind_eq_ok_iff.mp h
  cases h
  exact ⟨endpoints, mapError_eq_ok_iff.mp hendpoints⟩

/-- The last check is about the key of a store and the name of the claim. -/
theorem checkEngine_eq_ok_iff {s : EngineSettings} :
    checkEngine s = .ok () ↔
      (∀ settings, s.backend = .store settings → s.token.hasKey = true)
        ∧ Text.isAllBlank s.token.identityClaim = false := by
  obtain ⟨token, backend⟩ := s
  cases backend with
  | store settings =>
    have hchecks : checkEngine ⟨token, .store settings⟩ =
        if token.hasKey = false then .error .missingKey
        else if Text.isAllBlank token.identityClaim = true then .error .emptyIdentityClaim else .ok () := by
      unfold checkEngine
      cases token.hasKey <;> cases Text.isAllBlank token.identityClaim <;> rfl
    rw [hchecks, check_eq_ok_iff, check_eq_ok_iff]
    simp
  | service settings =>
    have hchecks : checkEngine ⟨token, .service settings⟩ =
        if Text.isAllBlank token.identityClaim = true then .error .emptyIdentityClaim else .ok () := by
      unfold checkEngine
      cases Text.isAllBlank token.identityClaim <;> rfl
    rw [hchecks, check_eq_ok_iff]
    simp

/-! ## Layers -/

variable {s : EngineSettings}

namespace Layer

variable {l : Layer}

/-- What comes out of a layer are the settings of its tokens and of the chosen backend, which have been checked. -/
theorem of_resolve (h : l.resolve = .ok s) :
    (l.token.getD {}).resolve = .ok s.token ∧ checkEngine s = .ok ()
      ∧ ((∃ settings, s.backend = .store settings ∧ (l.store.getD {}).resolve = .ok settings)
        ∨ ∃ settings, s.backend = .service settings ∧ (l.service.getD {}).resolve = .ok settings) := by
  unfold resolve at h
  obtain ⟨token, htoken, h⟩ := bind_eq_ok_iff.mp h
  dsimp only at h
  split at h
  · obtain ⟨backend, hbackend, h⟩ := bind_eq_ok_iff.mp h
    obtain ⟨settings, hsettings, rfl⟩ := map_eq_ok_iff.mp hbackend
    obtain ⟨_, hcheck, h⟩ := bind_eq_ok_iff.mp h
    cases h
    exact ⟨htoken, hcheck, .inl ⟨settings, rfl, hsettings⟩⟩
  · obtain ⟨backend, hbackend, h⟩ := bind_eq_ok_iff.mp h
    obtain ⟨settings, hsettings, rfl⟩ := map_eq_ok_iff.mp hbackend
    obtain ⟨_, hcheck, h⟩ := bind_eq_ok_iff.mp h
    cases h
    exact ⟨htoken, hcheck, .inr ⟨settings, rfl, hsettings⟩⟩

theorem isComplete_of_resolve (h : l.resolve = .ok s) : IsComplete s := by
  obtain ⟨-, hcheck, hbackend⟩ := of_resolve h
  obtain ⟨hkey, hclaim⟩ := checkEngine_eq_ok_iff.mp hcheck
  refine ⟨hclaim, ?_, ?_⟩
  · intro settings hs
    rcases hbackend with ⟨settings', hs', hresolve⟩ | ⟨settings', hs', -⟩
    · rw [hs', BackendSettings.store.injEq] at hs
      subst hs
      exact ⟨StoreLayer.validate_of_resolve hresolve, hkey _ hs'⟩
    · rw [hs'] at hs
      cases hs
  · intro settings hs
    rcases hbackend with ⟨settings', hs', -⟩ | ⟨settings', hs', hresolve⟩
    · rw [hs'] at hs
      cases hs
    · rw [hs', BackendSettings.service.injEq] at hs
      subst hs
      exact ServiceLayer.endpoints_of_resolve hresolve

/-- There is a key exactly if the layer has a secret that is not empty, or a path. -/
theorem hasKey_iff (h : l.resolve = .ok s) :
    s.token.hasKey = true ↔
      (∃ secret, get .secret l = some secret ∧ secret.exposed ≠ "") ∨ ∃ path, get .publicKeyPath l = some path := by
  obtain ⟨htoken, -⟩ := of_resolve h
  have hsecret : get .secret l = (l.token.getD {}).secret := (field_getD rfl l.token).symm
  have hpath : get .publicKeyPath l = (l.token.getD {}).publicKeyPath := (field_getD rfl l.token).symm
  rw [Token.Settings.hasKey, TokenLayer.key_of_resolve htoken, hsecret, hpath, TokenLayer.key]
  cases (l.token.getD {}).publicKeyPath with
  | some path => simp
  | none =>
    cases (l.token.getD {}).secret with
    | none => simp
    | some secret => by_cases hempty : secret.exposed = "" <;> simp [Secret.isEmpty, hempty]

end Layer

/-- Settings that were loaded complete what the sources say together. -/
theorem exists_merge_of_load {read : FileReader} {sources : List Source} (h : load read sources = .ok s) :
    ∃ merged, Source.merge read sources = .ok merged ∧ merged.resolve = .ok s := by
  unfold load at h
  exact bind_eq_ok_iff.mp h

end TopicGuard.Config
