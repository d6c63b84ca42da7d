import TopicGuard.Proofs.Token.Claims
import TopicGuard.Proofs.Token.Verification
import TopicGuard.Token.Signer

/-!
What an expected issuer and an expected audience guarantee.

Settings can name an issuer and an audience that tokens should have. A token is rejected for a claim that has another
value, but not for a claim that it does not carry: one without an issuer is accepted whatever issuer is expected, and
so for the audience. Hence the claims of an accepted token are as expected exactly if its payload carries the claims
that anything is expected of (`verify_meets_iff`).
-/

set_option autoImplicit false

namespace TopicGuard.Token

variable {payload : Payload} {claim : String} {expected issuer audience : Option String} {c : Claims}

/-! ## What is expected -/

/-- The claims are as expected: they have the expected issuer, and the expected audience is among theirs. -/
structure Claims.Meets (c : Claims) (issuer audience : Option String) : Prop where
  issuer : ∀ value, issuer = some value → c.issuer = some value
  audience : ∀ value, audience = some value → value ∈ c.audience

/-- The payload carries every claim that anything is expected of. -/
structure Payload.CarriesExpected (payload : Payload) (issuer audience : Option String) : Prop where
  issuer : issuer ≠ none → payload.Carries "iss"
  audience : audience ≠ none → payload.Carries "aud"

/-- The same verifier without an expected issuer and an expected audience. -/
def Verifier.expectingNothing (v : Verifier) : Verifier :=
  { v with issuer := none, audience := none }

/-! ## Two readers of one claim -/

/-- For a claim that can be read as a text, the comparison with an expected value says that it is that value, unless
the payload does not carry it. -/
theorem Payload.agrees_iff_of_textOf {text : Option String}
    (htext : Claims.textOf payload claim = .ok text) :
    payload.agrees claim expected = true ↔
      ∀ value, expected = some value → payload.Carries claim → text = some value := by
  rw [Payload.agrees_iff]
  refine forall_congr' fun value => imp_congr_right fun _ => ?_
  rcases Claims.textOf_eq_ok_iff.mp htext with ⟨-, hnot⟩ | ⟨s, rfl, hvalue⟩
  · simp [Payload.texts?_of_not_carries hnot, hnot]
  · have hcarries : payload.Carries claim := ⟨_, hvalue, by simp⟩
    simp [hvalue, Payload.texts?, hcarries, eq_comm]

/-- The same for the audience, which may be one of several. -/
theorem Payload.agrees_iff_of_audienceOf {texts : List String}
    (htexts : Claims.audienceOf payload = .ok texts) :
    payload.agrees "aud" expected = true ↔
      ∀ value, expected = some value → payload.Carries "aud" → value ∈ texts := by
  rw [Payload.agrees_iff]
  refine forall_congr' fun value => imp_congr_right fun _ => ?_
  rcases Claims.audienceOf_eq_ok_iff.mp htexts with ⟨-, hnot⟩ | hvalue
  · simp [Payload.texts?_of_not_carries hnot, hnot]
  · have hcarries : payload.Carries "aud" := by
      by_contra hnot
      rw [Payload.texts?_of_not_carries hnot] at hvalue
      cases hvalue
    simp [hvalue, hcarries]

/-! ## Claims of a payload -/

/-- Claims that were read from a payload with the right values are as expected exactly if the payload carries what
anything is expected of. -/
theorem Verifier.Satisfies.meets_iff (h : Verifier.Satisfies payload issuer audience)
    (hc : Claims.ofPayload payload claim = .ok c) :
    c.Meets issuer audience ↔ payload.CarriesExpected issuer audience := by
  obtain ⟨-, -, hissuer, haudience, -⟩ := Claims.ofPayload_eq_ok_iff.mp hc
  constructor
  · intro hmeets
    constructor
    · -- An issuer that is as expected was read from a text.
      intro hexpected
      obtain ⟨value, rfl⟩ := Option.ne_none_iff_exists'.mp hexpected
      rw [hmeets.issuer value rfl] at hissuer
      rcases Claims.textOf_eq_ok_iff.mp hissuer with ⟨hnone, -⟩ | ⟨s, -, hvalue⟩
      · cases hnone
      · exact ⟨_, hvalue, by simp⟩
    · -- A claim that is not carried gives no audience at all, let alone the expected one.
      intro hexpected
      obtain ⟨value, rfl⟩ := Option.ne_none_iff_exists'.mp hexpected
      have hmem := hmeets.audience value rfl
      by_contra hnot
      rcases Claims.audienceOf_eq_ok_iff.mp haudience with ⟨hnil, -⟩ | hvalue
      · rw [hnil] at hmem
        cases hmem
      · rw [Payload.texts?_of_not_carries hnot] at hvalue
        cases hvalue
  · intro hcarries
    constructor
    · intro value hexpected
      refine (Payload.agrees_iff_of_textOf hissuer).mp h.issuer value hexpected (hcarries.issuer ?_)
      simp [hexpected]
    · intro value hexpected
      refine (Payload.agrees_iff_of_audienceOf haudience).mp h.audience value hexpected
        (hcarries.audience ?_)
      simp [hexpected]

/-- An expectation adds to the checks on a payload a comparison with the claims that it carries, and nothing else. -/
theorem Verifier.satisfies_iff (hc : Claims.ofPayload payload claim = .ok c) :
    Verifier.Satisfies payload issuer audience ↔
      Verifier.Satisfies payload none none
        ∧ (∀ value, issuer = some value → payload.Carries "iss" → c.issuer = some value)
        ∧ ∀ value, audience = some value → payload.Carries "aud" → value ∈ c.audience := by
  obtain ⟨-, -, hissuer, haudience, -⟩ := Claims.ofPayload_eq_ok_iff.mp hc
  rw [← Payload.agrees_iff_of_textOf hissuer, ← Payload.agrees_iff_of_audienceOf haudience]
  constructor
  · rintro ⟨hreadable, hagrees, hagrees'⟩
    exact ⟨⟨hreadable, rfl, rfl⟩, hagrees, hagrees'⟩
  · rintro ⟨⟨hreadable, -, -⟩, hagrees, hagrees'⟩
    exact ⟨hreadable, hagrees, hagrees'⟩

/-! ## Verified tokens -/

/-- A signed token is accepted exactly if it is accepted without expectations and the expected values are those of the
claims that it carries. -/
theorem Verifier.verify_iff_expectingNothing {v : Verifier} {expiry : Expiry} {now : Instant}
    {token : String} {p : Parts} (hsigned : IsSigned v.algorithm v.key token p)
    (hpayload : Verifier.readPayload p.payload = .ok payload) :
    v.verify expiry now token = .ok c ↔
      v.expectingNothing.verify expiry now token = .ok c
        ∧ (∀ value, v.issuer = some value → payload.Carries "iss" → c.issuer = some value)
        ∧ ∀ value, v.audience = some value → payload.Carries "aud" → value ∈ c.audience := by
  have hsigned' : IsSigned v.expectingNothing.algorithm v.expectingNothing.key token p := hsigned
  rw [Verifier.verify_eq_ok_iff_of_isSigned hsigned hpayload,
    Verifier.verify_eq_ok_iff_of_isSigned hsigned' hpayload]
  constructor
  · rintro ⟨hsatisfies, hclaims, hwindow⟩
    obtain ⟨hplain, hexpected⟩ := (Verifier.satisfies_iff hclaims).mp hsatisfies
    exact ⟨⟨hplain, hclaims, hwindow⟩, hexpected⟩
  · rintro ⟨⟨hplain, hclaims, hwindow⟩, hexpected⟩
    exact ⟨(Verifier.satisfies_iff hclaims).mpr ⟨hplain, hexpected⟩, hclaims, hwindow⟩

/-- For a verifier made from settings: the claims of an accepted token are as expected exactly if its payload carries
every claim that anything is expected of. Indeed a signed token is accepted exactly if it is accepted without
expectations and the expected values are those of the claims that it carries. -/
theorem verify_meets_iff (s : Settings) (read : FileReader) (v : Verifier)
    (hv : Verifier.ofSettings s read = .ok v) :
    (∀ expiry now token claims, v.verify expiry now token = .ok claims →
        ∃ p payload, IsSigned s.algorithm v.key token p ∧ Verifier.readPayload p.payload = .ok payload
          ∧ (claims.Meets s.issuer s.audience ↔ payload.CarriesExpected s.issuer s.audience))
      ∧ ∀ expiry now token p payload claims, IsSigned s.algorithm v.key token p →
          Verifier.readPayload p.payload = .ok payload →
          (v.verify expiry now token = .ok claims ↔
            v.expectingNothing.verify expiry now token = .ok claims
              ∧ (∀ value, s.issuer = some value → payload.Carries "iss" → claims.issuer = some value)
              ∧ ∀ value, s.audience = some value → payload.Carries "aud" → value ∈ claims.audience) := by
  obtain ⟨-, key, -, rfl⟩ := Verifier.ofSettings_eq_ok_iff.mp hv
  constructor
  · intro expiry now token claims hverify
    obtain ⟨p, hsigned, hclaims, -⟩ := Verifier.verify_eq_ok_iff.mp hverify
    obtain ⟨payload, hpayload, hsatisfies, hclaims⟩ := Verifier.readClaims_eq_ok_iff.mp hclaims
    exact ⟨p, payload, hsigned, hpayload, hsatisfies.meets_iff hclaims⟩
  · intro expiry now token p payload claims hsigned hpayload
    exact Verifier.verify_iff_expectingNothing hsigned hpayload

/-- A token that carries neither an issuer nor an audience is accepted although both are expected. -/
theorem verify_of_carrying_nothing :
    (⟨.hs256, .shared (Utf8.encode "k"), "username", some "i", some "a", 0⟩ : Verifier).verify .skip
        .epoch (sign (.object [("username", .string "u")]) "k")
      = .ok ⟨"u", none, none, [], none, none, none⟩ := by
  decide +kernel

/-- The claims of that token are not as expected, so its payload does not carry what anything is expected of. -/
theorem verify_meets_iff_of_carrying_nothing :
    let s : Settings := ⟨.hs256, some (.secret ⟨"k"⟩), "username", some "i", some "a", 0⟩
    let token := sign (.object [("username", .string "u")]) "k"
    ∃ v, Verifier.ofSettings s (fun _ => .error .missing) = .ok v
      ∧ v.verify .skip .epoch token = .ok ⟨"u", none, none, [], none, none, none⟩
      ∧ ∃ p payload, IsSigned s.algorithm v.key token p ∧ Verifier.readPayload p.payload = .ok payload
        ∧ ¬ payload.CarriesExpected s.issuer s.audience := by
  intro s token
  obtain ⟨p, payload, hsigned, hpayload, hmeets⟩ :=
    (verify_meets_iff s (fun _ => .error .missing) _ rfl).1 .skip .epoch token _
      verify_of_carrying_nothing
  refine ⟨_, rfl, verify_of_carrying_nothing, p, payload, hsigned, hpayload, fun hcarries => ?_⟩
  have hissuer := (hmeets.mpr hcarries).issuer "i" rfl
  cases hissuer

/-- Expectations are not always met: it is not so that the claims of every accepted token are as expected. -/
theorem not_forall_verify_meets :
    ¬ ∀ (s : Settings) (read : FileReader) (v : Verifier), Verifier.ofSettings s read = .ok v →
        ∀ expiry now token claims, v.verify expiry now token = .ok claims →
          claims.Meets s.issuer s.audience := by
  intro h
  have hmeets := h ⟨.hs256, some (.secret ⟨"k"⟩), "username", some "i", some "a", 0⟩
    (fun _ => .error .missing) _ rfl .skip .epoch _ _ verify_of_carrying_nothing
  have hissuer := hmeets.issuer "i" rfl
  cases hissuer

end TopicGuard.Token
