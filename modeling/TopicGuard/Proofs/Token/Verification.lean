import TopicGuard.Proofs.Outcome
import TopicGuard.Proofs.Token.Claims
import TopicGuard.Proofs.Token.Parts

/-!
What a verified token has passed.

Verification is one sequence of checks: parts, header, signature, payload, claims, window. `IsSigned` holds what the
first three establish about a token, `Satisfies` what the next ones establish about its payload. The lemmas say that
each group of checks succeeds exactly on what its predicate admits, and which rejections the first group can end in.
The last section gives a verifier back as the settings and the key it was made from, which is what lets a statement
speak of settings instead.
-/

set_option autoImplicit false

namespace TopicGuard.Token

open Outcome (bind_eq_ok_iff check_eq_ok_iff)

/-- The token falls into these parts, its header names the algorithm, and its signature belongs to the text before
it under the key. -/
structure IsSigned (a : Algorithm) (key : VerificationKey) (token : String) (p : Parts) : Prop where
  parts : p.AreOf token.toList
  header : Verifier.readHeader p.header = .ok ⟨a⟩
  signature : key.accepts? a (Utf8.encodeChars p.signed) p.signature = some true

namespace Verifier

variable {v : Verifier} {token : String} {p : Parts} {part : List Char}

/-! ## The signature -/

theorem decodePart_eq_error {r : Rejection} (h : decodePart part = .error r) :
    r = .malformed .base64 := by
  unfold decodePart at h
  split at h
  · cases h
  · cases h
    rfl

/-- A header that cannot be read makes a token malformed. -/
theorem readHeader_eq_error {r : Rejection} (h : readHeader part = .error r) :
    ∃ defect, r = .malformed defect := by
  unfold readHeader at h
  rcases Outcome.bind_eq_error_iff.mp h with hpart | ⟨bytes, -, h⟩
  · exact ⟨_, decodePart_eq_error hpart⟩
  · split at h
    · cases h
    · cases h
      exact ⟨_, rfl⟩

theorem checkSignature_of_count_dot (h : token.toList.count '.' < 2) :
    v.checkSignature token = .error (.malformed .shape) := by
  unfold checkSignature
  rw [Parts.ofChars?_eq_none_iff.mpr h]
  rfl

/-- The checks on a token with parts, once it has been cut. -/
theorem checkSignature_of_areOf (h : p.AreOf token.toList) :
    v.checkSignature token = (readHeader p.header).bind fun header =>
      if header.algorithm ≠ v.algorithm then .error .badSignature
      else match v.key.accepts? v.algorithm (Utf8.encodeChars p.signed) p.signature with
        | none => .error (.malformed .base64)
        | some false => .error .badSignature
        | some true => .ok p := by
  unfold checkSignature
  rw [Parts.ofChars?_eq_some_iff.mpr h]
  rfl

/-- The first checks let exactly the signed tokens pass. -/
theorem checkSignature_eq_ok_iff :
    v.checkSignature token = .ok p ↔ IsSigned v.algorithm v.key token p := by
  rcases Parts.exists_areOf_or_count_dot token.toList with ⟨q, hq⟩ | hcount
  · rw [checkSignature_of_areOf hq]
    constructor
    · intro h
      obtain ⟨⟨a⟩, hheader, h⟩ := bind_eq_ok_iff.mp h
      obtain ⟨ha, hverdict⟩ := check_eq_ok_iff.mp h
      -- The header names the algorithm, so what is left is the answer of the key.
      rw [not_not] at ha
      rw [← ha] at hverdict ⊢
      split at hverdict
      · cases hverdict
      · cases hverdict
      · next haccepts =>
        cases hverdict
        exact ⟨hq, hheader, haccepts⟩
    · intro h
      obtain rfl := hq.unique h.parts
      rw [h.header, h.signature]
      simp [Except.bind]
  · rw [checkSignature_of_count_dot hcount]
    constructor
    · intro h
      cases h
    · -- A signed token has parts, and so it has two dots.
      intro h
      have hdots := h.parts.count_dot
      omega

/-- They reject the others as malformed or for their signature. -/
theorem checkSignature_eq_error {r : Rejection} (h : v.checkSignature token = .error r) :
    r = .badSignature ∨ ∃ defect, r = .malformed defect := by
  rcases Parts.exists_areOf_or_count_dot token.toList with ⟨q, hq⟩ | hcount
  · rw [checkSignature_of_areOf hq] at h
    rcases Outcome.bind_eq_error_iff.mp h with hheader | ⟨header, -, h⟩
    · exact .inr (readHeader_eq_error hheader)
    · by_cases ha : header.algorithm ≠ v.algorithm
      · rw [if_pos ha] at h
        cases h
        exact .inl rfl
      · rw [if_neg ha] at h
        split at h
        · cases h
          exact .inr ⟨_, rfl⟩
        · cases h
          exact .inl rfl
        · cases h
  · rw [checkSignature_of_count_dot hcount] at h
    cases h
    exact .inr ⟨_, rfl⟩

/-! ## The payload -/

/-- The payload can be read, and neither its issuer nor its audience contradicts what is expected. -/
structure Satisfies (payload : Payload) (issuer audience : Option String) : Prop where
  readable : payload.isReadable = true
  issuer : payload.agrees "iss" issuer = true
  audience : payload.agrees "aud" audience = true

theorem readClaims_eq :
    v.readClaims part = (readPayload part).bind fun payload =>
      if (!payload.isReadable) = true then .error (.malformed .json)
      else if (!payload.agrees "iss" v.issuer) = true then .error .invalidIssuer
      else if (!payload.agrees "aud" v.audience) = true then .error .invalidAudience
      else Claims.ofPayload payload v.identityClaim := by
  rfl

theorem readClaims_eq_ok_iff {claims : Claims} :
    v.readClaims part = .ok claims ↔
      ∃ payload, readPayload part = .ok payload ∧ Satisfies payload v.issuer v.audience
        ∧ Claims.ofPayload payload v.identityClaim = .ok claims := by
  rw [readClaims_eq]
  change (readPayload part >>= _) = .ok claims ↔ _
  rw [bind_eq_ok_iff]
  refine exists_congr fun payload => and_congr_right fun _ => ?_
  rw [check_eq_ok_iff, check_eq_ok_iff, check_eq_ok_iff, Bool.not_eq_true', Bool.not_eq_false,
    Bool.not_eq_true', Bool.not_eq_false, Bool.not_eq_true', Bool.not_eq_false]
  constructor
  · rintro ⟨hreadable, hissuer, haudience, hclaims⟩
    exact ⟨⟨hreadable, hissuer, haudience⟩, hclaims⟩
  · rintro ⟨⟨hreadable, hissuer, haudience⟩, hclaims⟩
    exact ⟨hreadable, hissuer, haudience, hclaims⟩

/-! ## All checks -/

/-- A token that is accepted is signed, and the claims are those of its payload. -/
theorem verify_eq_ok_iff {expiry : Expiry} {now : Instant} {claims : Claims} :
    v.verify expiry now token = .ok claims ↔
      ∃ p, IsSigned v.algorithm v.key token p ∧ v.readClaims p.payload = .ok claims
        ∧ (expiry = .enforce → claims.checkWindow now v.leeway = .ok ()) := by
  unfold verify
  rw [bind_eq_ok_iff]
  refine exists_congr fun p => ?_
  rw [checkSignature_eq_ok_iff, bind_eq_ok_iff]
  refine and_congr_right fun _ => ?_
  constructor
  · rintro ⟨claims', hclaims, h⟩
    cases expiry with
    | skip =>
      cases h
      exact ⟨hclaims, fun h => nomatch h⟩
    | enforce =>
      obtain ⟨_, hwindow, h⟩ := bind_eq_ok_iff.mp h
      cases h
      exact ⟨hclaims, fun _ => hwindow⟩
  · rintro ⟨hclaims, hwindow⟩
    refine ⟨claims, hclaims, ?_⟩
    cases expiry with
    | skip => rfl
    | enforce => exact bind_eq_ok_iff.mpr ⟨(), hwindow rfl, rfl⟩

/-- For a signed token with a payload, the checks that are left are those on the payload and on the window. -/
theorem verify_eq_ok_iff_of_isSigned {expiry : Expiry} {now : Instant} {payload : Payload}
    {claims : Claims} (hsigned : IsSigned v.algorithm v.key token p)
    (hpayload : readPayload p.payload = .ok payload) :
    v.verify expiry now token = .ok claims ↔
      Satisfies payload v.issuer v.audience ∧ Claims.ofPayload payload v.identityClaim = .ok claims
        ∧ (expiry = .enforce → claims.checkWindow now v.leeway = .ok ()) := by
  rw [verify_eq_ok_iff]
  constructor
  · rintro ⟨q, hq, hclaims, hwindow⟩
    -- The token has only one way to fall into parts, and these have only one payload.
    obtain rfl := hq.parts.unique hsigned.parts
    obtain ⟨payload', hpayload', hsatisfies, hclaims⟩ := readClaims_eq_ok_iff.mp hclaims
    obtain rfl := Except.ok.inj (hpayload'.symm.trans hpayload)
    exact ⟨hsatisfies, hclaims, hwindow⟩
  · rintro ⟨hsatisfies, hclaims, hwindow⟩
    exact ⟨p, hsigned, readClaims_eq_ok_iff.mpr ⟨payload, hpayload, hsatisfies, hclaims⟩, hwindow⟩

/-- Once the claims of a signed token have been read, only the window is left. -/
theorem verify_enforce_of_readClaims {now : Instant} {claims : Claims}
    (hsigned : IsSigned v.algorithm v.key token p) (hclaims : v.readClaims p.payload = .ok claims) :
    v.verify .enforce now token = (claims.checkWindow now v.leeway).map fun _ => claims := by
  unfold verify
  rw [checkSignature_eq_ok_iff.mpr hsigned]
  change (v.readClaims p.payload).bind _ = _
  rw [hclaims]
  rfl

/-- The identity in a token that is accepted is not empty. -/
theorem identity_ne_empty_of_verify {expiry : Expiry} {now : Instant} {claims : Claims}
    (h : v.verify expiry now token = .ok claims) : claims.identity ≠ "" := by
  obtain ⟨p, -, hclaims, -⟩ := verify_eq_ok_iff.mp h
  obtain ⟨payload, -, -, hclaims⟩ := readClaims_eq_ok_iff.mp hclaims
  obtain ⟨hidentity, -⟩ := Claims.ofPayload_eq_ok_iff.mp hclaims
  exact (Claims.identityOf_eq_ok_iff.mp hidentity).2

theorem verify_of_checkSignature {expiry : Expiry} {now : Instant} {r : Rejection}
    (h : v.checkSignature token = .error r) : v.verify expiry now token = .error r := by
  unfold verify
  rw [h]
  rfl

theorem verify_of_readClaims {expiry : Expiry} {now : Instant} {r : Rejection}
    (hsigned : IsSigned v.algorithm v.key token p) (h : v.readClaims p.payload = .error r) :
    v.verify expiry now token = .error r := by
  unfold verify
  rw [checkSignature_eq_ok_iff.mpr hsigned]
  show (v.readClaims p.payload).bind _ = .error r
  rw [h]
  rfl

/-- Either the claims of a token can be read, or it is rejected for one reason, whatever the leeway and the time are and
whether or not the window counts. -/
theorem reads_or_rejects (v : Verifier) (token : String) :
    (∃ p claims, IsSigned v.algorithm v.key token p ∧ v.readClaims p.payload = .ok claims)
      ∨ ∃ r, ∀ leeway expiry now, ({ v with leeway } : Verifier).verify expiry now token = .error r := by
  cases hsignature : v.checkSignature token with
  | error r =>
    right
    exact ⟨r, fun leeway expiry now => verify_of_checkSignature (v := { v with leeway }) hsignature⟩
  | ok p =>
    have hsigned := checkSignature_eq_ok_iff.mp hsignature
    cases hclaims : v.readClaims p.payload with
    | error r =>
      right
      exact ⟨r, fun leeway expiry now => verify_of_readClaims (v := { v with leeway }) hsigned hclaims⟩
    | ok claims =>
      left
      exact ⟨p, claims, hsigned, hclaims⟩

/-! ## Where a verifier comes from -/

variable {s : Settings} {read : FileReader} {key : VerificationKey}

/-- A verifier is its settings with the key that they name. -/
theorem ofSettings_eq_ok_iff :
    ofSettings s read = .ok v ↔
      s.identityClaim ≠ "" ∧ ∃ key, loadKey s read = .ok key
        ∧ v = ⟨s.algorithm, key, s.identityClaim, s.issuer, s.audience, s.leeway⟩ := by
  unfold ofSettings
  by_cases hclaim : s.identityClaim = ""
  · simp only [hclaim, ne_eq, not_true_eq_false, false_and, iff_false]
    intro h
    cases h
  · rw [if_neg (by simpa using hclaim), and_iff_right hclaim]
    rw [bind_eq_ok_iff]
    refine exists_congr fun key => and_congr_right fun _ => ?_
    constructor
    · intro h
      cases h
      rfl
    · rintro rfl
      rfl

/-- An algorithm that needs a shared secret gets it from the settings, and it is not empty. -/
theorem loadKey_of_shared {h : Crypto.Hash} (hfamily : s.algorithm.family = .shared h)
    (hkey : loadKey s read = .ok key) :
    ∃ secret, s.key = some (.secret secret) ∧ secret.exposed ≠ ""
      ∧ key = .shared (Utf8.encode secret.exposed) := by
  unfold loadKey at hkey
  rw [hfamily] at hkey
  cases hsource : s.key with
  | none =>
    rw [hsource] at hkey
    cases hkey
  | some source =>
    rw [hsource] at hkey
    cases source with
    | secret secret =>
      obtain ⟨hempty, hkey⟩ := check_eq_ok_iff.mp hkey
      cases hkey
      exact ⟨secret, rfl, by simpa [Secret.isEmpty] using hempty, rfl⟩
    | pem text => cases hkey
    | file path => cases hkey

end Verifier

end TopicGuard.Token
