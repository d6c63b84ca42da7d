import TopicGuard.Proofs.Text.Base64
import TopicGuard.Proofs.Token.Verification

/-!
What stands in the text of a verified token.

Every part of a token that is accepted has been read as base 64, or compared with text that was written so. Hence the
token consists of digits and dots (`isDigit_of_verify`), which are visible ASCII characters, and whoever reads its
payload without verifying anything finds the identity that verification finds (`namedIdentity?_of_verify`).
-/

set_option autoImplicit false

namespace TopicGuard.Token

variable {v : Verifier} {expiry : Expiry} {now : Instant} {token : String} {claims : Claims} {c : Char}
  {part : List Char}

/-! ## Digits and dots -/

theorem isDigit_of_decodePart {bytes : Bytes} (h : Verifier.decodePart part = .ok bytes) (hc : c ∈ part) :
    Base64.IsDigit .url c := by
  unfold Verifier.decodePart at h
  split at h
  · next hdecode => exact Base64.isDigit_of_decode? hdecode hc
  · cases h

/-- A part that was read as a header consists of digits. -/
theorem isDigit_of_readHeader {header : Header} (h : Verifier.readHeader part = .ok header) (hc : c ∈ part) :
    Base64.IsDigit .url c := by
  obtain ⟨bytes, hbytes, -⟩ := Outcome.bind_eq_ok_iff.mp h
  exact isDigit_of_decodePart hbytes hc

/-- So does one that was read as a payload. -/
theorem isDigit_of_readPayload {payload : Payload} (h : Verifier.readPayload part = .ok payload) (hc : c ∈ part) :
    Base64.IsDigit .url c := by
  obtain ⟨bytes, hbytes, -⟩ := Outcome.bind_eq_ok_iff.mp h
  exact isDigit_of_decodePart hbytes hc

/-- A signature that is accepted is either compared with digits or read as digits. -/
theorem isDigit_of_accepts? {key : VerificationKey} {a : Algorithm} {message : Bytes}
    (h : key.accepts? a message part = some true) (hc : c ∈ part) : Base64.IsDigit .url c := by
  unfold VerificationKey.accepts? at h
  cases key with
  | shared secret =>
    cases hfamily : a.family with
    | shared hash =>
      simp only [hfamily, Option.some.injEq, beq_iff_eq] at h
      rw [h] at hc
      exact Base64.isDigit_of_mem_encode hc
    | publicKey kind => simp [hfamily] at h
  | published key =>
    obtain ⟨bytes, hbytes, -⟩ := Option.map_eq_some_iff.mp h
    exact Base64.isDigit_of_decode? hbytes hc

/-- A token that is accepted consists of digits and dots. -/
theorem isDigit_of_verify (h : v.verify expiry now token = .ok claims) (hc : c ∈ token.toList) :
    Base64.IsDigit .url c ∨ c = '.' := by
  obtain ⟨p, hsigned, hclaims, -⟩ := Verifier.verify_eq_ok_iff.mp h
  obtain ⟨payload, hpayload, -, -⟩ := Verifier.readClaims_eq_ok_iff.mp hclaims
  rw [hsigned.parts.eq, Parts.signed, List.mem_append, List.mem_append, List.mem_cons, List.mem_cons] at hc
  rcases hc with (hc | rfl | hc) | rfl | hc
  · exact .inl (isDigit_of_readHeader hsigned.header hc)
  · exact .inr rfl
  · exact .inl (isDigit_of_readPayload hpayload hc)
  · exact .inr rfl
  · exact .inl (isDigit_of_accepts? hsigned.signature hc)

/-- Its characters are visible ASCII characters. -/
theorem toNat_mem_of_verify (h : v.verify expiry now token = .ok claims) (hc : c ∈ token.toList) :
    0x20 < c.toNat ∧ c.toNat < 0x7F := by
  rcases isDigit_of_verify h hc with hdigit | rfl
  · exact hdigit.toNat_mem
  · decide

/-! ## The identity without verification -/

/-- The identity that a token names in its payload, whether or not anything about the token is right. -/
def namedIdentity? (claim token : String) : Option String :=
  match Parts.ofChars? token.toList with
  | none => none
  | some p =>
    match Verifier.readPayload p.payload with
    | .error _ => none
    | .ok payload => (Claims.identityOf payload claim).toOption

/-- A token that is accepted names the identity in its claims. -/
theorem namedIdentity?_of_verify (h : v.verify expiry now token = .ok claims) :
    namedIdentity? v.identityClaim token = some claims.identity := by
  obtain ⟨p, hsigned, hclaims, -⟩ := Verifier.verify_eq_ok_iff.mp h
  obtain ⟨payload, hpayload, -, hclaims⟩ := Verifier.readClaims_eq_ok_iff.mp hclaims
  obtain ⟨hidentity, -⟩ := Claims.ofPayload_eq_ok_iff.mp hclaims
  unfold namedIdentity?
  rw [Parts.ofChars?_eq_some_iff.mpr hsigned.parts]
  simp only [hpayload, hidentity]
  rfl

end TopicGuard.Token
