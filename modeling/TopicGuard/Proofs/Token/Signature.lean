import TopicGuard.Proofs.Token.Verification
import TopicGuard.Token.Signer

/-!
What the signature of a token guarantees.

Only signed tokens are accepted, and one that is not signed is rejected before its payload is looked at: nothing that
stands in an unsigned payload shows in the answer. With a shared secret the signature of a text is itself a text,
computed from it. Then no text is signed in two ways, and the rejection of a token that is not signed can be read off
its dots and its header alone (`rejectionOfHeader`).
-/

set_option autoImplicit false

namespace TopicGuard.Token

variable {a : Algorithm} {h : Crypto.Hash} {secret : Bytes} {key : VerificationKey} {token token' : String}
  {p p' : Parts} {v : Verifier}

/-! ## Shared secrets -/

theorem accepts?_shared (hfamily : a.family = .shared h) (message : Bytes) (signature : List Char) :
    (VerificationKey.shared secret).accepts? a message signature
      = some (signature == VerificationKey.sharedSignature h secret message) := by
  unfold VerificationKey.accepts?
  rw [hfamily]

/-- Under a shared secret the signature of a token is the one text that is computed from what stands before it. -/
theorem isSigned_shared_iff (hfamily : a.family = .shared h) :
    IsSigned a (.shared secret) token p ↔
      p.AreOf token.toList ∧ Verifier.readHeader p.header = .ok ⟨a⟩
        ∧ p.signature = VerificationKey.sharedSignature h secret (Utf8.encodeChars p.signed) := by
  constructor
  · rintro ⟨hparts, hheader, hsignature⟩
    rw [accepts?_shared hfamily, Option.some.injEq, beq_iff_eq] at hsignature
    exact ⟨hparts, hheader, hsignature⟩
  · rintro ⟨hparts, hheader, hsignature⟩
    refine ⟨hparts, hheader, ?_⟩
    rw [accepts?_shared hfamily, Option.some.injEq, beq_iff_eq]
    exact hsignature

/-- The token is the signed text, a dot, and the digits of the tag. -/
theorem IsSigned.eq_ofList (hfamily : a.family = .shared h) (hp : IsSigned a (.shared secret) token p) :
    token = String.ofList (p.signed ++ '.' ::
      Base64.encode .url (Crypto.Hmac.tag h secret (Utf8.encodeChars p.signed))) := by
  obtain ⟨hparts, -, hsignature⟩ := (isSigned_shared_iff hfamily).mp hp
  rw [← String.toList_inj, String.toList_ofList, hparts.eq, hsignature]
  rfl

/-- No text is signed in two ways. -/
theorem IsSigned.unique (hfamily : a.family = .shared h) (hp : IsSigned a (.shared secret) token p)
    (hp' : IsSigned a (.shared secret) token' p') (hsigned : p.signed = p'.signed) : token = token' := by
  rw [hp.eq_ofList hfamily, hp'.eq_ofList hfamily, hsigned]

/-! ## Rejections -/

/-- A token that is not signed is malformed or has a bad signature. -/
theorem verify_of_not_isSigned {expiry : Expiry} {now : Instant}
    (hnot : ¬ ∃ p, IsSigned v.algorithm v.key token p) :
    v.verify expiry now token = .error .badSignature
      ∨ ∃ defect, v.verify expiry now token = .error (.malformed defect) := by
  cases hcheck : v.checkSignature token with
  | ok p => exact absurd ⟨p, Verifier.checkSignature_eq_ok_iff.mp hcheck⟩ hnot
  | error r =>
    have hverify : v.verify expiry now token = .error r := Verifier.verify_of_checkSignature hcheck
    rw [hverify]
    rcases Verifier.checkSignature_eq_error hcheck with rfl | ⟨defect, rfl⟩
    · exact .inl rfl
    · exact .inr ⟨defect, rfl⟩

/-- The rejection of a token with this header and no right signature: that of the header if it cannot be read, and
otherwise always the same, also if it names another algorithm. -/
def rejectionOfHeader (header : List Char) : Rejection :=
  match Verifier.readHeader header with
  | .error r => r
  | .ok _ => .badSignature

theorem checkSignature_of_not_isSigned (hfamily : v.algorithm.family = .shared h)
    (hkey : v.key = .shared secret) (hparts : p.AreOf token.toList)
    (hnot : ¬ ∃ p, IsSigned v.algorithm v.key token p) :
    v.checkSignature token = .error (rejectionOfHeader p.header) := by
  rw [Verifier.checkSignature_of_areOf hparts]
  unfold rejectionOfHeader
  cases hheader : Verifier.readHeader p.header with
  | error r => rfl
  | ok header =>
    change (if header.algorithm ≠ v.algorithm then _ else _) = _
    by_cases ha : header.algorithm = v.algorithm
    · -- With the right algorithm in the header, only the comparison of the signature can have failed.
      rw [if_neg (not_not.mpr ha), hkey, accepts?_shared hfamily]
      have hsignature : (p.signature
          == VerificationKey.sharedSignature h secret (Utf8.encodeChars p.signed)) = false := by
        rw [beq_eq_false_iff_ne]
        intro heq
        refine hnot ⟨p, ?_⟩
        rw [hkey, isSigned_shared_iff hfamily]
        exact ⟨hparts, by rw [hheader, ← ha], heq⟩
      rw [hsignature]
    · rw [if_pos ha]

/-! ## Soundness -/

/-- For a verifier made from settings: a token that is accepted is signed for the algorithm and the key of the
settings, and its claims are those of the payload under the signature. One that is not signed is malformed or has a
bad signature at all times. Where the algorithm needs a shared secret, a signed token is its signed text with the tag
of that text, so there is one at most for each text, and how one that is not signed is rejected depends on its dots
and its header alone. -/
theorem verify_signed (s : Settings) (read : FileReader) (v : Verifier)
    (hv : Verifier.ofSettings s read = .ok v) :
    ∃ key, Verifier.loadKey s read = .ok key
      ∧ (∀ expiry now token claims, v.verify expiry now token = .ok claims →
          ∃ p payload, IsSigned s.algorithm key token p ∧ Verifier.readPayload p.payload = .ok payload
            ∧ Claims.ofPayload payload s.identityClaim = .ok claims)
      ∧ (∀ expiry now token, (¬ ∃ p, IsSigned s.algorithm key token p) →
          v.verify expiry now token = .error .badSignature
            ∨ ∃ defect, v.verify expiry now token = .error (.malformed defect))
      ∧ ∀ h, s.algorithm.family = .shared h →
          ∃ secret, s.key = some (.secret secret)
            ∧ (∀ token p, IsSigned s.algorithm key token p →
                token = String.ofList (p.signed ++ '.' :: Base64.encode .url
                  (Crypto.Hmac.tag h (Utf8.encode secret.exposed) (Utf8.encodeChars p.signed))))
            ∧ (∀ token p token' p', IsSigned s.algorithm key token p →
                IsSigned s.algorithm key token' p' → p.signed = p'.signed → token = token')
            ∧ ∀ expiry now token, (¬ ∃ p, IsSigned s.algorithm key token p) →
                (token.toList.count '.' < 2 → v.verify expiry now token = .error (.malformed .shape))
                  ∧ ∀ p : Parts, p.AreOf token.toList →
                      v.verify expiry now token = .error (rejectionOfHeader p.header) := by
  obtain ⟨-, key, hkey, rfl⟩ := Verifier.ofSettings_eq_ok_iff.mp hv
  refine ⟨key, hkey, ?_, ?_, ?_⟩
  · intro expiry now token claims hverify
    obtain ⟨p, hsigned, hclaims, -⟩ := Verifier.verify_eq_ok_iff.mp hverify
    obtain ⟨payload, hpayload, -, hclaims⟩ := Verifier.readClaims_eq_ok_iff.mp hclaims
    exact ⟨p, payload, hsigned, hpayload, hclaims⟩
  · intro expiry now token hnot
    exact verify_of_not_isSigned hnot
  · intro h hfamily
    obtain ⟨secret, hsource, -, rfl⟩ := Verifier.loadKey_of_shared hfamily hkey
    refine ⟨secret, hsource, ?_, ?_, ?_⟩
    · exact fun token p hp => hp.eq_ofList hfamily
    · exact fun token p token' p' hp hp' hsigned => hp.unique hfamily hp' hsigned
    · intro expiry now token hnot
      constructor
      · intro hcount
        exact Verifier.verify_of_checkSignature (Verifier.checkSignature_of_count_dot hcount)
      · intro p hparts
        exact Verifier.verify_of_checkSignature
          (checkSignature_of_not_isSigned hfamily rfl hparts hnot)

/-- With the secret `k`, a token that was made with it is accepted and so it is signed, and a text with a single dot
is malformed at all times. -/
theorem verify_signed_shared :
    let s : Settings := ⟨.hs256, some (.secret ⟨"k"⟩), "username", none, none, 0⟩
    let v : Verifier := ⟨.hs256, .shared (Utf8.encode "k"), "username", none, none, 0⟩
    let token := sign (.object [("username", .string "u")]) "k"
    Verifier.ofSettings s (fun _ => .error .missing) = .ok v
      ∧ v.verify .skip .epoch token = .ok ⟨"u", none, none, [], none, none, none⟩
      ∧ (∃ p, IsSigned .hs256 (.shared (Utf8.encode "k")) token p)
      ∧ ∀ expiry now, v.verify expiry now "header.payload" = .error (.malformed .shape) := by
  intro s v token
  have hv : Verifier.ofSettings s (fun _ => .error .missing) = .ok v := by decide +kernel
  have hverify : v.verify .skip .epoch token = .ok ⟨"u", none, none, [], none, none, none⟩ := by
    decide +kernel
  obtain ⟨key, hkey, haccepted, -, hshared⟩ := verify_signed s (fun _ => .error .missing) v hv
  have hkey' : Verifier.loadKey s (fun _ => .error .missing) = .ok (.shared (Utf8.encode "k")) := rfl
  obtain rfl := Except.ok.inj (hkey'.symm.trans hkey)
  obtain ⟨p, -, hsigned, -⟩ := haccepted .skip .epoch token _ hverify
  obtain ⟨_, -, -, -, hrejected⟩ := hshared .sha256 rfl
  refine ⟨hv, hverify, ⟨p, hsigned⟩, fun expiry now => ?_⟩
  have hcount : "header.payload".toList.count '.' = 1 := by decide +kernel
  refine (hrejected expiry now "header.payload" ?_).1 (by omega)
  rintro ⟨q, hq⟩
  have hdots := hq.parts.count_dot
  omega

end TopicGuard.Token
