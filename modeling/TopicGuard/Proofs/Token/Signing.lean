import TopicGuard.Proofs.Json.Writing
import TopicGuard.Proofs.Text.Base64
import TopicGuard.Proofs.Token.Claims
import TopicGuard.Proofs.Token.Signature

/-!
Verification undoes signing.

A signed token carries the text of its claims with the members in order. The claims of a payload do not depend on the
order (`ofPayload_canonical`), and a payload in order repeats no claim, so that whatever has claims at all is readable
as well (`isReadable_canonical`). What is left is to read the text back, which is possible for all claims that fit
(`Json.Fits`).
-/

set_option autoImplicit false

namespace TopicGuard.Token

variable {payload : Payload} {claim : String} {c : Claims}

namespace Payload

/-! ## Payloads in order -/

/-- The payload that a token carries: the members in the order of their keys, the last one of every key. -/
def canonical (payload : Payload) : Payload :=
  Json.sortMembers (Json.canonicalMembers payload)

/-- In canonical order a claim has the value that it had, its own members in order as well. -/
theorem lookup?_canonical (payload : Payload) (claim : String) :
    Json.lookup? payload.canonical claim = (Json.lookup? payload claim).map Json.canonical := by
  rw [canonical, Json.lookup?_sortMembers, Json.lookup?_canonicalMembers]

/-- Members in order repeat no claim. -/
theorem isRepeated_of_inOrder (h : Json.InOrder payload) : payload.isRepeated claim = false := by
  induction payload with
  | nil => rfl
  | cons m payload ih =>
    obtain ⟨hm, hpayload⟩ := List.pairwise_cons.mp h
    have hrest := ih hpayload
    unfold isRepeated at hrest ⊢
    by_cases hkey : m.1 = claim
    · -- Behind a member with the key there are only greater keys.
      have hnone : payload.filter (fun m => m.1 == claim) = [] := by
        rw [List.filter_eq_nil_iff]
        intro n hn hclaim
        have hlt := hm n hn
        rw [beq_iff_eq.mp hclaim, hkey] at hlt
        exact String.lt_irrefl _ hlt
      rw [List.filter_cons_of_pos (by simpa using hkey), hnone]
      rfl
    · rw [List.filter_cons_of_neg (by simpa using hkey)]
      exact hrest

/-- No claim is left that stands twice. -/
theorem not_isRepeated_canonical (payload : Payload) (claim : String) :
    payload.canonical.isRepeated claim = false :=
  isRepeated_of_inOrder (Json.inOrder_sortMembers _)

end Payload

namespace Claims

/-! ## Claims of payloads in order -/

theorem identityOf_canonical (payload : Payload) (claim : String) :
    identityOf payload.canonical claim = identityOf payload claim := by
  unfold identityOf
  rw [Payload.lookup?_canonical]
  cases Json.lookup? payload claim with
  | none => rfl
  | some x => cases x <;> rfl

theorem textOf_canonical (payload : Payload) (claim : String) :
    textOf payload.canonical claim = textOf payload claim := by
  unfold textOf
  rw [Payload.lookup?_canonical]
  cases Json.lookup? payload claim with
  | none => rfl
  | some x => cases x <;> rfl

theorem timeOf_canonical (payload : Payload) (claim : String) :
    timeOf payload.canonical claim = timeOf payload claim := by
  unfold timeOf
  rw [Payload.lookup?_canonical]
  cases Json.lookup? payload claim with
  | none => rfl
  | some x => cases x <;> rfl

/-- The entries of a list that are texts stay what they are. -/
theorem mapM_audienceEntry_canonicalItems (items : List Json) :
    (Json.canonicalItems items).mapM audienceEntry = items.mapM audienceEntry := by
  induction items with
  | nil => rfl
  | cons x items ih =>
    have hentry : audienceEntry x.canonical = audienceEntry x := by cases x <;> rfl
    rw [Json.canonicalItems, List.mapM_cons, List.mapM_cons, hentry, ih]

theorem audienceOf_canonical (payload : Payload) :
    audienceOf payload.canonical = audienceOf payload := by
  unfold audienceOf
  rw [Payload.lookup?_canonical]
  cases Json.lookup? payload "aud" with
  | none => rfl
  | some x =>
    cases x with
    | array items => exact mapM_audienceEntry_canonicalItems items
    | _ => rfl

/-- The claims of a payload do not depend on the order of its members. -/
theorem ofPayload_canonical (payload : Payload) (claim : String) :
    ofPayload payload.canonical claim = ofPayload payload claim := by
  unfold ofPayload
  rw [identityOf_canonical, textOf_canonical, textOf_canonical, audienceOf_canonical, timeOf_canonical,
    timeOf_canonical, timeOf_canonical]

/-! ## Readable payloads -/

/-- A claim that was read as a text is no container. -/
theorem claimIs_isContainer_of_textOf {text : Option String} (h : textOf payload claim = .ok text) :
    payload.claimIs claim Payload.isContainer = false := by
  unfold textOf at h
  unfold Payload.claimIs
  cases hvalue : Json.lookup? payload claim with
  | none => rfl
  | some x =>
    rw [hvalue] at h
    cases x with
    | array items => cases h
    | object members => cases h
    | _ => rfl

/-- A claim that was read as a time is no container. -/
theorem claimIs_isFilledContainer_of_timeOf {t : Option Instant} (h : timeOf payload claim = .ok t) :
    payload.claimIs claim Payload.isFilledContainer = false := by
  unfold timeOf at h
  unfold Payload.claimIs
  cases hvalue : Json.lookup? payload claim with
  | none => rfl
  | some x =>
    rw [hvalue] at h
    cases x with
    | array items => cases h
    | object members => cases h
    | _ => rfl

/-- A payload in order that has claims is readable. -/
theorem isReadable_canonical (h : ofPayload payload claim = .ok c) : payload.canonical.isReadable = true := by
  -- A payload is unreadable if it repeats a claim, or if a claim that has to be a text or a time is a container.
  rw [← ofPayload_canonical] at h
  obtain ⟨-, hsubject, -, -, -, hnotBefore, hexpiresAt⟩ := ofPayload_eq_ok_iff.mp h
  have hrepeated : Payload.registered.any payload.canonical.isRepeated = false := by
    rw [List.any_eq_false]
    intro claim _ hrepeated
    rw [Payload.not_isRepeated_canonical] at hrepeated
    cases hrepeated
  unfold Payload.isReadable
  rw [hrepeated, claimIs_isContainer_of_textOf hsubject, claimIs_isFilledContainer_of_timeOf hnotBefore,
    claimIs_isFilledContainer_of_timeOf hexpiresAt]
  rfl

end Claims

/-! ## The parts of a signed token -/

variable {depth : Nat} {secret : String} {leeway : UInt64}

/-- The three parts that `sign` makes a token of. -/
def signedParts (payload : Payload) (secret : String) : Parts where
  header := Base64.encode .url (Utf8.encode signedHeader)
  payload := Base64.encode .url (Utf8.encode (Json.object payload).render)
  signature := VerificationKey.sharedSignature .sha256 (Utf8.encode secret)
    (Utf8.encodeChars (unsigned (.object payload)))

/-- What is written in base 64 has no dot. -/
theorem dot_not_mem_encode (bs : Bytes) : '.' ∉ Base64.encode .url bs := by
  intro h
  exact Base64.not_isDigit_dot _ (Base64.isDigit_of_mem_encode h)

/-- The parts of a token that is signed are the three it is joined from. -/
theorem areOf_sign (payload : Payload) (secret : String) :
    (signedParts payload secret).AreOf (sign (.object payload) secret).toList where
  eq := by
    rw [sign, String.toList_ofList]
    rfl
  payload := dot_not_mem_encode _
  signature := dot_not_mem_encode _

/-- The header of a token that is signed names its algorithm. -/
theorem readHeader_signedHeader :
    Verifier.readHeader (Base64.encode .url (Utf8.encode signedHeader)) = .ok ⟨.hs256⟩ := by
  decide +kernel

/-- A token that was made with a secret is signed for it. -/
theorem isSigned_sign (payload : Payload) (secret : String) :
    IsSigned .hs256 (.shared (Utf8.encode secret)) (sign (.object payload) secret) (signedParts payload secret) := by
  rw [isSigned_shared_iff rfl]
  exact ⟨areOf_sign payload secret, readHeader_signedHeader, rfl⟩

/-- The payload of a token is read back in order. -/
theorem readPayload_signedParts (hdepth : depth < Json.depthLimit) (h : Json.FitsMembers depth payload) :
    Verifier.readPayload (signedParts payload secret).payload = .ok payload.canonical := by
  -- The payload itself is one more container around its members.
  have hfits : Json.Fits Json.depthLimit (.object payload) := by
    rw [Json.Fits]
    exact ⟨by decide, h.mono (by unfold Json.depthLimit at *; omega)⟩
  have hbytes : Verifier.decodePart (signedParts payload secret).payload
      = .ok (Utf8.encode (Json.object payload).render) := by
    rw [Verifier.decodePart, signedParts, Base64.decode?_encode]
  unfold Verifier.readPayload
  refine Outcome.bind_eq_ok_iff.mpr ⟨_, hbytes, ?_⟩
  rw [Json.ofBytes?_render hfits]
  rfl

/-! ## Verification undoes signing -/

/-- Settings for tokens that are signed with a secret, without an expected issuer or audience. -/
def Settings.ofSecret (secret claim : String) (leeway : UInt64) : Settings :=
  ⟨.hs256, some (.secret ⟨secret⟩), claim, none, none, leeway⟩

/-- The verifier of such settings. -/
def Verifier.ofSecret (secret claim : String) (leeway : UInt64) : Verifier :=
  ⟨.hs256, .shared (Utf8.encode secret), claim, none, none, leeway⟩

/-- A secret and the name of a claim are enough for a verifier. -/
theorem Verifier.ofSettings_ofSecret (read : FileReader) (hsecret : secret ≠ "") (hclaim : claim ≠ "") :
    Verifier.ofSettings (Settings.ofSecret secret claim leeway) read = .ok (Verifier.ofSecret secret claim leeway) := by
  rw [Verifier.ofSettings_eq_ok_iff]
  refine ⟨hclaim, .shared (Utf8.encode secret), ?_, rfl⟩
  have hempty : (Secret.mk secret).isEmpty = false := by
    unfold Secret.isEmpty
    simpa using hsecret
  change (if (Secret.mk secret).isEmpty then _ else _) = _
  rw [hempty]
  rfl

/-- A token that was made with the secret is accepted exactly if its payload has claims, and for the window, too, if
that counts. -/
theorem verify_sign_eq_ok_iff {expiry : Expiry} {now : Instant} (hdepth : depth < Json.depthLimit)
    (h : Json.FitsMembers depth payload) :
    (Verifier.ofSecret secret claim leeway).verify expiry now (sign (.object payload) secret) = .ok c
      ↔ Claims.ofPayload payload claim = .ok c
        ∧ (expiry = .enforce → c.checkWindow now leeway = .ok ()) := by
  have hsigned := isSigned_sign payload secret
  have hpayload : Verifier.readPayload (signedParts payload secret).payload = .ok payload.canonical :=
    readPayload_signedParts hdepth h
  rw [Verifier.verify_eq_ok_iff_of_isSigned hsigned hpayload, Claims.ofPayload_canonical]
  -- No issuer and no audience is expected, and a payload with claims is readable, so the claims and the window are
  -- left.
  constructor
  · rintro ⟨-, hclaims, hwindow⟩
    exact ⟨hclaims, hwindow⟩
  · rintro ⟨hclaims, hwindow⟩
    exact ⟨⟨Claims.isReadable_canonical hclaims, rfl, rfl⟩, hclaims, hwindow⟩

/-- If the window counts, a token with claims is rejected for the window and for nothing else. -/
theorem verify_enforce_sign {now : Instant} (hdepth : depth < Json.depthLimit) (h : Json.FitsMembers depth payload)
    (hclaims : Claims.ofPayload payload claim = .ok c) :
    (Verifier.ofSecret secret claim leeway).verify .enforce now (sign (.object payload) secret)
      = (c.checkWindow now leeway).map fun _ => c := by
  have hread : (Verifier.ofSecret secret claim leeway).readClaims (signedParts payload secret).payload = .ok c := by
    rw [Verifier.readClaims_eq_ok_iff]
    refine ⟨payload.canonical, readPayload_signedParts hdepth h, ⟨Claims.isReadable_canonical hclaims, rfl, rfl⟩, ?_⟩
    rw [Claims.ofPayload_canonical]
    exact hclaims
  exact Verifier.verify_enforce_of_readClaims (isSigned_sign payload secret) hread

/-- A token that says nothing but a name is accepted at any time. -/
theorem verify_sign_name {expiry : Expiry} {now : Instant} {name : String} (hname : name ≠ "") :
    (Verifier.ofSecret secret "username" leeway).verify expiry now
        (sign (.object [("username", .string name)]) secret)
      = .ok ⟨name, none, none, [], none, none, none⟩ := by
  have hfits : Json.FitsMembers 0 [("username", .string name)] := by
    simp only [Json.FitsMembers, Json.Fits, and_self]
  have hclaims : Claims.ofPayload [("username", .string name)] "username"
      = .ok ⟨name, none, none, [], none, none, none⟩ := by
    rw [Claims.ofPayload_eq_ok_iff]
    exact ⟨Claims.identityOf_eq_ok_iff.mpr ⟨rfl, hname⟩, rfl, rfl, rfl, rfl, rfl, rfl⟩
  exact (verify_sign_eq_ok_iff (by decide) hfits).mpr ⟨hclaims, fun _ => rfl⟩

/-! ## Claims for a day -/

variable {identity : String} {start finish : Instant}

theorem fitsMembers_dayClaims (identity : String) (start : Instant) :
    Json.FitsMembers depth (dayClaims identity start.seconds) := by
  have hleast := start.least_le
  have hgreatest := start.le_greatest
  simp only [dayClaims, dayLength, Json.FitsMembers, Json.Fits, Json.Number.leastInt, Json.Number.greatestInt,
    true_and, and_true]
  omega

/-- The claims for a day name the identity and both ends of the day. -/
theorem ofPayload_dayClaims (hidentity : identity ≠ "") (hfinish : finish.seconds = start.seconds + dayLength) :
    Claims.ofPayload (dayClaims identity start.seconds) "username"
      = .ok ⟨identity, some "user", some "jwt-test", ["jwt-test"], none, some start, some finish⟩ := by
  have hname : Json.lookup? (dayClaims identity start.seconds) "username" = some (.string identity) := rfl
  have hstart : Json.lookup? (dayClaims identity start.seconds) "nbf" = some (.number (.int start.seconds)) := rfl
  have hend : Json.lookup? (dayClaims identity start.seconds) "exp" = some (.number (.int finish.seconds)) := by
    rw [hfinish]
    rfl
  have htime {claim : String} {t : Instant}
      (h : Json.lookup? (dayClaims identity start.seconds) claim = some (.number (.int t.seconds))) :
      Claims.timeOf (dayClaims identity start.seconds) claim = .ok (some t) := by
    unfold Claims.timeOf
    rw [h]
    simp only [Claims.seconds?, Option.bind_some, Instant.ofSeconds?_seconds]
  rw [Claims.ofPayload_eq_ok_iff]
  exact ⟨Claims.identityOf_eq_ok_iff.mpr ⟨hname, hidentity⟩, rfl, rfl, rfl, rfl, htime hstart, htime hend⟩

/-- Such a token is accepted on that day, and as long before and after it as the leeway reaches. -/
theorem verify_dayClaims_eq_ok_iff {now : Instant} (hidentity : identity ≠ "")
    (hfinish : finish.seconds = start.seconds + dayLength) :
    (Verifier.ofSecret secret "username" leeway).verify .enforce now
        (sign (.object (dayClaims identity start.seconds)) secret) = .ok c
      ↔ c = ⟨identity, some "user", some "jwt-test", ["jwt-test"], none, some start, some finish⟩
        ∧ start.seconds - leeway.toNat ≤ now.seconds ∧ now.seconds ≤ finish.seconds + leeway.toNat := by
  have hdepth : 0 < Json.depthLimit := by decide
  rw [verify_sign_eq_ok_iff hdepth (fitsMembers_dayClaims identity start), ofPayload_dayClaims hidentity hfinish,
    Except.ok.injEq, eq_comm]
  refine and_congr_right fun hc => ?_
  rw [hc, Claims.checkWindow_eq_ok_iff]
  simp

/-- Verification undoes signing. Let the payload have no numbers but integers of 64 bits, signed or not, and so few
containers inside each other that a reader of JSON accepts it. Then the verifier for the secret accepts the signed
token, with the window skipped, exactly if the payload has claims, and with these claims. If the window counts, the
claims have to be in the window as well, and a token whose claims are not is rejected with the error of the window.

In particular claims for a day, under the claim that names their identity, are accepted from their first second to
the same second a day later, both moved outwards by the leeway, and with that identity. -/
theorem verify_sign (secret claim : String) (leeway : UInt64) (read : FileReader) (hsecret : secret ≠ "")
    (hclaim : claim ≠ "") :
    (∃ v, Verifier.ofSettings (Settings.ofSecret secret claim leeway) read = .ok v
      ∧ ∀ depth < Json.depthLimit, ∀ payload, Json.FitsMembers depth payload → ∀ now,
        (∀ c, v.verify .skip now (sign (.object payload) secret) = .ok c
            ↔ Claims.ofPayload payload claim = .ok c)
          ∧ (∀ c, v.verify .enforce now (sign (.object payload) secret) = .ok c
            ↔ Claims.ofPayload payload claim = .ok c ∧ c.checkWindow now leeway = .ok ())
          ∧ ∀ c r, Claims.ofPayload payload claim = .ok c → c.checkWindow now leeway = .error r →
              v.verify .enforce now (sign (.object payload) secret) = .error r)
      ∧ ∃ v, Verifier.ofSettings (Settings.ofSecret secret "username" leeway) read = .ok v
        ∧ ∀ identity ≠ "", ∀ start finish : Instant, finish.seconds = start.seconds + dayLength → ∀ now,
          ((∃ c, v.verify .enforce now (sign (.object (dayClaims identity start.seconds)) secret) = .ok c)
              ↔ start.seconds - leeway.toNat ≤ now.seconds ∧ now.seconds ≤ finish.seconds + leeway.toNat)
            ∧ ∀ c, v.verify .enforce now (sign (.object (dayClaims identity start.seconds)) secret) = .ok c →
                c.identity = identity := by
  constructor
  · refine ⟨_, Verifier.ofSettings_ofSecret read hsecret hclaim, ?_⟩
    intro depth hdepth payload hpayload now
    refine ⟨fun c => ?_, fun c => ?_, ?_⟩
    · rw [verify_sign_eq_ok_iff hdepth hpayload]
      simp
    · rw [verify_sign_eq_ok_iff hdepth hpayload]
      simp
    · intro c r hclaims hwindow
      rw [verify_enforce_sign hdepth hpayload hclaims, hwindow]
      rfl
  · refine ⟨_, Verifier.ofSettings_ofSecret read hsecret (by decide), ?_⟩
    intro identity hidentity start finish hfinish now
    constructor
    · constructor
      · rintro ⟨c, hc⟩
        exact ((verify_dayClaims_eq_ok_iff hidentity hfinish).mp hc).2
      · intro hwindow
        exact ⟨_, (verify_dayClaims_eq_ok_iff hidentity hfinish).mpr ⟨rfl, hwindow⟩⟩
    · intro c hc
      obtain ⟨rfl, -⟩ := (verify_dayClaims_eq_ok_iff hidentity hfinish).mp hc
      rfl

/-- A payload with a control character, the greatest integer and nested containers is accepted with its claims. Claims
for the first day of 1970 are accepted half a minute before it under that leeway, and not earlier. -/
theorem verify_sign_nested :
    let payload : Payload := [("sub", .null), ("id", .string "a\x01\u00e9"),
      ("n", .number (.int 0xFFFFFFFFFFFFFFFF)), ("list", .array [.object [("m", .number (.int (-5)))], .array []])]
    let early : Instant := ⟨-30, by decide, by decide⟩
    let earlier : Instant := ⟨-31, by decide, by decide⟩
    let token := sign (.object (dayClaims "u" 0)) "k"
    Json.FitsMembers 125 payload
      ∧ ∃ v, Verifier.ofSettings (Settings.ofSecret "k" "id" 30) (fun _ => .error .missing) = .ok v
        ∧ v.verify .skip .epoch (sign (.object payload) "k") = .ok ⟨"a\x01\u00e9", none, none, [], none, none, none⟩
        ∧ ∃ w, Verifier.ofSettings (Settings.ofSecret "k" "username" 30) (fun _ => .error .missing) = .ok w
          ∧ (∃ c, w.verify .enforce early token = .ok c) ∧ ¬ ∃ c, w.verify .enforce earlier token = .ok c := by
  intro payload early earlier token
  have hfits : Json.FitsMembers 125 payload := by
    simp [payload, Json.FitsMembers, Json.FitsItems, Json.Fits, Json.Number.leastInt, Json.Number.greatestInt]
  have hclaims : Claims.ofPayload payload "id" = .ok ⟨"a\x01\u00e9", none, none, [], none, none, none⟩ := rfl
  have hday : (⟨86400, by decide, by decide⟩ : Instant).seconds = Instant.epoch.seconds + dayLength := rfl
  obtain ⟨⟨v, hv, hverify⟩, w, hw, hwindow⟩ :=
    verify_sign "k" "id" 30 (fun _ => .error .missing) (by decide) (by decide)
  obtain ⟨hskip, -, -⟩ := hverify 125 (by decide) payload hfits .epoch
  refine ⟨hfits, v, hv, (hskip _).mpr hclaims, w, hw, ?_, ?_⟩
  · exact (hwindow "u" (by decide) .epoch _ hday early).1.mpr (by decide)
  · intro haccepted
    have hearlier := (hwindow "u" (by decide) .epoch _ hday earlier).1.mp haccepted
    exact absurd hearlier.1 (by decide)

end TopicGuard.Token
