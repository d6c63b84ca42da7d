import TopicGuard.Proofs.Outcome
import TopicGuard.Token.Payload

/-!
What the claims of a payload are.

A payload is read twice: once to check the registered claims and what is expected of them (`Payload`), once to make
the claims (`Claims.ofPayload`). The lemmas describe each reader of the second kind by the values that it accepts.
An expected value is compared with a claim only if the payload carries that claim, that is, has a value other than
null for it. Claims that were read are in force in a window of time, which `checkWindow_eq_ok_iff` gives without the
sums that stop at the ends of a range.
-/

set_option autoImplicit false

namespace TopicGuard.Token

open Outcome (bind_eq_ok_iff check_eq_ok_iff mapM_toOption)

variable {payload : Payload} {claim : String}

namespace Payload

/-- The claim has a value other than null. -/
def Carries (payload : Payload) (claim : String) : Prop :=
  ∃ x, Json.lookup? payload claim = some x ∧ x ≠ .null

theorem not_carries_iff :
    ¬ payload.Carries claim ↔
      Json.lookup? payload claim = none ∨ Json.lookup? payload claim = some .null := by
  unfold Carries
  cases hvalue : Json.lookup? payload claim with
  | none => simp
  | some x => simp [not_not]

/-- A claim that is not carried has no texts. -/
theorem texts?_of_not_carries (h : ¬ payload.Carries claim) :
    (Json.lookup? payload claim).bind texts? = none := by
  rcases not_carries_iff.mp h with hvalue | hvalue
  · rw [hvalue]
    rfl
  · rw [hvalue]
    rfl

/-- The texts of a list are what the reader of audiences makes of its entries. -/
theorem texts?_array (items : List Json) :
    texts? (.array items) = (items.mapM Claims.audienceEntry).toOption := by
  rw [mapM_toOption]
  change List.mapM _ items = List.mapM _ items
  congr 1
  funext x
  cases x <;> rfl

/-- An expected value is looked for among the texts of the claim, if there are any. -/
theorem agrees_iff {expected : Option String} :
    payload.agrees claim expected = true ↔
      ∀ value, expected = some value → ∀ texts, (Json.lookup? payload claim).bind texts? = some texts →
        value ∈ texts := by
  unfold agrees
  cases expected with
  | none => simp
  | some value =>
    cases (Json.lookup? payload claim).bind texts? with
    | none => simp
    | some texts => simp

end Payload

namespace Claims

/-! ## Single claims -/

/-- A claim that may be missing is a text or is not carried. -/
theorem textOf_eq_ok_iff {text : Option String} :
    textOf payload claim = .ok text ↔
      text = none ∧ ¬ payload.Carries claim
        ∨ ∃ s, text = some s ∧ Json.lookup? payload claim = some (.string s) := by
  rw [Payload.not_carries_iff]
  unfold textOf
  cases hvalue : Json.lookup? payload claim with
  | none => simp [eq_comm]
  | some x =>
    cases x <;> simp [eq_comm]

/-- The audiences are the texts of the claim, or it is not carried and there are none. -/
theorem audienceOf_eq_ok_iff {texts : List String} :
    audienceOf payload = .ok texts ↔
      texts = [] ∧ ¬ payload.Carries "aud"
        ∨ (Json.lookup? payload "aud").bind Payload.texts? = some texts := by
  rw [Payload.not_carries_iff]
  unfold audienceOf
  cases hvalue : Json.lookup? payload "aud" with
  | none => simp [eq_comm]
  | some x =>
    cases x with
    | array items =>
      simp only [Option.bind_some, Payload.texts?_array]
      cases items.mapM audienceEntry <;> simp [Except.toOption]
    | _ => simp [Payload.texts?, eq_comm]

/-- A claim that names an identity is a text that is not empty. -/
theorem identityOf_eq_ok_iff {identity : String} :
    identityOf payload claim = .ok identity ↔
      Json.lookup? payload claim = some (.string identity) ∧ identity ≠ "" := by
  unfold identityOf
  cases hvalue : Json.lookup? payload claim with
  | none => simp
  | some x =>
    cases x with
    | string s =>
      rw [check_eq_ok_iff, Except.ok.injEq, Option.some.injEq, Json.string.injEq, String.isEmpty_iff]
      constructor
      · rintro ⟨hs, rfl⟩
        exact ⟨rfl, hs⟩
      · rintro ⟨rfl, hs⟩
        exact ⟨hs, rfl⟩
    | _ => simp

/-! ## All claims -/

/-- The claims of a payload are what the readers of the single claims give. -/
theorem ofPayload_eq_ok_iff {c : Claims} :
    ofPayload payload claim = .ok c ↔
      identityOf payload claim = .ok c.identity ∧ textOf payload "sub" = .ok c.subject
        ∧ textOf payload "iss" = .ok c.issuer ∧ audienceOf payload = .ok c.audience
        ∧ timeOf payload "iat" = .ok c.issuedAt ∧ timeOf payload "nbf" = .ok c.notBefore
        ∧ timeOf payload "exp" = .ok c.expiresAt := by
  unfold ofPayload
  simp only [bind_eq_ok_iff]
  constructor
  · rintro ⟨identity, hidentity, subject, hsubject, issuer, hissuer, audience, haudience, issuedAt,
      hissuedAt, notBefore, hnotBefore, expiresAt, hexpiresAt, h⟩
    cases h
    exact ⟨hidentity, hsubject, hissuer, haudience, hissuedAt, hnotBefore, hexpiresAt⟩
  · rintro ⟨hidentity, hsubject, hissuer, haudience, hissuedAt, hnotBefore, hexpiresAt⟩
    exact ⟨_, hidentity, _, hsubject, _, hissuer, _, haudience, _, hissuedAt, _, hnotBefore, _,
      hexpiresAt, rfl⟩

/-! ## The validity window -/

variable {c : Claims} {now t : Instant} {leeway : UInt64}

/-- A sum stops at the end of the 64-bit range only where no instant can be beyond it. -/
theorem saturate_add_lt_iff :
    saturate (now.seconds + saturate leeway.toNat) < t.seconds ↔ now.seconds + leeway.toNat < t.seconds := by
  have hnow := now.least_le
  have ht := t.le_greatest
  have hleeway := leeway.toNat_lt
  unfold saturate
  omega

/-- The same for a difference. -/
theorem lt_saturate_sub_iff :
    t.seconds < saturate (now.seconds - saturate leeway.toNat) ↔ t.seconds < now.seconds - leeway.toNat := by
  have hnow := now.le_greatest
  have ht := t.least_le
  have hleeway := leeway.toNat_lt
  unfold saturate
  omega

/-- The window without the sums that stop. The first bound is compared first. -/
theorem checkWindow_eq :
    c.checkWindow now leeway =
      if c.notBefore.any fun t => now.seconds + leeway.toNat < t.seconds then .error .notYetValid
      else if c.expiresAt.any fun t => t.seconds < now.seconds - leeway.toNat then .error .expired
      else .ok () := by
  unfold checkWindow
  simp only [← saturate_add_lt_iff, ← lt_saturate_sub_iff]
  cases c.notBefore with
  | none =>
    cases c.expiresAt with
    | none => rfl
    | some t =>
      simp only [Option.any_none, Option.any_some, decide_eq_true_eq, Bool.false_eq_true, if_false]
      rfl
  | some t =>
    simp only [Option.any_some, decide_eq_true_eq]
    refine ite_congr rfl (fun _ => rfl) fun _ => ?_
    cases c.expiresAt with
    | none => rfl
    | some t =>
      simp only [Option.any_some, decide_eq_true_eq]
      rfl

/-- The window holds the instants from the first bound to the second, both moved outwards by the leeway. -/
theorem checkWindow_eq_ok_iff :
    c.checkWindow now leeway = .ok () ↔
      (∀ t, c.notBefore = some t → t.seconds - leeway.toNat ≤ now.seconds)
        ∧ ∀ t, c.expiresAt = some t → now.seconds ≤ t.seconds + leeway.toNat := by
  have hbound {bound : Option Instant} {p : Instant → Prop} [DecidablePred p] :
      ¬ bound.any (fun t => p t) = true ↔ ∀ t, bound = some t → ¬ p t := by
    cases bound <;> simp
  rw [checkWindow_eq, check_eq_ok_iff, check_eq_ok_iff, hbound, hbound, and_iff_left rfl]
  refine and_congr (forall_congr' fun t => imp_congr_right fun _ => ?_)
    (forall_congr' fun t => imp_congr_right fun _ => ?_)
  · omega
  · omega

end Claims

end TopicGuard.Token
