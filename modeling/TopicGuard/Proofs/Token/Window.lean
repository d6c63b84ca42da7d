import TopicGuard.Proofs.Token.Signing

/-!
When a token is in force.

The window is compared with a clock in 64-bit arithmetic: the leeway is cut off at the end of the range, and so are the
sum and the difference with the time. No instant is near enough to the ends for that to matter
(`saturate_add_lt_iff`, `lt_saturate_sub_iff`), so each of the three outcomes is a comparison of integers. From these
comparisons follows how the outcome moves with the clock: it is too early, then in force, then too late, in this order,
and a greater leeway moves both changes outwards.

Nothing but the window looks at the clock or at the leeway. What holds of claims holds of the tokens that carry them
(`verify_enforce_cases`).
-/

set_option autoImplicit false

namespace TopicGuard.Token

open Outcome (map_eq_ok_iff map_eq_error_iff)

namespace Claims

variable {c : Claims} {now later : Instant} {leeway more : UInt64}

/-! ## The three outcomes -/

/-- The first bound is still to come, and is further away than the leeway. -/
def IsEarly (c : Claims) (now : Instant) (leeway : UInt64) : Prop :=
  ∃ t, c.notBefore = some t ∧ now.seconds + leeway.toNat < t.seconds

/-- The second bound has passed, and is further away than the leeway. -/
def IsLate (c : Claims) (now : Instant) (leeway : UInt64) : Prop :=
  ∃ t, c.expiresAt = some t ∧ t.seconds < now.seconds - leeway.toNat

theorem not_isEarly_iff :
    ¬ c.IsEarly now leeway ↔ ∀ t, c.notBefore = some t → t.seconds - leeway.toNat ≤ now.seconds := by
  unfold IsEarly
  rw [not_exists]
  refine forall_congr' fun t => ?_
  rw [not_and]
  refine imp_congr_right fun _ => ?_
  omega

theorem not_isLate_iff :
    ¬ c.IsLate now leeway ↔ ∀ t, c.expiresAt = some t → now.seconds ≤ t.seconds + leeway.toNat := by
  unfold IsLate
  rw [not_exists]
  refine forall_congr' fun t => ?_
  rw [not_and]
  refine imp_congr_right fun _ => ?_
  omega

/-- A window is kept if the time is neither early nor late. -/
theorem checkWindow_eq_ok_iff_not :
    c.checkWindow now leeway = .ok () ↔ ¬ c.IsEarly now leeway ∧ ¬ c.IsLate now leeway := by
  rw [checkWindow_eq_ok_iff, not_isEarly_iff, not_isLate_iff]

/-- The first bound is compared first, so for a token that is early it does not matter whether it is late as well. -/
theorem checkWindow_of_isEarly (h : c.IsEarly now leeway) : c.checkWindow now leeway = .error .notYetValid := by
  obtain ⟨t, ht, hlt⟩ := h
  rw [checkWindow_eq, if_pos]
  rw [ht, Option.any_some, decide_eq_true_eq]
  exact hlt

/-- The end of the window is looked at after its beginning. -/
theorem checkWindow_of_isLate (h : ¬ c.IsEarly now leeway) (hlate : c.IsLate now leeway) :
    c.checkWindow now leeway = .error .expired := by
  obtain ⟨t, ht, hlt⟩ := hlate
  rw [checkWindow_eq, if_neg, if_pos]
  · rw [ht, Option.any_some, decide_eq_true_eq]
    exact hlt
  · intro hany
    rw [Option.any_eq_true] at hany
    apply h
    simpa only [IsEarly, decide_eq_true_eq] using hany

/-- The window is not yet open exactly if the time is early, whether or not it is late as well. -/
theorem checkWindow_eq_notYetValid_iff :
    c.checkWindow now leeway = .error .notYetValid ↔ c.IsEarly now leeway := by
  by_cases hearly : c.IsEarly now leeway
  · simp [checkWindow_of_isEarly hearly, hearly]
  · by_cases hlate : c.IsLate now leeway
    · simp [checkWindow_of_isLate hearly hlate, hearly]
    · simp [checkWindow_eq_ok_iff_not.mpr ⟨hearly, hlate⟩, hearly]

/-- It has closed exactly if the time is late and not early. -/
theorem checkWindow_eq_expired_iff :
    c.checkWindow now leeway = .error .expired ↔ ¬ c.IsEarly now leeway ∧ c.IsLate now leeway := by
  by_cases hearly : c.IsEarly now leeway
  · simp [checkWindow_of_isEarly hearly, hearly]
  · by_cases hlate : c.IsLate now leeway
    · simp [checkWindow_of_isLate hearly hlate, hearly, hlate]
    · simp [checkWindow_eq_ok_iff_not.mpr ⟨hearly, hlate⟩, hlate]

/-- There are no other outcomes. -/
theorem checkWindow_eq_error {r : Rejection} (h : c.checkWindow now leeway = .error r) :
    r = .notYetValid ∨ r = .expired := by
  by_cases hearly : c.IsEarly now leeway
  · rw [checkWindow_of_isEarly hearly, Except.error.injEq] at h
    exact .inl h.symm
  by_cases hlate : c.IsLate now leeway
  · rw [checkWindow_of_isLate hearly hlate, Except.error.injEq] at h
    exact .inr h.symm
  · rw [checkWindow_eq_ok_iff_not.mpr ⟨hearly, hlate⟩] at h
    cases h

/-! ## How they move -/

/-- A token that is early at a time was early before. -/
theorem IsEarly.of_later (hle : now.seconds ≤ later.seconds) (h : c.IsEarly later leeway) : c.IsEarly now leeway := by
  obtain ⟨t, ht, hlt⟩ := h
  exact ⟨t, ht, by omega⟩

/-- A token that is late stays late. -/
theorem IsLate.at_later (hle : now.seconds ≤ later.seconds) (h : c.IsLate now leeway) : c.IsLate later leeway := by
  obtain ⟨t, ht, hlt⟩ := h
  exact ⟨t, ht, by omega⟩

/-- A token that is early with more leeway is early with less. -/
theorem IsEarly.of_le (hle : leeway ≤ more) (h : c.IsEarly now more) : c.IsEarly now leeway := by
  obtain ⟨t, ht, hlt⟩ := h
  have hnat := UInt64.le_iff_toNat_le.mp hle
  exact ⟨t, ht, by omega⟩

/-- A token that is late with more leeway is late with less. -/
theorem IsLate.of_le (hle : leeway ≤ more) (h : c.IsLate now more) : c.IsLate now leeway := by
  obtain ⟨t, ht, hlt⟩ := h
  have hnat := UInt64.le_iff_toNat_le.mp hle
  exact ⟨t, ht, by omega⟩

/-- A greater leeway keeps what a smaller one lets pass. -/
theorem checkWindow_of_le (hle : leeway ≤ more) (h : c.checkWindow now leeway = .ok ()) :
    c.checkWindow now more = .ok () := by
  rw [checkWindow_eq_ok_iff_not] at h ⊢
  obtain ⟨hearly, hlate⟩ := h
  constructor
  · intro hmore
    exact hearly (hmore.of_le hle)
  · intro hmore
    exact hlate (hmore.of_le hle)

/-- What has expired stays expired. -/
theorem checkWindow_later (hle : now.seconds ≤ later.seconds) (h : c.checkWindow now leeway = .error .expired) :
    c.checkWindow later leeway = .error .expired := by
  obtain ⟨hearly, hlate⟩ := checkWindow_eq_expired_iff.mp h
  apply checkWindow_of_isLate
  · intro hlater
    exact hearly (hlater.of_later hle)
  · exact hlate.at_later hle

/-- The seconds in which claims are in force lie between two seconds, both included. A bound that is missing is that of
all instants. -/
theorem exists_interval (c : Claims) (leeway : UInt64) :
    ∃ first last : Int, ∀ now : Instant,
      c.checkWindow now leeway = .ok () ↔ first ≤ now.seconds ∧ now.seconds ≤ last := by
  have hfirst : ∃ first : Int, ∀ now : Instant, ¬ c.IsEarly now leeway ↔ first ≤ now.seconds := by
    simp only [not_isEarly_iff]
    cases c.notBefore with
    | none => exact ⟨-8334601228800, fun now => by simp [now.least_le]⟩
    | some t => exact ⟨t.seconds - leeway.toNat, fun now => by simp⟩
  have hlast : ∃ last : Int, ∀ now : Instant, ¬ c.IsLate now leeway ↔ now.seconds ≤ last := by
    simp only [not_isLate_iff]
    cases c.expiresAt with
    | none => exact ⟨8210266876799, fun now => by simp [now.le_greatest]⟩
    | some t => exact ⟨t.seconds + leeway.toNat, fun now => by simp⟩
  obtain ⟨first, hfirst⟩ := hfirst
  obtain ⟨last, hlast⟩ := hlast
  refine ⟨first, last, ?_⟩
  intro now
  rw [checkWindow_eq_ok_iff_not, hfirst, hlast]

end Claims

/-! ## Tokens -/

namespace Verifier

/-- Either a token has claims, and their window alone decides, or it is rejected for one reason at every time and with
every leeway. -/
theorem verify_enforce_cases (v : Verifier) (token : String) :
    (∃ c : Claims, ∀ leeway now,
        ({ v with leeway } : Verifier).verify .enforce now token = (c.checkWindow now leeway).map fun _ => c)
      ∨ ∃ r, ∀ leeway now, ({ v with leeway } : Verifier).verify .enforce now token = .error r := by
  rcases v.reads_or_rejects token with ⟨p, c, hsigned, hclaims⟩ | ⟨r, hrejected⟩
  · left
    exact ⟨c, fun leeway now => verify_enforce_of_readClaims (v := { v with leeway }) hsigned hclaims⟩
  · right
    exact ⟨r, fun leeway now => hrejected leeway .enforce now⟩

variable {v : Verifier} {token : String} {now later : Instant}

/-- The seconds in which a token is accepted lie between two seconds as well; for one that is rejected whatever the time
is, there are none. -/
theorem exists_interval (v : Verifier) (token : String) :
    ∃ first last : Int, ∀ now : Instant,
      (∃ c, v.verify .enforce now token = .ok c) ↔ first ≤ now.seconds ∧ now.seconds ≤ last := by
  rcases v.verify_enforce_cases token with ⟨c, hverify⟩ | ⟨r, hverify⟩
  · obtain ⟨first, last, hinterval⟩ := c.exists_interval v.leeway
    refine ⟨first, last, ?_⟩
    intro now
    rw [hverify v.leeway now, ← hinterval now]
    cases c.checkWindow now v.leeway <;> simp [Except.map]
  · refine ⟨1, 0, ?_⟩
    intro now
    rw [hverify v.leeway now]
    constructor
    · rintro ⟨c, hc⟩
      cases hc
    · intro hempty
      omega

/-- More leeway accepts no fewer tokens. -/
theorem verify_of_le {more : UInt64} {c : Claims} (hle : v.leeway ≤ more) (h : v.verify .enforce now token = .ok c) :
    ({ v with leeway := more } : Verifier).verify .enforce now token = .ok c := by
  rcases v.verify_enforce_cases token with ⟨c', hverify⟩ | ⟨r, hverify⟩
  · rw [hverify v.leeway now, map_eq_ok_iff] at h
    obtain ⟨_, hwindow, rfl⟩ := h
    rw [hverify more now, Claims.checkWindow_of_le hle hwindow]
    rfl
  · rw [hverify v.leeway now] at h
    cases h

/-- A token that has expired does not come back. -/
theorem verify_later (hle : now.seconds ≤ later.seconds) (h : v.verify .enforce now token = .error .expired) :
    v.verify .enforce later token = .error .expired := by
  rcases v.verify_enforce_cases token with ⟨c, hverify⟩ | ⟨r, hverify⟩
  · rw [hverify v.leeway now, map_eq_error_iff] at h
    rw [hverify v.leeway later, Claims.checkWindow_later hle h]
    rfl
  · rw [hverify v.leeway now] at h
    rw [hverify v.leeway later, h]

end Verifier

/-- For all claims and every leeway, the window is that of unbounded integers. The claims are in force exactly from the
first bound to the second, both moved outwards by the leeway; they are too early exactly before that, whatever the
second bound is, and expired exactly if they are not too early and the second bound, moved by the leeway, has passed.

So the seconds in which they are in force are all those between two seconds; a greater leeway only adds to them; claims
that have expired stay expired; and where a first bound that is still to come hides that the second has passed, they are
in force at no later time. The same holds of the tokens that a verifier accepts. -/
theorem window_exact (c : Claims) (leeway : UInt64) :
    (∀ now : Instant,
        (c.checkWindow now leeway = .ok () ↔
            (∀ t, c.notBefore = some t → t.seconds - leeway.toNat ≤ now.seconds)
              ∧ ∀ t, c.expiresAt = some t → now.seconds ≤ t.seconds + leeway.toNat)
          ∧ (c.checkWindow now leeway = .error .notYetValid ↔
            ∃ t, c.notBefore = some t ∧ now.seconds + leeway.toNat < t.seconds)
          ∧ (c.checkWindow now leeway = .error .expired ↔
            (∀ t, c.notBefore = some t → t.seconds - leeway.toNat ≤ now.seconds)
              ∧ ∃ t, c.expiresAt = some t ∧ t.seconds < now.seconds - leeway.toNat))
      ∧ (∃ first last : Int, ∀ now : Instant,
          c.checkWindow now leeway = .ok () ↔ first ≤ now.seconds ∧ now.seconds ≤ last)
      ∧ (∀ now more, leeway ≤ more → c.checkWindow now leeway = .ok () → c.checkWindow now more = .ok ())
      ∧ (∀ now later : Instant, now.seconds ≤ later.seconds →
          (c.checkWindow now leeway = .error .expired → c.checkWindow later leeway = .error .expired)
            ∧ ∀ t, c.expiresAt = some t → t.seconds < now.seconds - leeway.toNat →
                c.checkWindow later leeway ≠ .ok ())
      ∧ ∀ (v : Verifier) (token : String),
          (∃ first last : Int, ∀ now : Instant,
              (∃ claims, v.verify .enforce now token = .ok claims) ↔ first ≤ now.seconds ∧ now.seconds ≤ last)
            ∧ (∀ now more claims, v.leeway ≤ more → v.verify .enforce now token = .ok claims →
                ({ v with leeway := more } : Verifier).verify .enforce now token = .ok claims)
            ∧ ∀ now later : Instant, now.seconds ≤ later.seconds →
                v.verify .enforce now token = .error .expired → v.verify .enforce later token = .error .expired := by
  refine ⟨?_, c.exists_interval leeway, ?_, ?_, ?_⟩
  · intro now
    refine ⟨Claims.checkWindow_eq_ok_iff, Claims.checkWindow_eq_notYetValid_iff, ?_⟩
    rw [Claims.checkWindow_eq_expired_iff, Claims.not_isEarly_iff]
    rfl
  · intro now more hle
    exact Claims.checkWindow_of_le hle
  · intro now later hle
    refine ⟨Claims.checkWindow_later hle, ?_⟩
    intro t ht hlt hok
    have hlate : c.IsLate now leeway := ⟨t, ht, hlt⟩
    exact (Claims.checkWindow_eq_ok_iff_not.mp hok).2 (hlate.at_later hle)
  · intro v token
    refine ⟨v.exists_interval token, ?_, ?_⟩
    · intro now more claims hle
      exact Verifier.verify_of_le hle
    · intro now later hle
      exact Verifier.verify_later hle

/-- Claims for the first day of 1970, half a minute before it and half a minute after it: the leeway of half a minute
reaches as far, the greatest leeway reaches everywhere, and one second later the day is over for good. -/
theorem window_exact_of_first_day :
    let last : Instant := ⟨86400, by decide, by decide⟩
    let c : Claims := ⟨"u", some "user", some "jwt-test", ["jwt-test"], none, some .epoch, some last⟩
    let early : Instant := ⟨-30, by decide, by decide⟩
    let late : Instant := ⟨86431, by decide, by decide⟩
    let greatest : Instant := ⟨8210266876799, by decide, by decide⟩
    let v := Verifier.ofSecret "k" "username" 30
    let token := sign (.object (dayClaims "u" Instant.epoch.seconds)) "k"
    (c.checkWindow early 30 = .ok () ∧ c.checkWindow early 0xFFFFFFFFFFFFFFFF = .ok ()
        ∧ c.checkWindow late 30 = .error .expired ∧ c.checkWindow greatest 30 = .error .expired
        ∧ c.checkWindow greatest 30 ≠ .ok ())
      ∧ v.verify .enforce early token = .ok c
      ∧ ({ v with leeway := 0xFFFFFFFFFFFFFFFF } : Verifier).verify .enforce early token = .ok c
      ∧ v.verify .enforce late token = .error .expired ∧ v.verify .enforce greatest token = .error .expired := by
  intro last c early late greatest v token
  obtain ⟨hexact, -, hmore, hlater, htokens⟩ := window_exact c 30
  obtain ⟨-, hmore', hlater'⟩ := htokens v token
  have hverify (now : Instant) : v.verify .enforce now token = (c.checkWindow now 30).map fun _ => c := by
    have hfits : Json.FitsMembers 0 (dayClaims "u" Instant.epoch.seconds) := fitsMembers_dayClaims "u" .epoch
    have hclaims : Claims.ofPayload (dayClaims "u" Instant.epoch.seconds) "username" = .ok c :=
      ofPayload_dayClaims (by decide) rfl
    exact verify_enforce_sign (by decide) hfits hclaims
  have hearly : c.checkWindow early 30 = .ok () := by
    refine (hexact early).1.mpr ⟨?_, ?_⟩
    · intro t ht
      cases ht
      decide
    · intro t ht
      cases ht
      decide
  have hlate : c.checkWindow late 30 = .error .expired := by
    refine (hexact late).2.2.mpr ⟨?_, _, rfl, by decide⟩
    intro t ht
    cases ht
    decide
  have hle : late.seconds ≤ greatest.seconds := by decide
  have hearly' : v.verify .enforce early token = .ok c := by
    rw [hverify, hearly]
    rfl
  have hlate' : v.verify .enforce late token = .error .expired := by
    rw [hverify, hlate]
    rfl
  refine ⟨⟨hearly, hmore early _ (by decide) hearly, hlate, ?_, ?_⟩, hearly', ?_, hlate', ?_⟩
  · exact (hlater late greatest hle).1 hlate
  · exact (hlater late greatest hle).2 _ rfl (by decide)
  · exact hmore' early _ c (by decide) hearly'
  · exact hlater' late greatest hle hlate'

end TopicGuard.Token
