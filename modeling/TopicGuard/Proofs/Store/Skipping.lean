import TopicGuard.Proofs.Store.Asking
import TopicGuard.Proofs.Token.Window

/-!
What the two flags for skipping the validity window change.

A store has one flag for the questions about an identity and one for those about a topic. A decision looks at the flag
for its question only (`decision_skipping_congr`), and the flag decides nothing but whether the window counts. So with
the flag a question is answered as it is without the flag at an instant inside the window, whatever the time is
(`decision_skipping_of_isInForce`), and a token that is rejected for anything but its window is refused with any flags
and at any time (`decision_skipping_of_rejected`).

The statements are about decisions before the database is asked: two that are equal ask the same query, if any, and
judge every reply alike.
-/

set_option autoImplicit false

namespace TopicGuard

/-! ## The window in verification -/

namespace Token

variable {v : Verifier} {expiry expiry' : Expiry} {now now' : Instant} {token : String} {claims : Claims}
  {r : Rejection}

/-- The instant is in the validity window, moved outwards by the leeway. A bound that is missing is open. -/
structure Claims.IsInForce (c : Claims) (now : Instant) (leeway : UInt64) : Prop where
  begun : ∀ t, c.notBefore = some t → t.seconds - leeway.toNat ≤ now.seconds
  lasting : ∀ t, c.expiresAt = some t → now.seconds ≤ t.seconds + leeway.toNat

theorem Claims.isInForce_iff {leeway : UInt64} :
    claims.IsInForce now leeway ↔ claims.checkWindow now leeway = .ok () := by
  rw [Claims.checkWindow_eq_ok_iff]
  constructor
  · intro h
    exact ⟨h.begun, h.lasting⟩
  · intro h
    exact ⟨h.1, h.2⟩

/-- With the window it is accepted at the instants inside, with the same claims. -/
theorem verify_of_isInForce (h : v.verify .skip now token = .ok claims) (hinside : claims.IsInForce now' v.leeway) :
    v.verify .enforce now' token = .ok claims := by
  obtain ⟨p, hsigned, hclaims, -⟩ := Verifier.verify_eq_ok_iff.mp h
  exact Verifier.verify_eq_ok_iff.mpr ⟨p, hsigned, hclaims, fun _ => Claims.isInForce_iff.mp hinside⟩

/-- At all other instants it is rejected. -/
theorem exists_rejection_of_not_isInForce (h : v.verify .skip now token = .ok claims)
    (houtside : ¬ claims.IsInForce now' v.leeway) : ∃ r, v.verify .enforce now' token = .error r := by
  obtain ⟨p, hsigned, hclaims, -⟩ := Verifier.verify_eq_ok_iff.mp h
  rw [Claims.isInForce_iff] at houtside
  rw [Verifier.verify_enforce_of_readClaims hsigned hclaims]
  cases hwindow : claims.checkWindow now' v.leeway with
  | error r => exact ⟨r, rfl⟩
  | ok passed => exact absurd hwindow houtside

/-- A token that is rejected for anything but its window is rejected for that at all times, with the window and
without. -/
theorem verify_of_rejected (h : v.verify expiry now token = .error r) (hexpired : r ≠ .expired)
    (hearly : r ≠ .notYetValid) : v.verify expiry' now' token = .error r := by
  rcases v.reads_or_rejects token with ⟨p, claims, hsigned, hclaims⟩ | ⟨r', hrejected⟩
  · -- Its claims can be read, so what is left to reject it is the window.
    have hskip : v.verify .skip now token = .ok claims := Verifier.verify_eq_ok_iff.mpr ⟨p, hsigned, hclaims, nofun⟩
    cases expiry with
    | skip =>
      rw [hskip] at h
      cases h
    | enforce =>
      rw [Verifier.verify_enforce_of_readClaims hsigned hclaims, Outcome.map_eq_error_iff] at h
      rcases Claims.checkWindow_eq_error h with hr | hr
      · exact absurd hr hearly
      · exact absurd hr hexpired
  · have hr : r' = r := by
      have h' := hrejected v.leeway expiry now
      exact Except.error.inj (h'.symm.trans h)
    rw [← hr]
    exact hrejected v.leeway expiry' now'

end Token

namespace Store

open Policy (Question)

variable {s : Store} {settings : Settings} {verifier : Token.Verifier} {q : Question} {now now' : Instant}
  {token : String} {user access user' access' : Bool} {claims : Token.Claims} {r : Token.Rejection}

/-! ## Flags -/

/-- The store with these flags for questions about an identity and about a topic. -/
def skipping (s : Store) (user access : Bool) : Store :=
  { s with skipUserExpiration := user, skipAccessExpiration := access }

/-- The store with other flags is the one that is made from the settings with these flags. -/
theorem ofSettings_skipping (hs : ofSettings settings verifier = .ok s) :
    ofSettings { settings with skipUserExpiration := user, skipAccessExpiration := access } verifier
      = .ok (s.skipping user access) := by
  obtain ⟨hvalid, rfl⟩ := ofSettings_eq_ok_iff.mp hs
  exact ofSettings_eq_ok_iff.mpr ⟨hvalid, rfl⟩

theorem expiryFor_skipping : (s.skipping user access).expiryFor q = expiryUnder user access q := rfl

theorem judge_skipping {identity : String} : (s.skipping user access).judge identity q = s.judge identity q := by
  cases q <;> rfl

/-! ## Decisions under flags -/

/-- A decision looks at the flag for its question only. -/
theorem decision_skipping_congr (h : flagFor user access q = flagFor user' access' q) :
    (s.skipping user access).decision now token q = (s.skipping user' access').decision now token q := by
  cases q with
  | authenticate =>
    obtain rfl : user = user' := h
    rfl
  | isPrivileged =>
    obtain rfl : user = user' := h
    rfl
  | checkAccess topic clientId requested =>
    obtain rfl : access = access' := h
    rfl

/-- Once the token is accepted, neither the flags nor the time have a part in the decision. -/
theorem decision_skipping_of_ok (h : s.verifier.verify (expiryUnder user access q) now token = .ok claims) :
    (s.skipping user access).decision now token q =
      match s.templates.for? q with
      | none => .settled (.ok false)
      | some template => .ask ⟨template, parametersFor claims.identity q⟩ (s.judge claims.identity q) := by
  cases hfor : s.templates.for? q with
  | none => exact decision_of_no_template hfor
  | some template =>
    have hverify : (s.skipping user access).verifier.verify ((s.skipping user access).expiryFor q) now token
        = .ok claims := by
      rw [expiryFor_skipping]
      exact h
    have htemplate : (s.skipping user access).templates.for? q = some template := hfor
    rw [decision_of_template htemplate, consult_of_ok hverify, judge_skipping]

/-- A question about a token that is rejected is refused, and nothing is asked. -/
theorem decision_skipping_of_error (h : s.verifier.verify (expiryUnder user access q) now token = .error r) :
    (s.skipping user access).decision now token q = .settled (.ok false) := by
  cases hfor : s.templates.for? q with
  | none => exact decision_of_no_template hfor
  | some template =>
    have hverify : (s.skipping user access).verifier.verify ((s.skipping user access).expiryFor q) now token
        = .error r := by
      rw [expiryFor_skipping]
      exact h
    have htemplate : (s.skipping user access).templates.for? q = some template := hfor
    rw [decision_of_template htemplate, consult_of_error hverify]

/-- With its flag a question is answered as without it at an instant inside the window. -/
theorem decision_skipping_of_isInForce (hskip : flagFor user access q = true)
    (henforce : flagFor user' access' q = false) (hv : s.verifier.verify .skip now token = .ok claims)
    (hinside : claims.IsInForce now' s.verifier.leeway) :
    (s.skipping user access).decision now token q = (s.skipping user' access').decision now' token q := by
  have hwith : s.verifier.verify (expiryUnder user access q) now token = .ok claims := by
    rw [expiryUnder, hskip, if_pos rfl, hv]
  have hwithout : s.verifier.verify (expiryUnder user' access' q) now' token = .ok claims := by
    rw [expiryUnder, henforce, if_neg Bool.false_ne_true, Token.verify_of_isInForce hv hinside]
  rw [decision_skipping_of_ok hwith, decision_skipping_of_ok hwithout]

/-- Without the flag it is refused at an instant outside. -/
theorem decision_skipping_of_not_isInForce (henforce : flagFor user access q = false)
    (hv : s.verifier.verify .skip now token = .ok claims) (houtside : ¬ claims.IsInForce now' s.verifier.leeway) :
    (s.skipping user access).decision now' token q = .settled (.ok false) := by
  obtain ⟨r, hr⟩ := Token.exists_rejection_of_not_isInForce hv houtside
  apply decision_skipping_of_error
  rw [expiryUnder, henforce, if_neg Bool.false_ne_true, hr]

/-- A token that is rejected for anything but its window is refused under all flags at all times. -/
theorem decision_skipping_of_rejected {expiry : Token.Expiry} (h : s.verifier.verify expiry now token = .error r)
    (hexpired : r ≠ .expired) (hearly : r ≠ .notYetValid) :
    (s.skipping user access).decision now' token q = .settled (.ok false) :=
  decision_skipping_of_error (Token.verify_of_rejected h hexpired hearly)

/-- For settings that a store can be made from, with any flags, at any time and whatever the database replies: the flag
for identities has no part in a decision about a topic, and the flag for topics none in a decision about an identity. A
question under its own flag is answered as it is without the flag at any instant inside the validity window of the
token, and without the flag it is refused at every other instant. A token that is rejected, with the window or without
and at whatever time, for any other reason than its window, is refused under all flags and at all times, and the
database is not asked. -/
theorem skipping_only_window (settings : Settings) (verifier : Token.Verifier) (s : Store)
    (hs : ofSettings settings verifier = .ok s) :
    (∀ user access,
        ofSettings { settings with skipUserExpiration := user, skipAccessExpiration := access } verifier
          = .ok (s.skipping user access))
      ∧ (∀ user user' access now token topic clientId requested,
          (s.skipping user access).checkAccess now token topic clientId requested
            = (s.skipping user' access).checkAccess now token topic clientId requested)
      ∧ (∀ user access access' now token,
          (s.skipping user access).authenticate now token = (s.skipping user access').authenticate now token
            ∧ (s.skipping user access).isPrivileged now token = (s.skipping user access').isPrivileged now token)
      ∧ (∀ user access user' access' q now token claims, flagFor user access q = true →
          flagFor user' access' q = false → verifier.verify .skip now token = .ok claims → ∀ instant,
            (claims.IsInForce instant verifier.leeway →
              (s.skipping user access).decision now token q = (s.skipping user' access').decision instant token q)
            ∧ (¬ claims.IsInForce instant verifier.leeway →
              (s.skipping user' access').decision instant token q = .settled (.ok false)))
      ∧ ∀ expiry now token r, verifier.verify expiry now token = .error r → r ≠ .expired → r ≠ .notYetValid →
          ∀ user access now' q, (s.skipping user access).decision now' token q = .settled (.ok false) := by
  obtain ⟨-, -, rfl⟩ := for?_of_ofSettings (q := .authenticate) hs
  refine ⟨fun user access => ofSettings_skipping hs, ?_, ?_, ?_, ?_⟩
  · intro user user' access now token topic clientId requested
    exact decision_skipping_congr (q := .checkAccess topic clientId requested) rfl
  · intro user access access' now token
    constructor
    · exact decision_skipping_congr (q := .authenticate) rfl
    · exact decision_skipping_congr (q := .isPrivileged) rfl
  · intro user access user' access' q now token claims hskip henforce hv instant
    constructor
    · intro hinside
      exact decision_skipping_of_isInForce hskip henforce hv hinside
    · intro houtside
      exact decision_skipping_of_not_isInForce henforce hv houtside
  · intro expiry now token r h hexpired hearly user access now' q
    exact decision_skipping_of_rejected h hexpired hearly

/-- A token for the first day of 1970 at the latest instant that there is: with its flag a question is answered as on
that day, without it is refused. A text that is no token is refused with both flags as well. -/
theorem skipping_only_window_of_first_day :
    let settings : Settings :=
      ⟨"sqlite::memory:", 1, .ofSeconds 5, ⟨"users", some "superusers", "grants"⟩, false, false⟩
    let s : Store :=
      ⟨.ofSecret "k" "username" 30, ⟨"users", some "superusers", "grants"⟩, .ofSeconds 5, false, false⟩
    let token := Token.sign (.object (Token.dayClaims "u" Instant.epoch.seconds)) "k"
    let greatest : Instant := ⟨8210266876799, by decide, by decide⟩
    ofSettings { settings with skipUserExpiration := true, skipAccessExpiration := false } s.verifier
        = .ok (s.skipping true false)
      ∧ (∀ q ∈ [Question.authenticate, .isPrivileged],
        (s.skipping true false).decision greatest token q = s.decision .epoch token q
          ∧ s.decision greatest token q = .settled (.ok false)
          ∧ (s.skipping true true).decision greatest "garbage" q = .settled (.ok false))
      ∧ ∀ topic clientId requested,
        (s.skipping false true).checkAccess greatest token topic clientId requested
            = s.checkAccess .epoch token topic clientId requested
          ∧ (s.skipping true false).checkAccess greatest token topic clientId requested = .settled (.ok false) := by
  intro settings s token greatest
  have hs : ofSettings settings s.verifier = .ok s := ofSettings_eq_ok_iff.mpr ⟨by decide +kernel, rfl⟩
  obtain ⟨hmade, haccess, -, hwindow, hrejected⟩ := skipping_only_window settings s.verifier s hs
  let claims : Token.Claims := ⟨"u", some "user", some "jwt-test", ["jwt-test"], none, some .epoch,
    some ⟨86400, by decide, by decide⟩⟩
  have hfits : Json.FitsMembers 0 (Token.dayClaims "u" Instant.epoch.seconds) :=
    Token.fitsMembers_dayClaims "u" .epoch
  have hv : s.verifier.verify .skip greatest token = .ok claims :=
    (Token.verify_sign_eq_ok_iff (by decide) hfits).mpr ⟨Token.ofPayload_dayClaims (by decide) rfl, nofun⟩
  have hgarbage : s.verifier.verify .skip greatest "garbage" = .error (.malformed .shape) := by
    decide +kernel
  have hinside : claims.IsInForce .epoch 30 := by
    constructor
    · intro t ht
      cases ht
      decide
    · intro t ht
      cases ht
      decide
  have houtside : ¬ claims.IsInForce greatest 30 := by
    intro h
    exact absurd (h.lasting _ rfl) (by decide)
  refine ⟨hmade true false, ?_, ?_⟩
  · intro q hq
    obtain ⟨hwith, hwithout⟩ : flagFor true false q = true ∧ flagFor false false q = false := by
      obtain rfl | rfl := by simpa using hq
      · exact ⟨rfl, rfl⟩
      · exact ⟨rfl, rfl⟩
    refine ⟨?_, ?_, ?_⟩
    · exact (hwindow true false false false q greatest token claims hwith hwithout hv .epoch).1 hinside
    · exact (hwindow true false false false q greatest token claims hwith hwithout hv greatest).2 houtside
    · exact hrejected .skip greatest "garbage" _ hgarbage nofun nofun true true greatest q
  · intro topic clientId requested
    constructor
    · exact (hwindow false true false false (.checkAccess topic clientId requested) greatest token claims rfl rfl hv
        .epoch).1 hinside
    · rw [haccess true false false greatest token topic clientId requested]
      exact (hwindow false true false false (.checkAccess topic clientId requested) greatest token claims rfl rfl hv
        greatest).2 houtside

end Store

end TopicGuard
