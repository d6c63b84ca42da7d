import TopicGuard.Proofs.Json.Writing
import TopicGuard.Proofs.Token.Claims

/-!
Which payloads are read, and as what.

Seven things are demanded of a payload, in a fixed order (`Demand.all`). What each of them demands is a condition on the
value that the payload has for one claim (`Demand.IsMet`), and the claims that are read hold this value as it is
(`Claims.AreOf`). Reading is checking the demands one after the other (`ofPayload_discard`), so a payload that does not
meet them all is refused for the first that it does not meet.

The name of the claim for the identity is free. It may be one for which there is a demand of its own; then the payload
has to meet both.
-/

set_option autoImplicit false

namespace TopicGuard

/-- A number of seconds is an instant exactly if it is the number of one. -/
theorem Instant.ofSeconds?_eq_some_iff {n : Int} {t : Instant} : ofSeconds? n = some t ↔ n = t.seconds := by
  constructor
  · intro h
    unfold ofSeconds? at h
    split at h
    · cases h
      rfl
    · cases h
  · rintro rfl
    exact ofSeconds?_seconds t

namespace Token

open Outcome (map_eq_ok_iff map_eq_error_iff exists_ok_iff map_unit_bind mapM_eq_ok_iff exists_error_of_mapM
  forM_eq_ok_iff forM_eq_error_iff toOption_eq_some_iff)

variable {payload : Payload} {claim name : String} {r : Rejection}

/-! ## Values of single claims -/

namespace Payload

/-- No claim is a decimal. What is nested in arrays and objects does not matter. -/
def HasNoDecimals (payload : Payload) : Prop :=
  ∀ claim d, Json.lookup? payload claim ≠ some (.number (.decimal d))

/-- Numbers that are 64-bit integers are no decimals, however deep the payload is. -/
theorem hasNoDecimals_of_fits {depth : Nat} (h : Json.FitsMembers depth payload) : payload.HasNoDecimals := by
  intro claim d hvalue
  obtain ⟨m, hm, hd⟩ := Option.map_eq_some_iff.mp hvalue
  have hmem : m ∈ payload := List.mem_reverse.mp (List.mem_of_find?_eq_some hm)
  have hfits := Json.fitsMembers_iff.mp h m hmem
  rw [hd] at hfits
  exact hfits

/-- The claim is this text, or there is none and the claim is missing or null. -/
def HasText (payload : Payload) (claim : String) : Option String → Prop
  | none => ¬ payload.Carries claim
  | some s => Json.lookup? payload claim = some (.string s)

/-- The claim is the number of seconds of this instant, or there is none and the claim is missing or null. -/
def HasTime (payload : Payload) (claim : String) : Option Instant → Prop
  | none => ¬ payload.Carries claim
  | some t => Json.lookup? payload claim = some (.number (.int t.seconds))

/-- The audience is these texts: none if it is missing or null, one if it is a text, and those of a list of texts. -/
inductive HasAudience (payload : Payload) : List String → Prop where
  | missing : ¬ payload.Carries "aud" → HasAudience payload []
  | one (s : String) : Json.lookup? payload "aud" = some (.string s) → HasAudience payload [s]
  /-- The texts stand in the order of the list. -/
  | many (texts : List String) :
    Json.lookup? payload "aud" = some (.array (texts.map .string)) → HasAudience payload texts

theorem carries_of_string {s : String} (hvalue : Json.lookup? payload claim = some (.string s)) :
    payload.Carries claim :=
  ⟨.string s, hvalue, by simp⟩

/-- A claim that is a text has no other text. -/
theorem HasText.eq_some {text : Option String} {s : String} (h : payload.HasText claim text)
    (hvalue : Json.lookup? payload claim = some (.string s)) : text = some s := by
  cases text with
  | none => exact absurd (carries_of_string hvalue) h
  | some s' =>
    cases h.symm.trans hvalue
    rfl

/-- A claim that holds a time, or none, is no text. -/
theorem HasTime.ne_string {time : Option Instant} {s : String} (h : payload.HasTime claim time) :
    Json.lookup? payload claim ≠ some (.string s) := by
  intro hvalue
  cases time with
  | none => exact h (carries_of_string hvalue)
  | some t => cases h.symm.trans hvalue

/-- An audience that is a text is this text alone. -/
theorem HasAudience.eq_singleton {texts : List String} {s : String} (h : payload.HasAudience texts)
    (hvalue : Json.lookup? payload "aud" = some (.string s)) : texts = [s] := by
  cases h with
  | missing hmissing => exact absurd (carries_of_string hvalue) hmissing
  | one s' hone =>
    cases hone.symm.trans hvalue
    rfl
  | many texts hmany => cases hmany.symm.trans hvalue

end Payload

namespace Claims

/-- The claims hold the values of the payload, no more and no less. -/
structure AreOf (c : Claims) (payload : Payload) (claim : String) : Prop where
  identity : Json.lookup? payload claim = some (.string c.identity) ∧ c.identity ≠ ""
  subject : payload.HasText "sub" c.subject
  issuer : payload.HasText "iss" c.issuer
  audience : payload.HasAudience c.audience
  issuedAt : payload.HasTime "iat" c.issuedAt
  notBefore : payload.HasTime "nbf" c.notBefore
  expiresAt : payload.HasTime "exp" c.expiresAt

/-- The claim for the identity may be another claim as well, which then holds the identity. It is never one that holds a
time. -/
theorem AreOf.of_shared {c : Claims} (h : c.AreOf payload claim) :
    (claim = "sub" → c.subject = some c.identity) ∧ (claim = "iss" → c.issuer = some c.identity)
      ∧ (claim = "aud" → c.audience = [c.identity]) ∧ claim ≠ "iat" ∧ claim ≠ "nbf" ∧ claim ≠ "exp" := by
  have hvalue := h.identity.1
  refine ⟨?_, ?_, ?_, ?_, ?_, ?_⟩
  · rintro rfl
    exact h.subject.eq_some hvalue
  · rintro rfl
    exact h.issuer.eq_some hvalue
  · rintro rfl
    exact h.audience.eq_singleton hvalue
  · rintro rfl
    exact h.issuedAt.ne_string hvalue
  · rintro rfl
    exact h.notBefore.ne_string hvalue
  · rintro rfl
    exact h.expiresAt.ne_string hvalue

theorem textOf_eq_ok_iff_hasText {text : Option String} :
    textOf payload claim = .ok text ↔ payload.HasText claim text := by
  rw [textOf_eq_ok_iff]
  cases text with
  | none => simp [Payload.HasText]
  | some s => simp [Payload.HasText]

/-- A list can be read as an audience exactly if all that is in it are texts. -/
theorem mapM_audienceEntry_eq_ok_iff {items : List Json} {texts : List String} :
    items.mapM audienceEntry = .ok texts ↔ items = texts.map .string := by
  have hentry (x : Json) (s : String) : audienceEntry x = .ok s ↔ x = .string s := by
    cases x <;> simp [audienceEntry]
  simp only [mapM_eq_ok_iff, hentry]
  rw [← List.forall₂_map_right_iff, List.forall₂_eq_eq_eq]

theorem audienceOf_eq_ok_iff_hasAudience {texts : List String} :
    audienceOf payload = .ok texts ↔ payload.HasAudience texts := by
  rw [audienceOf_eq_ok_iff]
  constructor
  · rintro (⟨rfl, hmissing⟩ | htexts)
    · exact .missing hmissing
    · obtain ⟨x, hvalue, hx⟩ := Option.bind_eq_some_iff.mp htexts
      cases x with
      | string s =>
        cases hx
        exact .one s hvalue
      | array items =>
        rw [Payload.texts?_array, toOption_eq_some_iff, mapM_audienceEntry_eq_ok_iff] at hx
        rw [hx] at hvalue
        exact .many texts hvalue
      | _ => cases hx
  · intro h
    cases h with
    | missing hmissing => exact Or.inl ⟨rfl, hmissing⟩
    | one s hvalue =>
      right
      rw [hvalue]
      rfl
    | many texts hvalue =>
      right
      rw [hvalue, Option.bind_some, Payload.texts?_array, toOption_eq_some_iff, mapM_audienceEntry_eq_ok_iff]

/-- An integer that is no instant is an error, and is not taken for a claim that is missing. -/
theorem timeOf_eq_ok_iff_of_int {n : Int} {time : Option Instant}
    (hvalue : Json.lookup? payload claim = some (.number (.int n))) :
    timeOf payload claim = .ok time ↔ ∃ t, time = some t ∧ n = t.seconds := by
  simp only [timeOf, hvalue, seconds?, Option.bind_some, ← Instant.ofSeconds?_eq_some_iff]
  cases Instant.ofSeconds? n with
  | none => simp
  | some t => simp [eq_comm]

theorem timeOf_eq_ok_iff_hasTime (h : payload.HasNoDecimals) {time : Option Instant} :
    timeOf payload claim = .ok time ↔ payload.HasTime claim time := by
  cases hvalue : Json.lookup? payload claim with
  | none => cases time <;> simp [timeOf, Payload.HasTime, Payload.Carries, hvalue]
  | some x =>
    cases x with
    | number n =>
      cases n with
      | decimal d => exact absurd hvalue (h claim d)
      | int n =>
        rw [timeOf_eq_ok_iff_of_int hvalue]
        cases time <;> simp [Payload.HasTime, Payload.Carries, hvalue]
    | _ => cases time <;> simp [timeOf, Payload.HasTime, Payload.Carries, hvalue]

/-- Without decimals, the claims that are read are exactly those that hold the values of the payload. -/
theorem ofPayload_eq_ok_iff_areOf (h : payload.HasNoDecimals) {c : Claims} :
    ofPayload payload claim = .ok c ↔ c.AreOf payload claim := by
  rw [ofPayload_eq_ok_iff, identityOf_eq_ok_iff, textOf_eq_ok_iff_hasText, textOf_eq_ok_iff_hasText,
    audienceOf_eq_ok_iff_hasAudience, timeOf_eq_ok_iff_hasTime h, timeOf_eq_ok_iff_hasTime h,
    timeOf_eq_ok_iff_hasTime h]
  constructor
  · rintro ⟨hidentity, hsubject, hissuer, haudience, hissuedAt, hnotBefore, hexpiresAt⟩
    exact ⟨hidentity, hsubject, hissuer, haudience, hissuedAt, hnotBefore, hexpiresAt⟩
  · intro hc
    exact ⟨hc.identity, hc.subject, hc.issuer, hc.audience, hc.issuedAt, hc.notBefore, hc.expiresAt⟩

/-! ## Errors of single claims -/

/-- Whatever is wrong with the claim for the identity, the identity counts as missing. -/
theorem identityOf_eq_error (h : identityOf payload claim = .error r) : r = .missingIdentity claim := by
  unfold identityOf at h
  split at h
  · split at h <;> cases h
    rfl
  · cases h
    rfl

theorem textOf_eq_error (h : textOf payload claim = .error r) : r = .malformed (.notText claim) := by
  unfold textOf at h
  split at h <;> cases h
  rfl

theorem audienceEntry_eq_error {x : Json} (h : audienceEntry x = .error r) : r = .malformed .audienceEntry := by
  unfold audienceEntry at h
  split at h <;> cases h
  rfl

theorem timeOf_eq_error (h : timeOf payload claim = .error r) : r = .malformed (.notTimestamp claim) := by
  unfold timeOf at h
  split at h
  · cases h
  · cases h
  · split at h <;> cases h
    rfl
  · cases h
    rfl

end Claims

/-! ## Demands -/

/-- What a payload has to be like. -/
inductive Demand where
  /-- The claim for the identity names one. -/
  | identity
  | text (claim : String)
  | audience
  | time (claim : String)

/-- The rejection is about the form of the token, and its wording begins with the claim. -/
def Rejection.Names (r : Rejection) (claim : String) : Prop :=
  ∃ defect rest, r = .malformed defect ∧ defect.message = "'" ++ claim ++ "' claim " ++ rest

namespace Demand

/-- All demands, in the order in which they are checked. -/
def all : List Demand := [.identity, .text "sub", .text "iss", .audience, .time "iat", .time "nbf", .time "exp"]

/-- The claim that a demand is about, unless it is the one for the identity. -/
def claim? : Demand → Option String
  | .identity => none
  | .text name | .time name => some name
  | .audience => some "aud"

/-- What a demand asks of the value of its claim: of the identity that it is a text and not empty; of the other claims
only that, if they are there and not null, they are a text, a text or a list of texts, or a whole number that is an
instant. -/
def IsMet (payload : Payload) (claim : String) : Demand → Prop
  | .identity => ∃ s, Json.lookup? payload claim = some (.string s) ∧ s ≠ ""
  | .text name => payload.Carries name → ∃ s, Json.lookup? payload name = some (.string s)
  | .audience =>
    payload.Carries "aud" →
      (∃ s, Json.lookup? payload "aud" = some (.string s))
        ∨ ∃ texts : List String, Json.lookup? payload "aud" = some (.array (texts.map .string))
  | .time name =>
    payload.Carries name →
      ∃ n, Json.lookup? payload name = some (.number (.int n)) ∧ -8334601228800 ≤ n ∧ n ≤ 8210266876799

/-- How a payload is refused that does not meet the demand. -/
def rejection (payload : Payload) (claim : String) : Demand → Rejection
  | .identity => .missingIdentity claim
  | .text name => .malformed (.notText name)
  | .audience =>
    match Json.lookup? payload "aud" with
    | some (.array _) => .malformed .audienceEntry
    | _ => .malformed .audienceKind
  | .time name => .malformed (.notTimestamp name)

/-- The payload does not meet the demand, but all that are checked before it. -/
def IsFirstUnmet (payload : Payload) (claim : String) (demand : Demand) : Prop :=
  ∃ before after, all = before ++ demand :: after
    ∧ (∀ earlier ∈ before, earlier.IsMet payload claim) ∧ ¬ demand.IsMet payload claim

/-- The part of the reading that is about one demand. -/
def check (payload : Payload) (claim : String) : Demand → Except Rejection Unit
  | .identity => (Claims.identityOf payload claim).map fun _ => ()
  | .text name => (Claims.textOf payload name).map fun _ => ()
  | .audience => (Claims.audienceOf payload).map fun _ => ()
  | .time name => (Claims.timeOf payload name).map fun _ => ()

variable {demand : Demand}

/-- The check of a demand passes exactly if the demand is met. -/
theorem check_eq_ok_iff (h : payload.HasNoDecimals) :
    demand.check payload claim = .ok () ↔ demand.IsMet payload claim := by
  cases demand with
  | identity => simp [check, IsMet, map_eq_ok_iff, Claims.identityOf_eq_ok_iff]
  | text name =>
    simp only [check, IsMet, map_eq_ok_iff, Claims.textOf_eq_ok_iff_hasText, and_true]
    rw [Option.exists, imp_iff_not_or]
    rfl
  | audience =>
    simp only [check, IsMet, map_eq_ok_iff, Claims.audienceOf_eq_ok_iff_hasAudience, and_true]
    constructor
    · rintro ⟨texts, htexts⟩ hcarries
      cases htexts with
      | missing hmissing => exact absurd hcarries hmissing
      | one s hvalue => exact Or.inl ⟨s, hvalue⟩
      | many texts hvalue => exact Or.inr ⟨texts, hvalue⟩
    · intro hmet
      by_cases hcarries : payload.Carries "aud"
      · rcases hmet hcarries with ⟨s, hvalue⟩ | ⟨texts, hvalue⟩
        · exact ⟨[s], .one s hvalue⟩
        · exact ⟨texts, .many texts hvalue⟩
      · exact ⟨[], .missing hcarries⟩
  | time name =>
    simp only [check, IsMet, map_eq_ok_iff, Claims.timeOf_eq_ok_iff_hasTime h, and_true]
    rw [Option.exists, imp_iff_not_or]
    refine or_congr Iff.rfl ?_
    constructor
    · rintro ⟨t, hvalue⟩
      exact ⟨t.seconds, hvalue, t.least_le, t.le_greatest⟩
    · rintro ⟨n, hvalue, hleast, hgreatest⟩
      exact ⟨⟨n, hleast, hgreatest⟩, hvalue⟩

theorem rejection_of_check (hcheck : demand.check payload claim = .error r) : demand.rejection payload claim = r := by
  cases demand with
  | identity => exact (Claims.identityOf_eq_error (map_eq_error_iff.mp hcheck)).symm
  | text name => exact (Claims.textOf_eq_error (map_eq_error_iff.mp hcheck)).symm
  | time name => exact (Claims.timeOf_eq_error (map_eq_error_iff.mp hcheck)).symm
  | audience =>
    have herror := map_eq_error_iff.mp hcheck
    unfold Claims.audienceOf at herror
    unfold rejection
    cases hvalue : Json.lookup? payload "aud" with
    | none =>
      rw [hvalue] at herror
      cases herror
    | some x =>
      rw [hvalue] at herror
      cases x with
      | array items =>
        obtain ⟨item, -, hitem⟩ := exists_error_of_mapM herror
        exact (Claims.audienceEntry_eq_error hitem).symm
      | _ => cases herror <;> rfl

/-- The check fails exactly if the demand is not met, with the rejection for this demand. -/
theorem check_eq_error_iff (h : payload.HasNoDecimals) :
    demand.check payload claim = .error r ↔ ¬ demand.IsMet payload claim ∧ demand.rejection payload claim = r := by
  rw [← check_eq_ok_iff h]
  constructor
  · intro hcheck
    refine ⟨?_, rejection_of_check hcheck⟩
    rw [hcheck]
    intro hok
    cases hok
  · rintro ⟨hfails, hrejection⟩
    cases hcheck : demand.check payload claim with
    | ok u => exact absurd hcheck hfails
    | error r' => rw [← hrejection, rejection_of_check hcheck]

/-- The rejection for a demand about a claim names this claim. -/
theorem names_rejection (hname : demand.claim? = some name) : (demand.rejection payload claim).Names name := by
  cases demand with
  | identity => cases hname
  | text =>
    cases hname
    refine ⟨.notText name, "is not a string", rfl, ?_⟩
    rw [String.append_assoc]
    rfl
  | time =>
    cases hname
    refine ⟨.notTimestamp name, "is not a valid timestamp", rfl, ?_⟩
    rw [String.append_assoc]
    rfl
  | audience =>
    cases hname
    unfold rejection
    cases Json.lookup? payload "aud" with
    | none => exact ⟨.audienceKind, "is not a string or array", rfl, rfl⟩
    | some x =>
      cases x with
      | array items => exact ⟨.audienceEntry, "has a non-string entry", rfl, rfl⟩
      | _ => exact ⟨.audienceKind, "is not a string or array", rfl, rfl⟩

end Demand

/-- Apart from the values, reading is checking one demand after the other. -/
theorem ofPayload_discard (payload : Payload) (claim : String) :
    (Claims.ofPayload payload claim).map (fun _ => ()) = forM Demand.all (Demand.check payload claim) := by
  show (fun _ => ()) <$> Claims.ofPayload payload claim = _
  simp only [Claims.ofPayload, Demand.all, List.forM_cons, List.forM_nil, map_bind, map_pure, Demand.check,
    map_unit_bind]

/-- A payload is refused for the first demand that it does not meet. -/
theorem ofPayload_eq_error_iff (h : payload.HasNoDecimals) :
    Claims.ofPayload payload claim = .error r ↔
      ∃ demand : Demand, demand.IsFirstUnmet payload claim ∧ demand.rejection payload claim = r := by
  rw [← map_eq_error_iff (f := fun _ => ()), ofPayload_discard, forM_eq_error_iff]
  simp only [Demand.check_eq_ok_iff h, Demand.check_eq_error_iff h]
  constructor
  · rintro ⟨before, demand, after, hsplit, hbefore, hunmet, hrejection⟩
    exact ⟨demand, ⟨before, after, hsplit, hbefore, hunmet⟩, hrejection⟩
  · rintro ⟨demand, ⟨before, after, hsplit, hbefore, hunmet⟩, hrejection⟩
    exact ⟨before, demand, after, hsplit, hbefore, hunmet, hrejection⟩

/-- A payload is read exactly if it meets all demands. -/
theorem exists_ofPayload_iff (h : payload.HasNoDecimals) :
    (∃ c, Claims.ofPayload payload claim = .ok c) ↔ ∀ demand ∈ Demand.all, demand.IsMet payload claim := by
  rw [exists_ok_iff, ofPayload_discard, forM_eq_ok_iff]
  exact forall₂_congr fun demand _ => Demand.check_eq_ok_iff h

/-- For every payload without decimals and every name of the claim for the identity, the name of another claim
included: the payload is read as some claims exactly if the claims hold its values, so that a claim that is also the one
for the identity holds the identity; it is read at all exactly if it meets every demand; and otherwise it is refused for
the first demand that it does not meet, as one whose identity is missing if that is the first demand, and with the name
of the claim if it is another.

Integers are not limited, so those of 64 bits that are no instant are among those that do not meet a demand. -/
theorem ofPayload_exact (payload : Payload) (claim : String) (h : payload.HasNoDecimals) :
    (∀ c, (Claims.ofPayload payload claim = .ok c ↔ c.AreOf payload claim)
        ∧ (c.AreOf payload claim →
          (claim = "sub" → c.subject = some c.identity) ∧ (claim = "iss" → c.issuer = some c.identity)
            ∧ (claim = "aud" → c.audience = [c.identity]) ∧ claim ≠ "iat" ∧ claim ≠ "nbf" ∧ claim ≠ "exp"))
      ∧ ((∃ c, Claims.ofPayload payload claim = .ok c) ↔ ∀ demand ∈ Demand.all, demand.IsMet payload claim)
      ∧ (∀ r, Claims.ofPayload payload claim = .error r ↔
          ∃ demand : Demand, demand.IsFirstUnmet payload claim ∧ demand.rejection payload claim = r)
      ∧ Demand.identity.rejection payload claim = .missingIdentity claim
      ∧ ∀ (demand : Demand) (name : String), demand.claim? = some name →
          (demand.rejection payload claim).Names name := by
  refine ⟨?_, exists_ofPayload_iff h, ?_, rfl, ?_⟩
  · intro c
    exact ⟨Claims.ofPayload_eq_ok_iff_areOf h, Claims.AreOf.of_shared⟩
  · intro r
    exact ofPayload_eq_error_iff h
  · intro demand name
    exact Demand.names_rejection

/-- A token for the last second there is, with the audiences in this order and the identity in the claim for the
subject. One second more is no instant, and no more is a second that only an unsigned number can count; and neither a
list of audiences nor a time names an identity. -/
theorem ofPayload_exact_of_last_second :
    let payload (expiry : Int) : Payload :=
      [("sub", .string "user"), ("iss", .null), ("aud", .array [.string "b", .string "a"]), ("nbf", .number (.int 0)),
        ("exp", .number (.int expiry))]
    (payload 8210266876799).HasNoDecimals
      ∧ Claims.ofPayload (payload 8210266876799) "sub" = .ok
          ⟨"user", some "user", none, ["b", "a"], none, some .epoch, some ⟨8210266876799, by decide, by decide⟩⟩
      ∧ Claims.ofPayload (payload 8210266876800) "sub" = .error (.malformed (.notTimestamp "exp"))
      ∧ Claims.ofPayload (payload 0x8000000000000000) "sub" = .error (.malformed (.notTimestamp "exp"))
      ∧ Claims.ofPayload (payload 0x8000000000000000) "aud" = .error (.missingIdentity "aud")
      ∧ Claims.ofPayload (payload 0x8000000000000000) "exp" = .error (.missingIdentity "exp") := by
  intro payload
  have hpayload (expiry : Int) (hleast : 0 ≤ expiry) (hgreatest : expiry ≤ 0xFFFFFFFFFFFFFFFF) :
      (payload expiry).HasNoDecimals := by
    have hfits : Json.FitsMembers 1 (payload expiry) := by
      simp only [payload, Json.FitsMembers, Json.Fits, Json.FitsItems, Json.Number.leastInt, Json.Number.greatestInt,
        true_and, and_true]
      omega
    exact Payload.hasNoDecimals_of_fits hfits
  have hlate (expiry : Int) (hlarge : 8210266876799 < expiry) (hgreatest : expiry ≤ 0xFFFFFFFFFFFFFFFF) :
      Claims.ofPayload (payload expiry) "sub" = .error (.malformed (.notTimestamp "exp")) := by
    obtain ⟨-, -, herror, -⟩ := ofPayload_exact (payload expiry) "sub" (hpayload expiry (by omega) hgreatest)
    refine (herror _).mpr ⟨.time "exp", ⟨Demand.all.dropLast, [], rfl, ?_, ?_⟩, rfl⟩
    · show ∀ earlier ∈ [Demand.identity, .text "sub", .text "iss", .audience, .time "iat", .time "nbf"], _
      simp only [List.forall_mem_cons]
      have hissuer : ¬ (payload expiry).Carries "iss" := Payload.not_carries_iff.mpr (Or.inr rfl)
      have hissuedAt : ¬ (payload expiry).Carries "iat" := Payload.not_carries_iff.mpr (Or.inl rfl)
      refine ⟨⟨"user", rfl, by decide⟩, fun _ => ⟨"user", rfl⟩, fun h => absurd h hissuer,
        fun _ => Or.inr ⟨["b", "a"], rfl⟩, fun h => absurd h hissuedAt, fun _ => ⟨0, rfl, by decide, by decide⟩, ?_⟩
      simp
    · intro hmet
      obtain ⟨n, hn, -, hle⟩ := hmet ⟨.number (.int expiry), rfl, by simp⟩
      cases hn
      omega
  have hunnamed (claim : String) (h : ∀ s, Json.lookup? (payload 0x8000000000000000) claim ≠ some (.string s)) :
      Claims.ofPayload (payload 0x8000000000000000) claim = .error (.missingIdentity claim) := by
    obtain ⟨-, -, herror, hidentity, -⟩ :=
      ofPayload_exact (payload 0x8000000000000000) claim (hpayload _ (by decide) (by decide))
    refine (herror _).mpr ⟨.identity, ⟨[], Demand.all.tail, rfl, by simp, ?_⟩, hidentity⟩
    rintro ⟨s, hs, -⟩
    exact h s hs
  have hlast := hpayload 8210266876799 (by decide) (by decide)
  refine ⟨hlast, ?_, hlate _ (by decide) (by decide), hlate _ (by decide) (by decide), ?_, ?_⟩
  · obtain ⟨hclaims, -⟩ := ofPayload_exact (payload 8210266876799) "sub" hlast
    refine (hclaims _).1.mpr ⟨⟨rfl, by decide⟩, rfl, ?_, .many ["b", "a"] rfl, ?_, rfl, rfl⟩
    · exact Payload.not_carries_iff.mpr (Or.inr rfl)
    · exact Payload.not_carries_iff.mpr (Or.inl rfl)
  · apply hunnamed
    intro s hs
    cases hs
  · apply hunnamed
    intro s hs
    cases hs

end Token

end TopicGuard
