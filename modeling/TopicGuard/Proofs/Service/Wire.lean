import TopicGuard.Proofs.Json.Writing
import TopicGuard.Proofs.Text.Form
import TopicGuard.Proofs.Token.Alphabet
import TopicGuard.Service

/-!
What travels can be read.

The other end of the wire is a server that reads requests and writes responses. `readParameters?` is how it reads the
parameters of a question from a body, in either mode, and `Conveys` are the ways to write a verdict, in each of the
three. What the one end writes the other end reads: the parameters come back whole (`readParameters?_encode`), with
nothing added to them (`encode_access_lossless`), and so does the verdict (`decode_of_conveys`). The token needs no
reading: one that has been verified can stand in a header as it is (`isHeaderValue_of_verify`).
-/

set_option autoImplicit false

namespace TopicGuard.Service

variable {topic clientId : String} {level : AccessLevel} {allowed : Bool}

/-! ## Headers -/

/-- A text of visible ASCII characters can stand in the value of a header. -/
theorem isHeaderValue_of_visible {text : String} (h : ∀ c ∈ text.toList, 0x20 < c.toNat ∧ c.toNat < 0x7F) :
    isHeaderValue text = true := by
  rw [isHeaderValue, Utf8.encode, Utf8.encodeChars, List.all_flatMap, List.all_eq_true]
  intro c hc
  obtain ⟨hlow, hhigh⟩ := h c hc
  have hbyte : c.toNat.toUInt8.toNat = c.toNat := Utf8.toNat_toUInt8 (by omega)
  rw [Utf8.encodeChar_of_lt (by omega), List.all_cons, List.all_nil, Bool.and_true, isHeaderByte, hbyte]
  simp only [ne_eq, decide_not, Bool.or_eq_true, Bool.and_eq_true, decide_eq_true_eq, Bool.not_eq_true',
    decide_eq_false_iff_not]
  omega

/-- So can a token that has been verified. -/
theorem isHeaderValue_of_verify {v : Token.Verifier} {expiry : Token.Expiry} {now : Instant} {token : String}
    {claims : Token.Claims} (h : v.verify expiry now token = .ok claims) : isHeaderValue token = true :=
  isHeaderValue_of_visible fun _ hc => Token.toNat_mem_of_verify h hc

/-! ## Requests -/

/-- A level is the number that it is written as. -/
theorem ofInt?_toInt (level : AccessLevel) : AccessLevel.ofInt? level.toInt = some level := by
  unfold AccessLevel.ofInt?
  rw [if_pos ⟨level.minValue_le_toInt, level.toInt_le⟩, Int64.ofInt_toInt]

/-- A text in a document. -/
def textOf? : Json → Option String
  | .string s => some s
  | _ => none

/-- The parameters in a JSON object. -/
def parametersOfJson? : Json → Option Parameters
  | .object [] => some .none
  | .object members => do
    let topic ← (Json.lookup? members "topic").bind textOf?
    let clientId ← (Json.lookup? members "clientid").bind textOf?
    let level ← (Json.lookup? members "acc").bind AccessLevel.ofJson?
    return .access topic clientId level
  | _ => none

/-- The parameters in a form. -/
def parametersOfPairs? : List (String × String) → Option Parameters
  | [] => some .none
  | pairs => do
    let topic ← pairs.lookup "topic"
    let clientId ← pairs.lookup "clientid"
    let level ← ((pairs.lookup "acc").bind Numeral.integer?).bind AccessLevel.ofInt?
    return .access topic clientId level

/-- The parameters of a question, read from the body of a request. -/
def readParameters? (mode : ParamsMode) (body : Bytes) : Option Parameters :=
  match mode with
  | .json => (Json.ofBytes? body).bind parametersOfJson?
  | .form => ((Utf8.decode? body).bind Form.parse).bind parametersOfPairs?

/-- The parameters as a JSON value have texts and an integer in them and nothing else. -/
theorem fits_toJson (p : Parameters) : Json.Fits Json.depthLimit p.toJson := by
  cases p with
  | none =>
    rw [Parameters.toJson, Json.Fits]
    exact ⟨by decide, trivial⟩
  | access topic clientId level =>
    have hleast := level.le_toInt
    have hgreatest := level.toInt_lt
    simp only [Parameters.toJson, Json.Fits, Json.FitsMembers, Json.Number.leastInt, Json.Number.greatestInt,
      Json.depthLimit, true_and, and_true]
    omega

/-- Writing puts the members in order. -/
theorem canonical_toJson_access : (Parameters.access topic clientId level).toJson.canonical
    = .object [("acc", .number (.int level.toInt)), ("clientid", .string clientId), ("topic", .string topic)] := by
  have hclientId : "clientid" < "topic" := by decide
  have hacc : "acc" < "clientid" := by decide
  simp only [Parameters.toJson, Json.canonical, Json.canonicalMembers, Json.sortMembers, List.foldl_cons,
    List.foldl_nil, Json.insertMember, if_pos hclientId, if_pos hacc]

/-- The parameters are found in the value that they were written as. -/
theorem parametersOfJson?_canonical (p : Parameters) : parametersOfJson? p.toJson.canonical = some p := by
  cases p with
  | none => rfl
  | access topic clientId level =>
    rw [canonical_toJson_access]
    -- The keys are literals, so that only the level is left to read.
    change (AccessLevel.ofInt? level.toInt >>= fun level => some (Parameters.access topic clientId level)) = _
    rw [ofInt?_toInt]
    rfl

/-- The parameters are found among the pairs that they were written as. -/
theorem parametersOfPairs?_toPairs (p : Parameters) : parametersOfPairs? p.toPairs = some p := by
  cases p with
  | none => rfl
  | access topic clientId level =>
    change ((Numeral.integer? (toString level.toInt)).bind AccessLevel.ofInt? >>= fun level =>
      some (Parameters.access topic clientId level)) = _
    rw [Numeral.integer?_toString, Option.bind_some, ofInt?_toInt]
    rfl

/-- As JSON, a body is read as the value that its parameters are, with the members in order. -/
theorem ofBytes?_encode_json (p : Parameters) :
    Json.ofBytes? (Utf8.encode (encode .json p).body) = some p.toJson.canonical :=
  Json.ofBytes?_render (fits_toJson p)

/-- As a form, a body is read as the pairs that its parameters are. -/
theorem parse_encode_form (p : Parameters) :
    (Utf8.decode? (Utf8.encode (encode .form p).body)).bind Form.parse = some p.toPairs := by
  rw [Utf8.decode?_encode, Option.bind_some]
  exact Form.parse_render _

/-- Whatever the mode, the parameters are read back from the body of a request. -/
theorem readParameters?_encode (mode : ParamsMode) (p : Parameters) :
    readParameters? mode (Utf8.encode (encode mode p).body) = some p := by
  cases mode with
  | json => rw [readParameters?, ofBytes?_encode_json, Option.bind_some, parametersOfJson?_canonical]
  | form => rw [readParameters?, parse_encode_form, Option.bind_some, parametersOfPairs?_toPairs]

/-- In either mode, different parameters have different bodies. -/
theorem encode_body_inj {mode : ParamsMode} {p p' : Parameters} :
    Utf8.encode (encode mode p).body = Utf8.encode (encode mode p').body ↔ p = p' := by
  refine ⟨fun h => ?_, fun h => by rw [h]⟩
  have hread := readParameters?_encode mode p
  rw [h, readParameters?_encode] at hread
  exact (Option.some.inj hread).symm

/-- The body of a question about a topic says what was asked and nothing else, whatever characters the topic and the
client have in them and whatever the level is.

Read as JSON, it is the object of exactly three members; read as a form, it is the list of exactly three pairs, with
the level in decimal. So the same three parameters are read from it in either mode, and a topic, a client or a level
that is another one makes another body. -/
theorem encode_access_lossless (topic clientId : String) (level : AccessLevel) :
    Json.ofBytes? (Utf8.encode (encode .json (.access topic clientId level)).body)
        = some (.object [("acc", .number (.int level.toInt)), ("clientid", .string clientId),
            ("topic", .string topic)])
      ∧ (Utf8.decode? (Utf8.encode (encode .form (.access topic clientId level)).body)).bind Form.parse
        = some [("topic", topic), ("clientid", clientId), ("acc", toString level.toInt)]
      ∧ Numeral.integer? (toString level.toInt) = some level.toInt
      ∧ (∀ mode, readParameters? mode (Utf8.encode (encode mode (.access topic clientId level)).body)
          = some (.access topic clientId level))
      ∧ ∀ mode topic' clientId' level',
          Utf8.encode (encode mode (.access topic clientId level)).body
              = Utf8.encode (encode mode (.access topic' clientId' level')).body
            ↔ topic = topic' ∧ clientId = clientId' ∧ level = level' := by
  refine ⟨?_, ?_, Numeral.integer?_toString _, fun mode => readParameters?_encode mode _, ?_⟩
  · rw [ofBytes?_encode_json, canonical_toJson_access]
  · exact parse_encode_form (.access topic clientId level)
  · intro mode topic' clientId' level'
    rw [encode_body_inj, Parameters.access.injEq]

/-! ## Responses -/

/-- A JSON verdict with an explanation. -/
def verdictJson (allowed : Bool) (explanation : String) : Json :=
  .object [("ok", .bool allowed), ("error", .string explanation)]

/-- A reply conveys a verdict: as JSON, whatever the status; by the status, whatever the body; or as the word for
yes. -/
inductive Conveys : ResponseMode → Bool → Reply → Prop where
  | json (allowed : Bool) (status : Nat) (explanation : String) :
    Conveys .json allowed (.response status (.ok (Utf8.encode (verdictJson allowed explanation).render)))
  | statusYes (body : Except Lapse Bytes) : Conveys .status true (.response 200 body)
  | statusNo (status : Nat) (body : Except Lapse Bytes) (h : status ≠ 200) :
    Conveys .status false (.response status body)
  | textYes : Conveys .text true (.response 200 (.ok wordForYes))
  | textNo (status : Nat) (body : Bytes) (h : status ≠ 200 ∨ body ≠ wordForYes) :
    Conveys .text false (.response status (.ok body))

/-- In a JSON verdict the explanation is read, but only the verdict counts. -/
theorem verdict?_explained (explanation : String) :
    verdict? (.object [(.ofString "error", .string (.ofString explanation)), (.ofString "ok", .bool allowed)])
      = some allowed := by
  have hmembers : verdictLayout.ofMembers?
        [(.ofString "error", .string (.ofString explanation)), (.ofString "ok", .bool allowed)]
      = some [("error", .string (.ofString explanation)), ("ok", .bool allowed)] := by
    simp only [Json.Layout.ofMembers?, Json.text?_ofString]
    rfl
  have herror : Json.optional Json.Raw.isNull Json.Raw.text? (some (.string (.ofString explanation)))
      = some (some explanation) := by
    simp only [Json.optional, Json.Raw.isNull, Bool.false_eq_true, if_false, Json.Raw.text?, Json.text?_ofString,
      Option.map_some]
  rw [verdict?, Json.Layout.ofRaw?, hmembers]
  change (Json.optional Json.Raw.isNull Json.Raw.text? (some (.string (.ofString explanation)))).bind _ = _
  rw [herror]
  rfl

/-- A JSON verdict is read back. -/
theorem decode_verdictJson (status : Nat) (explanation : String) :
    decode .json status (Utf8.encode (verdictJson allowed explanation).render) = .ok allowed := by
  -- Writing puts the members in order.
  have hcanonical : (verdictJson allowed explanation).canonical
      = .object [("error", .string explanation), ("ok", .bool allowed)] := by
    have hlt : "error" < "ok" := by decide
    simp only [verdictJson, Json.canonical, Json.canonicalMembers, Json.sortMembers, List.foldl_cons, List.foldl_nil,
      Json.insertMember, if_pos hlt]
  have hread : Json.Raw.ofBytes? (Utf8.encode (verdictJson allowed explanation).render)
      = some (.object [(.ofString "error", .string (.ofString explanation)), (.ofString "ok", .bool allowed)]) := by
    rw [Utf8.encode, Json.render, String.toList_ofList, Json.Raw.ofBytes?_encodeChars, hcanonical]
    simp only [Json.Raw.ofJson, Json.Raw.membersOfJson]
  rw [decode, hread, Option.bind_some, verdict?_explained]

/-- A verdict that a reply conveys is the one that its status and its body are decoded as. -/
theorem decode_of_conveys {mode : ResponseMode} {reply : Reply} (h : Conveys mode allowed reply) :
    ∃ status body bytes, reply = .response status body ∧ (mode = .status ∨ body = .ok bytes)
      ∧ decode mode status bytes = .ok allowed := by
  cases h with
  | json _ status explanation => exact ⟨status, _, _, rfl, .inr rfl, decode_verdictJson status explanation⟩
  | statusYes body => exact ⟨200, body, [], rfl, .inl rfl, rfl⟩
  | statusNo status body h =>
    refine ⟨status, body, [], rfl, .inl rfl, ?_⟩
    rw [decode, beq_eq_false_iff_ne.mpr h]
  | textYes => exact ⟨200, _, wordForYes, rfl, .inr rfl, rfl⟩
  | textNo status body h =>
    refine ⟨status, _, body, rfl, .inr rfl, ?_⟩
    have hno : (status == 200 && body == wordForYes) = false := by
      rw [Bool.and_eq_false_iff, beq_eq_false_iff_ne, beq_eq_false_iff_ne]
      exact h
    rw [decode, hno]

end TopicGuard.Service
