import TopicGuard.Proofs.Json.Extent
import TopicGuard.Proofs.Json.Record
import TopicGuard.Service.Wire

/-!
JSON verdicts are read exactly.

`Gives` says which values are verdicts, without a reader: an object with one verdict among its members, under either of
two names, and with at most one explanation; or an array of the two. The reader works on the parts of a text and
through the layout of a record, and comes to the same (`verdict?_ofJson`). A text that is cut off or goes on is no
verdict, whatever it began with (`verdict?_of_isPrefix`, `verdict?_of_append`).
-/

set_option autoImplicit false

namespace TopicGuard.Service

open Json (Raw)

variable {allowed : Bool} {x : Json} {r : Raw} {members : List (String × Json)} {status : Nat}

/-! ## Verdicts -/

/-- The key of a verdict. -/
abbrev IsVerdictKey (key : String) : Prop :=
  key = "ok" ∨ key = "Ok"

/-- The key of an explanation. -/
abbrev IsExplanationKey (key : String) : Prop :=
  key = "error" ∨ key = "Error"

/-- The value of an explanation: a text, or null for none. -/
def IsExplanation : Json → Prop
  | .null | .string _ => True
  | _ => False

/-- A JSON value gives a verdict: an object in whose members there is exactly one verdict, which is a truth value, and
at most one explanation; or an array of the two, the explanation last or left out. -/
def Gives (allowed : Bool) : Json → Prop
  | .object members =>
    (∃ key, (members.filter fun m => IsVerdictKey m.1) = [(key, .bool allowed)])
      ∧ (members.filter fun m => IsExplanationKey m.1).length ≤ 1
      ∧ ∀ m ∈ members, IsExplanationKey m.1 → IsExplanation m.2
  | .array items => items = [.bool allowed] ∨ ∃ e, items = [.bool allowed, e] ∧ IsExplanation e
  | _ => False

/-! ## Records -/

/-- The names of the two fields. -/
theorem principal?_verdictLayout (key : String) : verdictLayout.principal? key =
    if IsVerdictKey key then some "ok" else if IsExplanationKey key then some "error" else none := by
  have hfind : verdictLayout.principal? key
      = ([["ok", "Ok"], ["error", "Error"]].find? fun names => names.contains key).bind List.head? := rfl
  have hnames (a b : String) : [a, b].contains key = decide (key = a ∨ key = b) := by
    simp
  rw [hfind, List.find?_cons, hnames, List.find?_cons, hnames, List.find?_nil]
  by_cases hverdict : key = "ok" ∨ key = "Ok"
  · rw [if_pos hverdict, decide_eq_true hverdict]
    rfl
  rw [if_neg hverdict, decide_eq_false hverdict]
  by_cases hexplanation : key = "error" ∨ key = "Error"
  · rw [if_pos hexplanation, decide_eq_true hexplanation]
    rfl
  · rw [if_neg hexplanation, decide_eq_false hexplanation]
    rfl

/-- The members that count as the verdict are those under one of its names. -/
theorem given_ok (members : List (String × Json)) :
    verdictLayout.given "ok" members = (members.filter fun m => IsVerdictKey m.1).map Prod.snd := by
  have hkey (key : String) : verdictLayout.principal? key = some "ok" ↔ IsVerdictKey key := by
    rw [principal?_verdictLayout]
    split
    · next h => exact iff_of_true rfl h
    · next h => exact iff_of_false (by split <;> simp) h
  simp only [Json.Layout.given, hkey]

/-- The members that count as the explanation are those under one of its names. -/
theorem given_error (members : List (String × Json)) :
    verdictLayout.given "error" members = (members.filter fun m => IsExplanationKey m.1).map Prod.snd := by
  have hkey (key : String) : verdictLayout.principal? key = some "error" ↔ IsExplanationKey key := by
    rw [principal?_verdictLayout]
    split
    · next h =>
      rcases h with rfl | rfl <;> decide
    · split
      · next h => exact iff_of_true rfl h
      · next h => exact iff_of_false nofun h
  simp only [Json.Layout.given, hkey]

/-- If neither of the two is given twice, no field of the layout is. -/
theorem length_given_le_one (hverdict : (verdictLayout.given "ok" members).length ≤ 1)
    (hexplanation : (verdictLayout.given "error" members).length ≤ 1) (name : String) :
    (verdictLayout.given name members).length ≤ 1 := by
  by_cases hok : name = "ok"
  · rw [hok]
    exact hverdict
  by_cases herror : name = "error"
  · rw [herror]
    exact hexplanation
  -- There are no other fields.
  have hkey (key : String) : verdictLayout.principal? key ≠ some name := by
    rw [principal?_verdictLayout]
    split
    · exact fun h => hok (Option.some.inj h).symm
    split
    · exact fun h => herror (Option.some.inj h).symm
    · nofun
  have hnone : verdictLayout.given name members = [] := by
    rw [Json.Layout.given, List.filter_eq_nil_iff.mpr fun m _ => by simpa using hkey m.1, List.map_nil]
  rw [hnone]
  exact Nat.zero_le _

/-- An explanation has been read, or there is none. -/
def ReadsExplanation (e : Option Raw) : Prop :=
  ∃ text, Json.optional Raw.isNull Raw.text? e = some text

/-- A value can be read as an explanation exactly if it is one. -/
theorem readsExplanation_ofJson {e : Json} : ReadsExplanation (some (Raw.ofJson e)) ↔ IsExplanation e := by
  unfold ReadsExplanation
  cases e with
  | string s => simp [Raw.ofJson, Json.optional, Raw.isNull, Raw.text?, Json.text?_ofString, IsExplanation]
  | _ => simp [Raw.ofJson, Json.optional, Raw.isNull, Raw.text?, IsExplanation]

theorem bool?_ofJson {v : Json} : (Raw.ofJson v).bool? = some allowed ↔ v = .bool allowed := by
  cases v <;> simp [Raw.ofJson, Raw.bool?]

/-- A verdict is read from a record that has one, and whose explanation can be read. -/
theorem verdict?_of_ofRaw? {fields : List (String × Raw)} (h : verdictLayout.ofRaw? r = some fields) :
    verdict? r = some allowed ↔ ReadsExplanation (fields.lookup "error")
      ∧ ∃ v, fields.lookup "ok" = some v ∧ v.bool? = some allowed := by
  simp only [verdict?, h, Option.bind_eq_bind, Option.bind_some, Option.bind_eq_some_iff, ReadsExplanation,
    exists_and_right]

theorem exists_ofRaw?_of_verdict? (h : verdict? r = some allowed) : ∃ fields, verdictLayout.ofRaw? r = some fields := by
  rw [verdict?, Option.bind_eq_bind, Option.bind_eq_some_iff] at h
  obtain ⟨fields, hread, -⟩ := h
  exact ⟨fields, hread⟩

/-- An array gives the verdict that its elements give by their places. -/
theorem verdict?_array (items : List Json) :
    verdict? (Raw.ofJson (.array items)) = some allowed ↔ Gives allowed (.array items) := by
  rw [Raw.ofJson, Gives]
  -- In an array the fields have their places, of which the second may be missing.
  match items with
  | [] => exact iff_of_false nofun (by rintro (h | ⟨e, h, -⟩) <;> cases h)
  | [v] =>
    have hfields : verdictLayout.ofRaw? (.array (Raw.itemsOfJson [v])) = some [("ok", Raw.ofJson v)] := rfl
    rw [verdict?_of_ofRaw? hfields]
    constructor
    · rintro ⟨-, w, hlookup, hw⟩
      cases hlookup
      exact .inl (by rw [bool?_ofJson.mp hw])
    · rintro (h | ⟨e, h, -⟩)
      · cases h
        exact ⟨⟨none, rfl⟩, _, rfl, rfl⟩
      · cases h
  | [v, e] =>
    have hfields : verdictLayout.ofRaw? (.array (Raw.itemsOfJson [v, e]))
        = some [("ok", Raw.ofJson v), ("error", Raw.ofJson e)] := rfl
    rw [verdict?_of_ofRaw? hfields]
    constructor
    · rintro ⟨he, w, hlookup, hw⟩
      cases hlookup
      exact .inr ⟨e, by rw [bool?_ofJson.mp hw], readsExplanation_ofJson.mp he⟩
    · rintro (h | ⟨e, h, he⟩)
      · cases h
      · cases h
        exact ⟨readsExplanation_ofJson.mpr he, _, rfl, rfl⟩
  | _ :: _ :: _ :: _ => exact iff_of_false nofun (by rintro (h | ⟨e, h, -⟩) <;> cases h)

/-- An object gives a verdict by what it gives to the two fields of the record. -/
theorem gives_object : Gives allowed (.object members) ↔ verdictLayout.given "ok" members = [.bool allowed]
    ∧ (verdictLayout.given "error" members).length ≤ 1
    ∧ ∀ e ∈ verdictLayout.given "error" members, IsExplanation e := by
  rw [Gives, given_ok, given_error, List.length_map, List.forall_mem_map]
  refine and_congr ?_ (and_congr Iff.rfl ?_)
  · constructor
    · rintro ⟨key, h⟩
      rw [h, List.map_singleton]
    · intro h
      obtain ⟨m, hm, hvalue⟩ := List.map_eq_singleton_iff.mp h
      exact ⟨m.1, by rw [hm, ← hvalue]⟩
  · simp only [List.mem_filter, decide_eq_true_eq, and_imp]

/-- The explanation that is looked up is the one that is given. -/
theorem readsExplanation_iff {e : Option Raw} {values : List Json} (h : e.toList = values.map Raw.ofJson) :
    ReadsExplanation e ↔ values.length ≤ 1 ∧ ∀ v ∈ values, IsExplanation v := by
  cases e with
  | none =>
    obtain rfl : values = [] := List.map_eq_nil_iff.mp h.symm
    exact iff_of_true ⟨none, rfl⟩ ⟨Nat.zero_le _, List.forall_mem_nil _⟩
  | some r =>
    obtain ⟨v, rfl, rfl⟩ := List.map_eq_singleton_iff.mp h.symm
    rw [readsExplanation_ofJson, List.forall_mem_singleton]
    exact (and_iff_right (Nat.le_refl _)).symm

/-- The verdict that is looked up is the one that is given. -/
theorem bool?_iff {o : Option Raw} {values : List Json} (h : o.toList = values.map Raw.ofJson) :
    (∃ v, o = some v ∧ v.bool? = some allowed) ↔ values = [.bool allowed] := by
  cases o with
  | none =>
    obtain rfl : values = [] := List.map_eq_nil_iff.mp h.symm
    exact iff_of_false nofun nofun
  | some r =>
    obtain ⟨v, rfl, rfl⟩ := List.map_eq_singleton_iff.mp h.symm
    simp only [Option.some.injEq, exists_eq_left', bool?_ofJson, List.cons.injEq, and_true]

/-- Where the fields of an object can be read, its verdict is the one that it gives. -/
theorem verdict?_of_ofMembers? {fields : List (String × Raw)}
    (h : verdictLayout.ofMembers? (Raw.membersOfJson members) = some fields) :
    verdict? (.object (Raw.membersOfJson members)) = some allowed ↔ Gives allowed (.object members) := by
  have hlookup := Json.Layout.lookup_of_ofMembers? h
  have hread : verdictLayout.ofRaw? (.object (Raw.membersOfJson members)) = some fields := h
  rw [verdict?_of_ofRaw? hread, readsExplanation_iff (hlookup "error"), bool?_iff (hlookup "ok"), gives_object,
    and_comm]

/-- An object gives the verdict that its members give by their names. -/
theorem verdict?_object : verdict? (Raw.ofJson (.object members)) = some allowed ↔ Gives allowed (.object members) := by
  rw [Raw.ofJson]
  constructor
  · intro h
    obtain ⟨fields, hread⟩ := exists_ofRaw?_of_verdict? h
    exact (verdict?_of_ofMembers? hread).mp h
  · intro h
    obtain ⟨hok, herror, -⟩ := gives_object.mp h
    have hone : (verdictLayout.given "ok" members).length ≤ 1 := by
      rw [hok]
      exact Nat.le_refl _
    -- Neither field is given two values, so there is a record.
    obtain ⟨fields, hread⟩ := Json.Layout.exists_ofMembers? (length_given_le_one hone herror)
    exact (verdict?_of_ofMembers? hread).mpr h

/-- A verdict is read from the parts of a value exactly if the value gives it. -/
theorem verdict?_ofJson : verdict? (Raw.ofJson x) = some allowed ↔ Gives allowed x := by
  cases x with
  | array items => exact verdict?_array items
  | object members => exact verdict?_object
  | _ => exact iff_of_false nofun id

/-! ## Responses -/

variable {body front behind : Bytes}

/-- The bytes of a JSON value, its members in the order that they have. -/
def bytesOf (x : Json) : Bytes :=
  Utf8.encodeChars x.renderChars

/-- In the mode for JSON, the verdict is the one that the body gives, and the status does not matter. -/
theorem decode_json_eq_ok_iff :
    decode .json status body = .ok allowed ↔ (Raw.ofBytes? body).bind verdict? = some allowed := by
  rw [decode]
  split
  · next h => rw [h, Except.ok.injEq, Option.some.injEq]
  · next h =>
    rw [h]
    exact iff_of_false nofun nofun

/-- A body that gives no verdict is malformed. -/
theorem decode_json_of_none (h : (Raw.ofBytes? body).bind verdict? = none) :
    decode .json status body = .error ⟨status⟩ := by
  rw [decode, h]

/-- Only arrays and objects give verdicts. -/
theorem isContainer_of_verdict? (h : verdict? r = some allowed) : r.IsContainer := by
  obtain ⟨fields, hread⟩ := exists_ofRaw?_of_verdict? h
  cases r with
  | array items => trivial
  | object members => trivial
  | _ => cases hread

/-- A value that breaks off gives no verdict. -/
theorem verdict?_of_isPrefix (h : front <+: bytesOf x) (hne : front ≠ bytesOf x) :
    (Raw.ofBytes? front).bind verdict? = none := by
  rw [Option.eq_none_iff_forall_ne_some]
  intro allowed hverdict
  obtain ⟨y, hread, hy⟩ := Option.bind_eq_some_iff.mp hverdict
  exact hne (Raw.eq_of_isPrefix_of_ofBytes? h hread (isContainer_of_verdict? hy))

/-- A value with more than blanks behind it gives no verdict. -/
theorem verdict?_of_append (h : ∃ b ∈ behind, ¬ Raw.IsBlankByte b) :
    (Raw.ofBytes? (bytesOf x ++ behind)).bind verdict? = none := by
  by_cases hx : ∀ n, x ≠ .number n
  · obtain ⟨b, hmem, hb⟩ := h
    rw [bytesOf, Raw.ofBytes?_append hx fun hall => hb (hall b hmem), Option.bind_none]
  · -- A number may go on behind its text, but it stays one.
    obtain ⟨n, rfl⟩ : ∃ n, x = .number n := by
      cases x with
      | number n => exact ⟨n, rfl⟩
      | _ => exact absurd nofun hx
    rw [Option.eq_none_iff_forall_ne_some]
    intro allowed hverdict
    obtain ⟨y, hread, hy⟩ := Option.bind_eq_some_iff.mp hverdict
    obtain ⟨c, cs, hcs, hc⟩ := Raw.leads_render n
    rw [bytesOf, Json.renderChars, Raw.ofBytes?, Utf8.scalars_encodeChars_append, hcs, List.map_cons,
      List.cons_append] at hread
    obtain ⟨m, rfl⟩ := Raw.exists_number_of_parse hc hread
    exact isContainer_of_verdict? hy

/-- A member that is neither a verdict nor an explanation does not matter. -/
theorem gives_insert {m : String × Json} {before after : List (String × Json)} (hverdict : ¬ IsVerdictKey m.1)
    (hexplanation : ¬ IsExplanationKey m.1) :
    Gives allowed (.object (before ++ m :: after)) ↔ Gives allowed (.object (before ++ after)) := by
  have hok : verdictLayout.given "ok" (before ++ m :: after) = verdictLayout.given "ok" (before ++ after) := by
    rw [given_ok, given_ok, List.filter_append, List.filter_append, List.filter_cons_of_neg (by simpa using hverdict)]
  have herror : verdictLayout.given "error" (before ++ m :: after) = verdictLayout.given "error" (before ++ after) := by
    rw [given_error, given_error, List.filter_append, List.filter_append,
      List.filter_cons_of_neg (by simpa using hexplanation)]
  rw [gives_object, gives_object, hok, herror]

/-- The bytes of a value give the verdict of the value. -/
theorem verdict?_bytesOf (x : Json) : (Raw.ofBytes? (bytesOf x)).bind verdict? = verdict? (Raw.ofJson x) := by
  rw [bytesOf, Raw.ofBytes?_encodeChars, Option.bind_some]

/-- JSON verdicts are read exactly, whatever the status.

The text of a value is a verdict if the value gives one, and the same one. In every other case it is malformed, and so
are every front of it but the whole and every text with anything but blanks behind it. Members under other keys do not
matter, and the status changes neither whether a body is a verdict nor which one. -/
theorem decode_json_exact (x : Json) (status : Nat) :
    (∀ allowed, decode .json status (bytesOf x) = .ok allowed ↔ Gives allowed x)
      ∧ ((∀ allowed, ¬ Gives allowed x) → decode .json status (bytesOf x) = .error ⟨status⟩)
      ∧ (∀ front, front <+: bytesOf x → front ≠ bytesOf x → decode .json status front = .error ⟨status⟩)
      ∧ (∀ behind, (∃ b ∈ behind, ¬ Raw.IsBlankByte b) →
          decode .json status (bytesOf x ++ behind) = .error ⟨status⟩)
      ∧ (∀ before m after, ¬ IsVerdictKey m.1 → ¬ IsExplanationKey m.1 →
          decode .json status (bytesOf (.object (before ++ m :: after)))
            = decode .json status (bytesOf (.object (before ++ after))))
      ∧ ∀ status' body, (decode .json status' body).toOption = (decode .json status body).toOption := by
  refine ⟨fun allowed => ?_, fun hnone => ?_, fun front hfront hne => ?_, fun behind hbehind => ?_,
    fun before m after hverdict hexplanation => ?_, fun status' body => ?_⟩
  · rw [decode_json_eq_ok_iff, verdict?_bytesOf, verdict?_ofJson]
  · have hverdict : verdict? (Raw.ofJson x) = none :=
      Option.eq_none_iff_forall_ne_some.mpr fun allowed h => hnone allowed (verdict?_ofJson.mp h)
    exact decode_json_of_none ((verdict?_bytesOf x).trans hverdict)
  · exact decode_json_of_none (verdict?_of_isPrefix hfront hne)
  · exact decode_json_of_none (verdict?_of_append hbehind)
  · have hsame : verdict? (Raw.ofJson (.object (before ++ m :: after)))
        = verdict? (Raw.ofJson (.object (before ++ after))) := by
      apply Option.ext
      intro allowed
      rw [verdict?_ofJson, verdict?_ofJson, gives_insert hverdict hexplanation]
    rw [decode, decode, verdict?_bytesOf, verdict?_bytesOf, hsame]
  · rw [decode, decode]
    cases (Raw.ofBytes? body).bind verdict? <;> rfl

/-- A verdict under its second name with another one nested beside it, at a status that would not allow by itself. -/
theorem decode_json_exact_nested :
    let nested : Json := .object [("ok", .bool false)]
    decode .json 403 (bytesOf (.object [("details", nested), ("Ok", .bool true)])) = .ok true
      ∧ decode .json 403 (bytesOf (.object [("details", nested)])) = .error ⟨403⟩
      ∧ decode .json 403 [0x7B] = .error ⟨403⟩
      ∧ decode .json 403 (bytesOf nested ++ [0x31]) = .error ⟨403⟩
      ∧ decode .json 403 (bytesOf (.object [("details", nested), ("Ok", .bool true)]))
          = decode .json 403 (bytesOf (.object [("Ok", .bool true)])) := by
  intro nested
  obtain ⟨hok, -, -, -, hother, -⟩ :=
    decode_json_exact (.object [("details", nested), ("Ok", .bool true)]) 403
  obtain ⟨-, hnone, -, -, -, -⟩ := decode_json_exact (.object [("details", nested)]) 403
  obtain ⟨-, -, hfront, hbehind, -, -⟩ := decode_json_exact nested 403
  refine ⟨(hok true).mpr ⟨⟨"Ok", rfl⟩, Nat.zero_le _, ?_⟩, hnone ?_, hfront _ ?_ ?_, hbehind _ ?_,
    hother [] ("details", nested) [("Ok", .bool true)] ?_ ?_⟩
  · simp [IsExplanationKey]
  · rintro allowed ⟨⟨key, h⟩, -⟩
    cases h
  · exact ⟨(bytesOf nested).tail, rfl⟩
  · decide +kernel
  · exact ⟨0x31, List.mem_singleton_self _, by simp [Raw.IsBlankByte]⟩
  · decide
  · decide

end TopicGuard.Service
