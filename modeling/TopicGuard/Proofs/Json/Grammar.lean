import TopicGuard.Json.Value
import TopicGuard.Proofs.Number.Numeral
import TopicGuard.Proofs.Text.Utf8

/-!
Written values follow the grammar.

The parts of a value (`Raw.ofJson`) are those that the grammar finds in the value's text, whatever text comes after
it (`value_renderChars`), and in the bytes of the text (`ofBytes?_encodeChars`). Numerals are the only parts without
an end of their own: the text behind a value must not go on with one (`Ends`).

A reader takes one unit of fuel a call, and a call is paid for by a character: twice the length of a text is enough
to read it, since a value and the rest of its container are read by two calls.
-/

set_option autoImplicit false

namespace TopicGuard.Json

open TopicGuard.Numeral (digitValue isDigit_iff isDigit_of_mem_toDigits toDigits_eq_cons)

/-! ## The parts of a value -/

/-- The values of the digits of a natural number. -/
def Numeral.digitsOf (n : Nat) : List Nat :=
  (Nat.toDigits 10 n).map digitValue

/-- The numeral that a number is written as. -/
def Numeral.ofNumber : Number → Numeral
  | .int n => ⟨n < 0, digitsOf n.natAbs, none, none⟩
  | .decimal d => ⟨d.negative, digitsOf d.significand, none, some (d.exponent < 0, digitsOf d.exponent.natAbs)⟩

/-- The characters that are escaped by a letter. -/
def lettered : List Char :=
  ['"', '\\', '\x08', '\x0c', '\n', '\r', '\t']

/-- The piece that a character is written as. Only controls without a letter need their code. -/
def Piece.ofChar (c : Char) : Piece :=
  if c ∉ lettered ∧ c.toNat < 0x20 then .unit c.toNat else .scalar (some c)

/-- The pieces that a string is written as. -/
def Literal.ofString (s : String) : Literal :=
  s.toList.map Piece.ofChar

namespace Raw

mutual

/-- The parts of a value. -/
def ofJson : Json → Raw
  | .null => .null
  | .bool b => .bool b
  | .number n => .number (Numeral.ofNumber n)
  | .string s => .string (Literal.ofString s)
  | .array items => .array (itemsOfJson items)
  | .object members => .object (membersOfJson members)

/-- The parts of the items of an array. -/
def itemsOfJson : List Json → List Raw
  | [] => []
  | x :: xs => ofJson x :: itemsOfJson xs

/-- The parts of the members of an object. -/
def membersOfJson : List (String × Json) → List (Literal × Raw)
  | [] => []
  | (key, x) :: members => (Literal.ofString key, ofJson x) :: membersOfJson members

end

/-! ## Numerals -/

/-- The text does not go on with a numeral that ends before it. -/
def Ends : Scalars → Prop
  | some c :: _ => c.isDigit = false ∧ c ≠ '.' ∧ c ≠ 'e' ∧ c ≠ 'E'
  | _ => True

/-- The text does not go on with a run of digits that ends before it. -/
def EndsDigits : Scalars → Prop
  | some c :: _ => c.isDigit = false
  | _ => True

variable {c : Char} {cs : List Char} {s rest : Scalars} {fuel : Nat}

theorem Ends.endsDigits (h : Ends rest) : EndsDigits rest := by
  match rest, h with
  | [], _ => trivial
  | none :: _, _ => trivial
  | some _ :: _, h => exact h.1

theorem digit?_of_isDigit (h : c.isDigit = true) :
    digit? c = some (digitValue c) := by
  obtain ⟨hlow, hhigh⟩ := isDigit_iff.mp h
  unfold digit?
  rw [if_pos (by simp [hlow, hhigh])]
  rfl

theorem digit?_of_not_isDigit (h : c.isDigit = false) : digit? c = none := by
  have hrange : ¬ ('0' ≤ c && c ≤ '9') = true := by
    rw [Bool.and_eq_true, decide_eq_true_iff, decide_eq_true_iff, ← isDigit_iff, h]
    exact Bool.false_ne_true
  unfold digit?
  rw [if_neg hrange]

theorem digits_of_endsDigits (h : EndsDigits rest) : digits rest = ([], rest) := by
  match rest, h with
  | [], _ => rfl
  | none :: _, _ => rfl
  | some c :: _, h => rw [digits, digit?_of_not_isDigit h]

/-- A run of digits is read up to its end. -/
theorem digits_append (hcs : ∀ c ∈ cs, c.isDigit = true) (h : EndsDigits rest) :
    digits (cs.map some ++ rest) = (cs.map digitValue, rest) := by
  induction cs with
  | nil => exact digits_of_endsDigits h
  | cons c cs ih =>
    rw [List.forall_mem_cons] at hcs
    rw [List.map_cons, List.cons_append, digits, digit?_of_isDigit hcs.1]
    simp only [ih hcs.2, List.map_cons]

/-- The digits of a number are read back, whatever follows that is no digit. -/
theorem digits₁_toDigits (n : Nat) (h : EndsDigits rest) :
    digits₁ ((Nat.toDigits 10 n).map some ++ rest) = some (Numeral.digitsOf n, rest) := by
  have hread := digits_append (fun c => isDigit_of_mem_toDigits (n := n)) h
  obtain ⟨c, cs, hcs, -, -⟩ := toDigits_eq_cons n
  unfold digits₁ Numeral.digitsOf
  rw [hread, hcs]
  rfl

/-- The digits of a number are a zero alone or do not begin with one. -/
theorem digitsOf_ne_zero_cons (n d : Nat) (ds : List Nat) : Numeral.digitsOf n ≠ 0 :: d :: ds := by
  obtain ⟨c, cs, hcs, hc, hzero⟩ := toDigits_eq_cons n
  intro h
  have hhead : digitValue c = 0 := by
    unfold Numeral.digitsOf at h
    rw [hcs, List.map_cons] at h
    exact (List.cons.inj h).1
  -- The only digit of value zero is the zero, and only zero begins with one.
  have hc0 : c = '0' := by
    obtain ⟨hlow, -⟩ := isDigit_iff.mp hc
    have hlow : '0'.toNat ≤ c.toNat := hlow
    unfold digitValue at hhead
    exact Char.toNat_inj.mp (by omega)
  rw [hzero hc0] at h
  cases h

/-- The digits of a number are a whole part, for no zero stands in front of others. -/
theorem whole_toDigits (n : Nat) (h : EndsDigits rest) :
    whole ((Nat.toDigits 10 n).map some ++ rest) = some (Numeral.digitsOf n, rest) := by
  unfold whole
  rw [digits₁_toDigits n h, Option.bind_eq_bind, Option.bind_some]
  dsimp only
  split
  · next heq => exact absurd heq (digitsOf_ne_zero_cons n _ _)
  · rfl

theorem fraction_of_head_ne (h : c ≠ '.') : fraction (some c :: rest) = some (none, some c :: rest) := by
  unfold fraction
  split
  · next heq =>
    cases heq
    exact absurd rfl h
  · rfl

/-- Where a number ends there is no fraction. -/
theorem fraction_of_ends (h : Ends rest) : fraction rest = some (none, rest) := by
  match rest, h with
  | [], _ => rfl
  | none :: _, _ => rfl
  | some c :: _, h => exact fraction_of_head_ne h.2.1

/-- Where a number ends there is no exponent. -/
theorem exponent_of_ends (h : Ends rest) : exponent rest = some (none, rest) := by
  match rest, h with
  | [], _ => rfl
  | none :: _, _ => rfl
  | some c :: _, h =>
    have hmark : ¬ (c = 'e' ∨ c = 'E') := by
      rintro (he | he)
      · exact h.2.2.1 he
      · exact h.2.2.2 he
    unfold exponent
    exact if_neg hmark

/-- The text of an integer is its digits behind a minus sign if it is negative. -/
theorem toList_toString (n : Int) :
    (toString n).toList = if n < 0 then '-' :: Nat.toDigits 10 n.natAbs else Nat.toDigits 10 n.natAbs := by
  rw [TopicGuard.Numeral.toList_toString]
  by_cases hn : n < 0
  · have habs : (-n).toNat = n.natAbs := by omega
    rw [if_neg (by omega), if_pos hn, habs]
  · have habs : n.toNat = n.natAbs := by omega
    rw [if_pos (by omega), if_neg hn, habs]

/-- The exponent may have no sign. -/
theorem exponent_of_isDigit {mark : Char} (hmark : mark = 'e' ∨ mark = 'E') (h : c.isDigit = true) :
    exponent (some mark :: some c :: rest)
      = (digits₁ (some c :: rest)).map fun (ds, rest) => (some (false, ds), rest) := by
  -- A digit is no sign.
  rw [exponent, if_pos hmark]
  · rintro _ heq
    cases heq
    cases h
  · rintro _ heq
    cases heq
    cases h

/-- An exponent that is written with its sign, if it has one, is read back. -/
theorem exponent_toString (n : Int) (h : EndsDigits rest) :
    exponent (some 'e' :: ((toString n).toList.map some ++ rest))
      = some (some (decide (n < 0), Numeral.digitsOf n.natAbs), rest) := by
  have hread := digits₁_toDigits n.natAbs h
  rw [toList_toString]
  by_cases hn : n < 0
  · have hminus : exponent (some 'e' :: some '-' :: ((Nat.toDigits 10 n.natAbs).map some ++ rest))
        = (digits₁ ((Nat.toDigits 10 n.natAbs).map some ++ rest)).map
            fun (ds, rest) => (some (true, ds), rest) := rfl
    rw [if_pos hn, List.map_cons, List.cons_append, hminus, hread, decide_eq_true hn]
    rfl
  · obtain ⟨c, cs, hcs, hc, -⟩ := toDigits_eq_cons n.natAbs
    rw [if_neg hn, decide_eq_false hn]
    rw [hcs] at hread ⊢
    rw [List.map_cons, List.cons_append] at hread ⊢
    rw [exponent_of_isDigit (.inl rfl) hc, hread]
    rfl

/-- A character that begins a numeral. -/
def Leads (c : Char) : Prop :=
  c = '-' ∨ c.isDigit = true

theorem numeral_of_isDigit (h : c.isDigit = true) : numeral (some c :: rest) = magnitude false (some c :: rest) := by
  unfold numeral
  split
  · next heq =>
    cases heq
    cases h
  · rfl

/-- The digits behind a sign that has been read already. -/
theorem numeral_signed (negative : Bool) (n : Nat) :
    numeral ((if negative then '-' :: Nat.toDigits 10 n else Nat.toDigits 10 n).map some ++ rest)
      = magnitude negative ((Nat.toDigits 10 n).map some ++ rest) := by
  cases negative with
  | true => rfl
  | false =>
    obtain ⟨c, cs, hcs, hc, -⟩ := toDigits_eq_cons n
    rw [if_neg Bool.false_ne_true, hcs, List.map_cons, List.cons_append, numeral_of_isDigit hc]

/-- A number is read as the numeral that it is written as. -/
theorem numeral_render (n : Number) (h : Ends rest) :
    numeral (n.render.toList.map some ++ rest) = some (Numeral.ofNumber n, rest) := by
  cases n with
  | int n =>
    have htext : (toString n).toList
        = if decide (n < 0) = true then '-' :: Nat.toDigits 10 n.natAbs else Nat.toDigits 10 n.natAbs := by
      rw [toList_toString]
      simp only [decide_eq_true_eq]
    rw [Number.render, htext, numeral_signed, magnitude, whole_toDigits n.natAbs h.endsDigits]
    simp only [Option.bind_eq_bind, Option.bind_some]
    rw [fraction_of_ends h, Option.bind_some, exponent_of_ends h, Option.bind_some]
    rfl
  | decimal d =>
    have htext : (Number.render (.decimal d)).toList.map some ++ rest
        = (if d.negative = true then '-' :: Nat.toDigits 10 d.significand
            else Nat.toDigits 10 d.significand).map some
          ++ some 'e' :: ((toString d.exponent).toList.map some ++ rest) := by
      have hdigits : (toString d.significand).toList = Nat.toDigits 10 d.significand := Nat.toList_repr
      rw [Number.render, String.toList_append, String.toList_append, String.toList_append, hdigits]
      cases d.negative <;> simp
    -- The mark of the exponent ends the digits in front of it, and the text behind the value those of the exponent.
    have hmark : EndsDigits (some 'e' :: ((toString d.exponent).toList.map some ++ rest)) := rfl
    rw [htext, numeral_signed, magnitude, whole_toDigits d.significand hmark]
    simp only [Option.bind_eq_bind, Option.bind_some]
    rw [fraction_of_head_ne (by decide), Option.bind_some, exponent_toString d.exponent h.endsDigits,
      Option.bind_some]
    rfl

/-! ## Strings -/

/-- The characters with a letter of their own are written as this letter behind a backslash. -/
theorem escapeChar_of_mem_lettered :
    ∀ c ∈ lettered, ∃ e, escapeChar c = ['\\', e] ∧ e ≠ 'u' ∧ shortEscape? e = some c := by
  simp only [lettered, List.forall_mem_cons]
  exact ⟨⟨'"', by decide⟩, ⟨'\\', by decide⟩, ⟨'b', by decide⟩, ⟨'f', by decide⟩, ⟨'n', by decide⟩, ⟨'r', by decide⟩,
    ⟨'t', by decide⟩, List.forall_mem_nil _⟩

/-- Of the characters without one, only controls are escaped, by their number. -/
theorem escapeChar_of_not_mem_lettered (h : c ∉ lettered) :
    escapeChar c = if c.toNat < 0x20 then
      ['\\', 'u', '0', '0', Nat.digitChar (c.toNat / 16), Nat.digitChar (c.toNat % 16)] else [c] := by
  simp only [lettered, List.mem_cons, List.not_mem_nil, not_or] at h
  obtain ⟨h₁, h₂, h₃, h₄, h₅, h₆, h₇, -⟩ := h
  rw [escapeChar, if_neg h₁, if_neg h₂, if_neg h₃, if_neg h₄, if_neg h₅, if_neg h₆, if_neg h₇]

/-- A letter behind a backslash is read as the character that it stands for. -/
theorem literal_letter {e : Char} (he : e ≠ 'u') (hc : shortEscape? e = some c) :
    literal (some '\\' :: some e :: rest) = (literal rest).map fun (ps, rest) => (.scalar (some c) :: ps, rest) := by
  rw [literal]
  · simp only [Char.reduceEq, if_false, if_true]
    rw [hc]
    cases literal rest <;> rfl
  · intro _ _ _ _ _ _ hu
    exact he hu

theorem codeUnit?_of_lt :
    ∀ n < 0x20, codeUnit? (some '0') (some '0') (some (Nat.digitChar (n / 16))) (some (Nat.digitChar (n % 16)))
      = some n := by
  decide

/-- A control is read back from its number. -/
theorem literal_code {n : Nat} (h : n < 0x20) :
    literal (some '\\' :: some 'u' :: some '0' :: some '0' :: some (Nat.digitChar (n / 16))
        :: some (Nat.digitChar (n % 16)) :: rest)
      = (literal rest).map fun (ps, rest) => (.unit n :: ps, rest) := by
  rw [literal]
  simp only [Char.reduceEq, if_false, if_true]
  rw [codeUnit?_of_lt n h]
  cases literal rest <;> rfl

theorem literal_quote (rest : Scalars) : literal (some '"' :: rest) = some ([], rest) := by
  rw [literal.eq_def]
  exact if_pos rfl

/-- One written character is read as its piece. -/
theorem literal_escapeChar (c : Char) (rest : Scalars) :
    literal ((escapeChar c).map some ++ rest)
      = (literal rest).map fun (ps, rest) => (Piece.ofChar c :: ps, rest) := by
  by_cases hletter : c ∈ lettered
  · obtain ⟨e, hescape, he, hc⟩ := escapeChar_of_mem_lettered c hletter
    have hpiece : Piece.ofChar c = .scalar (some c) := if_neg fun h => h.1 hletter
    rw [hescape, hpiece]
    exact literal_letter he hc
  rw [escapeChar_of_not_mem_lettered hletter]
  by_cases hcontrol : c.toNat < 0x20
  · have hpiece : Piece.ofChar c = .unit c.toNat := if_pos ⟨hletter, hcontrol⟩
    rw [if_pos hcontrol, hpiece]
    exact literal_code hcontrol
  · have hpiece : Piece.ofChar c = .scalar (some c) := if_neg fun h => hcontrol h.2
    simp only [lettered, List.mem_cons, not_or] at hletter
    rw [if_neg hcontrol, hpiece, List.map_singleton, List.singleton_append, literal.eq_def]
    dsimp only
    rw [if_neg hletter.1, if_neg hletter.2.1, if_neg hcontrol]

/-- A written string is read up to its closing quotation mark. -/
theorem literal_renderString (key : String) (rest : Scalars) :
    literal ((key.toList.flatMap escapeChar ++ ['"']).map some ++ rest) = some (Literal.ofString key, rest) := by
  unfold Literal.ofString
  -- The induction is over the characters; the quotation mark and the text behind it stay where they are.
  generalize key.toList = cs
  induction cs with
  | nil => exact literal_quote rest
  | cons c cs ih =>
    have hsplit : ((c :: cs).flatMap escapeChar ++ ['"']).map some ++ rest
        = (escapeChar c).map some ++ ((cs.flatMap escapeChar ++ ['"']).map some ++ rest) := by
      rw [List.flatMap_cons, List.append_assoc, List.map_append, List.append_assoc]
    rw [hsplit, literal_escapeChar, ih, Option.map_some, List.map_cons]

/-! ## Single calls -/

variable {x : Raw}

theorem skipBlanks_of_not_blank (h : isBlank c = false) : skipBlanks (some c :: rest) = some c :: rest := by
  rw [skipBlanks, h]
  exact if_neg Bool.false_ne_true

theorem Leads.not_blank (h : Leads c) : isBlank c = false := by
  rcases h with rfl | h
  · rfl
  · rw [Bool.eq_false_iff]
    intro hblank
    simp only [isBlank, Bool.or_eq_true, beq_iff_eq] at hblank
    rcases hblank with ((rfl | rfl) | rfl) | rfl <;> cases h

theorem Leads.ne_of_not_leads {d : Char} (h : Leads c) (hd : ¬ Leads d) : c ≠ d := by
  rintro rfl
  exact hd h

/-- A text that begins like a numeral is read as one. -/
theorem value_of_leads (h : Leads c) :
    value (fuel + 1) (some c :: rest) = (numeral (some c :: rest)).map fun (n, rest) => (.number n, rest) := by
  have hdigit : ¬ (c = 'n' ∨ c = 't' ∨ c = 'f' ∨ c = '"' ∨ c = '[' ∨ c = '{') := by
    rintro (rfl | rfl | rfl | rfl | rfl | rfl) <;> rcases h with h | h <;> cases h
  -- All other branches of the reader are for characters that begin no numeral.
  rw [value, skipBlanks_of_not_blank h.not_blank]
  split
  all_goals first
    | rfl
    | next heq =>
      cases heq
      exact absurd hdigit (by decide)

/-- An array with a first item. -/
theorem value_array (hblank : isBlank c = false) (hend : c ≠ ']') :
    value (fuel + 1) (some '[' :: some c :: rest)
      = (items fuel (some c :: rest)).map fun (xs, rest) => (.array xs, rest) := by
  rw [value, skipBlanks_of_not_blank rfl]
  simp only [skipBlanks_of_not_blank hblank]
  split
  · next heq =>
    cases heq
    exact absurd rfl hend
  · rfl

/-- An object with a first member. -/
theorem value_object (key : String) :
    value (fuel + 1) (some '{' :: ((renderString key).map some ++ rest))
      = (members fuel ((renderString key).map some ++ rest)).map fun (ms, rest) => (.object ms, rest) := rfl

/-- A value before a closing bracket is the last one of an array. -/
theorem items_last (h : value fuel s = some (x, some ']' :: rest)) :
    items (fuel + 1) s = some ([x], rest) := by
  rw [items, h]
  rfl

/-- A value before a comma is followed by the items behind the comma. -/
theorem items_more (h : value fuel s = some (x, some ',' :: rest)) :
    items (fuel + 1) s = (items fuel rest).map fun (xs, rest) => (x :: xs, rest) := by
  rw [items, h]
  change (items fuel rest).bind _ = _
  cases items fuel rest <;> rfl

/-- Reading a member whose key has been written. -/
theorem members_renderString (key : String) :
    members (fuel + 1) ((renderString key).map some ++ some ':' :: s) = (value fuel s).bind fun (x, rest) =>
      match skipBlanks rest with
      | some ',' :: rest => (members fuel rest).map fun (ms, rest) => ((Literal.ofString key, x) :: ms, rest)
      | some '}' :: rest => some ([(Literal.ofString key, x)], rest)
      | _ => none := by
  have hkey := literal_renderString key (some ':' :: s)
  rw [renderString, List.cons_append, List.map_cons, List.cons_append, members, skipBlanks_of_not_blank rfl]
  simp only [hkey, Option.bind_eq_bind, Option.bind_some]
  rw [skipBlanks_of_not_blank rfl]
  simp only [Option.map_eq_bind]
  rfl

/-- A value before a closing brace belongs to the last member of an object. -/
theorem members_last {key : String} (h : value fuel s = some (x, some '}' :: rest)) :
    members (fuel + 1) ((renderString key).map some ++ some ':' :: s) = some ([(Literal.ofString key, x)], rest) := by
  rw [members_renderString, h]
  rfl

/-- A member before a comma is followed by the members behind the comma. -/
theorem members_more {key : String} (h : value fuel s = some (x, some ',' :: rest)) :
    members (fuel + 1) ((renderString key).map some ++ some ':' :: s)
      = (members fuel rest).map fun (ms, rest) => ((Literal.ofString key, x) :: ms, rest) := by
  rw [members_renderString, h]
  rfl

/-! ## Written values -/

/-- What is written of a number begins as numbers do. -/
theorem leads_render (n : Number) : ∃ c cs, n.render.toList = c :: cs ∧ Leads c := by
  have hdigits (n : Nat) : ∃ c cs, Nat.toDigits 10 n = c :: cs ∧ Leads c := by
    obtain ⟨c, cs, hcs, hc, -⟩ := toDigits_eq_cons n
    exact ⟨c, cs, hcs, Or.inr hc⟩
  cases n with
  | int n =>
    rw [Number.render, toList_toString]
    by_cases hn : n < 0
    · exact ⟨'-', _, if_pos hn, Or.inl rfl⟩
    · rw [if_neg hn]
      exact hdigits n.natAbs
  | decimal d =>
    have htext : (toString d.significand).toList = Nat.toDigits 10 d.significand := Nat.toList_repr
    obtain ⟨c, cs, hcs, hc⟩ := hdigits d.significand
    simp only [Number.render, String.toList_append, htext, hcs]
    cases d.negative with
    | true => exact ⟨'-', _, rfl, Or.inl rfl⟩
    | false => exact ⟨c, _, rfl, hc⟩

/-- A written value begins with no blank, and not like the end of an array. -/
theorem renderChars_eq_cons (x : Json) : ∃ c cs, renderChars x = c :: cs ∧ isBlank c = false ∧ c ≠ ']' := by
  match x with
  | .null => exact ⟨'n', _, rfl, by decide⟩
  | .bool true => exact ⟨'t', _, rfl, by decide⟩
  | .bool false => exact ⟨'f', _, rfl, by decide⟩
  | .number n =>
    obtain ⟨c, cs, hcs, hc⟩ := leads_render n
    exact ⟨c, cs, hcs, hc.not_blank, hc.ne_of_not_leads (by rintro (h | h) <;> cases h)⟩
  | .string s => exact ⟨'"', _, rfl, by decide⟩
  | .array [] => exact ⟨'[', _, rfl, by decide⟩
  | .array (_ :: _) => exact ⟨'[', _, rfl, by decide⟩
  | .object [] => exact ⟨'{', _, rfl, by decide⟩
  | .object ((_, _) :: _) => exact ⟨'{', _, rfl, by decide⟩

/-- What stands behind an item ends its numeral. -/
theorem ends_renderItems (xs : List Json) : Ends ((renderItems xs).map some ++ rest) := by
  cases xs with
  | nil => exact (by decide : ']'.isDigit = false ∧ ']' ≠ '.' ∧ ']' ≠ 'e' ∧ ']' ≠ 'E')
  | cons x xs => exact (by decide : ','.isDigit = false ∧ ',' ≠ '.' ∧ ',' ≠ 'e' ∧ ',' ≠ 'E')

/-- What stands behind a member ends its numeral. -/
theorem ends_renderMembers (ms : List (String × Json)) : Ends ((renderMembers ms).map some ++ rest) := by
  cases ms with
  | nil => exact (by decide : '}'.isDigit = false ∧ '}' ≠ '.' ∧ '}' ≠ 'e' ∧ '}' ≠ 'E')
  | cons m ms => exact (by decide : ','.isDigit = false ∧ ',' ≠ '.' ∧ ',' ≠ 'e' ∧ ',' ≠ 'E')

/-- A member behind the character that it follows. -/
theorem map_member (c : Char) (key : String) (cs ds : List Char) :
    (c :: renderString key ++ ':' :: cs ++ ds).map some ++ rest
      = some c :: ((renderString key).map some ++ some ':' :: (cs.map some ++ (ds.map some ++ rest))) := by
  simp only [List.map_append, List.map_cons, List.append_assoc, List.cons_append]

mutual

/-- A written value is read as its parts, and what follows it is left. -/
theorem value_renderChars : ∀ (x : Json) (fuel : Nat) (rest : Scalars),
    2 * (renderChars x).length ≤ fuel → Ends rest →
      value fuel ((renderChars x).map some ++ rest) = some (ofJson x, rest)
  | x, 0, rest, hfuel, hends => by
    -- No value has an empty text.
    obtain ⟨c, cs, hcs, -, -⟩ := renderChars_eq_cons x
    rw [hcs, List.length_cons] at hfuel
    omega
  | .null, fuel + 1, rest, hfuel, hends => rfl
  | .bool true, fuel + 1, rest, hfuel, hends => rfl
  | .bool false, fuel + 1, rest, hfuel, hends => rfl
  | .number n, fuel + 1, rest, hfuel, hends => by
    have hread := numeral_render n hends
    obtain ⟨c, cs, hcs, hc⟩ := leads_render n
    rw [renderChars, ofJson]
    rw [hcs, List.map_cons, List.cons_append] at hread ⊢
    rw [value_of_leads hc, hread]
    rfl
  | .string s, fuel + 1, rest, hfuel, hends => by
    have hread := literal_renderString s rest
    change (literal ((s.toList.flatMap escapeChar ++ ['"']).map some ++ rest)).map _ = _
    rw [hread]
    rfl
  | .array [], fuel + 1, rest, hfuel, hends => rfl
  | .array (x :: xs), fuel + 1, rest, hfuel, hends => by
    rw [renderChars, List.length_append, List.length_cons] at hfuel
    -- The bracket pays for two calls: this one and the one for the items.
    obtain ⟨fuel, rfl⟩ : ∃ f, fuel = f + 1 := ⟨fuel - 1, by omega⟩
    have hx := value_renderChars x fuel ((renderItems xs).map some ++ rest) (by omega) (ends_renderItems xs)
    have hxs := items_renderItems xs fuel rest (by omega) hx
    obtain ⟨c, cs, hcs, hblank, hend⟩ := renderChars_eq_cons x
    rw [renderChars, List.map_append, List.map_cons, List.append_assoc, List.cons_append, ofJson, itemsOfJson]
    -- The first character of the first item is neither a blank nor the end of an empty array.
    rw [hcs, List.map_cons, List.cons_append] at hxs ⊢
    rw [value_array hblank hend, hxs]
    rfl
  | .object [], fuel + 1, rest, hfuel, hends => rfl
  | .object ((key, x) :: ms), fuel + 1, rest, hfuel, hends => by
    simp only [renderChars, List.length_append, List.length_cons] at hfuel
    obtain ⟨fuel, rfl⟩ : ∃ f, fuel = f + 1 := ⟨fuel - 1, by omega⟩
    have hx := value_renderChars x fuel ((renderMembers ms).map some ++ rest) (by omega) (ends_renderMembers ms)
    have hms := members_renderMembers ms fuel rest key (by omega) hx
    rw [renderChars, map_member, value_object, hms]
    rfl

/-- After an item, the others are read up to the end of the array. -/
theorem items_renderItems : ∀ (xs : List Json) (fuel : Nat) (rest : Scalars) {s : Scalars} {x : Raw},
    2 * (renderItems xs).length ≤ fuel → value fuel s = some (x, (renderItems xs).map some ++ rest) →
      items (fuel + 1) s = some (x :: itemsOfJson xs, rest)
  | [], fuel, rest, s, x, hfuel, h => items_last h
  | y :: ys, fuel, rest, s, x, hfuel, h => by
    rw [renderItems, List.length_append, List.length_cons] at hfuel
    -- The comma pays for the calls for this item and for the rest.
    obtain ⟨fuel, rfl⟩ : ∃ f, fuel = f + 1 := ⟨fuel - 1, by omega⟩
    have hy := value_renderChars y fuel ((renderItems ys).map some ++ rest) (by omega) (ends_renderItems ys)
    have hys := items_renderItems ys fuel rest (by omega) hy
    rw [renderItems, List.map_append, List.map_cons, List.append_assoc, List.cons_append] at h
    rw [items_more h, hys]
    rfl

/-- After a member, the others are read up to the end of the object. -/
theorem members_renderMembers : ∀ (ms : List (String × Json)) (fuel : Nat) (rest : Scalars) (key : String)
    {s : Scalars} {x : Raw},
    2 * (renderMembers ms).length ≤ fuel → value fuel s = some (x, (renderMembers ms).map some ++ rest) →
      members (fuel + 1) ((renderString key).map some ++ some ':' :: s)
        = some ((Literal.ofString key, x) :: membersOfJson ms, rest)
  | [], fuel, rest, key, s, x, hfuel, h => members_last h
  | (key', y) :: ms, fuel, rest, key, s, x, hfuel, h => by
    simp only [renderMembers, List.length_append, List.length_cons] at hfuel
    obtain ⟨fuel, rfl⟩ : ∃ f, fuel = f + 1 := ⟨fuel - 1, by omega⟩
    have hy := value_renderChars y fuel ((renderMembers ms).map some ++ rest) (by omega) (ends_renderMembers ms)
    have hms := members_renderMembers ms fuel rest key' (by omega) hy
    rw [renderMembers, map_member] at h
    rw [members_more h, hms]
    rfl

end

/-- The text of a value is read as the parts of the value. -/
theorem parse_renderChars (x : Json) : parse ((renderChars x).map some) = some (ofJson x) := by
  have hread := value_renderChars x (2 * ((renderChars x).map some).length + 2) [] (by simp) trivial
  rw [List.append_nil] at hread
  rw [parse, hread]
  rfl

/-- The bytes of a text that is written are read back as the value that it was written from. -/
theorem ofBytes?_encodeChars (x : Json) : ofBytes? (Utf8.encodeChars (renderChars x)) = some (ofJson x) := by
  rw [ofBytes?, Utf8.scalars_encodeChars, parse_renderChars]

end Raw

end TopicGuard.Json
