import Mathlib.Data.Option.Basic
import TopicGuard.Number.Numeral

/-!
Numerals read what they wrote.

An integer is written by its decimal digits behind an optional minus sign. The value of a run of digits is the same
sum whether it is taken from the characters or from their values (`foldl_digitValue`), which is all that separates
the writer of the standard library from the readers here and in documents. A written number has at least one digit,
and no zero in front of others (`toDigits_eq_cons`). What a natural number may look like to be read is `Writes`, and
nothing else is read (`natural?_eq_some_iff`).
-/

set_option autoImplicit false

namespace TopicGuard.Numeral

variable {c : Char} {cs : List Char} {n bound : Nat} {s : String}

/-! ## Digits -/

/-- The value of a digit, as the decimal writer counts it. -/
def digitValue (c : Char) : Nat :=
  c.toNat - '0'.toNat

theorem isDigit_iff : c.isDigit = true ↔ '0' ≤ c ∧ c ≤ '9' := by
  rw [Char.isDigit, Bool.and_eq_true, decide_eq_true_iff, decide_eq_true_iff]
  exact Iff.rfl

theorem digit?_of_isDigit (h : c.isDigit = true) : digit? c = some (digitValue c) :=
  if_pos (isDigit_iff.mp h)

theorem isDigit_of_mem_toDigits (h : c ∈ Nat.toDigits 10 n) : c.isDigit = true :=
  Nat.isDigit_of_mem_toDigits (by decide) (by decide) h

/-- Counting digits up by their values is the inverse of writing them. -/
theorem foldl_digitValue (cs : List Char) (init : Nat) :
    (cs.map digitValue).foldl (fun n d => n * 10 + d) init = Nat.ofDigitChars 10 cs init := by
  induction cs generalizing init with
  | nil => simp
  | cons c cs ih =>
    rw [List.map_cons, List.foldl_cons, ih, Nat.ofDigitChars_cons, Nat.mul_comm init 10]
    rfl

theorem mapM_digit?_of_isDigit (h : ∀ c ∈ cs, c.isDigit = true) :
    cs.mapM digit? = some (cs.map digitValue) := by
  induction cs with
  | nil => rfl
  | cons c cs ih =>
    rw [List.forall_mem_cons] at h
    rw [List.mapM_cons, digit?_of_isDigit h.1, ih h.2]
    rfl

theorem isDigit_of_digit? {d : Nat} (h : digit? c = some d) : c.isDigit = true := by
  by_cases hc : '0' ≤ c ∧ c ≤ '9'
  · exact isDigit_iff.mpr hc
  · rw [digit?, if_neg hc] at h
    cases h

theorem isDigit_of_mapM_digit? {ds : List Nat} (h : cs.mapM digit? = some ds) : ∀ c ∈ cs, c.isDigit = true := by
  induction cs generalizing ds with
  | nil => exact List.forall_mem_nil _
  | cons c cs ih =>
    rw [List.mapM_cons, Option.bind_eq_bind, Option.bind_eq_some_iff] at h
    obtain ⟨d, hd, h⟩ := h
    obtain ⟨ds', hds, -⟩ := Option.bind_eq_some_iff.mp h
    exact List.forall_mem_cons.mpr ⟨isDigit_of_digit? hd, ih hds⟩

/-- Digits are read as the number that they write. -/
theorem digits?_eq_some_iff :
    digits? cs = some n ↔ cs ≠ [] ∧ (∀ c ∈ cs, c.isDigit = true) ∧ Nat.ofDigitChars 10 cs 0 = n := by
  cases cs with
  | nil => simp [digits?]
  | cons c cs =>
    rw [digits?, List.isEmpty_cons, if_neg Bool.false_ne_true, Option.map_eq_some_iff]
    constructor
    · rintro ⟨ds, hds, rfl⟩
      have hdigits := isDigit_of_mapM_digit? hds
      rw [mapM_digit?_of_isDigit hdigits] at hds
      cases hds
      exact ⟨List.cons_ne_nil c cs, hdigits, (foldl_digitValue _ 0).symm⟩
    · rintro ⟨-, hdigits, rfl⟩
      exact ⟨_, mapM_digit?_of_isDigit hdigits, foldl_digitValue _ 0⟩

theorem digits?_toDigits (n : Nat) : digits? (Nat.toDigits 10 n) = some n :=
  digits?_eq_some_iff.mpr
    ⟨Nat.toDigits_ne_nil, fun _ => isDigit_of_mem_toDigits, Nat.ofDigitChars_ten_toDigits⟩

/-- A written number begins with a digit, and only zero with zero. The induction takes the last digit off. -/
theorem toDigits_eq_cons (n : Nat) :
    ∃ c cs, Nat.toDigits 10 n = c :: cs ∧ c.isDigit = true ∧ (c = '0' → n = 0) := by
  induction n using Nat.strongRecOn with
  | ind n ih =>
    by_cases hn : n < 10
    · refine ⟨n.digitChar, [], Nat.toDigits_of_lt_base hn, ?_, Nat.digitChar_eq_zero.mp⟩
      refine isDigit_of_mem_toDigits (n := n) ?_
      rw [Nat.toDigits_of_lt_base hn]
      exact List.mem_singleton_self _
    · obtain ⟨c, cs, hcs, hc, hzero⟩ := ih (n / 10) (by omega)
      refine ⟨c, cs ++ [(n % 10).digitChar], ?_, hc, fun h => ?_⟩
      · rw [Nat.toDigits_of_base_le (by decide) (by omega), hcs, List.cons_append]
      · have := hzero h
        omega

/-! ## Natural numbers -/

/-- The text is a number in digits, at least one, and perhaps with a plus sign in front of them. -/
def Writes (s : String) (n : Nat) : Prop :=
  ∃ cs, cs ≠ [] ∧ (∀ c ∈ cs, c.isDigit = true) ∧ Nat.ofDigitChars 10 cs 0 = n
    ∧ (s.toList = cs ∨ s.toList = '+' :: cs)

theorem withoutPlus_of_isDigit (h : ∀ c ∈ cs, c.isDigit = true) : withoutPlus cs = cs := by
  unfold withoutPlus
  split
  · next cs' =>
    exact absurd (h '+' List.mem_cons_self) (by decide)
  · rfl

/-- Exactly the numbers up to a bound are read. -/
theorem natural?_eq_some_iff : natural? bound s = some n ↔ Writes s n ∧ n ≤ bound := by
  have hbound : natural? bound s = some n ↔ digits? (withoutPlus s.toList) = some n ∧ n ≤ bound := by
    unfold natural?
    simp only [Option.bind_eq_bind, Option.bind_eq_some_iff, Option.guard_eq_some']
    constructor
    · rintro ⟨m, hm, _, hle, h⟩
      cases h
      exact ⟨hm, hle⟩
    · rintro ⟨hm, hle⟩
      exact ⟨n, hm, (), hle, rfl⟩
  rw [hbound]
  refine and_congr_left fun _ => ?_
  rw [digits?_eq_some_iff]
  constructor
  · rintro ⟨hne, hdigits, hvalue⟩
    refine ⟨_, hne, hdigits, hvalue, ?_⟩
    unfold withoutPlus
    split
    · next cs' heq => exact .inr heq
    · exact .inl rfl
  · rintro ⟨cs, hne, hdigits, hvalue, hs | hs⟩
    · rw [hs, withoutPlus_of_isDigit hdigits]
      exact ⟨hne, hdigits, hvalue⟩
    · rw [hs]
      exact ⟨hne, hdigits, hvalue⟩

theorem writes_toString (n : Nat) : Writes (toString n) n :=
  ⟨Nat.toDigits 10 n, Nat.toDigits_ne_nil, fun _ => isDigit_of_mem_toDigits, Nat.ofDigitChars_ten_toDigits,
    .inl Nat.toList_repr⟩

/-! ## Integers -/

/-- The text of an integer: a minus sign if it is negative, and its digits. -/
theorem toList_toString (n : Int) :
    (toString n).toList = if 0 ≤ n then Nat.toDigits 10 n.toNat else '-' :: Nat.toDigits 10 (-n).toNat := by
  rw [Int.toString_eq_repr, Int.repr_eq_if]
  split
  · rw [Nat.toList_repr]
  · rw [String.toList_append, Nat.toList_repr]
    rfl

/-- An integer is read back from its text. -/
theorem integer?_toString (n : Int) : integer? (toString n) = some n := by
  unfold integer?
  rw [toList_toString]
  by_cases hn : 0 ≤ n
  · obtain ⟨c, cs, hdigits, hc, -⟩ := toDigits_eq_cons n.toNat
    -- The reader takes a sign off first, and a digit is none.
    have hplus : withoutPlus (c :: cs) = c :: cs := by
      unfold withoutPlus
      split
      · next heq =>
        cases heq
        cases hc
      · rfl
    rw [if_pos hn, hdigits]
    split
    · next heq =>
      cases heq
      cases hc
    · rw [hplus, ← hdigits, digits?_toDigits, Option.map_some, Int.ofNat_eq_natCast, Int.toNat_of_nonneg hn]
  · rw [if_neg hn]
    simp only [digits?_toDigits]
    change some (-((-n).toNat : Int)) = some n
    rw [Int.toNat_of_nonneg (by omega), Int.neg_neg]

end TopicGuard.Numeral
