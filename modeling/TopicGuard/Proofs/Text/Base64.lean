import Mathlib.Data.Option.Basic
import Mathlib.Tactic.ByContra
import TopicGuard.Text.Base64

/-!
Base 64 reads what it wrote, and reads nothing but digits.

Both directions matter for tokens: a payload is read back from the text it was written as (`decode?_encode`), and a
text that can be read at all consists of digits (`isDigit_of_decode?`), which are visible ASCII characters and never
the dot between the parts of a token.
-/

set_option autoImplicit false

namespace TopicGuard.Base64

variable {a : Alphabet} {c : Char} {cs : List Char} {bs : Bytes}

/-! ## Digits -/

/-- The character is a digit of the alphabet. -/
def IsDigit (a : Alphabet) (c : Char) : Prop :=
  (value? a c).isSome = true

instance (a : Alphabet) (c : Char) : Decidable (IsDigit a c) :=
  inferInstanceAs (Decidable ((value? a c).isSome = true))

theorem value?_digit (a : Alphabet) {n : Nat} (h : n < 64) : value? a (digit a n) = some n := by
  have hurl : ∀ n < 64, value? .url (digit .url n) = some n := by decide
  have hstandard : ∀ n < 64, value? .standard (digit .standard n) = some n := by decide
  cases a with
  | url => exact hurl n h
  | standard => exact hstandard n h

theorem isDigit_digit (a : Alphabet) {n : Nat} (h : n < 64) : IsDigit a (digit a n) := by
  rw [IsDigit, value?_digit a h, Option.isSome_some]

theorem isDigit_of_value? {n : Nat} (h : value? a c = some n) : IsDigit a c := by
  rw [IsDigit, h, Option.isSome_some]

/-- The digits are visible ASCII characters. -/
theorem IsDigit.toNat_mem (h : IsDigit a c) : 0x20 < c.toNat ∧ c.toNat < 0x7F := by
  have hspecial : c = a.digit62 ∨ c = a.digit63 → 0x20 < c.toNat ∧ c.toNat < 0x7F := by
    rintro (rfl | rfl)
    · cases a <;> decide
    · cases a <;> decide
  -- Outside the range no branch of `value?` gives a value.
  by_contra hrange
  have hnot := mt hspecial hrange
  rw [not_or] at hnot
  have h₁ : ¬ (65 ≤ c.toNat && c.toNat ≤ 90) = true := by
    simp
    omega
  have h₂ : ¬ (97 ≤ c.toNat && c.toNat ≤ 122) = true := by
    simp
    omega
  have h₃ : ¬ (48 ≤ c.toNat && c.toNat ≤ 57) = true := by
    simp
    omega
  rw [IsDigit, value?, if_neg h₁, if_neg h₂, if_neg h₃, if_neg hnot.1, if_neg hnot.2] at h
  cases h

/-- In addresses the digits are the letters and decimal digits of ASCII, the hyphen and the low line. -/
theorem isDigit_url_iff : IsDigit .url c ↔ c.isAlphanum = true ∨ c = '-' ∨ c = '_' := by
  have halphanum : c.isAlphanum = true ↔
      (65 ≤ c.toNat ∧ c.toNat ≤ 90) ∨ (97 ≤ c.toNat ∧ c.toNat ≤ 122) ∨ 48 ≤ c.toNat ∧ c.toNat ≤ 57 := by
    have hdef : c.isAlphanum
        = (decide (65 ≤ c.val ∧ c.val ≤ 90) || (97 ≤ c.val && c.val ≤ 122) || (48 ≤ c.val && c.val ≤ 57)) := rfl
    rw [hdef]
    simp only [Bool.or_eq_true, Bool.and_eq_true, decide_eq_true_eq, UInt32.le_iff_toNat_le, or_assoc]
    exact Iff.rfl
  have hbranch {p : Prop} [Decidable p] {n : Nat} {rest : Option Nat} :
      (if p then some n else rest).isSome = true ↔ p ∨ rest.isSome = true := by
    by_cases hp : p
    · simp [hp]
    · simp [hp]
  rw [halphanum, IsDigit, value?, hbranch, hbranch, hbranch, hbranch, hbranch]
  simp only [Bool.and_eq_true, decide_eq_true_eq, Option.isSome_none, Bool.false_eq_true, or_false, or_assoc]
  exact Iff.rfl

theorem not_isDigit_dot (a : Alphabet) : ¬ IsDigit a '.' := by
  cases a <;> decide

/-! ## Writing and reading -/

/-- Written text consists of digits. -/
theorem isDigit_of_mem_encode (h : c ∈ encode a bs) : IsDigit a c := by
  fun_induction encode a bs with
  | case1 => cases h
  | case2 x =>
    have hx := x.toNat_lt
    simp only [List.mem_cons, List.not_mem_nil, or_false] at h
    rcases h with rfl | rfl
    all_goals exact isDigit_digit a (by omega)
  | case3 x y =>
    have hx := x.toNat_lt
    have hy := y.toNat_lt
    simp only [List.mem_cons, List.not_mem_nil, or_false] at h
    rcases h with rfl | rfl | rfl
    all_goals exact isDigit_digit a (by omega)
  | case4 x y z rest ih =>
    have hx := x.toNat_lt
    have hy := y.toNat_lt
    have hz := z.toNat_lt
    simp only [List.mem_cons] at h
    rcases h with rfl | rfl | rfl | rfl | h
    case inr.inr.inr.inr => exact ih h
    all_goals exact isDigit_digit a (by omega)

/-- Only digits can be read. -/
theorem isDigit_of_decode? (h : decode? a cs = some bs) (hc : c ∈ cs) : IsDigit a c := by
  fun_induction decode? a cs generalizing bs with
  | case1 => cases hc
  | case2 => cases h
  | case3 d e =>
    simp only [Option.bind_eq_bind, Option.bind_eq_some_iff] at h
    obtain ⟨v, hv, w, hw, -⟩ := h
    simp only [List.mem_cons, List.not_mem_nil, or_false] at hc
    rcases hc with rfl | rfl
    · exact isDigit_of_value? hv
    · exact isDigit_of_value? hw
  | case4 d e f =>
    simp only [Option.bind_eq_bind, Option.bind_eq_some_iff] at h
    obtain ⟨v, hv, w, hw, x, hx, -⟩ := h
    simp only [List.mem_cons, List.not_mem_nil, or_false] at hc
    rcases hc with rfl | rfl | rfl
    · exact isDigit_of_value? hv
    · exact isDigit_of_value? hw
    · exact isDigit_of_value? hx
  | case5 d e f g rest ih =>
    simp only [Option.bind_eq_bind, Option.bind_eq_some_iff] at h
    obtain ⟨v, hv, w, hw, x, hx, y, hy, bytes, hbytes, -⟩ := h
    simp only [List.mem_cons] at hc
    rcases hc with rfl | rfl | rfl | rfl | hc
    · exact isDigit_of_value? hv
    · exact isDigit_of_value? hw
    · exact isDigit_of_value? hx
    · exact isDigit_of_value? hy
    · exact ih hbytes hc

theorem toUInt8_eq {x : UInt8} {n : Nat} (h : n = x.toNat) : n.toUInt8 = x := by
  rw [h]
  exact UInt8.ofNat_toNat

/-- What was written is read back. The bits of a byte that one digit does not hold are at the top of the next, and
those that the last digit of an incomplete group does not need are zero. -/
theorem decode?_encode (a : Alphabet) (bs : Bytes) : decode? a (encode a bs) = some bs := by
  fun_induction encode a bs with
  | case1 => rfl
  | case2 x =>
    have hx := x.toNat_lt
    have hbyte : (x.toNat / 4 * 4 + x.toNat % 4 * 16 / 16).toUInt8 = x := toUInt8_eq (by omega)
    rw [decode?, value?_digit a (by omega), value?_digit a (by omega)]
    -- The reader checks that the bits left over are zero.
    simp only [Option.bind_eq_bind, Option.bind_some, hbyte]
    rw [(Option.guard_eq_some' ()).mpr (by omega)]
    rfl
  | case3 x y =>
    have hx := x.toNat_lt
    have hy := y.toNat_lt
    have hfirst : (x.toNat / 4 * 4 + (x.toNat % 4 * 16 + y.toNat / 16) / 16).toUInt8 = x :=
      toUInt8_eq (by omega)
    have hsecond : ((x.toNat % 4 * 16 + y.toNat / 16) % 16 * 16 + y.toNat % 16 * 4 / 4).toUInt8 = y :=
      toUInt8_eq (by omega)
    rw [decode?, value?_digit a (by omega), value?_digit a (by omega), value?_digit a (by omega)]
    simp only [Option.bind_eq_bind, Option.bind_some, hfirst, hsecond]
    rw [(Option.guard_eq_some' ()).mpr (by omega)]
    rfl
  | case4 x y z rest ih =>
    have hx := x.toNat_lt
    have hy := y.toNat_lt
    have hz := z.toNat_lt
    have hfirst : (x.toNat / 4 * 4 + (x.toNat % 4 * 16 + y.toNat / 16) / 16).toUInt8 = x :=
      toUInt8_eq (by omega)
    have hsecond : ((x.toNat % 4 * 16 + y.toNat / 16) % 16 * 16
        + (y.toNat % 16 * 4 + z.toNat / 64) / 4).toUInt8 = y :=
      toUInt8_eq (by omega)
    have hthird : ((y.toNat % 16 * 4 + z.toNat / 64) % 4 * 64 + z.toNat % 64).toUInt8 = z :=
      toUInt8_eq (by omega)
    rw [decode?, value?_digit a (by omega), value?_digit a (by omega), value?_digit a (by omega),
      value?_digit a (by omega), ih]
    simp only [Option.bind_eq_bind, Option.bind_some, hfirst, hsecond, hthird]
    rfl

end TopicGuard.Base64
