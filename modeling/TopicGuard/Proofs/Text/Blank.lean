import Mathlib.Data.List.DropRight
import TopicGuard.Text.Blank

/-!
Texts without white space around them.

Trimming a second time changes nothing (`trim_trim`), so whoever trims a text may hand it on to a reader that trims
for itself. A text without any white space is left as it is, and so is one that a lower-case form without white space
belongs to (`trim_eq_of_toLower`): changing case never makes or removes a blank.
-/

set_option autoImplicit false

namespace TopicGuard.Text

variable {c : Char} {cs : List Char} {s : String}

theorem trimChars_eq_rdropWhile (cs : List Char) : trimChars cs = (cs.dropWhile isBlank).rdropWhile isBlank :=
  rfl

theorem dropWhile_trimChars (cs : List Char) : (trimChars cs).dropWhile isBlank = trimChars cs := by
  rw [List.dropWhile_eq_self_iff]
  intro hpos
  -- What is left begins like the text without the blanks in front.
  have hfront : trimChars cs <+: cs.dropWhile isBlank := List.rdropWhile_prefix isBlank _
  rw [hfront.getElem hpos]
  exact List.dropWhile_get_zero_not isBlank cs (hpos.trans_le hfront.length_le)

theorem trimChars_trimChars (cs : List Char) : trimChars (trimChars cs) = trimChars cs := by
  rw [trimChars_eq_rdropWhile (trimChars cs), dropWhile_trimChars, trimChars_eq_rdropWhile cs,
    List.rdropWhile_idempotent]

/-- Trimming a second time changes nothing. -/
theorem trim_trim (s : String) : trim (trim s) = trim s := by
  rw [trim, trim, String.toList_ofList, trimChars_trimChars]

theorem trimChars_eq_self (h : ∀ c ∈ cs, isBlank c = false) : trimChars cs = cs := by
  have hfront : cs.dropWhile isBlank = cs := by
    rw [List.dropWhile_eq_self_iff]
    intro hpos
    simp [h cs[0] (List.getElem_mem hpos)]
  rw [trimChars_eq_rdropWhile, hfront, List.rdropWhile_eq_self_iff]
  intro hne
  simp [h _ (List.getLast_mem hne)]

/-- A text without white space is left as it is. -/
theorem trim_eq_self (h : ∀ c ∈ s.toList, isBlank c = false) : trim s = s := by
  rw [trim, trimChars_eq_self h, String.ofList_toList]

/-! ## Case -/

theorem toNat_toLower (c : Char) :
    c.toLower.toNat = if 65 ≤ c.toNat ∧ c.toNat ≤ 90 then c.toNat + 32 else c.toNat := by
  have hcode : (c.val ≥ 'A'.val ∧ c.val ≤ 'Z'.val) ↔ 65 ≤ c.toNat ∧ c.toNat ≤ 90 := Iff.rfl
  unfold Char.toLower
  split
  · next h =>
    have hle : c.toNat ≤ 90 := (hcode.mp h).2
    rw [if_pos (hcode.mp h)]
    show (c.val + 32).toNat = c.toNat + 32
    rw [UInt32.toNat_add]
    exact Nat.mod_eq_of_lt (Nat.lt_of_le_of_lt (Nat.add_le_add_right hle 32) (by decide))
  · next h => rw [if_neg fun hupper => h (hcode.mpr hupper)]

/-- No visible character of the ASCII range is a blank. -/
theorem isBlank_eq_false (h : 0x21 ≤ c.toNat) (h' : c.toNat ≤ 0x7E) : isBlank c = false := by
  simp only [isBlank, Bool.or_eq_false_iff, Bool.and_eq_false_iff, decide_eq_false_iff_not, beq_eq_false_iff_ne]
  omega

theorem isBlank_toLower (c : Char) : isBlank c.toLower = isBlank c := by
  have hcode := toNat_toLower c
  by_cases hupper : 65 ≤ c.toNat ∧ c.toNat ≤ 90
  · rw [if_pos hupper] at hcode
    rw [isBlank_eq_false (c := c) (by omega) (by omega), isBlank_eq_false (by omega) (by omega)]
  · rw [if_neg hupper] at hcode
    rw [isBlank, isBlank, hcode]

/-- A text is left as it is if there is no white space in its lower-case form. -/
theorem trim_eq_of_toLower (h : ∀ c ∈ (s.map Char.toLower).toList, isBlank c = false) : trim s = s := by
  refine trim_eq_self fun c hc => ?_
  rw [← isBlank_toLower]
  refine h _ ?_
  rw [String.toList_map]
  exact List.mem_map_of_mem hc

end TopicGuard.Text
