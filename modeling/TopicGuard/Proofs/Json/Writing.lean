import TopicGuard.Proofs.Json.Grammar
import TopicGuard.Proofs.Json.Members

/-!
Values are read back from their text.

A text has a meaning if its numbers are in range and its containers are not nested too deep. For values without
decimals this is `Fits`: the integers are those of 64 bits, and there are at most so many containers inside each
other. A value that fits means itself once more when the parts it is written as are decoded (`ofRaw?_ofJson`), and so
the bytes of its text are read as the value with its members in order (`ofBytes?_render`).
-/

set_option autoImplicit false

namespace TopicGuard.Json

variable {n : Int} {c : Char} {depth : Nat}

/-! ## Numbers -/

theorem ofDigits_digitsOf (n : Nat) : Number.ofDigits (Numeral.digitsOf n) = n := by
  unfold Number.ofDigits Numeral.digitsOf
  rw [TopicGuard.Numeral.foldl_digitValue, Nat.ofDigitChars_ten_toDigits]

/-- An integer of 64 bits, signed or not, is read back from its digits. -/
theorem ofNumeral?_int (hleast : Number.leastInt ≤ n) (hgreatest : n ≤ Number.greatestInt) :
    Number.ofNumeral? (Numeral.ofNumber (.int n)) = some (.int n) := by
  unfold Number.leastInt at hleast
  unfold Number.greatestInt at hgreatest
  have hwritten : Numeral.ofNumber (.int n) = ⟨n < 0, Numeral.digitsOf n.natAbs, none, none⟩ := rfl
  unfold Number.ofNumeral?
  simp only [hwritten, ofDigits_digitsOf, Option.isNone_none, Bool.and_self, if_true]
  by_cases hn : n < 0
  · have hrange : 0 < n.natAbs ∧ n.natAbs ≤ 0x8000000000000000 := by omega
    have hvalue : -(n.natAbs : Int) = n := by omega
    rw [if_pos (decide_eq_true hn), if_pos hrange, hvalue]
  · have hrange : n.natAbs < 0x10000000000000000 := by omega
    have hvalue : (n.natAbs : Int) = n := by omega
    rw [if_neg (by simpa using hn), if_pos hrange, hvalue]

/-! ## Strings -/

/-- A piece spells the character that it was written for, whatever pieces follow. -/
theorem chars?_cons (c : Char) (ps : Literal) :
    Literal.chars? (Piece.ofChar c :: ps) = (Literal.chars? ps).map (c :: ·) := by
  unfold Piece.ofChar
  by_cases hcode : c ∉ lettered ∧ c.toNat < 0x20
  · -- A control is no half of a surrogate pair.
    have hleading : Literal.isLeading c.toNat = false := by
      simp only [Literal.isLeading, Bool.and_eq_false_imp, decide_eq_true_eq, decide_eq_false_iff_not]
      omega
    have htrailing : Literal.isTrailing c.toNat = false := by
      simp only [Literal.isTrailing, Bool.and_eq_false_imp, decide_eq_true_eq, decide_eq_false_iff_not]
      omega
    rw [if_pos hcode, Literal.chars?.eq_def]
    simp only [hleading, htrailing, Bool.false_eq_true, if_false, Char.ofNat_toNat]
  · rw [if_neg hcode, Literal.chars?]

/-- A string is read back from the pieces that it was written as. -/
theorem text?_ofString (s : String) : (Literal.ofString s).text? = some s := by
  have hchars (cs : List Char) : Literal.chars? (cs.map Piece.ofChar) = some cs := by
    induction cs with
    | nil => rfl
    | cons c cs ih => rw [List.map_cons, chars?_cons, ih, Option.map_some]
  rw [Literal.text?, Literal.ofString, hchars, Option.map_some, String.ofList_toList]

/-! ## Values -/

mutual

/-- The value has no numbers but integers of 64 bits, signed or not, and at most `depth` containers inside each
other. -/
def Fits (depth : Nat) : Json → Prop
  | .number (.int n) => Number.leastInt ≤ n ∧ n ≤ Number.greatestInt
  | .number (.decimal _) => False
  | .array items => 0 < depth ∧ FitsItems (depth - 1) items
  | .object members => 0 < depth ∧ FitsMembers (depth - 1) members
  | .null | .bool _ | .string _ => True

/-- Every item of an array fits. -/
def FitsItems (depth : Nat) : List Json → Prop
  | [] => True
  | x :: xs => Fits depth x ∧ FitsItems depth xs

/-- The value of every member of an object fits. -/
def FitsMembers (depth : Nat) : List (String × Json) → Prop
  | [] => True
  | (_, x) :: members => Fits depth x ∧ FitsMembers depth members

end

theorem fitsMembers_iff {members : List (String × Json)} :
    FitsMembers depth members ↔ ∀ m ∈ members, Fits depth m.2 := by
  induction members with
  | nil => simp [FitsMembers]
  | cons m members ih => rw [FitsMembers, ih, List.forall_mem_cons]

mutual

/-- What fits a bound fits a larger one. -/
theorem Fits.mono : ∀ {x : Json} {depth depth' : Nat}, depth ≤ depth' → Fits depth x → Fits depth' x
  | .null, _, _, _, h => h
  | .bool _, _, _, _, h => h
  | .number (.int _), _, _, _, h => h
  | .number (.decimal _), _, _, _, h => h
  | .string _, _, _, _, h => h
  | .array items, depth, depth', hle, h => by
    rw [Fits] at h ⊢
    exact ⟨by omega, FitsItems.mono (by omega) h.2⟩
  | .object members, depth, depth', hle, h => by
    rw [Fits] at h ⊢
    exact ⟨by omega, FitsMembers.mono (by omega) h.2⟩

theorem FitsItems.mono : ∀ {xs : List Json} {depth depth' : Nat}, depth ≤ depth' → FitsItems depth xs →
    FitsItems depth' xs
  | [], _, _, _, h => h
  | x :: xs, depth, depth', hle, h => by
    rw [FitsItems] at h ⊢
    exact ⟨h.1.mono hle, FitsItems.mono hle h.2⟩

theorem FitsMembers.mono : ∀ {members : List (String × Json)} {depth depth' : Nat}, depth ≤ depth' →
    FitsMembers depth members → FitsMembers depth' members
  | [], _, _, _, h => h
  | (key, x) :: members, depth, depth', hle, h => by
    rw [FitsMembers] at h ⊢
    exact ⟨h.1.mono hle, FitsMembers.mono hle h.2⟩

end

mutual

/-- A value that fits is what its parts mean. -/
theorem ofRaw?_ofJson : ∀ (x : Json) (depth : Nat), Fits depth x → ofRaw? depth (Raw.ofJson x) = some x
  | .null, depth, h => by rw [Raw.ofJson, ofRaw?]
  | .bool b, depth, h => by rw [Raw.ofJson, ofRaw?]
  | .number (.int n), depth, h => by
    rw [Fits] at h
    rw [Raw.ofJson, ofRaw?, ofNumeral?_int h.1 h.2, Option.map_some]
  | .number (.decimal d), depth, h => by
    rw [Fits] at h
    exact h.elim
  | .string s, depth, h => by rw [Raw.ofJson, ofRaw?, text?_ofString, Option.map_some]
  | .array items, depth, h => by
    rw [Fits] at h
    obtain ⟨depth, rfl⟩ : ∃ d, depth = d + 1 := ⟨depth - 1, by omega⟩
    rw [Raw.ofJson, ofRaw?, itemsOfRaw?_itemsOfJson items depth h.2, Option.map_some]
  | .object members, depth, h => by
    rw [Fits] at h
    obtain ⟨depth, rfl⟩ : ∃ d, depth = d + 1 := ⟨depth - 1, by omega⟩
    rw [Raw.ofJson, ofRaw?, membersOfRaw?_membersOfJson members depth h.2, Option.map_some]

theorem itemsOfRaw?_itemsOfJson : ∀ (xs : List Json) (depth : Nat), FitsItems depth xs →
    itemsOfRaw? depth (Raw.itemsOfJson xs) = some xs
  | [], depth, h => by rw [Raw.itemsOfJson, itemsOfRaw?]
  | x :: xs, depth, h => by
    rw [FitsItems] at h
    rw [Raw.itemsOfJson, itemsOfRaw?, ofRaw?_ofJson x depth h.1, itemsOfRaw?_itemsOfJson xs depth h.2]
    rfl

theorem membersOfRaw?_membersOfJson : ∀ (members : List (String × Json)) (depth : Nat), FitsMembers depth members →
    membersOfRaw? depth (Raw.membersOfJson members) = some members
  | [], depth, h => by rw [Raw.membersOfJson, membersOfRaw?]
  | (key, x) :: members, depth, h => by
    rw [FitsMembers] at h
    rw [Raw.membersOfJson, membersOfRaw?, text?_ofString, ofRaw?_ofJson x depth h.1,
      membersOfRaw?_membersOfJson members depth h.2]
    rfl

end

/-! ## Canonical values -/

mutual

/-- Putting members in order makes no value larger. -/
theorem Fits.canonical : ∀ {x : Json} {depth : Nat}, Fits depth x → Fits depth x.canonical
  | .null, depth, h => h
  | .bool b, depth, h => h
  | .number n, depth, h => h
  | .string s, depth, h => h
  | .array items, depth, h => by
    rw [Fits] at h
    rw [Json.canonical, Fits]
    exact ⟨h.1, FitsItems.canonical h.2⟩
  | .object members, depth, h => by
    rw [Fits] at h
    rw [Json.canonical, Fits]
    exact ⟨h.1, fitsMembers_iff.mpr fun m hm =>
      fitsMembers_iff.mp (FitsMembers.canonical h.2) m (mem_of_mem_sortMembers hm)⟩

theorem FitsItems.canonical : ∀ {xs : List Json} {depth : Nat}, FitsItems depth xs → FitsItems depth (canonicalItems xs)
  | [], depth, h => h
  | x :: xs, depth, h => by
    rw [FitsItems] at h
    rw [canonicalItems, FitsItems]
    exact ⟨h.1.canonical, FitsItems.canonical h.2⟩

theorem FitsMembers.canonical : ∀ {members : List (String × Json)} {depth : Nat}, FitsMembers depth members →
    FitsMembers depth (canonicalMembers members)
  | [], depth, h => h
  | (key, x) :: members, depth, h => by
    rw [FitsMembers] at h
    rw [canonicalMembers, FitsMembers]
    exact ⟨h.1.canonical, FitsMembers.canonical h.2⟩

end

/-! ## Reading what was written -/

/-- The bytes of a written value are read as the value with its members in order. -/
theorem ofBytes?_render {x : Json} (h : Fits depthLimit x) :
    ofBytes? (Utf8.encode x.render) = some x.canonical := by
  rw [ofBytes?, Utf8.encode, render, String.toList_ofList, Raw.ofBytes?_encodeChars, Option.bind_some,
    ofRaw?_ofJson x.canonical depthLimit h.canonical]

end TopicGuard.Json
