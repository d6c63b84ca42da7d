import Mathlib.Data.Option.Basic
import TopicGuard.Text.Utf8

/-!
UTF-8 reads what it wrote.

The reader tries the forms of a character in the order of their length, and each form is told by the range of its
first byte. So a written character is found by its own form and by no shorter one (`front?_encodeChar`), whatever
bytes follow it. From there the bytes of a text are read one entry a character, without stray bytes
(`scalars_encodeChars`), and a text is read back from its bytes (`decode?_encode`).
-/

set_option autoImplicit false

namespace TopicGuard.Utf8

variable {a b d e : UInt8} {c : Char} {x y z : Nat}

/-! ## Single bytes -/

theorem toNat_toUInt8 {n : Nat} (h : n < 0x100) : n.toUInt8.toNat = n :=
  Nat.mod_eq_of_lt h

/-- Six bits survive in a continuation byte. -/
theorem continuation?_toUInt8 {n : Nat} (h : n < 0x40) :
    continuation? (0x80 + n).toUInt8 = some n := by
  have hbyte : (0x80 + n).toUInt8.toNat = 0x80 + n := toNat_toUInt8 (by omega)
  unfold continuation?
  rw [hbyte, if_pos (by simp; omega), Nat.add_sub_cancel_left]

/-! ## Characters -/

/-- A code point is no surrogate and is in range. -/
theorem toNat_valid (c : Char) : c.toNat < 0xD800 ∨ 0xDFFF < c.toNat ∧ c.toNat < 0x110000 :=
  c.valid

/-- The number of a character is read as this character where it is not too small for its bytes. -/
theorem scalar?_toNat {least : Nat} (h : least ≤ c.toNat) : scalar? least c.toNat = some c := by
  have hvalid := toNat_valid c
  unfold scalar?
  rw [if_pos (by simp; omega), Char.ofNat_toNat]

/-! ## The forms

The reader tries the shorter form first, and the first byte of a longer form is not that of a shorter one. -/

/-- A reader that begins with a check reads nothing where the check fails. -/
theorem bind_guard_eq_none {α : Type} {p : Prop} [Decidable p] {read : Unit → Option α} (h : ¬ p) :
    (guard p : Option Unit) >>= read = none := by
  rw [Option.bind_eq_bind, Option.bind_eq_none_iff]
  exact fun u hu => absurd ((Option.guard_eq_some' u).mp hu) h

theorem two?_eq_none (h : ¬ (0xC0 ≤ a.toNat ∧ a.toNat < 0xE0)) : two? a b = none := by
  unfold two?
  exact bind_guard_eq_none (by simpa using h)

theorem three?_eq_none (h : ¬ (0xE0 ≤ a.toNat ∧ a.toNat < 0xF0)) : three? a b d = none := by
  unfold three?
  exact bind_guard_eq_none (by simpa using h)

theorem four?_eq_none (h : ¬ (0xF0 ≤ a.toNat ∧ a.toNat < 0xF8)) : four? a b d e = none := by
  unfold four?
  exact bind_guard_eq_none (by simpa using h)

/-- Eleven bits survive in two bytes. -/
theorem two?_toUInt8 (hx : x < 0x20) (hy : y < 0x40) (hleast : 0x80 ≤ c.toNat)
    (hc : c.toNat = x * 0x40 + y) :
    two? (0xC0 + x).toUInt8 (0x80 + y).toUInt8 = some c := by
  have ha : (0xC0 + x).toUInt8.toNat = 0xC0 + x := toNat_toUInt8 (by omega)
  have hguard : (0xC0 ≤ 0xC0 + x && 0xC0 + x < 0xE0) = true := by
    simp
    omega
  unfold two?
  rw [ha, continuation?_toUInt8 hy, (Option.guard_eq_some' ()).mpr hguard]
  simp only [Option.bind_eq_bind, Option.bind_some]
  rw [Nat.add_sub_cancel_left, ← hc, scalar?_toNat hleast]

/-- Sixteen bits survive in three bytes. -/
theorem three?_toUInt8 (hx : x < 0x10) (hy : y < 0x40) (hz : z < 0x40) (hleast : 0x800 ≤ c.toNat)
    (hc : c.toNat = x * 0x1000 + y * 0x40 + z) :
    three? (0xE0 + x).toUInt8 (0x80 + y).toUInt8 (0x80 + z).toUInt8 = some c := by
  have ha : (0xE0 + x).toUInt8.toNat = 0xE0 + x := toNat_toUInt8 (by omega)
  have hguard : (0xE0 ≤ 0xE0 + x && 0xE0 + x < 0xF0) = true := by
    simp
    omega
  unfold three?
  rw [ha, continuation?_toUInt8 hy, continuation?_toUInt8 hz, (Option.guard_eq_some' ()).mpr hguard]
  simp only [Option.bind_eq_bind, Option.bind_some]
  rw [Nat.add_sub_cancel_left, ← hc, scalar?_toNat hleast]

/-- Twenty-one bits survive in four bytes. -/
theorem four?_toUInt8 {w : Nat} (hw : w < 8) (hx : x < 0x40) (hy : y < 0x40) (hz : z < 0x40)
    (hleast : 0x10000 ≤ c.toNat) (hc : c.toNat = w * 0x40000 + x * 0x1000 + y * 0x40 + z) :
    four? (0xF0 + w).toUInt8 (0x80 + x).toUInt8 (0x80 + y).toUInt8 (0x80 + z).toUInt8 = some c := by
  have ha : (0xF0 + w).toUInt8.toNat = 0xF0 + w := toNat_toUInt8 (by omega)
  have hguard : (0xF0 ≤ 0xF0 + w && 0xF0 + w < 0xF8) = true := by
    simp
    omega
  -- With any reader of the code point in the place of `scalar?`: that one would be unfolded down to a comparison
  -- with its bound, one successor at a time.
  have hread (f : Nat → Nat → Nat → Option Char) : (do
      guard (true = true)
      let x ← some x
      let y ← some y
      let z ← some z
      f x y z) = f x y z := rfl
  unfold four?
  rw [ha, continuation?_toUInt8 hx, continuation?_toUInt8 hy, continuation?_toUInt8 hz, hguard,
    Nat.add_sub_cancel_left, hread fun x y z => scalar? 0x10000 (w * 0x40000 + x * 0x1000 + y * 0x40 + z),
    ← hc, scalar?_toNat hleast]

/-! ## Reading what was written -/

theorem encodeChar_of_lt (h : c.toNat < 0x80) : encodeChar c = [c.toNat.toUInt8] :=
  if_pos h

/-- The bytes of a character are read as that character, whatever follows them. -/
theorem front?_encodeChar (c : Char) (rest : Bytes) :
    front? (encodeChar c ++ rest) = some (c, rest) := by
  have hvalid := toNat_valid c
  -- One case for each form, in the order in which they are tried: where a form is not the right one, the range of its
  -- first byte is below that of the byte that was written.
  by_cases h₁ : c.toNat < 0x80
  · have ha : c.toNat.toUInt8.toNat = c.toNat := toNat_toUInt8 (by omega)
    rw [encodeChar_of_lt h₁, List.cons_append, List.nil_append]
    simp only [front?]
    rw [ha, if_pos h₁, Char.ofNat_toNat]
  by_cases h₂ : c.toNat < 0x800
  · have ha : (0xC0 + c.toNat / 0x40).toUInt8.toNat = 0xC0 + c.toNat / 0x40 := toNat_toUInt8 (by omega)
    have htwo : two? (0xC0 + c.toNat / 0x40).toUInt8 (0x80 + c.toNat % 0x40).toUInt8 = some c :=
      two?_toUInt8 (by omega) (by omega) (by omega) (by omega)
    simp only [encodeChar, if_neg h₁, if_pos h₂, List.cons_append, List.nil_append, front?, htwo]
    rw [ha, if_neg (by omega)]
  by_cases h₃ : c.toNat < 0x10000
  · have ha : (0xE0 + c.toNat / 0x1000).toUInt8.toNat = 0xE0 + c.toNat / 0x1000 :=
      toNat_toUInt8 (by omega)
    have hthree : three? (0xE0 + c.toNat / 0x1000).toUInt8 (0x80 + c.toNat / 0x40 % 0x40).toUInt8
        (0x80 + c.toNat % 0x40).toUInt8 = some c :=
      three?_toUInt8 (by omega) (by omega) (by omega) (by omega) (by omega)
    simp only [encodeChar, if_neg h₁, if_neg h₂, if_pos h₃, List.cons_append, List.nil_append, front?,
      hthree]
    rw [ha, if_neg (by omega), two?_eq_none (by omega)]
  · have ha : (0xF0 + c.toNat / 0x40000).toUInt8.toNat = 0xF0 + c.toNat / 0x40000 :=
      toNat_toUInt8 (by omega)
    have hfour : four? (0xF0 + c.toNat / 0x40000).toUInt8 (0x80 + c.toNat / 0x1000 % 0x40).toUInt8
        (0x80 + c.toNat / 0x40 % 0x40).toUInt8 (0x80 + c.toNat % 0x40).toUInt8 = some c :=
      four?_toUInt8 (by omega) (by omega) (by omega) (by omega) (by omega) (by omega)
    simp only [encodeChar, if_neg h₁, if_neg h₂, if_neg h₃, List.cons_append, List.nil_append, front?,
      hfour]
    rw [ha, if_neg (by omega), two?_eq_none (by omega), three?_eq_none (by omega)]
    rfl

/-- A character has at least one byte. -/
theorem encodeChar_ne_nil (c : Char) : encodeChar c ≠ [] := by
  unfold encodeChar
  dsimp only
  repeat' split
  all_goals simp

/-- A character at the front is read, and then what follows it. -/
theorem scalars_of_front?_eq_some {bs rest : Bytes} (h : front? (a :: bs) = some (c, rest)) :
    scalars (a :: bs) = some c :: scalars rest := by
  rw [scalars]
  split
  · next hfront =>
    rw [h] at hfront
    cases hfront
    rfl
  · next hfront =>
    rw [h] at hfront
    cases hfront

/-- Where no character can be read, one byte is passed over. -/
theorem scalars_of_front?_eq_none {bs : Bytes} (h : front? (a :: bs) = none) :
    scalars (a :: bs) = none :: scalars bs := by
  rw [scalars]
  split
  · next hfront =>
    rw [h] at hfront
    cases hfront
  · rfl

/-- A character that was encoded is read back, whatever bytes follow. -/
theorem scalars_encodeChar_append (c : Char) (rest : Bytes) :
    scalars (encodeChar c ++ rest) = some c :: scalars rest := by
  obtain ⟨b, bs, hb⟩ := List.exists_cons_of_ne_nil (encodeChar_ne_nil c)
  have hfront := front?_encodeChar c rest
  rw [hb, List.cons_append] at hfront ⊢
  exact scalars_of_front?_eq_some hfront

/-- Written characters are read one entry each. -/
theorem scalars_encodeChars_append (cs : List Char) (rest : Bytes) :
    scalars (encodeChars cs ++ rest) = cs.map some ++ scalars rest := by
  induction cs with
  | nil => rfl
  | cons c cs ih =>
    have hsplit : encodeChars (c :: cs) ++ rest = encodeChar c ++ (encodeChars cs ++ rest) := by
      rw [encodeChars, List.flatMap_cons, List.append_assoc]
      rfl
    rw [hsplit, scalars_encodeChar_append, ih, List.map_cons, List.cons_append]

/-- A text that was encoded is read back. -/
theorem scalars_encodeChars (cs : List Char) : scalars (encodeChars cs) = cs.map some := by
  have h := scalars_encodeChars_append cs []
  rw [List.append_nil, scalars, List.append_nil] at h
  exact h

theorem allScalars?_map_some (cs : List Char) : allScalars? (cs.map some) = some cs := by
  induction cs with
  | nil => rfl
  | cons c cs ih => rw [List.map_cons, allScalars?, ih, Option.map_some]

/-- A text is read back from its bytes. -/
theorem decode?_encode (s : String) : decode? (encode s) = some s := by
  rw [decode?, encode, scalars_encodeChars, allScalars?_map_some, Option.map_some, String.ofList_toList]

/-! ## Cut characters

Where a text is cut inside a character, the bytes in front of the cut are stray, each of them: the first one asks for
more bytes than there are, and the others begin no character at all. -/

/-- A byte that can only continue a character. -/
def IsContinuation (b : UInt8) : Prop :=
  0x80 ≤ b.toNat ∧ b.toNat < 0xC0

theorem isContinuation_toUInt8 {n : Nat} (h : n < 0x40) : IsContinuation (0x80 + n).toUInt8 := by
  rw [IsContinuation, toNat_toUInt8 (by omega)]
  omega

/-- No character begins with a byte that can only continue one. -/
theorem front?_of_isContinuation (h : IsContinuation a) (bs : Bytes) : front? (a :: bs) = none := by
  obtain ⟨hlow, hhigh⟩ := h
  have hlow : ¬ a.toNat < 0x80 := by omega
  match bs with
  | [] => simp only [front?, if_neg hlow]
  | [b] => simp only [front?, if_neg hlow, two?_eq_none (a := a) (b := b) (by omega)]
  | [b, d] =>
    simp only [front?, if_neg hlow, two?_eq_none (a := a) (b := b) (by omega),
      three?_eq_none (a := a) (b := b) (d := d) (by omega)]
  | b :: d :: e :: _ =>
    simp only [front?, if_neg hlow, two?_eq_none (a := a) (b := b) (by omega),
      three?_eq_none (a := a) (b := b) (d := d) (by omega),
      four?_eq_none (a := a) (b := b) (d := d) (e := e) (by omega), Option.map_none]

/-- Continuation bytes alone hold no character, and each is passed over by itself. -/
theorem scalars_of_isContinuation {bs : Bytes} (h : ∀ b ∈ bs, IsContinuation b) :
    scalars bs = List.replicate bs.length none := by
  induction bs with
  | nil => rw [scalars, List.length_nil, List.replicate_zero]
  | cons b bs ih =>
    rw [List.forall_mem_cons] at h
    rw [scalars_of_front?_eq_none (front?_of_isContinuation h.1 bs), ih h.2, List.length_cons, List.replicate_succ]

/-- No character has fewer bytes than its first one says. -/
theorem front?_of_short {q : Bytes} (h : 0x80 ≤ a.toNat) (htwo : 1 ≤ q.length → 0xE0 ≤ a.toNat)
    (hthree : 2 ≤ q.length → 0xF0 ≤ a.toNat) (hlength : q.length ≤ 2) : front? (a :: q) = none := by
  have hlow : ¬ a.toNat < 0x80 := by omega
  -- The forms that the bytes would be enough for have smaller first bytes.
  match q with
  | [] => simp only [front?, if_neg hlow]
  | [b] =>
    have hlead := htwo (by simp)
    simp only [front?, if_neg hlow, two?_eq_none (a := a) (b := b) (by omega)]
  | [b, d] =>
    have hlead := hthree (by simp)
    simp only [front?, if_neg hlow, two?_eq_none (a := a) (b := b) (by omega),
      three?_eq_none (a := a) (b := b) (d := d) (by omega)]
  | _ :: _ :: _ :: _ =>
    simp only [List.length_cons] at hlength
    omega

/-- A character is a first byte and others that continue it, and with fewer of them there is no character. -/
theorem encodeChar_eq_cons (c : Char) : ∃ a tail, encodeChar c = a :: tail ∧ (∀ b ∈ tail, IsContinuation b)
    ∧ ∀ q : Bytes, q.length < tail.length → front? (a :: q) = none := by
  have hvalid := toNat_valid c
  have hcontinues (n : Nat) : IsContinuation (0x80 + n % 0x40).toUInt8 := isContinuation_toUInt8 (by omega)
  unfold encodeChar
  dsimp only
  -- One case for each form, by the number of its bytes.
  split
  · exact ⟨_, [], rfl, List.forall_mem_nil _, fun q hq => absurd hq (Nat.not_lt_zero _)⟩
  split
  · have ha : (0xC0 + c.toNat / 0x40).toUInt8.toNat = 0xC0 + c.toNat / 0x40 := toNat_toUInt8 (by omega)
    refine ⟨_, _, rfl, List.forall_mem_singleton.mpr (hcontinues _), fun q hq => ?_⟩
    simp only [List.length_cons, List.length_nil] at hq
    exact front?_of_short (by omega) (by omega) (by omega) (by omega)
  split
  · have ha : (0xE0 + c.toNat / 0x1000).toUInt8.toNat = 0xE0 + c.toNat / 0x1000 := toNat_toUInt8 (by omega)
    refine ⟨_, _, rfl, List.forall_mem_cons.mpr ⟨hcontinues _, List.forall_mem_singleton.mpr (hcontinues _)⟩,
      fun q hq => ?_⟩
    simp only [List.length_cons, List.length_nil] at hq
    exact front?_of_short (by omega) (by omega) (by omega) (by omega)
  · have ha : (0xF0 + c.toNat / 0x40000).toUInt8.toNat = 0xF0 + c.toNat / 0x40000 := toNat_toUInt8 (by omega)
    refine ⟨_, _, rfl, List.forall_mem_cons.mpr ⟨hcontinues _, List.forall_mem_cons.mpr ⟨hcontinues _,
      List.forall_mem_singleton.mpr (hcontinues _)⟩⟩, fun q hq => ?_⟩
    simp only [List.length_cons, List.length_nil] at hq
    exact front?_of_short (by omega) (by omega) (by omega) (by omega)

/-- The bytes of a character that is cut are stray. -/
theorem scalars_of_isPrefix_encodeChar {c : Char} {p : Bytes} (h : p <+: encodeChar c) (hne : p ≠ encodeChar c) :
    scalars p = List.replicate p.length none := by
  obtain ⟨a, tail, hc, hcontinues, hshort⟩ := encodeChar_eq_cons c
  rw [hc] at h hne
  match p with
  | [] => rw [scalars, List.length_nil, List.replicate_zero]
  | b :: q =>
    obtain ⟨rfl, hq⟩ := List.cons_prefix_cons.mp h
    have hlength : q.length < tail.length :=
      Nat.lt_of_le_of_ne hq.length_le fun heq => hne (by rw [hq.eq_of_length heq])
    rw [scalars_of_front?_eq_none (hshort q hlength),
      scalars_of_isContinuation fun d hd => hcontinues d (hq.subset hd), List.length_cons, List.replicate_succ]

/-- The front of a text is read as its characters and, where it ends inside one, as stray bytes. -/
theorem scalars_of_isPrefix {cs : List Char} {p : Bytes} (h : p <+: encodeChars cs) :
    ∃ cs₁ cs₂ n, cs = cs₁ ++ cs₂ ∧ scalars p = cs₁.map some ++ List.replicate n none
      ∧ (n = 0 → p = encodeChars cs₁) := by
  induction cs generalizing p with
  | nil =>
    obtain rfl := List.prefix_nil.mp h
    exact ⟨[], [], 0, rfl, by rw [scalars]; rfl, fun _ => rfl⟩
  | cons c cs ih =>
    rw [encodeChars, List.flatMap_cons] at h
    -- The front goes on behind the first character, or it ends with it or inside it.
    rcases List.prefix_or_prefix_of_prefix (List.prefix_append (encodeChar c) _) h with ⟨q, rfl⟩ | hcut
    · obtain ⟨cs₁, cs₂, n, rfl, hscalars, hwhole⟩ := ih ((List.prefix_append_right_inj _).mp h)
      refine ⟨c :: cs₁, cs₂, n, rfl, ?_, fun hn => ?_⟩
      · rw [scalars_encodeChar_append, hscalars, List.map_cons, List.cons_append]
      · rw [hwhole hn, encodeChars, encodeChars, List.flatMap_cons]
    · by_cases hne : p = encodeChar c
      · exact ⟨[c], cs, 0, rfl, by rw [hne, ← List.append_nil (encodeChar c), scalars_encodeChar_append, scalars]; rfl,
          fun _ => by rw [hne, encodeChars, List.flatMap_singleton]⟩
      · refine ⟨[], c :: cs, p.length, rfl, ?_, fun hn => List.eq_nil_of_length_eq_zero hn⟩
        rw [scalars_of_isPrefix_encodeChar hcut hne, List.map_nil, List.nil_append]

/-! ## ASCII

A character below 0x80 has one byte, which is its code point: none of the longer forms spells it. -/

theorem toNat_ofNat {n : Nat} (h : n.isValidChar) : (Char.ofNat n).toNat = n := by
  unfold Char.ofNat
  rw [dif_pos h]
  rfl

theorem le_of_scalar? {least n : Nat} (h : scalar? least n = some c) : least ≤ c.toNat := by
  unfold scalar? at h
  split at h
  · next hrange =>
    cases h
    simp only [Bool.and_eq_true, Bool.or_eq_true, decide_eq_true_eq] at hrange
    have hvalid : n.isValidChar := by
      unfold Nat.isValidChar
      omega
    rw [toNat_ofNat hvalid]
    exact hrange.1
  · cases h

/-- What two bytes spell is not in the range of one byte. -/
theorem le_of_two? (h : two? a b = some c) : 0x80 ≤ c.toNat := by
  simp only [two?, Option.bind_eq_bind, Option.bind_eq_some_iff] at h
  obtain ⟨-, -, x, -, h⟩ := h
  exact le_of_scalar? h

theorem le_of_three? (h : three? a b d = some c) : 0x80 ≤ c.toNat := by
  simp only [three?, Option.bind_eq_bind, Option.bind_eq_some_iff] at h
  obtain ⟨-, -, x, -, y, -, h⟩ := h
  have := le_of_scalar? h
  omega

theorem le_of_four? (h : four? a b d e = some c) : 0x80 ≤ c.toNat := by
  simp only [four?, Option.bind_eq_bind, Option.bind_eq_some_iff] at h
  obtain ⟨-, -, x, -, y, -, z, -, h⟩ := h
  have := le_of_scalar? h
  omega

/-- An ASCII character at the front of some bytes is the first of them. -/
theorem front?_of_lt {bs rest : Bytes} (h : front? (a :: bs) = some (c, rest)) (hc : c.toNat < 0x80) :
    c.toNat = a.toNat ∧ rest = bs := by
  simp only [front?] at h
  -- One case for each form: only the first has code points below 0x80.
  split at h
  · cases h
    have hvalid : a.toNat.isValidChar := by
      unfold Nat.isValidChar
      omega
    exact ⟨toNat_ofNat hvalid, rfl⟩
  split at h
  · cases h
  split at h
  · next htwo =>
    cases h
    have := le_of_two? htwo
    omega
  split at h
  · cases h
  split at h
  · next hthree =>
    cases h
    have := le_of_three? hthree
    omega
  split at h
  · cases h
  · obtain ⟨ch, hfour, heq⟩ := Option.map_eq_some_iff.mp h
    cases heq
    have := le_of_four? hfour
    omega

end TopicGuard.Utf8
