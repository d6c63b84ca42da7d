import TopicGuard.Proofs.Json.Grammar

/-!
Where a leaf ends.

A reader takes something from the front of a text and hands back what follows it. What it hands back is the end of the
text that it was given, and nothing in there has been looked at: whatever is written after the text, the same is read
and the addition is left over. That is `Cuts`. A string literal is cut by its quotation mark (`cuts_literal`). A
numeral has no end of its own, and is cut by what follows it (`cuts_numeral`).
-/

set_option autoImplicit false

namespace TopicGuard.Json.Raw

variable {c : Char} {e : Option Char} {s t rest : Scalars}

/-! ## Blanks -/

/-- A blank at the front is skipped. -/
theorem skipBlanks_cons_of_blank (h : isBlank c = true) : skipBlanks (some c :: s) = skipBlanks s := by
  rw [skipBlanks, if_pos h]

/-- What is passed over is blank, and what is left does not begin with a blank. -/
theorem exists_blanks (s : Scalars) : ∃ cs : List Char, (∀ c ∈ cs, isBlank c = true)
    ∧ s = cs.map some ++ skipBlanks s ∧ ∀ c r, skipBlanks s = some c :: r → isBlank c = false := by
  induction s using skipBlanks.induct with
  | case1 c s hblank ih =>
    obtain ⟨cs, hcs, hs, hfirst⟩ := ih
    rw [skipBlanks_cons_of_blank hblank]
    refine ⟨c :: cs, List.forall_mem_cons.mpr ⟨hblank, hcs⟩, ?_, hfirst⟩
    rw [List.map_cons, List.cons_append, ← hs]
  | case2 c s hblank =>
    have hfirst : isBlank c = false := Bool.eq_false_iff.mpr hblank
    rw [skipBlanks_of_not_blank hfirst]
    refine ⟨[], List.forall_mem_nil _, rfl, fun d r h => ?_⟩
    cases h
    exact hfirst
  | case3 s hnone =>
    rw [skipBlanks.eq_2 s hnone]
    exact ⟨[], List.forall_mem_nil _, rfl, fun c r h => absurd h (hnone c r)⟩

theorem skipBlanks_blanks_append {cs : List Char} (h : ∀ c ∈ cs, isBlank c = true) (t : Scalars) :
    skipBlanks (cs.map some ++ t) = skipBlanks t := by
  induction cs with
  | nil => rfl
  | cons c cs ih =>
    rw [List.forall_mem_cons] at h
    rw [List.map_cons, List.cons_append, skipBlanks_cons_of_blank h.1, ih h.2]

/-- After the blanks there are no more to skip. -/
theorem skipBlanks_skipBlanks (s : Scalars) : skipBlanks (skipBlanks s) = skipBlanks s := by
  obtain ⟨cs, hcs, hs, -⟩ := exists_blanks s
  have hskip := skipBlanks_blanks_append hcs (skipBlanks s)
  rw [← hs] at hskip
  exact hskip.symm

theorem skipBlanks_isSuffix (s : Scalars) : skipBlanks s <:+ s := by
  obtain ⟨cs, -, hs, -⟩ := exists_blanks s
  exact ⟨cs.map some, hs.symm⟩

/-- What follows the first entry that is no blank. -/
theorem isSuffix_of_skipBlanks (h : skipBlanks s = e :: rest) : rest <:+ s :=
  (List.suffix_cons e rest).trans (h ▸ skipBlanks_isSuffix s)

theorem ne_nil_of_skipBlanks (h : skipBlanks s = e :: rest) : s ≠ [] := by
  rintro rfl
  cases h

/-- The blanks at the front of a text that is not all blank. -/
theorem skipBlanks_append (t : Scalars) (h : skipBlanks s = e :: rest) : skipBlanks (s ++ t) = e :: (rest ++ t) := by
  obtain ⟨cs, hcs, hs, hfirst⟩ := exists_blanks s
  rw [hs, h, List.append_assoc, skipBlanks_blanks_append hcs, List.cons_append]
  cases e with
  | none => rfl
  | some c => exact skipBlanks_of_not_blank (hfirst c rest h)

/-- A text of nothing but blanks is skipped altogether, and so are the blanks of what follows it. -/
theorem skipBlanks_append_of_nil (h : skipBlanks s = []) (t : Scalars) : skipBlanks (s ++ t) = skipBlanks t := by
  obtain ⟨cs, hcs, hs, -⟩ := exists_blanks s
  rw [hs, h, List.append_nil, skipBlanks_blanks_append hcs]

/-- A text of blanks has no stray bytes in it. -/
theorem none_not_mem_of_skipBlanks (h : skipBlanks s = []) : none ∉ s := by
  obtain ⟨cs, -, hs, -⟩ := exists_blanks s
  rw [hs, h, List.append_nil]
  simp

/-! ## Cuts -/

variable {α β : Type}

/-- A reader cuts a text in two: it hands back the second part, and it would find the same in the first one whatever
came after the text. -/
structure Cuts (read : Scalars → Option (α × Scalars)) (s : Scalars) (a : α) (rest : Scalars) : Prop where
  isSuffix : rest <:+ s
  append (t : Scalars) : read (s ++ t) = some (a, rest ++ t)

/-- A reader that calls another one behind something cuts where that one does. -/
theorem Cuts.behind {read : Scalars → Option (α × Scalars)} {read' : Scalars → Option (β × Scalars)} {a : α} {b : β}
    {s' : Scalars} (h : Cuts read s a rest) (hs : s <:+ s')
    (hread : ∀ t, read (s ++ t) = some (a, rest ++ t) → read' (s' ++ t) = some (b, rest ++ t)) :
    Cuts read' s' b rest :=
  ⟨h.isSuffix.trans hs, fun t => hread t (h.append t)⟩

/-! ## Strings -/

/-- Behind the mark of a code unit, the next four characters are read as its digits. -/
theorem literal_unit {a b c d : Option Char} :
    literal (some '\\' :: some 'u' :: a :: b :: c :: d :: rest) = (codeUnit? a b c d).bind fun n =>
      (literal rest).map fun (ps, rest) => (.unit n :: ps, rest) := by
  rw [literal]
  simp only [Char.reduceEq, if_false, if_true, Option.map_eq_bind]
  rfl

/-- A character without a meaning of its own stands for itself. -/
theorem literal_plain (hquote : c ≠ '"') (hescape : c ≠ '\\') (hcontrol : ¬ c.toNat < 0x20) :
    literal (some c :: rest) = (literal rest).map fun (ps, rest) => (.scalar (some c) :: ps, rest) := by
  rw [literal.eq_def]
  dsimp only
  rw [if_neg hquote, if_neg hescape, if_neg hcontrol]

/-- If a literal can be read, then behind its backslash is a letter with a meaning, unless a code unit is. -/
theorem shortEscape?_of_literal {d : Char} {r : Literal × Scalars}
    (hunit : ∀ (a b c e : Option Char) (rest : Scalars), s = a :: b :: c :: e :: rest → d = 'u' → False)
    (h : literal (some '\\' :: some d :: s) = some r) : ∃ c, shortEscape? d = some c := by
  rw [literal] at h
  · simp only [Char.reduceEq, if_false, if_true, Option.bind_eq_bind, Option.bind_eq_some_iff] at h
    obtain ⟨c, hc, -⟩ := h
    exact ⟨c, hc⟩
  · exact hunit

/-- A string literal ends with its quotation mark. -/
theorem cuts_literal {ps : Literal} (h : literal s = some (ps, rest)) : Cuts literal s ps rest := by
  -- One case for each step of the reader. What a step takes from the front is there behind any addition, and the
  -- literal behind it is cut by induction.
  induction s using literal.induct generalizing ps with
  | case1 => cases h
  | case2 s ih =>
    rw [literal.eq_2, Option.map_eq_some_iff] at h
    obtain ⟨⟨ps', rest'⟩, hread, heq⟩ := h
    cases heq
    refine (ih hread).behind (List.suffix_cons _ _) fun t ht => ?_
    rw [List.cons_append, literal.eq_2, ht]
    rfl
  | case3 s =>
    rw [literal_quote] at h
    cases h
    exact ⟨List.suffix_cons _ _, fun t => literal_quote _⟩
  | case4 a b c d s _ ih =>
    rw [literal_unit, Option.bind_eq_some_iff] at h
    obtain ⟨n, hunit, h⟩ := h
    rw [Option.map_eq_some_iff] at h
    obtain ⟨⟨ps', rest'⟩, hread, heq⟩ := h
    cases heq
    refine (ih hread).behind (List.suffix_append [_, _, _, _, _, _] _) fun t ht => ?_
    simp only [List.cons_append]
    rw [literal_unit, hunit, Option.bind_some, ht]
    rfl
  | case5 e s hshort _ ih =>
    obtain ⟨c, hc⟩ := shortEscape?_of_literal hshort h
    -- The letter of a code is no short escape, so no text behind it can make a code of it.
    have he : e ≠ 'u' := by
      rintro rfl
      cases hc
    rw [literal_letter he hc, Option.map_eq_some_iff] at h
    obtain ⟨⟨ps', rest'⟩, hread, heq⟩ := h
    cases heq
    refine (ih hread).behind (List.suffix_append [_, _] _) fun t ht => ?_
    simp only [List.cons_append]
    rw [literal_letter he hc, ht]
    rfl
  | case6 s hunit hshort _ =>
    -- Neither kind of escape: there is no literal.
    rw [literal] at h
    · simp only [Char.reduceEq, if_false, if_true] at h
      cases h
    · exact hunit
    · exact hshort
  | case7 c s hquote hescape hcontrol =>
    rw [literal.eq_def] at h
    dsimp only at h
    rw [if_neg hquote, if_neg hescape, if_pos hcontrol] at h
    cases h
  | case8 c s hquote hescape hcontrol ih =>
    rw [literal_plain hquote hescape hcontrol, Option.map_eq_some_iff] at h
    obtain ⟨⟨ps', rest'⟩, hread, heq⟩ := h
    cases heq
    refine (ih hread).behind (List.suffix_cons _ _) fun t ht => ?_
    rw [List.cons_append, literal_plain hquote hescape hcontrol, ht]
    rfl

/-! ## Numerals

A numeral has no end of its own, so it is cut only where something is known to follow. -/

variable {ds : List Nat}

/-- A reader that takes nothing. -/
theorem Cuts.nothing {read : Scalars → Option (α × Scalars)} {a : α}
    (h : ∀ t, read (s ++ t) = some (a, s ++ t)) : Cuts read s a s :=
  ⟨List.suffix_rfl, h⟩

/-- A run of digits that something follows is cut off. -/
theorem cuts_digits (h : digits s = (ds, rest)) (hrest : rest ≠ []) : Cuts (fun s => some (digits s)) s ds rest := by
  induction s using digits.induct generalizing ds with
  | case1 c s d hd ds' rest' hread ih =>
    rw [digits, hd] at h
    simp only [hread, Prod.mk.injEq] at h
    obtain ⟨rfl, rfl⟩ := h
    refine (ih hread).behind (List.suffix_cons _ _) fun t ht => ?_
    rw [List.cons_append, digits, hd]
    simp only [Option.some.inj ht]
  | case2 c s hd =>
    rw [digits, hd] at h
    cases h
    -- The character that ends the run is still there behind any addition.
    refine Cuts.nothing fun t => ?_
    rw [List.cons_append, digits, hd]
  | case3 s hnone =>
    rw [digits.eq_2 s hnone] at h
    obtain ⟨rfl, rfl⟩ := Prod.mk.inj h
    -- What follows is a stray byte, since a character would be a digit or end the run.
    cases s with
    | nil => exact absurd rfl hrest
    | cons entry s =>
      cases entry with
      | none => exact Cuts.nothing fun t => rfl
      | some c => exact absurd rfl (hnone c s)

theorem digits₁_eq_some_iff : digits₁ s = some (ds, rest) ↔ digits s = (ds, rest) ∧ ds ≠ [] := by
  unfold digits₁
  constructor
  · intro h
    split at h
    · cases h
    · next hne hread =>
      cases h
      exact ⟨hread, hne⟩
  · rintro ⟨hread, hne⟩
    rw [hread]
    cases ds with
    | nil => exact absurd rfl hne
    | cons d ds => rfl

/-- A run of digits begins with one. -/
theorem isDigit_of_digits₁ (h : digits₁ s = some (ds, rest)) : ∃ c s', s = some c :: s' ∧ c.isDigit = true := by
  obtain ⟨hread, hne⟩ := digits₁_eq_some_iff.mp h
  have hends : ¬ EndsDigits s := by
    intro hends
    rw [digits_of_endsDigits hends] at hread
    exact hne (Prod.mk.inj hread).1.symm
  match s, hends with
  | some c :: s, hends => exact ⟨c, s, rfl, Bool.not_eq_false _ ▸ hends⟩
  | none :: s, hends => exact absurd trivial hends
  | [], hends => exact absurd trivial hends

theorem cuts_digits₁ (h : digits₁ s = some (ds, rest)) (hrest : rest ≠ []) : Cuts digits₁ s ds rest := by
  obtain ⟨hread, hne⟩ := digits₁_eq_some_iff.mp h
  refine (cuts_digits hread hrest).behind List.suffix_rfl fun t ht => ?_
  exact digits₁_eq_some_iff.mpr ⟨Option.some.inj ht, hne⟩

/-- A whole part is a run of digits that does not begin with a zero, unless it is one. -/
theorem whole_eq_some_iff :
    whole s = some (ds, rest) ↔ digits₁ s = some (ds, rest) ∧ ∀ d ds', ds ≠ 0 :: d :: ds' := by
  unfold whole
  rw [Option.bind_eq_bind, Option.bind_eq_some_iff]
  constructor
  · rintro ⟨⟨ds', rest'⟩, hread, h⟩
    dsimp only at h
    split at h
    · cases h
    · next hzero =>
      cases h
      exact ⟨hread, hzero⟩
  · rintro ⟨hread, hzero⟩
    refine ⟨_, hread, ?_⟩
    dsimp only
    split
    · next d ds' => exact absurd rfl (hzero d ds')
    · rfl

theorem cuts_whole (h : whole s = some (ds, rest)) (hrest : rest ≠ []) : Cuts whole s ds rest := by
  obtain ⟨hread, hzero⟩ := whole_eq_some_iff.mp h
  exact (cuts_digits₁ hread hrest).behind List.suffix_rfl fun t ht => whole_eq_some_iff.mpr ⟨ht, hzero⟩

theorem cuts_fraction {ds : Option (List Nat)} (h : fraction s = some (ds, rest)) (hrest : rest ≠ []) :
    Cuts fraction s ds rest := by
  unfold fraction at h
  split at h
  · next s' =>
    rw [Option.map_eq_some_iff] at h
    obtain ⟨⟨ds', rest'⟩, hread, heq⟩ := h
    cases heq
    refine (cuts_digits₁ hread hrest).behind (List.suffix_cons _ _) fun t ht => ?_
    rw [List.cons_append, fraction, ht]
    rfl
  · next hpoint =>
    cases h
    refine Cuts.nothing fun t => ?_
    cases s with
    | nil => exact absurd rfl hrest
    | cons entry s =>
      cases entry with
      | none => rfl
      | some c => exact fraction_of_head_ne fun hc => hpoint s (by rw [hc])

theorem exponent_of_not_mark (h : ¬ (c = 'e' ∨ c = 'E')) : exponent (some c :: rest) = some (none, some c :: rest) := by
  unfold exponent
  exact if_neg h

theorem exponent_of_sign {sign : Char} (hmark : c = 'e' ∨ c = 'E') (hsign : sign = '-' ∨ sign = '+') :
    exponent ([some c, some sign] ++ s)
      = (digits₁ s).map fun (ds, rest) => (some (decide (sign = '-'), ds), rest) := by
  rw [List.cons_append, List.singleton_append]
  rcases hsign with rfl | rfl
  all_goals
    rw [exponent.eq_def]
    dsimp only
    rw [if_pos hmark]
    rfl

/-- An exponent is cut off if its digits are, whatever mark and sign it begins with. -/
theorem cuts_signed {negative : Bool} (front : Scalars) (h : digits₁ s = some (ds, rest)) (hrest : rest ≠ [])
    (hread : ∀ s ds rest, digits₁ s = some (ds, rest) →
      exponent (front ++ s) = some (some (negative, ds), rest)) :
    Cuts exponent (front ++ s) (some (negative, ds)) rest :=
  (cuts_digits₁ h hrest).behind (List.suffix_append _ _) fun t ht => by rw [List.append_assoc, hread _ _ _ ht]

theorem cuts_exponent {ds : Option (Bool × List Nat)} (h : exponent s = some (ds, rest)) (hrest : rest ≠ []) :
    Cuts exponent s ds rest := by
  match s with
  | [] =>
    cases h
    exact absurd rfl hrest
  | none :: s =>
    cases h
    exact Cuts.nothing fun t => rfl
  | some c :: s =>
    -- Behind the mark there may be a sign of either kind, or none and a digit at once.
    by_cases hmark : c = 'e' ∨ c = 'E'
    · rw [exponent.eq_def] at h
      dsimp only at h
      rw [if_pos hmark] at h
      split at h
      all_goals
        rw [Option.map_eq_some_iff] at h
        obtain ⟨⟨ds', rest'⟩, hread, heq⟩ := h
        cases heq
      · exact cuts_signed [some c, some '-'] hread hrest fun s ds rest hread => by
          rw [exponent_of_sign hmark (.inl rfl), hread]
          rfl
      · exact cuts_signed [some c, some '+'] hread hrest fun s ds rest hread => by
          rw [exponent_of_sign hmark (.inr rfl), hread]
          rfl
      · exact cuts_signed [some c] hread hrest fun s ds rest hread => by
          obtain ⟨d, s', rfl, hd⟩ := isDigit_of_digits₁ hread
          rw [List.singleton_append, exponent_of_isDigit hmark hd, hread]
          rfl
    · rw [exponent_of_not_mark hmark] at h
      cases h
      exact Cuts.nothing fun t => exponent_of_not_mark hmark

/-- What is read as a number begins as numbers do. -/
theorem leads_of_numeral {n : Numeral} (h : numeral s = some (n, rest)) : ∃ c s', s = some c :: s' ∧ Leads c := by
  unfold numeral at h
  split at h
  · exact ⟨'-', _, rfl, .inl rfl⟩
  · simp only [magnitude, Option.bind_eq_bind, Option.bind_eq_some_iff] at h
    obtain ⟨⟨w, s₁⟩, hwhole, -⟩ := h
    obtain ⟨c, s', hs, hc⟩ := isDigit_of_digits₁ (whole_eq_some_iff.mp hwhole).1
    exact ⟨c, s', hs, .inr hc⟩

theorem cuts_magnitude {negative : Bool} {n : Numeral} (h : magnitude negative s = some (n, rest)) (hrest : rest ≠ []) :
    Cuts (magnitude negative) s n rest := by
  simp only [magnitude, Option.bind_eq_bind, Option.bind_eq_some_iff] at h
  obtain ⟨⟨w, s₁⟩, hwhole, ⟨f, s₂⟩, hfraction, ⟨e, s₃⟩, hexponent, heq⟩ := h
  cases heq
  -- From the back: since something follows the last part, something follows the others too.
  have hcut₃ := cuts_exponent hexponent hrest
  have hrest₂ : s₂ ≠ [] := fun hnil => hrest (List.suffix_nil.mp (hnil ▸ hcut₃.isSuffix))
  have hcut₂ := cuts_fraction hfraction hrest₂
  have hrest₁ : s₁ ≠ [] := fun hnil => hrest₂ (List.suffix_nil.mp (hnil ▸ hcut₂.isSuffix))
  have hcut₁ := cuts_whole hwhole hrest₁
  refine hcut₃.behind (hcut₂.isSuffix.trans hcut₁.isSuffix) fun t ht => ?_
  simp only [magnitude, Option.bind_eq_bind, hcut₁.append, hcut₂.append, ht, Option.bind_some]
  rfl

theorem cuts_numeral {n : Numeral} (h : numeral s = some (n, rest)) (hrest : rest ≠ []) : Cuts numeral s n rest := by
  obtain ⟨c, s, rfl, hc⟩ := leads_of_numeral h
  by_cases hminus : c = '-'
  · subst hminus
    exact (cuts_magnitude h hrest).behind (List.suffix_cons _ _) fun t ht => ht
  · have hdigit := hc.resolve_left hminus
    rw [numeral_of_isDigit hdigit] at h
    refine (cuts_magnitude h hrest).behind List.suffix_rfl fun t ht => ?_
    rw [List.cons_append, numeral_of_isDigit hdigit]
    exact ht

end TopicGuard.Json.Raw
