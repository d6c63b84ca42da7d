import TopicGuard.Proofs.Topic.Expansion

/-!
Placeholders are replaced all at once.

The scanner reads a filter once, from left to right, and looks one character ahead. Here its result is described
without a direction. An `Outline` takes a filter apart at its placeholders: ordinary text, then each placeholder with
the ordinary text behind it, where ordinary text spells no placeholder anywhere. The expansion is the outline with
every placeholder replaced by its value and all else kept, so a value that spells a placeholder is not read again, and
a percent sign that begins no placeholder stays.

Two placeholders never overlap, since a spelling has its percent sign in front and nowhere else. That is why the scanner
meets every occurrence (`occursIn_fill`, `occursIn_keep`), and why the first value that it refuses is that of the
leftmost placeholder with such a value.
-/

set_option autoImplicit false

namespace TopicGuard

open Outcome (map_eq_ok_iff map_eq_error_iff)

namespace Placeholder

variable {p q : Placeholder} {c : Char} {cs : List Char}

/-! ## Occurrences -/

/-- The placeholder is spelled somewhere in the text. -/
def OccursIn (p : Placeholder) (cs : List Char) : Prop :=
  p.spelling.toList <:+: cs

instance (p : Placeholder) (cs : List Char) : Decidable (p.OccursIn cs) :=
  inferInstanceAs (Decidable (p.spelling.toList <:+: cs))

/-- The placeholder is spelled at this index of the text. -/
def OccursAt (p : Placeholder) (i : Nat) (cs : List Char) : Prop :=
  p.spelling.toList <+: cs.drop i

instance (p : Placeholder) (i : Nat) (cs : List Char) : Decidable (p.OccursAt i cs) :=
  inferInstanceAs (Decidable (p.spelling.toList <+: cs.drop i))

theorem toList_spelling (p : Placeholder) : p.spelling.toList = ['%', p.letter] := by
  cases p <;> rfl

theorem letter_ne_percent (p : Placeholder) : p.letter ≠ '%' := by
  cases p <;> decide

/-- Placeholders are told apart by their letters. -/
theorem eq_of_letter_eq (h : p.letter = q.letter) : p = q := by
  have hletter := ofLetter?_letter p
  rw [h, ofLetter?_letter] at hletter
  exact (Option.some.inj hletter).symm

theorem not_occursIn_nil (p : Placeholder) : ¬ p.OccursIn [] := by
  cases p <;> decide

/-- A placeholder stands at the front if a percent sign does, with its letter behind it. -/
theorem occursAt_zero : p.OccursAt 0 (c :: cs) ↔ c = '%' ∧ cs.head? = some p.letter := by
  unfold OccursAt
  rw [List.drop_zero, toList_spelling, List.cons_prefix_cons]
  refine and_congr eq_comm ?_
  cases cs with
  | nil => simp
  | cons d cs => simp [List.cons_prefix_cons, eq_comm]

theorem occursIn_cons : p.OccursIn (c :: cs) ↔ p.OccursAt 0 (c :: cs) ∨ p.OccursIn cs :=
  List.infix_cons_iff

/-- Only one placeholder is spelled where that placeholder is spelled. -/
theorem occursAt_zero_fill : q.OccursAt 0 ('%' :: p.letter :: cs) ↔ q = p := by
  rw [occursAt_zero, and_iff_right rfl, List.head?_cons, Option.some.injEq]
  constructor
  · intro h
    exact (eq_of_letter_eq h).symm
  · intro h
    rw [h]

/-- None is spelled at the letter of another. -/
theorem not_occursAt_letter : ¬ q.OccursAt 0 (p.letter :: cs) := by
  intro h
  exact p.letter_ne_percent (occursAt_zero.mp h).1

/-- None is spelled at a character that the scanner keeps. -/
theorem not_occursAt_keep (hc : c = '%' → cs.head?.bind ofLetter? = none) : ¬ q.OccursAt 0 (c :: cs) := by
  intro h
  obtain ⟨hpercent, hhead⟩ := occursAt_zero.mp h
  have hnone := hc hpercent
  rw [hhead, Option.bind_some, ofLetter?_letter] at hnone
  cases hnone

/-- In front of a text, a spelled placeholder adds itself to those that occur. -/
theorem occursIn_fill : q.OccursIn ('%' :: p.letter :: cs) ↔ q = p ∨ q.OccursIn cs := by
  rw [occursIn_cons, occursAt_zero_fill, occursIn_cons, or_iff_right not_occursAt_letter]

/-- A character that starts no placeholder adds none. -/
theorem occursIn_keep (hc : c = '%' → cs.head?.bind ofLetter? = none) : q.OccursIn (c :: cs) ↔ q.OccursIn cs := by
  rw [occursIn_cons, or_iff_right (not_occursAt_keep hc)]

/-! ## Values -/

/-- The value has no character that gives a filter its shape. -/
def IsShapeless (value : String) : Prop :=
  '+' ∉ value.toList ∧ '#' ∉ value.toList ∧ '/' ∉ value.toList

instance (value : String) : Decidable (IsShapeless value) :=
  inferInstanceAs (Decidable ('+' ∉ value.toList ∧ '#' ∉ value.toList ∧ '/' ∉ value.toList))

/-- A value passes the check exactly if it is shapeless. -/
theorem isPlain_iff {value : String} : isPlain value = true ↔ IsShapeless value := by
  unfold isPlain IsShapeless
  rw [Bool.not_eq_true', List.any_eq_false]
  simp only [isStructural, Bool.or_eq_true, beq_iff_eq, not_or]
  constructor
  · intro h
    exact ⟨fun hc => (h _ hc).1.1 rfl, fun hc => (h _ hc).1.2 rfl, fun hc => (h _ hc).2 rfl⟩
  · rintro ⟨hplus, hsharp, hslash⟩ c hc
    refine ⟨⟨?_, ?_⟩, ?_⟩
    · exact fun h => hplus (h ▸ hc)
    · exact fun h => hsharp (h ▸ hc)
    · exact fun h => hslash (h ▸ hc)

end Placeholder

namespace Substitution

open Placeholder (IsShapeless ofLetter? occursIn_fill occursIn_keep occursIn_cons occursAt_zero
  occursAt_zero_fill not_occursAt_letter not_occursAt_keep toList_spelling)

variable {σ : Substitution} {cs out front : List Char} {p : Placeholder} {u : UnsafeSubstitution}

/-- A shapeless value is filled in as it is. -/
theorem fill_of_isShapeless (h : IsShapeless (σ.value p)) : σ.fill p = .ok (σ.value p).toList := by
  unfold fill
  rw [if_pos (Placeholder.isPlain_iff.mpr h)]

/-- Any other value is refused, by the name of its placeholder. -/
theorem fill_of_not_isShapeless (h : ¬ IsShapeless (σ.value p)) : σ.fill p = .error ⟨p, σ.value p⟩ := by
  unfold fill
  rw [if_neg fun hplain => h (Placeholder.isPlain_iff.mp hplain)]

/-! ## When there is an expansion -/

/-- A text can be expanded exactly if the values of all placeholders in it can be put in. -/
theorem exists_expandChars_iff :
    (∃ out, σ.expandChars cs = .ok out) ↔ ∀ p : Placeholder, p.OccursIn cs → IsShapeless (σ.value p) := by
  induction cs using scan_induction with
  | nil => exact ⟨fun _ p hp => absurd hp p.not_occursIn_nil, fun _ => ⟨[], rfl⟩⟩
  | fill p cs ih =>
    simp only [occursIn_fill, forall_eq_or_imp]
    rw [← ih, expandChars_fill]
    by_cases hp : IsShapeless (σ.value p)
    · rw [fill_of_isShapeless hp, and_iff_right hp]
      cases σ.expandChars cs <;> simp [bind, Except.bind, Except.map]
    · rw [fill_of_not_isShapeless hp]
      simp [hp, bind, Except.bind]
  | keep c cs hc ih =>
    simp only [occursIn_keep hc]
    rw [← ih, expandChars_keep hc]
    cases σ.expandChars cs <;> simp [Except.map]

/-! ## Which value is refused -/

/-- Of the placeholders whose values cannot be put in, this one comes first in the text. -/
structure Refuses (σ : Substitution) (cs : List Char) (u : UnsafeSubstitution) : Prop where
  value_eq : u.value = σ.value u.placeholder
  refused : ¬ IsShapeless u.value
  leftmost : ∃ i, u.placeholder.OccursAt i cs ∧ ∀ j < i, ∀ p : Placeholder, p.OccursAt j cs → IsShapeless (σ.value p)

/-- The one that comes first stands at the beginning, or nothing that is refused does and it comes first behind. -/
theorem refuses_cons {c : Char} :
    Refuses σ (c :: cs) u ↔
      u.placeholder.OccursAt 0 (c :: cs) ∧ u.value = σ.value u.placeholder ∧ ¬ IsShapeless u.value
        ∨ (∀ p : Placeholder, p.OccursAt 0 (c :: cs) → IsShapeless (σ.value p)) ∧ Refuses σ cs u := by
  constructor
  · rintro ⟨hvalue, hrefused, i, hi, hbefore⟩
    cases i with
    | zero => exact .inl ⟨hi, hvalue, hrefused⟩
    | succ i =>
      refine .inr ⟨hbefore 0 (Nat.succ_pos i), hvalue, hrefused, i, hi, ?_⟩
      intro j hj
      exact hbefore (j + 1) (by omega)
  · rintro (⟨hzero, hvalue, hrefused⟩ | ⟨hzero, hvalue, hrefused, i, hi, hbefore⟩)
    · exact ⟨hvalue, hrefused, 0, hzero, fun j hj => absurd hj (Nat.not_lt_zero j)⟩
    · refine ⟨hvalue, hrefused, i + 1, hi, ?_⟩
      intro j hj
      cases j with
      | zero => exact hzero
      | succ j => exact hbefore j (by omega)

/-- Where no placeholder is spelled, nothing is refused. -/
theorem refuses_cons_of_not_occursAt {c : Char} (h : ∀ p : Placeholder, ¬ p.OccursAt 0 (c :: cs)) :
    Refuses σ (c :: cs) u ↔ Refuses σ cs u := by
  rw [refuses_cons, or_iff_right fun hu => h _ hu.1, and_iff_right fun p hp => absurd hp (h p)]

/-- Where the first placeholder can be filled, a refusal comes from further behind. -/
theorem refuses_fill_of_isShapeless (h : IsShapeless (σ.value p)) :
    Refuses σ ('%' :: p.letter :: cs) u ↔ Refuses σ cs u := by
  rw [refuses_cons, refuses_cons_of_not_occursAt fun q => not_occursAt_letter, or_iff_right, and_iff_right]
  · intro q hq
    rw [occursAt_zero_fill.mp hq]
    exact h
  · rintro ⟨hu, hvalue, hrefused⟩
    rw [hvalue, occursAt_zero_fill.mp hu] at hrefused
    exact hrefused h

/-- Where it cannot be filled, the refusal is about this placeholder and its value. -/
theorem refuses_fill_of_not_isShapeless (h : ¬ IsShapeless (σ.value p)) :
    Refuses σ ('%' :: p.letter :: cs) u ↔ u = ⟨p, σ.value p⟩ := by
  rw [refuses_cons, or_iff_left fun hu => h (hu.1 p (occursAt_zero_fill.mpr rfl)), occursAt_zero_fill]
  constructor
  · rintro ⟨hplaceholder, hvalue, -⟩
    subst hplaceholder
    rw [← hvalue]
  · intro hu
    subst hu
    exact ⟨rfl, rfl, h⟩

/-- An expansion fails with the leftmost placeholder whose value cannot be put in, and with that value. -/
theorem expandChars_eq_error_iff : σ.expandChars cs = .error u ↔ Refuses σ cs u := by
  induction cs using scan_induction with
  | nil =>
    constructor
    · intro h
      cases h
    · rintro ⟨-, -, i, hi, -⟩
      unfold Placeholder.OccursAt at hi
      rw [List.drop_nil, toList_spelling, List.prefix_nil] at hi
      cases hi
  | fill p cs ih =>
    rw [expandChars_fill]
    by_cases hp : IsShapeless (σ.value p)
    · rw [refuses_fill_of_isShapeless hp, ← ih, fill_of_isShapeless hp]
      cases σ.expandChars cs <;> simp [bind, Except.bind, Except.map]
    · rw [refuses_fill_of_not_isShapeless hp, fill_of_not_isShapeless hp]
      simp [bind, Except.bind, eq_comm]
  | keep c cs hc ih =>
    rw [refuses_cons_of_not_occursAt fun q => not_occursAt_keep hc, ← ih, expandChars_keep hc]
    cases σ.expandChars cs <;> simp [Except.map]

/-! ## The text that is put together -/

/-- A filter taken apart: ordinary text, then each placeholder with the ordinary text behind it. -/
structure Outline where
  front : List Char
  holes : List (Placeholder × List Char)

namespace Outline

variable {o : Outline} {holes : List (Placeholder × List Char)}

/-- The placeholders spelled out, each with the text behind it. -/
def spelledHoles (holes : List (Placeholder × List Char)) : List Char :=
  holes.flatMap fun hole => hole.1.spelling.toList ++ hole.2

/-- The values in the places of their placeholders, each with the text behind it. -/
def filledHoles (σ : Substitution) (holes : List (Placeholder × List Char)) : List Char :=
  holes.flatMap fun hole => (σ.value hole.1).toList ++ hole.2

/-- The filter that is taken apart like this. -/
def spelled (o : Outline) : List Char :=
  o.front ++ spelledHoles o.holes

/-- The same with every placeholder replaced by its value. -/
def filled (σ : Substitution) (o : Outline) : List Char :=
  o.front ++ filledHoles σ o.holes

/-- The outline takes this text apart, at all placeholders that are spelled in it. -/
structure IsOf (o : Outline) (cs : List Char) : Prop where
  spelled_eq : o.spelled = cs
  front_ordinary : ∀ p : Placeholder, ¬ p.OccursIn o.front
  holes_ordinary : ∀ hole ∈ o.holes, ∀ p : Placeholder, ¬ p.OccursIn hole.2

theorem spelledHoles_cons (p : Placeholder) (behind : List Char) :
    spelledHoles ((p, behind) :: holes) = '%' :: p.letter :: (behind ++ spelledHoles holes) := by
  unfold spelledHoles
  rw [List.flatMap_cons, toList_spelling, List.append_assoc]
  rfl

theorem filledHoles_cons (p : Placeholder) (behind : List Char) :
    filledHoles σ ((p, behind) :: holes) = (σ.value p).toList ++ (behind ++ filledHoles σ holes) := by
  unfold filledHoles
  rw [List.flatMap_cons, List.append_assoc]

/-- Every text has an outline. -/
theorem exists_isOf (cs : List Char) : ∃ o : Outline, o.IsOf cs := by
  induction cs using scan_induction with
  | nil => exact ⟨⟨[], []⟩, rfl, Placeholder.not_occursIn_nil, by simp⟩
  | fill p cs ih =>
    obtain ⟨o, hspelled, hfront, hholes⟩ := ih
    refine ⟨⟨[], (p, o.front) :: o.holes⟩, ?_, Placeholder.not_occursIn_nil, ?_⟩
    · show [] ++ spelledHoles ((p, o.front) :: o.holes) = '%' :: p.letter :: cs
      rw [List.nil_append, spelledHoles_cons, ← hspelled, spelled]
    · show ∀ hole ∈ (p, o.front) :: o.holes, ∀ q : Placeholder, ¬ q.OccursIn hole.2
      rw [List.forall_mem_cons]
      exact ⟨hfront, hholes⟩
  | keep c cs hc ih =>
    obtain ⟨o, hspelled, hfront, hholes⟩ := ih
    refine ⟨⟨c :: o.front, o.holes⟩, congrArg (c :: ·) hspelled, ?_, hholes⟩
    intro p hp
    rcases occursIn_cons.mp hp with hzero | hp
    · -- What is spelled at the beginning of the ordinary text is spelled there in the whole text.
      obtain ⟨hpercent, hhead⟩ := occursAt_zero.mp hzero
      have hwhole : p.OccursAt 0 (c :: cs) := by
        refine occursAt_zero.mpr ⟨hpercent, ?_⟩
        rw [← hspelled, spelled, List.head?_append, hhead]
        rfl
      exact not_occursAt_keep hc hwhole
    · exact hfront p hp

/-- Where ordinary text ends, the filter ends or goes on with a percent sign. -/
theorem head?_spelledHoles (holes : List (Placeholder × List Char)) :
    (spelledHoles holes).head?.bind ofLetter? = none := by
  cases holes with
  | nil => rfl
  | cons hole holes =>
    rw [spelledHoles_cons]
    rfl

/-- The placeholders of an outline occur in its text. -/
theorem IsOf.occursIn (h : o.IsOf cs) {hole : Placeholder × List Char} (hmem : hole ∈ o.holes) :
    hole.1.OccursIn cs := by
  obtain ⟨before, after, hholes⟩ := List.append_of_mem hmem
  refine ⟨o.front ++ spelledHoles before, hole.2 ++ spelledHoles after, ?_⟩
  rw [← h.spelled_eq, spelled, hholes]
  unfold spelledHoles
  rw [List.flatMap_append, List.flatMap_cons]
  simp only [List.append_assoc]

end Outline

/-- Ordinary text in front stays as it is. -/
theorem Expands.append_front (h : Expands σ cs out) (hfront : ∀ p : Placeholder, ¬ p.OccursIn front)
    (hcs : cs.head?.bind ofLetter? = none) : Expands σ (front ++ cs) (front ++ out) := by
  induction front with
  | nil => exact h
  | cons c front ih =>
    refine .keep ?_ (ih fun p hp => hfront p (occursIn_cons.mpr (.inr hp)))
    intro hpercent
    cases front with
    | nil => exact hcs
    | cons d front =>
      show ofLetter? d = none
      by_contra hd
      obtain ⟨p, hp⟩ := Option.ne_none_iff_exists'.mp hd
      have hzero : p.OccursAt 0 (c :: d :: front) := by
        rw [occursAt_zero, Placeholder.eq_letter_of_ofLetter? hp]
        exact ⟨hpercent, rfl⟩
      exact hfront p (occursIn_cons.mpr (.inl hzero))

/-- Holes are filled one by one; the text behind each of them is ordinary. -/
theorem expands_spelledHoles (holes : List (Placeholder × List Char))
    (hvalues : ∀ hole ∈ holes, IsShapeless (σ.value hole.1))
    (hordinary : ∀ hole ∈ holes, ∀ p : Placeholder, ¬ p.OccursIn hole.2) :
    Expands σ (Outline.spelledHoles holes) (Outline.filledHoles σ holes) := by
  induction holes with
  | nil => exact .nil
  | cons hole holes ih =>
    rw [List.forall_mem_cons] at hvalues hordinary
    rw [Outline.spelledHoles_cons, Outline.filledHoles_cons]
    apply Expands.fill hole.1 (fill_of_isShapeless hvalues.1)
    exact (ih hvalues.2 hordinary.2).append_front hordinary.1 (Outline.head?_spelledHoles holes)

/-- A text expands to its outline with the values put in. -/
theorem Outline.IsOf.expands {o : Outline} (h : o.IsOf cs)
    (hvalues : ∀ p : Placeholder, p.OccursIn cs → IsShapeless (σ.value p)) : Expands σ cs (o.filled σ) := by
  have hholes : Expands σ (spelledHoles o.holes) (filledHoles σ o.holes) := by
    apply expands_spelledHoles o.holes
    · intro hole hmem
      exact hvalues hole.1 (h.occursIn hmem)
    · exact h.holes_ordinary
  rw [← h.spelled_eq]
  exact hholes.append_front h.front_ordinary (head?_spelledHoles o.holes)

/-! ## Expansions of filters -/

variable {filter : String} {e : Expansion}

/-- The shortcut for a filter without percent signs gives the text that the scan gives. -/
theorem expand_map_text (σ : Substitution) (filter : String) :
    (σ.expand filter).map Expansion.text = (σ.expandChars filter.toList).map String.ofList := by
  unfold expand
  by_cases hpercent : '%' ∈ filter.toList
  · rw [if_pos hpercent]
    cases σ.expandChars filter.toList <;> rfl
  · rw [if_neg hpercent, expandChars_eq_ok_iff.mpr (.refl hpercent)]
    simp [Except.map]

/-- The text of an expansion is the one that the relation puts the values into. -/
theorem map_text_eq_ok_iff {text : String} :
    (σ.expand filter).map Expansion.text = .ok text ↔ Expands σ filter.toList text.toList := by
  rw [expand_map_text, map_eq_ok_iff, ← expandChars_eq_ok_iff]
  constructor
  · rintro ⟨chars, hchars, rfl⟩
    rw [hchars, String.toList_ofList]
  · intro h
    exact ⟨_, h, String.ofList_toList⟩

/-- Each level of an expansion is the expansion of a level. -/
theorem mapM_expand_levels (h : σ.expand filter = .ok e) :
    (Topic.levels filter).mapM (fun level => (σ.expand level).map Expansion.text) = .ok (Topic.levels e.text) := by
  rw [Outcome.mapM_eq_ok_iff]
  unfold Topic.levels
  rw [List.forall₂_map_left_iff, List.forall₂_map_right_iff]
  refine (expands_of_expand h).forall₂_splitLevels.imp ?_
  intro level part hpart
  rw [map_text_eq_ok_iff, String.toList_ofList, String.toList_ofList]
  exact hpart

/-- A filter expands exactly if, for each of the two placeholders that occurs in it, the value has no `+`, no `#` and no
`/`. However the filter is taken apart at its placeholders, and it can be, the expansion is the same with every
placeholder replaced by its value; it is also the expansions of the levels, taken one by one and joined with slashes.
The shortcut for filters without percent signs gives the text of the scan. An error names the leftmost placeholder
whose value has one of these characters, and that value. -/
theorem expand_replaces_at_once (σ : Substitution) (filter : String) :
    ((∃ e, σ.expand filter = .ok e) ↔
        ∀ p : Placeholder, p.OccursIn filter.toList → IsShapeless (σ.value p))
      ∧ (∃ o : Outline, o.IsOf filter.toList)
      ∧ (∀ e, σ.expand filter = .ok e →
          (∀ o : Outline, o.IsOf filter.toList → e.text = String.ofList (o.filled σ))
            ∧ ∃ parts, (Topic.levels filter).mapM (fun level => (σ.expand level).map Expansion.text) = .ok parts
                ∧ e.text = "/".intercalate parts)
      ∧ (σ.expand filter).map Expansion.text = (σ.expandChars filter.toList).map String.ofList
      ∧ ∀ u, σ.expand filter = .error u ↔ Refuses σ filter.toList u := by
  refine ⟨?_, Outline.exists_isOf _, ?_, expand_map_text σ filter, ?_⟩
  · rw [← exists_expandChars_iff]
    constructor
    · rintro ⟨e, he⟩
      exact ⟨_, expandChars_eq_ok_iff.mpr (expands_of_expand he)⟩
    · rintro ⟨out, hout⟩
      have htext := expand_map_text σ filter
      rw [hout] at htext
      obtain ⟨e, he, -⟩ := map_eq_ok_iff.mp htext
      exact ⟨e, he⟩
  · intro e he
    have hexpands := expands_of_expand he
    constructor
    · intro o ho
      have hvalues := exists_expandChars_iff.mp ⟨_, expandChars_eq_ok_iff.mpr hexpands⟩
      rw [← hexpands.unique (ho.expands hvalues), String.ofList_toList]
    · exact ⟨Topic.levels e.text, mapM_expand_levels he, (Topic.isCut_levels e.text).intercalate_eq.symm⟩
  · intro u
    rw [← expandChars_eq_error_iff, ← map_eq_error_iff, expand_map_text, map_eq_error_iff]

/-- Values that spell placeholders, next to percent signs that begin none: nothing is read twice. For another client
both values are refused, and the client id comes first. -/
theorem expand_replaces_at_once_of_spellings :
    (∃ e, (⟨"%c", "x%u"⟩ : Substitution).expand "%%u/%c%" = .ok e ∧ e.text = "%%c/x%u%"
        ∧ ∃ parts, ["%%u", "%c%"].mapM
            (fun level => ((⟨"%c", "x%u"⟩ : Substitution).expand level).map Expansion.text) = .ok parts
          ∧ "%%c/x%u%" = "/".intercalate parts)
      ∧ (⟨"+", "a/b"⟩ : Substitution).expand "50%/%c/%u" = .error ⟨.clientId, "a/b"⟩ := by
  have hshapeless : ∀ p, IsShapeless ((⟨"%c", "x%u"⟩ : Substitution).value p) := by
    intro p
    cases p <;> decide
  have hlevels : Topic.levels "%%u/%c%" = ["%%u", "%c%"] := by decide +kernel
  let o : Outline := ⟨['%'], [(.identity, ['/']), (.clientId, ['%'])]⟩
  have ho : o.IsOf "%%u/%c%".toList := by
    refine ⟨by decide +kernel, ?_, ?_⟩
    · intro p
      cases p <;> decide
    · intro hole hmem p
      revert hole
      cases p <;> decide
  obtain ⟨hok, -, hreplaced, -, -⟩ := expand_replaces_at_once ⟨"%c", "x%u"⟩ "%%u/%c%"
  obtain ⟨e, he⟩ := hok.mpr fun p _ => hshapeless p
  obtain ⟨hfilled, hjoined⟩ := hreplaced e he
  have htext : e.text = "%%c/x%u%" := by
    rw [hfilled o ho]
    decide +kernel
  rw [htext, hlevels] at hjoined
  refine ⟨⟨e, he, htext, hjoined⟩, ?_⟩
  obtain ⟨-, -, -, -, herror⟩ := expand_replaces_at_once ⟨"+", "a/b"⟩ "50%/%c/%u"
  refine (herror _).mpr ⟨rfl, by decide +kernel, 4, by decide +kernel, ?_⟩
  intro j hj p hp
  have hnone : ∀ j < 4, ¬ p.OccursAt j "50%/%c/%u".toList := by
    cases p <;> decide +kernel
  exact absurd hp (hnone j hj)

end Substitution

end TopicGuard
