import Mathlib.Data.List.Induction
import TopicGuard.Proofs.Outcome
import TopicGuard.Proofs.Topic.Level
import TopicGuard.Topic.Placeholder

/-!
Expansion of placeholders, level by level.

`Substitution.expandChars` looks one character ahead, so its own recursion has cases that overlap. `Expands`
says the same with two: a placeholder is replaced by its value, and any other character stays. All facts about
expansion are inductions over this relation, and `expandChars_eq_ok_iff` is the only place where the function
is opened.

A value that is put in holds no slash, hence cutting at slashes and expanding can be exchanged
(`Expands.forall₂_splitLevels`). That is exact, level for level: the number of levels does not change, and
what a level becomes depends on nothing outside of it.
-/

set_option autoImplicit false

namespace TopicGuard

open Outcome (bind_eq_ok_iff map_eq_ok_iff)
open Topic (splitLevels splitLevels_ne_nil splitLevels_cons_of_ne)

namespace Placeholder

theorem eq_letter_of_ofLetter? {c : Char} {p : Placeholder} (h : ofLetter? c = some p) :
    c = p.letter := by
  unfold ofLetter? at h
  split_ifs at h with hu hc
  · cases h
    exact hu
  · cases h
    exact hc

theorem letter_ne_slash (p : Placeholder) : p.letter ≠ '/' := by
  cases p <;> decide

end Placeholder

namespace Substitution

variable {σ : Substitution} {cs out : List Char}

/-! ## The relation -/

/-- The second text is the first one with the values put in. -/
inductive Expands (σ : Substitution) : List Char → List Char → Prop where
  | nil : Expands σ [] []
  /-- A placeholder is replaced by its value. -/
  | fill (p : Placeholder) {value cs out : List Char} (hp : σ.fill p = .ok value)
      (h : Expands σ cs out) : Expands σ ('%' :: p.letter :: cs) (value ++ out)
  /-- Any other character stays, also a percent sign that no placeholder's letter follows. -/
  | keep {c : Char} {cs out : List Char}
      (hc : c = '%' → cs.head?.bind Placeholder.ofLetter? = none)
      (h : Expands σ cs out) : Expands σ (c :: cs) (c :: out)

/-- `expandChars` on a placeholder. -/
theorem expandChars_fill (p : Placeholder) (cs : List Char) :
    σ.expandChars ('%' :: p.letter :: cs)
      = σ.fill p >>= fun value => (σ.expandChars cs).map (value ++ ·) := by
  rw [expandChars, if_pos rfl, Placeholder.ofLetter?_letter]
  cases σ.expandChars cs <;> rfl

/-- `expandChars` on a character that begins no placeholder. -/
theorem expandChars_keep {c : Char} (hc : c = '%' → cs.head?.bind Placeholder.ofLetter? = none) :
    σ.expandChars (c :: cs) = (σ.expandChars cs).map (c :: ·) := by
  cases cs with
  | nil => rfl
  | cons d rest =>
    rw [expandChars]
    by_cases h : c = '%'
    · have hd : Placeholder.ofLetter? d = none := hc h
      rw [if_pos h, hd]
      cases σ.expandChars (d :: rest) <;> rfl
    · rw [if_neg h]
      cases σ.expandChars (d :: rest) <;> rfl

/-- Induction over a text as it is scanned: a placeholder uses up two characters, and any other character one. -/
theorem scan_induction {motive : List Char → Prop} (nil : motive [])
    (fill : ∀ (p : Placeholder) (cs : List Char), motive cs → motive ('%' :: p.letter :: cs))
    (keep : ∀ (c : Char) (cs : List Char), (c = '%' → cs.head?.bind Placeholder.ofLetter? = none) → motive cs →
      motive (c :: cs)) (cs : List Char) : motive cs := by
  induction cs using List.twoStepInduction with
  | nil => exact nil
  | singleton c => exact keep c [] (fun _ => rfl) nil
  | cons_cons c d rest ih₂ ih₁ =>
    by_cases hp : c = '%' ∧ (Placeholder.ofLetter? d).isSome
    · obtain ⟨rfl, hd⟩ := hp
      obtain ⟨p, hd⟩ := Option.isSome_iff_exists.mp hd
      rw [Placeholder.eq_letter_of_ofLetter? hd]
      exact fill p rest ih₂
    · refine keep c (d :: rest) ?_ (ih₁ d)
      intro hc
      simpa [hc] using hp

/-- The relation is the graph of the function. -/
theorem expandChars_eq_ok_iff : σ.expandChars cs = .ok out ↔ Expands σ cs out := by
  constructor
  · intro h
    induction cs using scan_induction generalizing out with
    | nil =>
      cases h
      exact .nil
    | fill p cs ih =>
      rw [expandChars_fill, bind_eq_ok_iff] at h
      obtain ⟨value, hvalue, h⟩ := h
      obtain ⟨tail, htail, rfl⟩ := map_eq_ok_iff.mp h
      exact .fill p hvalue (ih htail)
    | keep c cs hc ih =>
      rw [expandChars_keep hc] at h
      obtain ⟨tail, htail, rfl⟩ := map_eq_ok_iff.mp h
      exact .keep hc (ih htail)
  · intro h
    induction h with
    | nil => rfl
    | fill p hp _ ih =>
      rw [expandChars_fill, hp, ih]
      rfl
    | keep hc _ ih =>
      rw [expandChars_keep hc, ih]
      rfl

theorem Expands.unique {out' : List Char} (h : Expands σ cs out) (h' : Expands σ cs out') :
    out = out' := by
  have heq := (expandChars_eq_ok_iff.mpr h).symm.trans (expandChars_eq_ok_iff.mpr h')
  exact Except.ok.inj heq

/-- A text without percent signs expands to itself. -/
theorem Expands.refl (h : '%' ∉ cs) : Expands σ cs cs := by
  induction cs with
  | nil => exact .nil
  | cons c cs ih =>
    rw [List.mem_cons, not_or] at h
    exact .keep (fun hc => absurd hc.symm h.1) (ih h.2)

/-- The shortcut for a filter without percent signs does not show in the text. -/
theorem expands_of_expand {filter : String} {e : Expansion} (h : σ.expand filter = .ok e) :
    Expands σ filter.toList e.text.toList := by
  unfold expand at h
  split_ifs at h with hp
  · obtain ⟨chars, hchars, h⟩ := bind_eq_ok_iff.mp h
    cases h
    rw [String.toList_ofList]
    exact expandChars_eq_ok_iff.mp hchars
  · cases h
    exact .refl hp

/-! ## Levels -/

/-- A value that is put in gives a filter no shape. -/
theorem isStructural_of_mem_fill {p : Placeholder} {value : List Char} (h : σ.fill p = .ok value)
    {c : Char} (hc : c ∈ value) : Placeholder.isStructural c = false := by
  unfold fill at h
  split_ifs at h with hp
  cases h
  unfold Placeholder.isPlain at hp
  rw [Bool.not_eq_true', List.any_eq_false] at hp
  exact Bool.eq_false_iff.mpr (hp c hc)

theorem slash_not_mem_of_fill {p : Placeholder} {value : List Char} (h : σ.fill p = .ok value) :
    '/' ∉ value := by
  intro hc
  have := isStructural_of_mem_fill h hc
  contradiction

/-- Expanding and cutting at slashes can be exchanged. The induction is on the relation; in each case the
character or the value that is written goes to the front of the first level on both sides, unless it is a
slash, which stays and opens a level on both sides. -/
theorem Expands.forall₂_splitLevels (h : Expands σ cs out) :
    List.Forall₂ (Expands σ) (splitLevels cs) (splitLevels out) := by
  induction h with
  | nil => exact .cons .nil .nil
  | @fill p value cs out hp _ ih =>
    obtain ⟨level, levels, hcs⟩ := List.exists_cons_of_ne_nil (splitLevels_ne_nil cs)
    obtain ⟨level', levels', hout⟩ := List.exists_cons_of_ne_nil (splitLevels_ne_nil out)
    rw [hcs, hout, List.forall₂_cons] at ih
    have hspelling : '/' ∉ ['%', p.letter] := by
      simp [Ne.symm p.letter_ne_slash]
    rw [Topic.splitLevels_append (slash_not_mem_of_fill hp) hout,
      show '%' :: p.letter :: cs = ['%', p.letter] ++ cs from rfl,
      Topic.splitLevels_append hspelling hcs]
    exact .cons (.fill p hp ih.1) ih.2
  | @keep c cs out hc _ ih =>
    by_cases hslash : c = '/'
    · rw [splitLevels, splitLevels, if_pos hslash, if_pos hslash]
      exact .cons .nil ih
    · obtain ⟨level, levels, hcs, hccs⟩ := splitLevels_cons_of_ne hslash cs
      obtain ⟨level', levels', hout, hcout⟩ := splitLevels_cons_of_ne hslash out
      rw [hcs, hout, List.forall₂_cons] at ih
      rw [hccs, hcout]
      refine .cons (.keep (fun hpercent => ?_) ih.1) ih.2
      rcases Topic.head?_of_splitLevels hcs with hnil | hhead
      · rw [hnil]
        rfl
      · rw [hhead]
        exact hc hpercent

/-- An expansion has as many levels as the stored filter. -/
theorem length_levels_expand {filter : String} {e : Expansion} (h : σ.expand filter = .ok e) :
    (Topic.levels e.text).length = (Topic.levels filter).length := by
  unfold Topic.levels
  rw [List.length_map, List.length_map]
  exact (expands_of_expand h).forall₂_splitLevels.length_eq.symm

/-- A level of an expansion is the expansion of the stored level at the same place. -/
theorem levels_expand_getElem? {filter : String} {e : Expansion} (h : σ.expand filter = .ok e)
    (i : Nat) :
    ((Topic.levels filter)[i]? = none ∧ (Topic.levels e.text)[i]? = none)
      ∨ ∃ level level', (Topic.levels filter)[i]? = some (String.ofList level)
          ∧ (Topic.levels e.text)[i]? = some (String.ofList level') ∧ Expands σ level level' := by
  have hlevels := (expands_of_expand h).forall₂_splitLevels
  have hlength := hlevels.length_eq
  unfold Topic.levels
  rw [List.getElem?_map, List.getElem?_map]
  by_cases hi : i < (splitLevels filter.toList).length
  · right
    have hi' : i < (splitLevels e.text.toList).length := hlength ▸ hi
    refine ⟨_, _, ?_, ?_, hlevels.get hi hi'⟩
    · rw [List.getElem?_eq_getElem hi]
      rfl
    · rw [List.getElem?_eq_getElem hi']
      rfl
  · left
    rw [List.getElem?_eq_none (Nat.le_of_not_lt hi),
      List.getElem?_eq_none (Nat.le_of_not_lt (hlength ▸ hi))]
    exact ⟨rfl, rfl⟩

end Substitution

end TopicGuard
