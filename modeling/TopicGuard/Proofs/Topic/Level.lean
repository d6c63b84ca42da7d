import Mathlib.Data.List.Basic
import TopicGuard.Topic.Level

/-!
A text and its levels.

`IsCut` says what the levels of a text are without saying how they are found: they give the text back when slashes are
put between them, there is at least one, and none of them holds a slash. Every text has exactly one such list
(`levels_eq_iff`), and every such list is that of a text (`levels_intercalate`).
-/

set_option autoImplicit false

namespace TopicGuard.Topic

variable {cs value level : List Char} {parts : List (List Char)}

/-! ## Cutting at slashes -/

/-- Text without a slash goes to the front of the first level. -/
theorem splitLevels_append (hv : '/' ∉ value) (hcs : splitLevels cs = level :: parts) :
    splitLevels (value ++ cs) = (value ++ level) :: parts := by
  induction value with
  | nil => exact hcs
  | cons c value ih =>
    rw [List.mem_cons, not_or] at hv
    obtain ⟨first, rest, hfirst, hc⟩ := splitLevels_cons_of_ne (Ne.symm hv.1) (value ++ cs)
    rw [ih hv.2, List.cons.injEq] at hfirst
    rw [List.cons_append, hc, ← hfirst.1, ← hfirst.2, List.cons_append]

/-- The first level is empty or begins as the text does. -/
theorem head?_of_splitLevels (h : splitLevels cs = level :: parts) : level = [] ∨ level.head? = cs.head? := by
  cases cs with
  | nil =>
    rw [splitLevels, List.cons.injEq] at h
    exact .inl h.1.symm
  | cons c cs =>
    by_cases hc : c = '/'
    · rw [splitLevels, if_pos hc, List.cons.injEq] at h
      exact .inl h.1.symm
    · obtain ⟨first, rest, -, hsplit⟩ := splitLevels_cons_of_ne hc cs
      rw [hsplit, List.cons.injEq] at h
      right
      rw [← h.1, List.head?_cons, List.head?_cons]

/-- Levels that are joined are found again. -/
theorem splitLevels_joinLevels (hne : parts ≠ []) (hslash : ∀ part ∈ parts, '/' ∉ part) :
    splitLevels (joinLevels parts) = parts := by
  induction parts with
  | nil => exact absurd rfl hne
  | cons part rest ih =>
    rw [List.forall_mem_cons] at hslash
    obtain ⟨hpart, hrest⟩ := hslash
    have hnil : splitLevels [] = [[]] := rfl
    cases rest with
    | nil =>
      have h := splitLevels_append hpart hnil
      rwa [List.append_nil] at h
    | cons next rest =>
      have hslash : splitLevels ('/' :: joinLevels (next :: rest)) = [] :: next :: rest := by
        rw [splitLevels, if_pos rfl, ih (List.cons_ne_nil _ _) hrest]
      have h := splitLevels_append hpart hslash
      rwa [List.append_nil] at h

/-! ## Levels as texts -/

/-- The text is the levels with slashes between them: at least one level, and no slash in any of them. -/
structure IsCut (s : String) (levels : List String) : Prop where
  ne_nil : levels ≠ []
  slash_not_mem : ∀ level ∈ levels, '/' ∉ level.toList
  intercalate_eq : "/".intercalate levels = s

variable {s : String} {ls : List String}

theorem toList_intercalate_slash (ls : List String) :
    ("/".intercalate ls).toList = joinLevels (ls.map String.toList) := by
  induction ls with
  | nil => rfl
  | cons l rest ih =>
    cases rest with
    | nil => simp [joinLevels]
    | cons next rest =>
      rw [String.intercalate_cons_of_ne_nil (List.cons_ne_nil _ _), String.toList_append, String.toList_append, ih,
        List.append_assoc]
      rfl

/-- The levels of a text are what it can be cut into. -/
theorem levels_eq_iff : levels s = ls ↔ IsCut s ls := by
  constructor
  · rintro rfl
    refine ⟨?_, ?_, ?_⟩
    · rw [levels, ne_eq, List.map_eq_nil_iff]
      exact splitLevels_ne_nil _
    · intro level hlevel
      obtain ⟨part, hpart, rfl⟩ := List.mem_map.mp hlevel
      rw [String.toList_ofList]
      exact slash_not_mem_of_mem_splitLevels hpart
    · have hparts : ((splitLevels s.toList).map String.ofList).map String.toList = splitLevels s.toList := by
        simp [Function.comp_def]
      rw [← String.toList_inj, toList_intercalate_slash, levels, hparts, joinLevels_splitLevels]
  · rintro ⟨hne, hslash, rfl⟩
    have hparts : splitLevels (joinLevels (ls.map String.toList)) = ls.map String.toList := by
      refine splitLevels_joinLevels (by simpa using hne) fun part hpart => ?_
      obtain ⟨level, hlevel, rfl⟩ := List.mem_map.mp hpart
      exact hslash level hlevel
    rw [levels, toList_intercalate_slash, hparts]
    simp [Function.comp_def]

theorem isCut_levels (s : String) : IsCut s (levels s) :=
  levels_eq_iff.mp rfl

/-- Any levels without slashes are those of a text. -/
theorem levels_intercalate (hne : ls ≠ []) (hslash : ∀ level ∈ ls, '/' ∉ level.toList) :
    levels ("/".intercalate ls) = ls :=
  levels_eq_iff.mpr ⟨hne, hslash, rfl⟩

end TopicGuard.Topic
