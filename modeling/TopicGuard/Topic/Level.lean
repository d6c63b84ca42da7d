/-!
The levels of a topic.

A topic is a path: its levels are the stretches between slashes. A text without a slash is one level, and
the empty text is one empty level, so no text has zero levels. Joining the levels with slashes gives the
text back (`joinLevels_splitLevels`), and no level holds a slash (`slash_not_mem_of_mem_splitLevels`):
cutting loses nothing and leaves nothing to cut.
-/

set_option autoImplicit false

namespace TopicGuard.Topic

/-! ## Cutting at slashes -/

/-- The stretches between slashes. -/
def splitLevels : List Char → List (List Char)
  | [] => [[]]
  | c :: cs =>
    if c = '/' then [] :: splitLevels cs
    else match splitLevels cs with
      | [] => [[c]]
      | level :: levels => (c :: level) :: levels

/-- The levels with slashes between them. -/
def joinLevels : List (List Char) → List Char
  | [] => []
  | [level] => level
  | level :: levels => level ++ '/' :: joinLevels levels

/-- The levels of a topic or of a topic filter. -/
def levels (s : String) : List String :=
  (splitLevels s.toList).map String.ofList

/-! ## Facts -/

theorem splitLevels_ne_nil (cs : List Char) : splitLevels cs ≠ [] := by
  cases cs with
  | nil => simp [splitLevels]
  | cons c cs =>
    rw [splitLevels]
    split
    · simp
    · split <;> simp

/-- A character other than a slash goes to the front of the first level. -/
theorem splitLevels_cons_of_ne {c : Char} (hc : c ≠ '/') (cs : List Char) :
    ∃ level levels, splitLevels cs = level :: levels ∧
      splitLevels (c :: cs) = (c :: level) :: levels := by
  match h : splitLevels cs with
  | [] => exact absurd h (splitLevels_ne_nil cs)
  | level :: levels => exact ⟨level, levels, rfl, by rw [splitLevels, if_neg hc, h]⟩

/-- Cutting loses nothing. -/
theorem joinLevels_splitLevels (cs : List Char) : joinLevels (splitLevels cs) = cs := by
  induction cs with
  | nil => rfl
  | cons c cs ih =>
    by_cases hc : c = '/'
    · subst hc
      match h : splitLevels cs with
      | [] => exact absurd h (splitLevels_ne_nil cs)
      | level :: levels =>
        rw [h] at ih
        rw [splitLevels, if_pos rfl, h, joinLevels, ih]
        · rfl
        · simp
    · obtain ⟨level, levels, hcs, hccs⟩ := splitLevels_cons_of_ne hc cs
      rw [hccs]
      rw [hcs] at ih
      cases levels with
      | nil => simpa [joinLevels] using ih
      | cons next levels => simpa [joinLevels] using ih

/-- A level holds no slash. -/
theorem slash_not_mem_of_mem_splitLevels {cs level : List Char} (h : level ∈ splitLevels cs) :
    '/' ∉ level := by
  induction cs generalizing level with
  | nil => simp_all [splitLevels]
  | cons c cs ih =>
    by_cases hc : c = '/'
    · rw [splitLevels, if_pos hc, List.mem_cons] at h
      rcases h with rfl | h
      · simp
      · exact ih h
    · obtain ⟨first, levels, hcs, hccs⟩ := splitLevels_cons_of_ne hc cs
      rw [hccs, List.mem_cons] at h
      rcases h with rfl | h
      · have := @ih first (by simp [hcs])
        simp [this, Ne.symm hc]
      · exact ih (by simp [hcs, h])

end TopicGuard.Topic
