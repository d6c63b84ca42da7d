import TopicGuard.Json.Value

/-!
The members of a written object.

Before an object is written, its members are put in the order of their keys, the last one of every key. For a reader
that asks for the value of a key nothing changes: every key keeps its value (`lookup?_sortMembers`), and the values
are put in order as well (`lookup?_canonicalMembers`). What is new is that no key is repeated, which is all that is
used of the order (`InOrder`).
-/

set_option autoImplicit false

namespace TopicGuard.Json

variable {key k : String} {x : Json} {m : String × Json} {ms sorted : List (String × Json)}

/-! ## The value of a key -/

theorem lookup?_nil : lookup? [] k = none := rfl

/-- A member gives its key a value unless a later one does. -/
theorem lookup?_cons :
    lookup? ((key, x) :: ms) k = (lookup? ms k).or (if key = k then some x else none) := by
  unfold lookup?
  rw [List.reverse_cons, List.find?_append]
  by_cases hkey : key = k
  · have hfind : [(key, x)].find? (fun m => m.1 == k) = some (key, x) := by simp [hkey]
    rw [hfind, if_pos hkey]
    cases List.find? _ ms.reverse <;> rfl
  · have hfind : [(key, x)].find? (fun m => m.1 == k) = none := by simp [hkey]
    rw [hfind, if_neg hkey, Option.or_none, Option.or_none]

/-- A key without a member has no value. -/
theorem lookup?_eq_none (h : ∀ m ∈ ms, m.1 ≠ k) : lookup? ms k = none := by
  induction ms with
  | nil => rfl
  | cons m ms ih =>
    obtain ⟨key, y⟩ := m
    rw [List.forall_mem_cons] at h
    rw [lookup?_cons, ih h.2, if_neg h.1]
    rfl

/-! ## Members in order -/

/-- The keys of the members increase. -/
def InOrder (ms : List (String × Json)) : Prop :=
  ms.Pairwise fun m n => m.1 < n.1

theorem mem_of_mem_insertMember (h : m ∈ insertMember key x ms) : m = (key, x) ∨ m ∈ ms := by
  induction ms with
  | nil => exact Or.inl (List.mem_singleton.mp h)
  | cons n ms ih =>
    obtain ⟨k, y⟩ := n
    unfold insertMember at h
    split at h
    · exact List.mem_cons.mp h
    split at h
    · rcases List.mem_cons.mp h with h | h
      · exact Or.inl h
      · exact Or.inr (List.mem_cons_of_mem _ h)
    · rcases List.mem_cons.mp h with rfl | h
      · exact Or.inr List.mem_cons_self
      · rcases ih h with h | h
        · exact Or.inl h
        · exact Or.inr (List.mem_cons_of_mem _ h)

/-- A key that is neither less nor the same is greater. -/
theorem lt_of_not_lt_of_ne {a b : String} (h : ¬ a < b) (hne : a ≠ b) : b < a := by
  have hle : b ≤ a := String.not_lt.mp h
  refine String.not_le.mp fun hge => hne ?_
  exact String.le_antisymm hge hle

theorem InOrder.insertMember (h : InOrder ms) : InOrder (insertMember key x ms) := by
  induction ms with
  | nil => exact List.pairwise_singleton _ _
  | cons n ms ih =>
    obtain ⟨k, y⟩ := n
    obtain ⟨hk, hms⟩ := List.pairwise_cons.mp h
    unfold Json.insertMember
    by_cases hlt : key < k
    · rw [if_pos hlt]
      refine List.pairwise_cons.mpr ⟨fun m hm => ?_, h⟩
      rcases List.mem_cons.mp hm with rfl | hm
      · exact hlt
      · exact String.lt_trans hlt (hk m hm)
    rw [if_neg hlt]
    by_cases heq : key = k
    · subst heq
      rw [if_pos rfl]
      exact List.pairwise_cons.mpr ⟨hk, hms⟩
    · rw [if_neg heq]
      refine List.pairwise_cons.mpr ⟨fun m hm => ?_, ih hms⟩
      rcases mem_of_mem_insertMember hm with rfl | hm
      · exact lt_of_not_lt_of_ne hlt heq
      · exact hk m hm

/-- A member that is inserted gives its key the value, and the other keys keep theirs. -/
theorem InOrder.lookup?_insertMember (h : InOrder ms) :
    lookup? (Json.insertMember key x ms) k = if key = k then some x else lookup? ms k := by
  induction ms with
  | nil =>
    rw [Json.insertMember, lookup?_cons, lookup?_nil]
    rfl
  | cons n ms ih =>
    obtain ⟨k', y⟩ := n
    obtain ⟨hk', hms⟩ := List.pairwise_cons.mp h
    unfold Json.insertMember
    by_cases hlt : key < k'
    · rw [if_pos hlt, lookup?_cons]
      by_cases heq : key = k
      · -- All the keys behind the new member are greater than its own.
        have hnone : lookup? ((k', y) :: ms) k = none := by
          refine lookup?_eq_none fun m hm => ?_
          rintro rfl
          rcases List.mem_cons.mp hm with rfl | hm
          · exact String.lt_irrefl _ (heq ▸ hlt)
          · exact String.lt_irrefl _ (heq ▸ String.lt_trans hlt (hk' m hm))
        rw [hnone, if_pos heq]
        rfl
      · rw [if_neg heq, if_neg heq, Option.or_none]
    rw [if_neg hlt]
    by_cases heq : key = k'
    · -- The new member takes the place of one with its key.
      subst heq
      rw [if_pos rfl, lookup?_cons, lookup?_cons]
      by_cases hkey : key = k
      · have hnone : lookup? ms k = none := by
          refine lookup?_eq_none fun m hm => ?_
          rintro rfl
          exact String.lt_irrefl _ (hkey ▸ hk' m hm)
        rw [hnone, if_pos hkey, if_pos hkey]
        rfl
      · rw [if_neg hkey, if_neg hkey, if_neg hkey]
    · -- It goes somewhere behind this one, and keys behind it count first.
      rw [if_neg heq, lookup?_cons, lookup?_cons, ih hms]
      by_cases hkey : key = k
      · rw [if_pos hkey, if_pos hkey]
        rfl
      · rw [if_neg hkey, if_neg hkey]

/-! ## Sorting -/

/-- Members that are inserted one by one into others in order: the result is in order, and the last value of a key
stands before the values that were there. -/
theorem foldl_insertMember (ms : List (String × Json)) (h : InOrder sorted) :
    InOrder (ms.foldl (fun sorted m => insertMember m.1 m.2 sorted) sorted)
      ∧ ∀ k, lookup? (ms.foldl (fun sorted m => insertMember m.1 m.2 sorted) sorted) k
          = (lookup? ms k).or (lookup? sorted k) := by
  -- The members that were inserted already are the ones to start from.
  induction ms generalizing sorted with
  | nil => exact ⟨h, fun k => rfl⟩
  | cons m ms ih =>
    obtain ⟨key, x⟩ := m
    have hstep : InOrder (insertMember key x sorted) := h.insertMember
    obtain ⟨hinOrder, hlookup⟩ := ih hstep
    refine ⟨hinOrder, fun k => ?_⟩
    rw [List.foldl_cons, hlookup, h.lookup?_insertMember, lookup?_cons, Option.or_assoc]
    by_cases hkey : key = k
    · rw [if_pos hkey, if_pos hkey]
      rfl
    · rw [if_neg hkey, if_neg hkey]
      rfl

theorem inOrder_sortMembers (ms : List (String × Json)) : InOrder (sortMembers ms) :=
  (foldl_insertMember ms List.Pairwise.nil).1

/-- Sorting keeps the value of every key. -/
theorem lookup?_sortMembers (ms : List (String × Json)) (k : String) :
    lookup? (sortMembers ms) k = lookup? ms k := by
  have h := (foldl_insertMember ms List.Pairwise.nil).2 k
  rw [lookup?_nil, Option.or_none] at h
  exact h

theorem mem_of_mem_foldl_insertMember
    (h : m ∈ ms.foldl (fun sorted m => insertMember m.1 m.2 sorted) sorted) : m ∈ ms ∨ m ∈ sorted := by
  induction ms generalizing sorted with
  | nil => exact Or.inr h
  | cons n ms ih =>
    rcases ih h with h | h
    · exact Or.inl (List.mem_cons_of_mem _ h)
    · rcases mem_of_mem_insertMember h with rfl | h
      · exact Or.inl List.mem_cons_self
      · exact Or.inr h

/-- Sorting makes no new members. -/
theorem mem_of_mem_sortMembers (h : m ∈ sortMembers ms) : m ∈ ms := by
  rcases mem_of_mem_foldl_insertMember h with h | h
  · exact h
  · cases h

/-! ## Canonical values -/

theorem lookup?_canonicalMembers (ms : List (String × Json)) (k : String) :
    lookup? (canonicalMembers ms) k = (lookup? ms k).map canonical := by
  induction ms with
  | nil => rfl
  | cons m ms ih =>
    obtain ⟨key, x⟩ := m
    rw [canonicalMembers, lookup?_cons, lookup?_cons, ih]
    by_cases hkey : key = k
    · rw [if_pos hkey, if_pos hkey]
      cases lookup? ms k <;> rfl
    · rw [if_neg hkey, if_neg hkey, Option.or_none, Option.or_none]

end TopicGuard.Json
