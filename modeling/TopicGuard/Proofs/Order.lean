/-!
Stable orders.

Sorting by a key is stable if entries with the same key keep the order that they had. `IsStableOrder` says so without
an algorithm: the keys go up, and the entries of each key are the same list as before. There is one such order of a
list (`IsStableOrder.unique`), and merge sort finds it (`isStableOrder_iff`). So the order depends on nothing but the
entries of each key, and leaving some of the entries out leaves the others in order (`IsStableOrder.filter`).
-/

set_option autoImplicit false

namespace TopicGuard

variable {α : Type} {key : α → Nat} {xs ys ordered : List α}

/-- The second list has the entries of the first in the order of a key, and those with the same key in the order that
they had. -/
structure IsStableOrder (key : α → Nat) (xs ordered : List α) : Prop where
  sorted : ordered.Pairwise fun a b => key a ≤ key b
  filter_eq : ∀ k, (ordered.filter fun a => key a = k) = xs.filter fun a => key a = k

theorem mem_filter_key (key : α → Nat) (a : α) (as : List α) : a ∈ (a :: as).filter fun b => key b = key a := by
  rw [List.mem_filter]
  exact ⟨List.mem_cons_self, decide_eq_true rfl⟩

theorem key_le_of_filter_eq {a b : α} {as bs : List α} (h : (b :: bs).Pairwise fun a b => key a ≤ key b)
    (heq : ∀ k, ((a :: as).filter fun c => key c = k) = (b :: bs).filter fun c => key c = k) : key b ≤ key a := by
  have hmem := mem_filter_key key a as
  rw [heq, List.mem_filter] at hmem
  rcases List.mem_cons.mp hmem.1 with rfl | hbs
  · exact Nat.le_refl _
  · exact (List.pairwise_cons.mp h).1 a hbs

/-- Lists in order with the same entries of each key are the same. -/
theorem eq_of_filter_eq (hxs : xs.Pairwise fun a b => key a ≤ key b) (hys : ys.Pairwise fun a b => key a ≤ key b)
    (heq : ∀ k, (xs.filter fun a => key a = k) = ys.filter fun a => key a = k) : xs = ys := by
  induction xs generalizing ys with
  | nil =>
    cases ys with
    | nil => rfl
    | cons b bs =>
      have hmem := mem_filter_key key b bs
      rw [← heq] at hmem
      cases hmem
  | cons a as ih =>
    cases ys with
    | nil =>
      have hmem := mem_filter_key key a as
      rw [heq] at hmem
      cases hmem
    | cons b bs =>
      -- Both first entries have the least key, and so each is the first entry of that key.
      have hkey : key a = key b :=
        Nat.le_antisymm (key_le_of_filter_eq hxs fun k => (heq k).symm) (key_le_of_filter_eq hys heq)
      have hfirst := heq (key a)
      rw [List.filter_cons_of_pos (by simp), List.filter_cons_of_pos (by simp [hkey])] at hfirst
      obtain ⟨rfl, hrest⟩ := List.cons.inj hfirst
      have htail (k : Nat) : (as.filter fun c => key c = k) = bs.filter fun c => key c = k := by
        by_cases hk : key a = k
        · rw [← hk]
          exact hrest
        · have h := heq k
          rw [List.filter_cons_of_neg (by simpa using hk), List.filter_cons_of_neg (by simpa using hk)] at h
          exact h
      rw [ih (List.pairwise_cons.mp hxs).2 (List.pairwise_cons.mp hys).2 htail]

theorem IsStableOrder.unique (h : IsStableOrder key xs ordered) (h' : IsStableOrder key xs ys) : ordered = ys :=
  eq_of_filter_eq h.sorted h'.sorted fun k => (h.filter_eq k).trans (h'.filter_eq k).symm

theorem IsStableOrder.mem_iff {a : α} (h : IsStableOrder key xs ordered) : a ∈ ordered ↔ a ∈ xs := by
  have hfilter (as : List α) : (a ∈ as.filter fun b => key b = key a) ↔ a ∈ as := by
    rw [List.mem_filter, and_iff_left (decide_eq_true rfl)]
  rw [← hfilter ordered, h.filter_eq, hfilter]

/-- Leaving out the same entries before and after gives the order of the others. -/
theorem IsStableOrder.filter (h : IsStableOrder key xs ordered) (p : α → Bool) :
    IsStableOrder key (xs.filter p) (ordered.filter p) := by
  refine ⟨h.sorted.filter p, fun k => ?_⟩
  have hcomm (as : List α) : ((as.filter p).filter fun a => key a = k) = (as.filter fun a => key a = k).filter p := by
    rw [List.filter_filter, List.filter_filter]
    simp only [Bool.and_comm]
  rw [hcomm, hcomm, h.filter_eq]

theorem isStableOrder_mergeSort (key : α → Nat) (xs : List α) :
    IsStableOrder key xs (xs.mergeSort fun a b => key a ≤ key b) := by
  have htrans (a b c : α) (hab : decide (key a ≤ key b) = true) (hbc : decide (key b ≤ key c) = true) :
      decide (key a ≤ key c) = true := by
    simp only [decide_eq_true_eq] at *
    omega
  have htotal (a b : α) : (decide (key a ≤ key b) || decide (key b ≤ key a)) = true := by
    simp only [Bool.or_eq_true, decide_eq_true_eq]
    omega
  refine ⟨?_, fun k => ?_⟩
  · exact (List.pairwise_mergeSort htrans htotal xs).imp fun h => of_decide_eq_true h
  · -- The entries of one key are in order already, so they stay one behind the other.
    have hkey : (xs.filter fun a => key a = k).Pairwise fun a b => decide (key a ≤ key b) = true := by
      refine List.pairwise_of_forall_mem_list fun a ha b hb => ?_
      rw [List.mem_filter, decide_eq_true_eq] at ha hb
      simp only [decide_eq_true_eq]
      omega
    have hsublist := (List.sublist_mergeSort htrans htotal hkey List.filter_sublist).filter fun a => key a = k
    rw [List.filter_filter] at hsublist
    simp only [Bool.and_self] at hsublist
    exact (hsublist.eq_of_length ((List.mergeSort_perm xs _).filter _).length_eq.symm).symm

theorem isStableOrder_iff : IsStableOrder key xs ordered ↔ ordered = xs.mergeSort fun a b => key a ≤ key b := by
  constructor
  · exact fun h => h.unique (isStableOrder_mergeSort key xs)
  · rintro rfl
    exact isStableOrder_mergeSort key xs

end TopicGuard
