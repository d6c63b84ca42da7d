import Mathlib.Tactic.ByContra
import TopicGuard.Token.Verifier

/-!
How a token falls into parts.

A token is cut by walking over its reversed text; `Parts.AreOf` says what comes out of it without a direction: the
three parts with a dot after the first and after the second are the token again, and there is no dot in the last
two. A token has such parts exactly if it has two dots, and then only one way.
-/

set_option autoImplicit false

namespace TopicGuard.Token.Parts

variable {cs before after : List Char} {p q : Parts}

/-! ## The last dot -/

/-- The text around a dot is what a cut gives if there is no dot behind it. -/
theorem cutLast?_append (h : '.' ∉ after) : cutLast? (before ++ '.' :: after) = some (before, after) := by
  have hreverse : (before ++ '.' :: after).reverse = after.reverse ++ '.' :: before.reverse := by simp
  have hnoDot : ∀ c ∈ after.reverse, decide (c ≠ '.') = true := by
    intro c hc
    rw [decide_eq_true_iff]
    rintro rfl
    exact h (List.mem_reverse.mp hc)
  unfold cutLast?
  rw [if_pos (by simp)]
  dsimp only
  rw [hreverse, List.dropWhile_append_of_pos hnoDot, List.takeWhile_append_of_pos hnoDot]
  simp

theorem cutLast?_eq_some_iff :
    cutLast? cs = some (before, after) ↔ cs = before ++ '.' :: after ∧ '.' ∉ after := by
  constructor
  · intro h
    have hdot : '.' ∈ cs := by
      by_contra hdot
      rw [cutLast?, if_neg hdot] at h
      cases h
    -- The last dot of a text is the first one of its reverse.
    obtain ⟨as, bs, hcs, has⟩ := List.eq_append_cons_of_mem (List.mem_reverse.mpr hdot)
    have hcs : cs = bs.reverse ++ '.' :: as.reverse := by
      rw [← List.reverse_reverse cs, hcs]
      simp
    rw [← List.mem_reverse] at has
    rw [hcs, cutLast?_append has] at h
    cases h
    exact ⟨hcs, has⟩
  · rintro ⟨rfl, h⟩
    exact cutLast?_append h

theorem cutLast?_eq_none_iff : cutLast? cs = none ↔ '.' ∉ cs := by
  unfold cutLast?
  by_cases h : '.' ∈ cs
  · simp [h]
  · simp [h]

/-! ## Three parts -/

/-- The parts with dots between them are the text, and only the first part may have a dot in it. -/
structure AreOf (p : Parts) (cs : List Char) : Prop where
  eq : cs = p.signed ++ '.' :: p.signature
  payload : '.' ∉ p.payload
  signature : '.' ∉ p.signature

theorem ofChars?_eq_some_iff : ofChars? cs = some p ↔ p.AreOf cs := by
  obtain ⟨header, payload, signature⟩ := p
  unfold ofChars?
  simp only [Option.bind_eq_bind, Option.bind_eq_some_iff, Prod.exists, cutLast?_eq_some_iff]
  constructor
  · rintro ⟨message, _, ⟨rfl, hsignature⟩, _, _, ⟨rfl, hpayload⟩, h⟩
    cases h
    exact ⟨rfl, hpayload, hsignature⟩
  · rintro ⟨hcs, hpayload, hsignature⟩
    exact ⟨_, _, ⟨hcs, hsignature⟩, _, _, ⟨rfl, hpayload⟩, rfl⟩

/-- The dots of a text are the two between its parts and those in its header. -/
theorem AreOf.count_dot (h : p.AreOf cs) : cs.count '.' = p.header.count '.' + 2 := by
  rw [h.eq, signed]
  simp only [List.count_append, List.count_cons_self, List.count_eq_zero.mpr h.payload,
    List.count_eq_zero.mpr h.signature]

theorem ofChars?_eq_none_iff : ofChars? cs = none ↔ cs.count '.' < 2 := by
  constructor
  · intro h
    by_contra hcount
    have hdot : cutLast? cs ≠ none := by
      rw [Ne, cutLast?_eq_none_iff, not_not, ← List.count_pos_iff]
      omega
    obtain ⟨⟨message, signature⟩, hcut⟩ := Option.ne_none_iff_exists'.mp hdot
    obtain ⟨hcs, hsignature⟩ := cutLast?_eq_some_iff.mp hcut
    -- One dot is gone with the signature, and another one is left.
    have hdot' : cutLast? message ≠ none := by
      rw [Ne, cutLast?_eq_none_iff, not_not, ← List.count_pos_iff]
      rw [hcs, List.count_append, List.count_cons_self, List.count_eq_zero.mpr hsignature] at hcount
      omega
    obtain ⟨⟨header, payload⟩, hcut'⟩ := Option.ne_none_iff_exists'.mp hdot'
    rw [ofChars?, hcut] at h
    change (cutLast? message).bind _ = none at h
    rw [hcut'] at h
    cases h
  · intro h
    by_contra hsome
    obtain ⟨p, hp⟩ := Option.ne_none_iff_exists'.mp hsome
    have hcount := (ofChars?_eq_some_iff.mp hp).count_dot
    omega

/-- A text has parts or fewer than two dots. -/
theorem exists_areOf_or_count_dot (cs : List Char) :
    (∃ p : Parts, p.AreOf cs) ∨ cs.count '.' < 2 := by
  rw [← ofChars?_eq_none_iff]
  cases hcs : ofChars? cs with
  | none => exact .inr rfl
  | some p => exact .inl ⟨p, ofChars?_eq_some_iff.mp hcs⟩

/-- A text has parts in one way only. -/
theorem AreOf.unique (hp : p.AreOf cs) (hq : q.AreOf cs) : p = q := by
  have heq := (ofChars?_eq_some_iff.mpr hp).symm.trans (ofChars?_eq_some_iff.mpr hq)
  exact Option.some.inj heq

end TopicGuard.Token.Parts
