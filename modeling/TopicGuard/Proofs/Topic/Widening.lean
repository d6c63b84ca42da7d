import TopicGuard.Proofs.Topic.Expansion

/-!
When a stored level becomes a wildcard.

A value that is put into a filter holds no wildcard character, so a wildcard of the expansion was stored as a
character of the same level. Whether it is a wildcard is asked of the whole level, though, and what stands
around it may vanish: a placeholder whose value is empty leaves nothing behind. An identity is never empty,
hence only placeholders of the client id can do this, and only for a client without an id.

`levels_expand_eq_wildcard_iff` says this as an equivalence for every level and each of the two wildcards.
The level `%c+` is the least one that is literal as it is stored and a wildcard once it is expanded; the
guard of the expansion looks at one value at a time and lets it pass.
-/

set_option autoImplicit false

namespace TopicGuard.Substitution

open Topic (splitLevels)

variable {σ : Substitution} {cs out : List Char}

/-! ## Placeholders of the client id in a row -/

/-- So many placeholders of the client id in a row. -/
def clientIds : Nat → List Char
  | 0 => []
  | n + 1 => '%' :: Placeholder.clientId.letter :: clientIds n

/-- A wildcard with placeholders of the client id before and after it. -/
def shrouded (before after : Nat) (wildcard : String) : String :=
  String.ofList (clientIds before ++ wildcard.toList ++ clientIds after)

/-- The level is the wildcard with placeholders of the client id around it, at least one. -/
def IsShrouded (level wildcard : String) : Prop :=
  ∃ before after, 0 < before + after ∧ level = shrouded before after wildcard

theorem length_clientIds (n : Nat) : (clientIds n).length = 2 * n := by
  induction n with
  | zero => rfl
  | succ n ih =>
    rw [clientIds, List.length_cons, List.length_cons, ih]
    omega

/-- A wildcard with anything around it is not that wildcard. -/
theorem not_isShrouded_self (wildcard : String) : ¬ IsShrouded wildcard wildcard := by
  rintro ⟨before, after, hpos, heq⟩
  have hlen := congrArg (fun s => s.toList.length) heq
  simp only [shrouded, String.toList_ofList, List.length_append, length_clientIds] at hlen
  omega

/-- For a client without an id, placeholders of the client id leave nothing behind. -/
theorem Expands.clientIds_append (hc : σ.clientId = "") (h : Expands σ cs out) (n : Nat) :
    Expands σ (clientIds n ++ cs) out := by
  have hfill : σ.fill .clientId = .ok [] := by
    rw [Substitution.fill, value, hc]
    rfl
  induction n with
  | zero => exact h
  | succ n ih => exact .fill .clientId hfill ih

/-! ## Expansions of one level -/

/-- Only the client id can be put in as nothing. -/
theorem eq_clientId_of_fill_nil (hid : σ.identity ≠ "") {p : Placeholder} (h : σ.fill p = .ok []) :
    p = .clientId ∧ σ.clientId = "" := by
  unfold fill at h
  split_ifs at h with hp
  rw [Except.ok.injEq, String.toList_eq_nil_iff] at h
  cases p with
  | identity => exact absurd h hid
  | clientId => exact ⟨rfl, h⟩

/-- A text that expands to nothing is a row of placeholders of the client id. -/
theorem Expands.eq_clientIds (hid : σ.identity ≠ "") (h : Expands σ cs []) :
    ∃ n, cs = clientIds n ∧ (0 < n → σ.clientId = "") := by
  generalize hout : ([] : List Char) = out at h
  induction h with
  | nil => exact ⟨0, rfl, fun h => absurd h (Nat.lt_irrefl 0)⟩
  | fill p hp _ ih =>
    obtain ⟨rfl, rfl⟩ := List.append_eq_nil_iff.mp hout.symm
    obtain ⟨rfl, hc⟩ := eq_clientId_of_fill_nil hid hp
    obtain ⟨n, rfl, -⟩ := ih rfl
    exact ⟨n + 1, rfl, fun _ => hc⟩
  | keep => cases hout

/-- A text that expands to one wildcard character holds it, with nothing but placeholders of the client id
around it. The induction passes over the placeholders before the character; behind it the expansion is
empty. -/
theorem Expands.eq_shrouded (hid : σ.identity ≠ "") {w : Char} (hw : Placeholder.isStructural w = true)
    (h : Expands σ cs [w]) :
    ∃ before after, cs = clientIds before ++ [w] ++ clientIds after
      ∧ (0 < before + after → σ.clientId = "") := by
  generalize hout : [w] = out at h
  induction h with
  | nil => cases hout
  | @fill p value cs out hp _ ih =>
    -- a value holds no wildcard character, so the character is not in this one
    have hvalue : value = [] ∧ [w] = out := by
      rcases List.singleton_eq_append_iff.mp hout with h | ⟨rfl, -⟩
      · exact ⟨h.1, h.2.symm⟩
      · have := isStructural_of_mem_fill hp (List.mem_singleton_self w)
        rw [hw] at this
        contradiction
    obtain ⟨rfl, rfl⟩ := hvalue
    obtain ⟨rfl, hc⟩ := eq_clientId_of_fill_nil hid hp
    obtain ⟨before, after, rfl, -⟩ := ih rfl
    exact ⟨before + 1, after, rfl, fun _ => hc⟩
  | keep _ h _ =>
    rw [List.cons.injEq] at hout
    obtain ⟨rfl, rfl⟩ := hout
    obtain ⟨after, rfl, hc⟩ := h.eq_clientIds hid
    exact ⟨0, after, rfl, fun hpos => hc (by omega)⟩

/-- The text of a wildcard is one character that gives a filter its shape. -/
theorem toList_wildcard {wildcard : String} (hw : wildcard ∈ ["+", "#"]) :
    ∃ w, wildcard.toList = [w] ∧ Placeholder.isStructural w = true := by
  rcases List.mem_cons.mp hw with rfl | hw
  · exact ⟨'+', rfl, rfl⟩
  · rw [List.mem_singleton] at hw
    subst hw
    exact ⟨'#', rfl, rfl⟩

/-- A wildcard character that no placeholder precedes stays as it is. -/
theorem Expands.keep_wildcard {w : Char} (hw : Placeholder.isStructural w = true)
    (h : Expands σ cs out) : Expands σ (w :: cs) (w :: out) := by
  refine .keep (fun hpercent => ?_) h
  subst hpercent
  contradiction

/-- A level expands to a wildcard exactly if it is that wildcard, or if the client has no id and the level is
that wildcard among placeholders of the client id. -/
theorem Expands.eq_wildcard_iff (hid : σ.identity ≠ "") {wildcard : String}
    (hw : wildcard ∈ ["+", "#"]) (h : Expands σ cs out) :
    String.ofList out = wildcard ↔
      String.ofList cs = wildcard ∨ σ.clientId = "" ∧ IsShrouded (String.ofList cs) wildcard := by
  obtain ⟨w, hlist, hstructural⟩ := toList_wildcard hw
  have eq_iff (l : List Char) : String.ofList l = wildcard ↔ l = [w] := by
    rw [← String.toList_inj, String.toList_ofList, hlist]
  have shrouded_eq (before after : Nat) :
      shrouded before after wildcard
        = String.ofList (clientIds before ++ (w :: clientIds after)) := by
    rw [shrouded, hlist, List.append_assoc, List.singleton_append]
  rw [eq_iff, eq_iff]
  constructor
  · rintro rfl
    obtain ⟨before, after, rfl, hc⟩ := h.eq_shrouded hid hstructural
    rcases Nat.eq_zero_or_pos (before + after) with hzero | hpos
    · obtain ⟨rfl, rfl⟩ := Nat.add_eq_zero_iff.mp hzero
      exact .inl rfl
    · rw [List.append_assoc]
      exact .inr ⟨hc hpos, before, after, hpos, (shrouded_eq before after).symm⟩
  · rintro (rfl | ⟨hc, before, after, -, hcs⟩)
    · exact h.unique (.keep_wildcard hstructural .nil)
    · -- The expansion of such a level is known, and a text has only one.
      rw [shrouded_eq, String.ofList_inj] at hcs
      subst hcs
      have hafter : Expands σ (clientIds after ++ []) [] := Expands.nil.clientIds_append hc after
      rw [List.append_nil] at hafter
      exact h.unique ((hafter.keep_wildcard hstructural).clientIds_append hc before)

/-! ## Levels of a filter -/

/-- The number of levels never changes, and a level of an expansion is a wildcard exactly if it is stored as
that wildcard, or if the client has no id and the stored level is that wildcard among placeholders of the
client id. So values add no wildcard exactly for clients with an id and for filters without such a level. -/
theorem levels_expand_eq_wildcard_iff {filter : String} {e : Expansion} (hid : σ.identity ≠ "")
    (he : σ.expand filter = .ok e) :
    (Topic.levels e.text).length = (Topic.levels filter).length
      ∧ (∀ (i : Nat), ∀ wildcard ∈ ["+", "#"],
          ((Topic.levels e.text)[i]? = some wildcard ↔
            (Topic.levels filter)[i]? = some wildcard
              ∨ σ.clientId = "" ∧ ∃ level, (Topic.levels filter)[i]? = some level
                  ∧ IsShrouded level wildcard))
      ∧ ((∀ (i : Nat), ∀ wildcard ∈ ["+", "#"],
            ((Topic.levels e.text)[i]? = some wildcard ↔
              (Topic.levels filter)[i]? = some wildcard)) ↔
          ¬ (σ.clientId = "" ∧ ∃ level ∈ Topic.levels filter, ∃ wildcard ∈ ["+", "#"],
              IsShrouded level wildcard)) := by
  have hlevel (i : Nat) (wildcard : String) (hw : wildcard ∈ ["+", "#"]) :
      (Topic.levels e.text)[i]? = some wildcard ↔
        (Topic.levels filter)[i]? = some wildcard
          ∨ σ.clientId = "" ∧ ∃ level, (Topic.levels filter)[i]? = some level
              ∧ IsShrouded level wildcard := by
    obtain ⟨hnone, hnone'⟩ | ⟨level, level', hi, hi', hexpands⟩ := levels_expand_getElem? he i
    · simp [hnone, hnone']
    · simp only [hi, hi', Option.some.injEq, exists_eq_left']
      exact hexpands.eq_wildcard_iff hid hw
  refine ⟨length_levels_expand he, hlevel, ?_⟩
  constructor
  · -- Such a level becomes the wildcard without being it.
    rintro h ⟨hc, level, hlevels, wildcard, hw, hshrouded⟩
    obtain ⟨i, hi⟩ := List.mem_iff_getElem?.mp hlevels
    have hstored := (h i wildcard hw).mp ((hlevel i wildcard hw).mpr (.inr ⟨hc, level, hi, hshrouded⟩))
    rw [hi, Option.some.injEq] at hstored
    rw [hstored] at hshrouded
    exact not_isShrouded_self wildcard hshrouded
  · intro h i wildcard hw
    rw [hlevel i wildcard hw, or_iff_left_iff_imp]
    rintro ⟨hc, level, hi, hshrouded⟩
    exact absurd ⟨hc, level, List.mem_of_getElem? hi, wildcard, hw, hshrouded⟩ h

/-- A client without an id turns the stored level `%c+` into the wildcard `+`, and leaves the number of
levels and the level beside it as they are. -/
theorem levels_expand_without_clientId :
    (⟨"alice", ""⟩ : Substitution).identity ≠ ""
      ∧ (⟨"alice", ""⟩ : Substitution).expand "%u/%c+" = .ok ⟨"alice/+", false⟩
      ∧ (Topic.levels "alice/+").length = (Topic.levels "%u/%c+").length
      ∧ (Topic.levels "alice/+")[0]? ≠ some "+"
      ∧ (Topic.levels "alice/+")[1]? = some "+" := by
  have hid : (⟨"alice", ""⟩ : Substitution).identity ≠ "" := by decide
  have he : (⟨"alice", ""⟩ : Substitution).expand "%u/%c+" = .ok ⟨"alice/+", false⟩ := by
    decide +kernel
  obtain ⟨hlength, hlevel, -⟩ := levels_expand_eq_wildcard_iff hid he
  have hshrouded : IsShrouded "%c+" "+" := ⟨1, 0, by decide, by decide +kernel⟩
  refine ⟨hid, he, hlength, by decide +kernel, ?_⟩
  exact (hlevel 1 "+" (by simp)).mpr (.inr ⟨rfl, "%c+", by decide +kernel, hshrouded⟩)

/-- Values can add a wildcard: it is not so that a level of an expansion is a wildcard only if it is stored
as one. -/
theorem not_forall_levels_expand_eq_wildcard_iff :
    ¬ ∀ (σ : Substitution) (filter : String) (e : Expansion), σ.identity ≠ "" →
        σ.expand filter = .ok e →
        (Topic.levels e.text).length = (Topic.levels filter).length
          ∧ ∀ (i : Nat), ∀ wildcard ∈ ["+", "#"],
              ((Topic.levels e.text)[i]? = some wildcard ↔
                (Topic.levels filter)[i]? = some wildcard) := by
  intro h
  have hiff := (h ⟨"alice", ""⟩ "clients/%c+" ⟨"clients/+", false⟩ (by decide)
    (by decide +kernel)).2 1 "+" (by simp)
  have hstored : (Topic.levels "clients/%c+")[1]? = some "+" := hiff.mp (by decide +kernel)
  revert hstored
  decide +kernel

end TopicGuard.Substitution
