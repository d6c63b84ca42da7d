import TopicGuard.Proofs.Topic.Matching
import TopicGuard.Store

/-!
Which filters are refused, and what a store loses by dropping them.

Two scans read a filter. The parser looks for a `#` that is not the last level, the matcher walks the filter beside a
topic. They agree on every text. A filter that is accepted covers at least its own text, read as a topic: `+` takes the
level `+`, and a last `#` takes the level `#`. A filter that is refused covers nothing, since no levels match one with a
`#` in the middle (`Matches.multi_not_mem_dropLast`).

So a grant on a refused filter permits nothing, and the grants that a store drops for their filters never change its
answer.
-/

set_option autoImplicit false

namespace TopicGuard.Filter

variable {text level : String} {fs : List String}

/-! ## The level that is reported -/

/-- The level at this index is `#`, and none before it is. -/
structure IsFirstMulti (fs : List String) (i : Nat) : Prop where
  multi : fs[i]? = some "#"
  first : ∀ j < i, fs[j]? ≠ some "#"

theorem isFirstMulti_cons_multi {i : Nat} : IsFirstMulti ("#" :: fs) i ↔ i = 0 := by
  constructor
  · intro h
    by_contra hi
    exact h.first 0 (Nat.pos_of_ne_zero hi) rfl
  · intro hi
    subst hi
    exact ⟨rfl, fun j hj => absurd hj (Nat.not_lt_zero j)⟩

theorem isFirstMulti_cons {i : Nat} (hlevel : level ≠ "#") :
    IsFirstMulti (level :: fs) i ↔ ∃ k, i = k + 1 ∧ IsFirstMulti fs k := by
  constructor
  · intro h
    have hi : i ≠ 0 := by
      intro hi
      apply hlevel
      simpa [hi] using h.multi
    obtain ⟨k, rfl⟩ := Nat.exists_eq_succ_of_ne_zero hi
    refine ⟨k, rfl, h.multi, ?_⟩
    intro j hj
    exact h.first (j + 1) (by omega)
  · rintro ⟨k, rfl, h⟩
    refine ⟨h.multi, ?_⟩
    intro j hj
    cases j with
    | zero => simpa using hlevel
    | succ j => exact h.first j (by omega)

theorem misplacedFrom_cons (start : Nat) (hlevel : level ≠ "#") (next : String) :
    misplacedFrom start ((level :: next :: fs).map Segment.ofLevel)
      = misplacedFrom (start + 1) ((next :: fs).map Segment.ofLevel) := by
  by_cases hsingle : level = "+"
  · subst hsingle
    rfl
  · have hsegment : Segment.ofLevel level = .literal level := by
      rw [Segment.ofLevel, if_neg hsingle, if_neg hlevel]
    rw [List.map_cons, hsegment]
    rfl

/-- The scan of the parser finds the first `#`, unless it is the last level. -/
theorem misplacedFrom_eq_some_iff (start found : Nat) :
    misplacedFrom start (fs.map Segment.ofLevel) = some found ↔
      ∃ i, found = start + i ∧ IsFirstMulti fs i ∧ i + 1 < fs.length := by
  -- Along the levels; the scan counts its index up where the levels are cut off.
  induction fs generalizing start with
  | nil => simp [misplacedFrom]
  | cons level fs ih =>
    cases fs with
    | nil => simp [misplacedFrom]
    | cons next fs =>
      by_cases hlevel : level = "#"
      · subst hlevel
        have hscan : misplacedFrom start (("#" :: next :: fs).map Segment.ofLevel) = some start := rfl
        rw [hscan, Option.some.injEq]
        simp only [isFirstMulti_cons_multi, List.length_cons]
        constructor
        · intro h
          exact ⟨0, by omega, rfl, by omega⟩
        · rintro ⟨i, h, hi, -⟩
          omega
      · rw [misplacedFrom_cons start hlevel, ih (start + 1)]
        simp only [isFirstMulti_cons hlevel, List.length_cons]
        constructor
        · rintro ⟨k, h, hfirst, hlast⟩
          exact ⟨k + 1, by omega, ⟨k, rfl, hfirst⟩, by omega⟩
        · rintro ⟨i, h, ⟨k, hi, hfirst⟩, hlast⟩
          exact ⟨k, by omega, hfirst, by omega⟩

theorem parse_eq_error_iff {e : MisplacedMulti} :
    parse text = .error e ↔
      e.filter = text ∧ IsFirstMulti (Topic.levels text) e.level ∧ e.level + 1 < (Topic.levels text).length := by
  have hscan : misplacedMulti? text = some e.level ↔
      IsFirstMulti (Topic.levels text) e.level ∧ e.level + 1 < (Topic.levels text).length := by
    unfold misplacedMulti? segments
    rw [misplacedFrom_eq_some_iff]
    constructor
    · rintro ⟨i, h, hfirst⟩
      rw [show e.level = i by omega]
      exact hfirst
    · intro hfirst
      exact ⟨e.level, by omega, hfirst⟩
  rw [← hscan]
  unfold parse
  split
  · next hnone => simp [hnone]
  · next level hsome =>
    rw [hsome, Except.error.injEq, Option.some.injEq]
    constructor
    · intro h
      subst h
      exact ⟨rfl, rfl⟩
    · rintro ⟨htext, hlevel⟩
      rw [hlevel, ← htext]

/-! ## What is covered -/

/-- Levels without a misplaced `#` match themselves. -/
theorem matches_self (hmulti : "#" ∉ fs.dropLast) : Matches fs fs := by
  have hagree (n : Nat) : AgreeBelow n fs fs := fun i _ => .inr rfl
  by_cases hlast : fs.getLast? = some "#"
  · exact .rest hlast hmulti (Nat.sub_le _ _) (hagree _)
  · refine .exact ?_ rfl (hagree _)
    intro hmem
    have hne : fs ≠ [] := List.ne_nil_of_mem hmem
    rw [← List.dropLast_concat_getLast hne, List.mem_append, List.mem_singleton] at hmem
    rw [List.getLast?_eq_some_getLast hne] at hlast
    rcases hmem with hfront | hend
    · exact hmulti hfront
    · exact hlast (congrArg some hend.symm)

/-- A filter that is accepted covers its own text. -/
theorem covers_self {f : Filter} (h : parse text = .ok f) : covers text text = true :=
  covers_iff_matches.mpr (matches_self (multi_not_mem_of_parse h))

/-- A filter is refused exactly if it covers nothing. -/
theorem exists_parse_error_iff : (∃ e, parse text = .error e) ↔ ∀ topic, covers text topic = false := by
  constructor
  · rintro ⟨e, he⟩ topic
    by_contra hcovers
    obtain ⟨f, hf⟩ := parse_of_covers (Bool.of_not_eq_false hcovers)
    rw [hf] at he
    cases he
  · intro hnone
    cases hparse : parse text with
    | error e => exact ⟨e, rfl⟩
    | ok f =>
      have hself := covers_self hparse
      rw [hnone text] at hself
      cases hself

end TopicGuard.Filter

namespace TopicGuard.Store

open TopicGuard.Filter (IsFirstMulti)

/-! ## Grants on refused filters -/

variable {topic : String} {requested : AccessLevel}

/-- What permits anything has a filter that is accepted. -/
theorem isOk_of_permits {g : Grant} (h : g.permits topic requested = true) : (Filter.parse g.filter).isOk = true := by
  unfold Grant.permits at h
  rw [Bool.and_eq_true] at h
  obtain ⟨f, hf⟩ := Filter.parse_of_covers h.2
  rw [hf]
  rfl

theorem anyPermits_filter_isOk (grants : List Grant) :
    Grant.anyPermits (grants.filter fun g => (Filter.parse g.filter).isOk) topic requested
      = Grant.anyPermits grants topic requested := by
  unfold Grant.anyPermits
  rw [List.any_filter]
  congr 1
  funext g
  by_cases h : g.permits topic requested = true
  · rw [isOk_of_permits h, Bool.true_and]
  · rw [Bool.of_not_eq_true h, Bool.and_false]

/-- The grant with its filter expanded, whether or not the result is well formed. -/
def expanded? (σ : Substitution) (g : Grant) : Option Grant :=
  match σ.expand g.filter with
  | .error _ => none
  | .ok expansion => some ⟨expansion.text, g.level⟩

theorem applicable?_eq (σ : Substitution) (g : Grant) :
    applicable? σ g = (expanded? σ g).filter fun g => (Filter.parse g.filter).isOk := by
  unfold applicable? expanded?
  cases σ.expand g.filter with
  | error e => rfl
  | ok expansion =>
    cases hparse : Filter.parse expansion.text with
    | error e => simp [hparse, Option.filter, Except.isOk, Except.toBool]
    | ok f => simp [hparse, Option.filter, Except.isOk, Except.toBool, Filter.text_of_parse hparse]

/-- A filter is refused exactly if it covers no topic at all. The error names the filter and the index of its first
`#`, and this is not the last level. So refused filters can be dropped: among any grants, those with an accepted filter
permit exactly what all of them permit, and the grants that apply to a client permit what they would permit if the
store kept refused filters as well. -/
theorem refused_iff_covers_nothing :
    (∀ text,
        ((∃ e, Filter.parse text = .error e) ↔ ∀ topic, Filter.covers text topic = false)
          ∧ ∀ e, Filter.parse text = .error e ↔
              e.filter = text ∧ IsFirstMulti (Topic.levels text) e.level
                ∧ e.level + 1 < (Topic.levels text).length)
      ∧ ∀ (grants : List Grant) (topic : String) (requested : AccessLevel),
          Grant.anyPermits (grants.filter fun g => (Filter.parse g.filter).isOk) topic requested
              = Grant.anyPermits grants topic requested
            ∧ ∀ σ, Grant.anyPermits (grants.filterMap (applicable? σ)) topic requested
                = Grant.anyPermits (grants.filterMap (expanded? σ)) topic requested := by
  constructor
  · intro text
    exact ⟨Filter.exists_parse_error_iff, fun e => Filter.parse_eq_error_iff⟩
  · intro grants topic requested
    refine ⟨anyPermits_filter_isOk grants, ?_⟩
    intro σ
    rw [← anyPermits_filter_isOk (grants.filterMap (expanded? σ)), List.filter_filterMap]
    congr 2
    funext g
    exact applicable?_eq σ g

end TopicGuard.Store
