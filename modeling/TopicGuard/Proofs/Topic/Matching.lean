import Mathlib.Data.Nat.Basic
import TopicGuard.Proofs.Topic.Level
import TopicGuard.Topic.Filter

/-!
Which topics a filter covers.

The matcher walks a filter and a topic side by side. `Matches` says what it finds of their levels as whole lists:
without a `#` there are as many on both sides, and with a `#`, which has to be the last level, the levels before it are
matched by the first ones of the topic. An induction along the walk shows that the two agree
(`coversLevels_iff_matches`); for it `Matches` is taken apart at the first level of the filter, a `#` or not.

A level of a topic is compared as a text, also one that looks like a wildcard.
-/

set_option autoImplicit false

namespace TopicGuard.Filter

variable {text topic : String} {level : String} {fs ts : List String}

/-! ## Well-formed filters -/

/-- A filter without a misplaced `#` is accepted. -/
theorem parse_eq_ok (h : misplacedMulti? text = none) : parse text = .ok ⟨text, h⟩ := by
  unfold parse
  split
  · rfl
  · next hmisplaced =>
    rw [h] at hmisplaced
    cases hmisplaced

/-- A filter that is accepted is kept as it is. -/
theorem text_of_parse {f : Filter} (h : parse text = .ok f) : f.text = text := by
  unfold parse at h
  split at h
  · cases h
    rfl
  · cases h

/-- No `#` is misplaced exactly if none of the levels before the last is `#`. -/
theorem misplacedFrom_eq_none_iff (start : Nat) :
    misplacedFrom start (fs.map Segment.ofLevel) = none ↔ "#" ∉ fs.dropLast := by
  induction fs generalizing start with
  | nil => simp [misplacedFrom]
  | cons level rest ih =>
    cases rest with
    | nil => simp [misplacedFrom]
    | cons next rest =>
      have hmem : "#" ∉ (level :: next :: rest).dropLast ↔ level ≠ "#" ∧ "#" ∉ (next :: rest).dropLast := by
        rw [List.dropLast_cons_cons, List.mem_cons, not_or, ne_comm]
      rw [hmem, ← ih (start + 1), List.map_cons, List.map_cons]
      by_cases hmulti : level = "#"
      · subst hmulti
        simp [misplacedFrom, Segment.ofLevel]
      · by_cases hsingle : level = "+"
        · subst hsingle
          simp [misplacedFrom, Segment.ofLevel]
        · simp [misplacedFrom, Segment.ofLevel, hmulti, hsingle]

theorem multi_not_mem_of_parse {f : Filter} (h : parse text = .ok f) : "#" ∉ (Topic.levels text).dropLast := by
  have hnone := f.misplaced_eq_none
  rw [text_of_parse h] at hnone
  exact (misplacedFrom_eq_none_iff 0).mp hnone

/-! ## Levels side by side -/

/-- Up to an index, a level of the filter is `+` or the same text as the level of the topic. -/
def AgreeBelow (n : Nat) (fs ts : List String) : Prop :=
  ∀ i < n, fs[i]? = some "+" ∨ fs[i]? = ts[i]?

instance (n : Nat) (fs ts : List String) : Decidable (AgreeBelow n fs ts) :=
  inferInstanceAs (Decidable (∀ i < n, fs[i]? = some "+" ∨ fs[i]? = ts[i]?))

/-- The levels of a filter match those of a topic. -/
inductive Matches (fs ts : List String) : Prop where
  /-- No level of the filter is `#`: there are as many levels on both sides, and each agrees. -/
  | exact (hmulti : "#" ∉ fs) (hlength : fs.length = ts.length) (hagree : AgreeBelow fs.length fs ts)
  /-- The last level of the filter is `#`, and no other: those before it agree with the first ones of the topic. -/
  | rest (hlast : fs.getLast? = some "#") (hmulti : "#" ∉ fs.dropLast) (hlength : fs.length - 1 ≤ ts.length)
    (hagree : AgreeBelow (fs.length - 1) fs ts)

theorem agreeBelow_cons {n : Nat} {t : String} :
    AgreeBelow (n + 1) (level :: fs) (t :: ts) ↔ (level = "+" ∨ level = t) ∧ AgreeBelow n fs ts := by
  unfold AgreeBelow
  rw [Nat.forall_lt_succ_left]
  simp only [List.getElem?_cons_zero, List.getElem?_cons_succ, Option.some.injEq]

/-- A filter without levels matches a topic without levels only. -/
theorem matches_nil : Matches [] ts ↔ ts = [] := by
  constructor
  · intro h
    cases h with
    | exact _ hlength _ => exact List.length_eq_zero_iff.mp hlength.symm
    | rest hlast _ _ _ => cases hlast
  · rintro rfl
    exact .exact List.not_mem_nil rfl fun i hi => absurd hi (Nat.not_lt_zero i)

/-- A filter that begins with `#` matches every topic if there is nothing behind the `#`, and otherwise none. -/
theorem matches_multi_cons : Matches ("#" :: fs) ts ↔ fs = [] := by
  constructor
  · intro h
    cases h with
    | exact hmulti _ _ => exact absurd List.mem_cons_self hmulti
    | rest _ hmulti _ _ =>
      cases fs with
      | nil => rfl
      | cons next fs => exact absurd List.mem_cons_self hmulti
  · rintro rfl
    exact .rest rfl List.not_mem_nil (Nat.zero_le _) fun i hi => absurd hi (Nat.not_lt_zero i)

/-- A filter that begins otherwise matches a topic whose first level agrees and whose other levels the rest of the
filter matches. -/
theorem matches_cons (hlevel : level ≠ "#") :
    Matches (level :: fs) ts ↔ ∃ t rest, ts = t :: rest ∧ (level = "+" ∨ level = t) ∧ Matches fs rest := by
  have hmem {front : List String} : "#" ∉ level :: front ↔ "#" ∉ front := by
    rw [List.mem_cons, not_or, and_iff_right (Ne.symm hlevel)]
  constructor
  · intro h
    cases h with
    | exact hmulti hlength hagree =>
      obtain ⟨t, rest, rfl⟩ := List.exists_cons_of_length_eq_add_one hlength.symm
      obtain ⟨hfirst, hagree⟩ := agreeBelow_cons.mp hagree
      exact ⟨t, rest, rfl, hfirst, .exact (hmem.mp hmulti) (Nat.succ.inj hlength) hagree⟩
    | rest hlast hmulti hlength hagree =>
      cases fs with
      | nil =>
        rw [List.getLast?_singleton, Option.some.injEq] at hlast
        exact absurd hlast hlevel
      | cons next fs =>
        cases ts with
        | nil => exact absurd hlength (Nat.not_succ_le_zero _)
        | cons t ts =>
          obtain ⟨hfirst, hagree⟩ := agreeBelow_cons.mp hagree
          rw [List.dropLast_cons_cons, hmem] at hmulti
          exact ⟨t, ts, rfl, hfirst, .rest hlast hmulti (Nat.le_of_succ_le_succ hlength) hagree⟩
  · rintro ⟨t, rest, rfl, hfirst, h⟩
    cases h with
    | exact hmulti hlength hagree =>
      exact .exact (hmem.mpr hmulti) (congrArg Nat.succ hlength) (agreeBelow_cons.mpr ⟨hfirst, hagree⟩)
    | rest hlast hmulti hlength hagree =>
      cases fs with
      | nil => cases hlast
      | cons next fs =>
        refine .rest hlast ?_ (Nat.succ_le_succ hlength) (agreeBelow_cons.mpr ⟨hfirst, hagree⟩)
        rw [List.dropLast_cons_cons, hmem]
        exact hmulti

/-! ## The matcher -/

/-- The walk decides `Matches`. -/
theorem coversLevels_iff_matches : coversLevels (fs.map Segment.ofLevel) ts = true ↔ Matches fs ts := by
  -- Along the filter; each way for it to begin takes the walk one level further.
  induction fs generalizing ts with
  | nil => rw [List.map_nil, coversLevels, List.isEmpty_iff, matches_nil]
  | cons level fs ih =>
    rw [List.map_cons]
    by_cases hmulti : level = "#"
    · subst hmulti
      have hsegment : Segment.ofLevel "#" = .multi := by decide
      rw [hsegment, coversLevels, List.isEmpty_iff, List.map_eq_nil_iff, matches_multi_cons]
    · rw [matches_cons hmulti]
      by_cases hsingle : level = "+"
      · subst hsingle
        have hsegment : Segment.ofLevel "+" = .single := by decide
        rw [hsegment]
        cases ts with
        | nil => simp [coversLevels]
        | cons t ts => simp [coversLevels, ih]
      · have hsegment : Segment.ofLevel level = .literal level := by
          rw [Segment.ofLevel, if_neg hsingle, if_neg hmulti]
        rw [hsegment]
        cases ts with
        | nil => simp [coversLevels]
        | cons t ts => simp [coversLevels, ih, hsingle, @eq_comm _ t level]

theorem covers_iff_matches : covers text topic = true ↔ Matches (Topic.levels text) (Topic.levels topic) :=
  coversLevels_iff_matches

theorem Matches.multi_not_mem_dropLast (h : Matches fs ts) : "#" ∉ fs.dropLast := by
  cases h with
  | exact hmulti _ _ => exact fun hmem => hmulti (List.dropLast_subset fs hmem)
  | rest _ hmulti _ _ => exact hmulti

/-- A filter that covers anything is accepted. -/
theorem parse_of_covers (h : covers text topic = true) : ∃ f, parse text = .ok f := by
  have hmulti := (covers_iff_matches.mp h).multi_not_mem_dropLast
  exact ⟨_, parse_eq_ok ((misplacedFrom_eq_none_iff 0).mpr hmulti)⟩

/-- For every filter with the levels `fs` and every topic with the levels `ts`: the filter covers the topic exactly if
either no level of the filter is `#`, there are as many levels on both sides, and each level of the filter is `+` or the
same as that of the topic; or the last level of the filter is `#`, no other is, the topic has at least as many levels as
stand before the `#`, and each of these is `+` or the same as that of the topic. A filter that is accepted admits the
same topics. -/
theorem covers_iff_of_isCut (text topic : String) (fs ts : List String) (hfs : Topic.IsCut text fs)
    (hts : Topic.IsCut topic ts) :
    (covers text topic = true ↔ Matches fs ts)
      ∧ ∀ f, parse text = .ok f → (f.admits topic = true ↔ Matches fs ts) := by
  have hcovers : covers text topic = true ↔ Matches fs ts := by
    rw [covers_iff_matches, Topic.levels_eq_iff.mpr hfs, Topic.levels_eq_iff.mpr hts]
  refine ⟨hcovers, fun f hf => ?_⟩
  rw [admits, text_of_parse hf, hcovers]

/-- `+` takes the level `#` as any other text, `b#` is no wildcard, and nothing is left for the last level. -/
theorem covers_of_isCut_wildcard_texts :
    Topic.IsCut "+/b#/#" ["+", "b#", "#"] ∧ Topic.IsCut "#/b#" ["#", "b#"] ∧ covers "+/b#/#" "#/b#" = true
      ∧ ∀ f, parse "+/b#/#" = .ok f → f.admits "#/b#" = true := by
  have hfs : Topic.IsCut "+/b#/#" ["+", "b#", "#"] := ⟨by decide, by decide, by decide⟩
  have hts : Topic.IsCut "#/b#" ["#", "b#"] := ⟨by decide, by decide, by decide⟩
  have hmatches : Matches ["+", "b#", "#"] ["#", "b#"] := .rest rfl (by decide) (by decide) (by decide)
  obtain ⟨hcovers, hadmits⟩ := covers_iff_of_isCut "+/b#/#" "#/b#" _ _ hfs hts
  exact ⟨hfs, hts, hcovers.mpr hmatches, fun f hf => (hadmits f hf).mpr hmatches⟩

end TopicGuard.Filter
