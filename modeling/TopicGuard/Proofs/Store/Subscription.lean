import TopicGuard.Proofs.Store.Access
import TopicGuard.Proofs.Token.Signing
import TopicGuard.Proofs.Topic.Matching

/-!
What is granted by a grant on a pattern.

A client that subscribes asks for a pattern, and a store compares the pattern as a text. A `+` of a filter then takes
any level of the pattern, also its last one if that is `#`. The `#` stands for more levels than one, or for none, and
`+` does not: a grant on `a/+` is one on the text `a/#`, and `a/b/c` lies in the subscription but not in the grant.

This is the only way for a subscription to leave a grant (`Matches.of_not_overreaches`), and whenever a pattern comes
that way, some topic lies outside (`exists_beyond`): either the pattern is continued by two levels where the filter has
one, or it is cut off in front of its `#` where the filter asks for one level more. The one exception is the filter
`+/#`, which covers every topic.
-/

set_option autoImplicit false

namespace TopicGuard.Filter

variable {n m : Nat} {fs ss ts : List String} {filter pattern : String}

/-! ## Agreement -/

theorem AgreeBelow.mono (hnm : n ≤ m) (h : AgreeBelow m fs ts) : AgreeBelow n fs ts := by
  intro i hi
  exact h i (by omega)

theorem AgreeBelow.trans (h : AgreeBelow n fs ss) (h' : AgreeBelow n ss ts) : AgreeBelow n fs ts := by
  intro i hi
  rcases h i hi with hplus | heq
  · exact .inl hplus
  · rw [heq]
    exact h' i hi

/-- A last level `#` stands at the last index. -/
theorem getElem?_of_getLast? (h : ss.getLast? = some "#") : ss ≠ [] ∧ ss[ss.length - 1]? = some "#" := by
  constructor
  · rintro rfl
    cases h
  · rw [← List.getLast?_eq_getElem?]
    exact h

/-! ## Patterns that leave a filter -/

/-- The `#` at the end of the pattern stands where the filter has a `+`, and the filter does not cover every topic
anyway. -/
structure Overreaches (fs ss : List String) : Prop where
  last_eq : ss.getLast? = some "#"
  plus : fs[ss.length - 1]? = some "+"
  ne_all : fs ≠ ["+", "#"]

/-- What matches a pattern matches the filter that the pattern matches, unless the pattern overreaches. -/
theorem Matches.of_not_overreaches (hfs : Matches fs ss) (hss : Matches ss ts) (hts : ts ≠ [])
    (h : ¬ Overreaches fs ss) : Matches fs ts := by
  have hpos : 0 < ts.length := List.length_pos_iff.mpr hts
  cases hss with
  | exact hmulti hlength hagree =>
    -- Without a `#` in the pattern, levels are compared one by one on either way.
    cases hfs with
    | exact hmulti' hlength' hagree' =>
      exact .exact hmulti' (by omega) (hagree'.trans (hagree.mono (Nat.le_of_eq hlength')))
    | rest hlast' hmulti' hlength' hagree' =>
      exact .rest hlast' hmulti' (by omega) (hagree'.trans (hagree.mono hlength'))
  | rest hlast hmulti hlength hagree =>
    obtain ⟨hne, hsharp⟩ := getElem?_of_getLast? hlast
    have hss : 0 < ss.length := List.length_pos_iff.mpr hne
    by_cases hplus : fs[ss.length - 1]? = some "+"
    · have hall : fs = ["+", "#"] := by
        by_contra hall
        exact h ⟨hlast, hplus, hall⟩
      subst hall
      have hagree : AgreeBelow 1 ["+", "#"] ts := by
        intro i hi
        obtain rfl : i = 0 := by omega
        exact .inl rfl
      exact .rest rfl (by decide) hpos hagree
    · -- The filter has no level of its own for the `#`, so its own `#` comes no later.
      have hindex {k : Nat} (hagree' : AgreeBelow k fs ss) (hk : ss.length - 1 < k) :
          fs[ss.length - 1]? = some "#" := by
        rcases hagree' _ hk with h' | h'
        · exact absurd h' hplus
        · rw [h', hsharp]
      cases hfs with
      | exact hmulti' hlength' hagree' =>
        exact absurd (List.mem_of_getElem? (hindex hagree' (by omega))) hmulti'
      | rest hlast' hmulti' hlength' hagree' =>
        by_cases hshort : fs.length - 1 ≤ ss.length - 1
        · exact .rest hlast' hmulti' (by omega) (hagree'.trans (hagree.mono hshort))
        · have hdrop : fs.dropLast[ss.length - 1]? = some "#" := by
            rw [List.getElem?_dropLast, if_pos (by omega)]
            exact hindex hagree' (by omega)
          exact absurd (List.mem_of_getElem? hdrop) hmulti'

/-- The pattern matches what begins as it does in front of its `#`. -/
theorem matches_of_dropLast (hlast : ss.getLast? = some "#") (hmulti : "#" ∉ ss.dropLast) (more : List String) :
    Matches ss (ss.dropLast ++ more) := by
  refine .rest hlast hmulti ?_ ?_
  · rw [List.length_append, List.length_dropLast]
    omega
  · intro i hi
    right
    rw [List.getElem?_append_left (by rw [List.length_dropLast]; exact hi), List.getElem?_dropLast, if_pos hi]

/-- Some topic matches an overreaching pattern and not the filter. -/
theorem exists_beyond (hfs : Matches fs ss) (h : Overreaches fs ss) :
    ∃ more, ss.dropLast ++ more ≠ [] ∧ (∀ level ∈ more, level = "") ∧ ¬ Matches fs (ss.dropLast ++ more) := by
  obtain ⟨hne, -⟩ := getElem?_of_getLast? h.last_eq
  have hss : 0 < ss.length := List.length_pos_iff.mpr hne
  cases hfs with
  | exact hmulti' hlength' hagree' =>
    -- Two levels in place of the `#` are one too many.
    refine ⟨["", ""], by simp, by simp, ?_⟩
    intro hmatches
    cases hmatches with
    | exact _ hlength _ =>
      rw [List.length_append, List.length_dropLast, List.length_cons, List.length_cons, List.length_nil] at hlength
      omega
    | rest hlast _ _ _ => exact hmulti' (List.mem_of_getLast? hlast)
  | rest hlast' hmulti' hlength' hagree' =>
    obtain ⟨-, hsharp⟩ := getElem?_of_getLast? hlast'
    have hplus := h.plus
    have hlt : ss.length - 1 < fs.length := (List.getElem?_eq_some_iff.mp hplus).1
    have hindex : ss.length - 1 ≠ fs.length - 1 := by
      intro heq
      rw [heq, hsharp] at hplus
      exact absurd hplus (by decide)
    -- Without the `#` the pattern has one level less than the filter asks for.
    refine ⟨[], ?_, by simp, ?_⟩
    · rw [List.append_nil]
      intro hnil
      have hone : ss.length = 1 := by
        have := congrArg List.length hnil
        rw [List.length_dropLast, List.length_nil] at this
        omega
      rw [hone] at hplus
      obtain ⟨first, second, rfl⟩ : ∃ first second, fs = [first, second] := List.length_eq_two.mp (by omega)
      cases hplus
      cases hlast'
      exact h.ne_all rfl
    · rw [List.append_nil]
      intro hmatches
      cases hmatches with
      | exact hnone _ _ => exact hnone (List.mem_of_getLast? hlast')
      | rest _ _ hlength _ =>
        rw [List.length_dropLast] at hlength
        omega

theorem covers_of_not_overreaches {topic : String} (hpattern : covers filter pattern = true)
    (htopic : covers pattern topic = true) (h : ¬ Overreaches (Topic.levels filter) (Topic.levels pattern)) :
    covers filter topic = true := by
  rw [covers_iff_matches] at *
  exact hpattern.of_not_overreaches htopic (Topic.isCut_levels topic).ne_nil h

theorem exists_topic_beyond {s : Filter} (hs : parse pattern = .ok s) (hpattern : covers filter pattern = true)
    (h : Overreaches (Topic.levels filter) (Topic.levels pattern)) :
    ∃ topic, covers pattern topic = true ∧ ¬ covers filter topic = true := by
  simp only [covers_iff_matches] at *
  obtain ⟨more, hne, hempty, hbeyond⟩ := exists_beyond hpattern h
  have hslash : ∀ level ∈ (Topic.levels pattern).dropLast ++ more, '/' ∉ level.toList := by
    intro level hlevel
    rcases List.mem_append.mp hlevel with hmem | hmem
    · exact (Topic.isCut_levels pattern).slash_not_mem level (List.dropLast_subset _ hmem)
    · rw [hempty level hmem]
      exact List.not_mem_nil
  refine ⟨"/".intercalate ((Topic.levels pattern).dropLast ++ more), ?_⟩
  rw [Topic.levels_intercalate hne hslash]
  exact ⟨matches_of_dropLast h.last_eq (multi_not_mem_of_parse hs) more, hbeyond⟩

end TopicGuard.Filter

namespace TopicGuard.Store

open TopicGuard.Filter (Overreaches parse_eq_ok parse_of_covers covers_of_not_overreaches exists_topic_beyond)

variable {σ : Substitution} {topic : String} {requested : AccessLevel} {row : Row}

/-! ## Subscriptions at a store -/

/-- The row gives a grant at the requested level or above, and for the client its filter is this one. -/
def Row.Offers (σ : Substitution) (requested : AccessLevel) (row : Row) (filter : String) : Prop :=
  ∃ g e, row.Gives requested g ∧ requested ≤ g.level ∧ σ.expand g.filter = .ok e ∧ e.text = filter

/-- A row permits what the filter that it offers covers. -/
theorem Row.permits_iff_offers :
    row.Permits σ topic requested ↔ ∃ filter, row.Offers σ requested filter ∧ Filter.covers filter topic = true := by
  constructor
  · rintro ⟨g, hg, hlevel, e, f, he, -, hcovers⟩
    exact ⟨e.text, ⟨g, e, hg, hlevel, he, rfl⟩, hcovers⟩
  · rintro ⟨_, ⟨g, e, hg, hlevel, he, rfl⟩, hcovers⟩
    obtain ⟨f, hf⟩ := parse_of_covers hcovers
    exact ⟨g, hg, hlevel, e, f, he, hf, hcovers⟩

/-- For a filter and a pattern that it covers as a text: every topic that the pattern covers is covered by the filter
exactly if the `#` at the end of the pattern does not stand at a `+` of the filter; the filter `+/#` alone covers every
topic then as well. So, where a store allows a subscription and a row offers such a filter, it also allows every topic
that the subscription receives. -/
theorem subscription_within_grant_iff (filter pattern : String) (s : Filter) (hs : Filter.parse pattern = .ok s)
    (hpattern : Filter.covers filter pattern = true) :
    ((∀ topic, s.admits topic = true → Filter.covers filter topic = true) ↔
        ¬ Overreaches (Topic.levels filter) (Topic.levels pattern))
      ∧ (¬ Overreaches (Topic.levels filter) (Topic.levels pattern) →
          ∀ (st : Store) (now : Instant) (token clientId : String) (requested : AccessLevel) (claims : Token.Claims)
            (db : Database) (rows : List Row),
            st.verifier.verify st.accessExpiry now token = .ok claims →
            db (st.accessQuery claims.identity requested) = .rows rows →
            (∃ row ∈ rows, row.Offers ⟨claims.identity, clientId⟩ requested filter) →
            st.accessAnswer now token pattern clientId requested db = .ok true →
            ∀ topic, s.admits topic = true → st.accessAnswer now token topic clientId requested db = .ok true) := by
  have hadmits (topic : String) : s.admits topic = Filter.covers pattern topic := by
    rw [Filter.admits, Filter.text_of_parse hs]
  simp only [hadmits]
  refine ⟨⟨?_, ?_⟩, ?_⟩
  · intro hwithin hover
    obtain ⟨topic, htopic, hbeyond⟩ := exists_topic_beyond hs hpattern hover
    exact hbeyond (hwithin topic htopic)
  · intro hover topic htopic
    exact covers_of_not_overreaches hpattern htopic hover
  · intro hover st now token clientId requested claims db rows hv hrows hoffers hallowed topic htopic
    rw [accessAnswer_eq hv hrows, judgeAccess_eq_ok_iff, iff_true_left rfl] at hallowed ⊢
    obtain ⟨row, hrow, hoffers⟩ := hoffers
    refine ⟨hallowed.1, row, hrow, ?_⟩
    exact Row.permits_iff_offers.mpr ⟨filter, hoffers, covers_of_not_overreaches hpattern htopic hover⟩

/-- A client with all rooms of `u` subscribes to one of them, and is allowed what it receives there. -/
theorem subscription_within_grant_own_room :
    let st : Store := ⟨⟨.hs256, .shared (Utf8.encode "k"), "username", none, none, 0⟩,
      ⟨"", none, "SELECT filter, level"⟩, .ofSeconds 5, true, true⟩
    let token := Token.sign (.object [("username", .string "u")]) "k"
    let row : Row := [.text "%u/+/#", .integer 4]
    st.accessAnswer .epoch token "u/kitchen/#" "c" 1 (fun _ => .rows [row]) = .ok true
      ∧ st.accessAnswer .epoch token "u/kitchen/lamp/1" "c" 1 (fun _ => .rows [row]) = .ok true
      ∧ ∀ topic, Filter.covers "u/kitchen/#" topic = true → Filter.covers "u/+/#" topic = true := by
  intro st token row
  have hv : st.verifier.verify st.accessExpiry .epoch token = .ok ⟨"u", none, none, [], none, none, none⟩ :=
    Token.verify_sign_name (by decide)
  have hs : Filter.parse "u/kitchen/#" = .ok ⟨"u/kitchen/#", by decide +kernel⟩ := parse_eq_ok (by decide +kernel)
  have hpattern : Filter.covers "u/+/#" "u/kitchen/#" = true := by decide +kernel
  have hover : ¬ Overreaches (Topic.levels "u/+/#") (Topic.levels "u/kitchen/#") :=
    fun h => absurd h.plus (by decide +kernel)
  have hgives : row.Gives 1 ⟨"%u/+/#", 4⟩ := ⟨rfl, .inl rfl⟩
  have hoffers : row.Offers ⟨"u", "c"⟩ 1 "u/+/#" :=
    ⟨_, ⟨"u/+/#", false⟩, hgives, by decide, by decide +kernel, rfl⟩
  have hallowed : st.accessAnswer .epoch token "u/kitchen/#" "c" 1 (fun _ => .rows [row]) = .ok true := by
    rw [accessAnswer_eq hv rfl, judgeAccess_eq_ok_iff, iff_true_left rfl]
    refine ⟨?_, row, List.mem_singleton_self row, Row.permits_iff_offers.mpr ⟨"u/+/#", hoffers, hpattern⟩⟩
    intro row' hrow
    obtain rfl := List.mem_singleton.mp hrow
    exact (Row.isReadable_iff 1).mpr ⟨_, hgives⟩
  obtain ⟨hwithin, hstore⟩ := subscription_within_grant_iff "u/+/#" "u/kitchen/#" _ hs hpattern
  refine ⟨hallowed, ?_, hwithin.mpr hover⟩
  exact hstore hover st .epoch token "c" 1 _ _ [row] hv rfl ⟨row, List.mem_singleton_self row, hoffers⟩ hallowed
    "u/kitchen/lamp/1" (by decide +kernel)

/-- A grant on `a/+` allows the subscription `a/#` as a text, and this receives more than the grant covers. -/
theorem not_forall_covers_trans :
    ¬ ∀ (filter pattern topic : String) (s : Filter), Filter.parse pattern = .ok s →
      Filter.covers filter pattern = true → Filter.covers pattern topic = true → Filter.covers filter topic = true := by
  intro h
  have hs : Filter.parse "a/#" = .ok ⟨"a/#", by decide +kernel⟩ := parse_eq_ok (by decide +kernel)
  have hcovers := h "a/+" "a/#" "a/b/c" _ hs (by decide +kernel) (by decide +kernel)
  exact absurd hcovers (by decide +kernel)

end TopicGuard.Store
