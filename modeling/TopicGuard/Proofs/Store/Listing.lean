import TopicGuard.Proofs.Store.Directory
import TopicGuard.Proofs.Token.Signing

/-!
The shapes in which grants can be listed.

A query about the grants of an identity may compare the levels itself and list filters alone, or list each filter with
its level; and a query that lists levels may leave it to the store to compare them (`Listing`). The store answers alike
in all three cases, from whatever rows a database has for them (`accessAnswer_of_listings`): a filter without a level
counts as granted at the level that was asked for, which is what the query saw to, and a level that is listed is
compared again.

The reason is in `judgeAccess_of_names`. A listing names all grants of the identity at the requested level or above, and
if it names others, then with their levels.
-/

set_option autoImplicit false

namespace TopicGuard.Store

/-! ## Listings -/

/-- What a query about the grants of an identity lists. -/
inductive Listing where
  /-- The filters granted at the requested level or above. -/
  | filters
  /-- The filters granted at the requested level or above, each with its level. -/
  | leveledFilters
  /-- All filters that are granted, each with its level. -/
  | allFilters
deriving DecidableEq, Repr

variable {s : Store} {t : Tables} {listing : Listing} {db : Database} {row : Row} {g : Grant} {now : Instant}
  {identity template token topic clientId : String} {requested lower : AccessLevel}

theorem Selection.mem_grantsTo_iff {grants : List GrantTo} :
    g ∈ grantsTo identity grants ↔ ∃ granted ∈ grants, granted.identity = identity ∧ granted.grant = g := by
  rw [grantsTo, List.mem_map]
  simp only [List.mem_filter, beq_iff_eq, and_assoc]

namespace Listing

/-- The rows of a listing. -/
def rows (t : Tables) (identity : String) (requested : AccessLevel) : Listing → List Row
  | .filters => Selection.filterRows identity requested t.grants
  | .leveledFilters => Selection.leveledRows identity (t.grants.filter fun g => g.grant.level.includes requested)
  | .allFilters => Selection.leveledRows identity t.grants

/-- The database replies to the template with the rows of the listing, in any order and any number of times. -/
def IsServed (listing : Listing) (t : Tables) (template : String) (db : Database) : Prop :=
  ∀ identity requested, ∃ rows, db ⟨template, [.text identity, .level requested]⟩ = .rows rows
    ∧ ∀ row, row ∈ rows ↔ row ∈ listing.rows t identity requested

/-- Each row names a grant, with its level unless that is high enough. -/
theorem names_of_mem_rows (h : row ∈ listing.rows t identity requested) :
    ∃ g ∈ t.directory.grants identity, row.Names g ∧ (row[1]? = none → requested ≤ g.level) := by
  cases listing with
  | filters =>
    rw [rows, Selection.filterRows, List.mem_map] at h
    obtain ⟨g, hg, rfl⟩ := h
    rw [List.mem_filter, AccessLevel.includes, decide_eq_true_iff] at hg
    exact ⟨g, hg.1, ⟨rfl, .inr rfl⟩, fun _ => hg.2⟩
  | leveledFilters =>
    rw [rows, Selection.leveledRows, List.mem_map] at h
    obtain ⟨g, hg, rfl⟩ := h
    obtain ⟨granted, hgranted, hidentity⟩ := Selection.mem_grantsTo_iff.mp hg
    exact ⟨g, Selection.mem_grantsTo_iff.mpr ⟨granted, List.mem_of_mem_filter hgranted, hidentity⟩,
      ⟨rfl, .inl rfl⟩, fun h => absurd h (Option.some_ne_none _)⟩
  | allFilters =>
    rw [rows, Selection.leveledRows, List.mem_map] at h
    obtain ⟨g, hg, rfl⟩ := h
    exact ⟨g, hg, ⟨rfl, .inl rfl⟩, fun h => absurd h (Option.some_ne_none _)⟩

/-- Each grant that is high enough is named by a row. -/
theorem exists_mem_rows_of_le (listing : Listing) (hg : g ∈ t.directory.grants identity) (hle : requested ≤ g.level) :
    ∃ row ∈ listing.rows t identity requested, row.Names g := by
  cases listing with
  | filters =>
    have hmem : g ∈ (Selection.grantsTo identity t.grants).filter fun g => g.level.includes requested :=
      List.mem_filter.mpr ⟨hg, decide_eq_true hle⟩
    exact ⟨_, List.mem_map_of_mem hmem, rfl, .inr rfl⟩
  | leveledFilters =>
    obtain ⟨granted, hgranted, hidentity, rfl⟩ := Selection.mem_grantsTo_iff.mp hg
    have hmem : granted ∈ t.grants.filter fun g => g.grant.level.includes requested :=
      List.mem_filter.mpr ⟨hgranted, decide_eq_true hle⟩
    exact ⟨_, List.mem_map_of_mem (Selection.mem_grantsTo_iff.mpr ⟨granted, hmem, hidentity, rfl⟩), rfl, .inl rfl⟩
  | allFilters => exact ⟨_, List.mem_map_of_mem hg, rfl, .inl rfl⟩

end Listing

namespace Tables

/-! ## Listings from tables in memory -/

/-- A template that selects filters has the filters at the requested level or above listed. -/
theorem filters_isServed {select : String → Selection} (h : select template = .filters) :
    Listing.filters.IsServed t template (t.database .ready select) := by
  intro identity requested
  refine ⟨Selection.filterRows identity requested t.grants, ?_, fun row => Iff.rfl⟩
  rw [database, h]
  rfl

/-- A template that selects filters with levels has all filters listed. -/
theorem allFilters_isServed {select : String → Selection} (h : select template = .leveledFilters) :
    Listing.allFilters.IsServed t template (t.database .ready select) := by
  intro identity requested
  refine ⟨Selection.leveledRows identity t.grants, ?_, fun row => Iff.rfl⟩
  rw [database, h]
  rfl

end Tables

/-! ## Answers from listings -/

/-- The store with another template for the grants of an identity. -/
def withAccess (s : Store) (template : String) : Store :=
  { s with templates := { s.templates with access := template } }

/-- From any listing a topic is judged as the policy says that the tables are. -/
theorem judgeAccess_of_isServed (h : listing.IsServed t template db) :
    s.judgeAccess ⟨identity, clientId⟩ topic requested (db ⟨template, [.text identity, .level requested]⟩)
      = .ok (t.directory.allows identity (.checkAccess topic clientId requested)) := by
  obtain ⟨rows, hrows, hmem⟩ := h identity requested
  rw [hrows]
  apply judgeAccess_of_names
  · intro row hrow
    exact Listing.names_of_mem_rows ((hmem row).mp hrow)
  · intro g hg hle
    obtain ⟨row, hrow, hnames⟩ := listing.exists_mem_rows_of_le hg hle
    exact ⟨row, (hmem row).mpr hrow, hnames⟩

/-- What the tables have for a request under a token: a no unless the token is accepted. -/
def Tables.allows (t : Tables) (s : Store) (now : Instant) (token topic clientId : String)
    (requested : AccessLevel) : Bool :=
  match s.verifier.verify s.accessExpiry now token with
  | .error _ => false
  | .ok claims => t.directory.allows claims.identity (.checkAccess topic clientId requested)

/-- That is what a store answers, with any template that has a listing for it. -/
theorem accessAnswer_of_isServed (h : listing.IsServed t template db) :
    (s.withAccess template).accessAnswer now token topic clientId requested db
      = .ok (t.allows s now token topic clientId requested) := by
  have hverify : (s.withAccess template).verifier.verify (s.withAccess template).accessExpiry now token
      = s.verifier.verify s.accessExpiry now token := rfl
  unfold accessAnswer checkAccess Tables.allows
  cases hv : s.verifier.verify s.accessExpiry now token with
  | error r =>
    rw [consult_of_error (hverify.trans hv)]
    rfl
  | ok claims =>
    rw [consult_of_ok (hverify.trans hv)]
    exact judgeAccess_of_isServed h

/-- There is a yes exactly if the token is accepted and some grant in the tables is to its identity, at the requested
level or above, and has a filter whose expansion for the client covers the topic. -/
theorem Tables.allows_iff :
    t.allows s now token topic clientId requested = true ↔
      ∃ claims, s.verifier.verify s.accessExpiry now token = .ok claims
        ∧ ∃ granted ∈ t.grants, granted.identity = claims.identity ∧ requested ≤ granted.grant.level
          ∧ ∃ e, Substitution.expand ⟨claims.identity, clientId⟩ granted.grant.filter = .ok e
            ∧ Filter.covers e.text topic = true := by
  unfold Tables.allows
  cases s.verifier.verify s.accessExpiry now token with
  | error r => simp
  | ok claims =>
    rw [Policy.Directory.allows_checkAccess_iff]
    constructor
    · rintro ⟨g, hg, hle, hcovers⟩
      obtain ⟨granted, hgranted, hidentity, rfl⟩ := Selection.mem_grantsTo_iff.mp hg
      exact ⟨claims, rfl, granted, hgranted, hidentity, hle, hcovers⟩
    · rintro ⟨claims', hclaims, granted, hgranted, hidentity, hle, hcovers⟩
      obtain rfl := Except.ok.inj hclaims
      exact ⟨_, Selection.mem_grantsTo_iff.mpr ⟨granted, hgranted, hidentity, rfl⟩, hle, hcovers⟩

/-- What is allowed at a level is allowed at every lower level. -/
theorem Tables.allows_of_le (hle : lower ≤ requested) (h : t.allows s now token topic clientId requested = true) :
    t.allows s now token topic clientId lower = true := by
  unfold Tables.allows at h ⊢
  cases hv : s.verifier.verify s.accessExpiry now token with
  | error r =>
    rw [hv] at h
    cases h
  | ok claims =>
    rw [hv] at h
    exact Policy.Directory.allows_of_le hle h

/-- Let a database serve a listing of the grants in some tables. Then a store that asks it for that listing answers
every request under every token, at every level and without a fault: a yes exactly if the token is accepted and some
grant to its identity is at the requested level or above and covers the topic when its filter is expanded. So whichever
of the listings two templates ask for, and whichever databases serve them, the answers are equal; and with any of them a
level that is allowed allows every lower level. -/
theorem accessAnswer_of_listings (t : Tables) (s : Store) (now : Instant) (token topic clientId : String) :
    (∀ (listing : Listing) template db, listing.IsServed t template db → ∀ requested, ∃ allowed,
        (s.withAccess template).accessAnswer now token topic clientId requested db = .ok allowed
          ∧ (allowed = true ↔ ∃ claims, s.verifier.verify s.accessExpiry now token = .ok claims
              ∧ ∃ granted ∈ t.grants, granted.identity = claims.identity ∧ requested ≤ granted.grant.level
                ∧ ∃ e, Substitution.expand ⟨claims.identity, clientId⟩ granted.grant.filter = .ok e
                  ∧ Filter.covers e.text topic = true))
      ∧ (∀ (listing listing' : Listing) template template' db db', listing.IsServed t template db →
          listing'.IsServed t template' db' → ∀ requested,
          (s.withAccess template).accessAnswer now token topic clientId requested db
            = (s.withAccess template').accessAnswer now token topic clientId requested db')
      ∧ ∀ (listing : Listing) template db, listing.IsServed t template db → ∀ requested lower, lower ≤ requested →
          (s.withAccess template).accessAnswer now token topic clientId requested db = .ok true →
          (s.withAccess template).accessAnswer now token topic clientId lower db = .ok true := by
  refine ⟨?_, ?_, ?_⟩
  · intro listing template db hserved requested
    exact ⟨_, accessAnswer_of_isServed hserved, Tables.allows_iff⟩
  · intro listing listing' template template' db db' hserved hserved' requested
    rw [accessAnswer_of_isServed hserved, accessAnswer_of_isServed hserved']
  · intro listing template db hserved requested lower hle h
    rw [accessAnswer_of_isServed hserved] at h ⊢
    rw [Tables.allows_of_le hle (Except.ok.inj h)]

/-- Beside a grant that covers the topic the identity has one that cannot be used for a client whose id has a slash in
it and one whose filter is not well formed, both at higher levels. In each listing the topic is allowed at the level of
the first grant, hence at the least level that there is, and one level higher it is not. -/
theorem accessAnswer_of_listings_beside_dropped :
    let s : Store := ⟨.ofSecret "k" "username" 0, ⟨"users", none, ""⟩, .ofSeconds 5, true, true⟩
    let t : Tables := ⟨[], [⟨"u", "clients/%c", 9223372036854775807⟩, ⟨"u", "rooms/%u", 3⟩, ⟨"v", "rooms/u", 9⟩,
      ⟨"u", "rooms/#/u", 9⟩]⟩
    let token := Token.sign (.object [("username", .string "u")]) "k"
    let leveled : Database := fun q =>
      match q.parameters with
      | [.text identity, .level requested] => .rows (Listing.leveledFilters.rows t identity requested)
      | _ => .refused
    let answers (db : Database) := [-9223372036854775808, 3, 4].map fun requested =>
      (s.withAccess "grants").accessAnswer .epoch token "rooms/u" "a/b" requested db
    answers (t.database .ready fun _ => .filters) = [.ok true, .ok true, .ok false]
      ∧ answers leveled = [.ok true, .ok true, .ok false]
      ∧ answers (t.database .ready fun _ => .leveledFilters) = [.ok true, .ok true, .ok false] := by
  intro s t token leveled answers
  obtain ⟨-, hsame, hlower⟩ := accessAnswer_of_listings t s .epoch token "rooms/u" "a/b"
  have hv : s.verifier.verify s.accessExpiry .epoch token = .ok ⟨"u", none, none, [], none, none, none⟩ :=
    Token.verify_sign_name (by decide)
  have hfilters : Listing.filters.IsServed t "grants" (t.database .ready fun _ => .filters) :=
    Tables.filters_isServed rfl
  have hleveled : Listing.leveledFilters.IsServed t "grants" leveled := by
    intro identity requested
    exact ⟨_, rfl, fun row => Iff.rfl⟩
  have hall : Listing.allFilters.IsServed t "grants" (t.database .ready fun _ => .leveledFilters) :=
    Tables.allFilters_isServed rfl
  -- One listing is looked at, and at two levels.
  have hthree :
      (s.withAccess "grants").accessAnswer .epoch token "rooms/u" "a/b" 3 (t.database .ready fun _ => .filters)
        = .ok true := by
    rw [accessAnswer_of_isServed hfilters, Tables.allows, hv]
    decide +kernel
  have hfour :
      (s.withAccess "grants").accessAnswer .epoch token "rooms/u" "a/b" 4 (t.database .ready fun _ => .filters)
        = .ok false := by
    rw [accessAnswer_of_isServed hfilters, Tables.allows, hv]
    decide +kernel
  have hanswers : answers (t.database .ready fun _ => .filters) = [.ok true, .ok true, .ok false] := by
    have hleast := hlower _ _ _ hfilters 3 (-9223372036854775808) (by decide) hthree
    simp only [answers, List.map_cons, List.map_nil, hleast, hthree, hfour]
  refine ⟨hanswers, ?_, ?_⟩
  · rw [← hanswers]
    exact List.map_congr_left fun requested _ => hsame _ _ _ _ _ _ hleveled hfilters requested
  · rw [← hanswers]
    exact List.map_congr_left fun requested _ => hsame _ _ _ _ _ _ hall hfilters requested

end TopicGuard.Store
