import TopicGuard.Proofs.Outcome
import TopicGuard.Proofs.Topic.Matching
import TopicGuard.Store
import TopicGuard.Token.Signer

/-!
What a store decides about a topic, row by row.

The rows of a reply pass three gates. A row that cannot be read makes the whole decision a fault. A grant whose
filter cannot be expanded, or is not well formed once it is, is passed over. What is left permits the request
or does not. The decision takes all rows through one gate after the other; here each gate is a predicate of a
single row (`Row.IsReadable`, `Row.IsDropped`, `Row.Permits`), and the decision is a statement about which rows
there are: a fault exactly if some row is not readable, and otherwise a yes exactly if some row permits the
request.

Such a statement cannot depend on where a row stands, hence the order of the rows does not matter, and a row
that is passed over can as well be missing (`checkAccess_answer_iff`).
-/

set_option autoImplicit false

namespace TopicGuard.Store

open TopicGuard.Filter (parse_eq_ok text_of_parse)
open Outcome (map_eq_ok_iff mapM_eq_ok_iff exists_error_of_mapM exists_mem_of_forall₂)

variable {requested : AccessLevel} {σ : Substitution} {topic : String} {rows : List Row}

/-! ## Rows -/

namespace Row

/-- The row has a text in its first column and, if there is a second column, an integer in that. -/
def IsReadable (row : Row) : Prop :=
  (∃ filter, row[0]? = some (.text filter)) ∧ ∀ cell, row[1]? = some cell → ∃ n, cell = .integer n

/-- The grant that a row gives. Without a second column it is a grant at the level that was asked for; columns
after the second are not looked at. -/
structure Gives (requested : AccessLevel) (row : Row) (g : Grant) : Prop where
  filter : row[0]? = some (.text g.filter)
  level : row[1]? = some (.integer g.level) ∨ row[1]? = none ∧ g.level = requested

/-- The row gives a grant whose filter cannot be expanded for the client, or is not well formed when it is. -/
def IsDropped (σ : Substitution) (requested : AccessLevel) (row : Row) : Prop :=
  ∃ g, row.Gives requested g
    ∧ ((∃ cause, σ.expand g.filter = .error cause)
      ∨ ∃ e cause, σ.expand g.filter = .ok e ∧ Filter.parse e.text = .error cause)

/-- The row gives a grant at the requested level or above, and its filter, expanded for the client, is well
formed and covers the topic. -/
def Permits (σ : Substitution) (topic : String) (requested : AccessLevel) (row : Row) : Prop :=
  ∃ g, row.Gives requested g ∧ requested ≤ g.level
    ∧ ∃ e f, σ.expand g.filter = .ok e ∧ Filter.parse e.text = .ok f
      ∧ Filter.covers e.text topic = true

variable {row : Row} {g : Grant}

theorem text?_eq_some_iff {column : Nat} {s : String} :
    row.text? column = some s ↔ row[column]? = some (.text s) := by
  unfold text?
  split
  · next heq => rw [heq, Option.some.injEq, Option.some.injEq, Cell.text.injEq]
  · next hne =>
    constructor
    · intro h
      cases h
    · exact fun h => absurd h (hne s)

theorem integer?_eq_some_iff {column : Nat} {n : Int64} :
    row.integer? column = some n ↔ row[column]? = some (.integer n) := by
  unfold integer?
  split
  · next heq => rw [heq, Option.some.injEq, Option.some.injEq, Cell.integer.injEq]
  · next hne =>
    constructor
    · intro h
      cases h
    · exact fun h => absurd h (hne n)

theorem grant?_eq_some_iff : row.grant? requested = some g ↔ row.Gives requested g := by
  obtain ⟨filter, level⟩ := g
  unfold grant?
  rw [Option.bind_eq_bind, Option.bind_eq_some_iff]
  simp only [text?_eq_some_iff]
  -- Only the length of the row says whether it has a level of its own.
  by_cases hlength : 1 < row.length
  · have hcell : row[1]? ≠ none := by
      rw [List.getElem?_eq_getElem hlength]
      exact Option.some_ne_none _
    simp only [if_pos hlength]
    constructor
    · rintro ⟨_, hfilter, h⟩
      obtain ⟨n, hn, h⟩ := Option.bind_eq_some_iff.mp h
      cases h
      exact ⟨hfilter, .inl (integer?_eq_some_iff.mp hn)⟩
    · rintro ⟨hfilter, hlevel | ⟨hnone, -⟩⟩
      · refine ⟨filter, hfilter, ?_⟩
        rw [integer?_eq_some_iff.mpr hlevel]
        rfl
      · exact absurd hnone hcell
  · have hnone : row[1]? = none := List.getElem?_eq_none (Nat.le_of_not_lt hlength)
    simp only [if_neg hlength]
    constructor
    · rintro ⟨_, hfilter, h⟩
      cases h
      exact ⟨hfilter, .inr ⟨hnone, rfl⟩⟩
    · rintro ⟨hfilter, hlevel | ⟨-, hlevel⟩⟩
      · rw [hnone] at hlevel
        cases hlevel
      · exact ⟨filter, hfilter, by rw [← hlevel]; rfl⟩

/-- A row is readable exactly if it gives a grant. -/
theorem isReadable_iff (requested : AccessLevel) :
    row.IsReadable ↔ ∃ g, row.Gives requested g := by
  constructor
  · rintro ⟨⟨filter, hfilter⟩, hlevel⟩
    cases hcell : row[1]? with
    | none => exact ⟨⟨filter, requested⟩, hfilter, .inr ⟨hcell, rfl⟩⟩
    | some cell =>
      obtain ⟨n, rfl⟩ := hlevel cell hcell
      exact ⟨⟨filter, n⟩, hfilter, .inl hcell⟩
  · rintro ⟨g, hfilter, hlevel⟩
    refine ⟨⟨g.filter, hfilter⟩, fun cell hcell => ?_⟩
    rcases hlevel with hlevel | ⟨hnone, -⟩
    · rw [hcell, Option.some.injEq] at hlevel
      exact ⟨g.level, hlevel⟩
    · rw [hcell] at hnone
      cases hnone

/-- A row gives at most one grant. -/
theorem Gives.unique {g' : Grant} (h : row.Gives requested g) (h' : row.Gives requested g') :
    g = g' := by
  have heq := (grant?_eq_some_iff.mpr h).symm.trans (grant?_eq_some_iff.mpr h')
  exact Option.some.inj heq

/-- A row that is passed over does not permit anything. -/
theorem IsDropped.not_permits (h : row.IsDropped σ requested) :
    ¬ row.Permits σ topic requested := by
  rintro ⟨g, hg, -, e, f, he, hf, -⟩
  obtain ⟨g', hg', h⟩ := h
  obtain rfl := hg.unique hg'
  rcases h with ⟨cause, hcause⟩ | ⟨e', cause, he', hcause⟩
  · rw [he] at hcause
    cases hcause
  · rw [he, Except.ok.injEq] at he'
    rw [← he', hf] at hcause
    cases hcause

/-- A row that is passed over is readable. -/
theorem IsDropped.isReadable (h : row.IsDropped σ requested) : row.IsReadable := by
  obtain ⟨g, hg, -⟩ := h
  exact (isReadable_iff requested).mpr ⟨g, hg⟩

end Row

/-! ## The three gates -/

/-- The fault for a row that cannot be read. -/
def unreadableRow : Fault :=
  .decode .access "a row is no filter with a level"

/-- The first gate lets a reply pass exactly if every row gives a grant. -/
theorem grantsOf_eq_ok_iff {grants : List Grant} :
    grantsOf requested rows = .ok grants ↔ List.Forall₂ (Row.Gives requested) rows grants := by
  unfold grantsOf
  rw [mapM_eq_ok_iff]
  -- Both sides relate rows and grants pairwise, by relations that agree on every pair.
  refine iff_of_eq (congrArg (fun R => List.Forall₂ R rows grants) (funext₂ fun row g => propext ?_))
  rw [← Row.grant?_eq_some_iff]
  cases row.grant? requested with
  | none => simp
  | some g' => simp

/-- If it stops a reply, then with one and the same fault, because of a row that is not readable. -/
theorem grantsOf_eq_error {fault : Fault} (h : grantsOf requested rows = .error fault) :
    fault = unreadableRow ∧ ∃ row ∈ rows, ¬ row.IsReadable := by
  obtain ⟨row, hrow, hfault⟩ := exists_error_of_mapM h
  cases hgrant : row.grant? requested with
  | some g =>
    rw [hgrant] at hfault
    cases hfault
  | none =>
    rw [hgrant] at hfault
    cases hfault
    refine ⟨rfl, row, hrow, fun hreadable => ?_⟩
    obtain ⟨g, hg⟩ := (Row.isReadable_iff requested).mp hreadable
    rw [Row.grant?_eq_some_iff.mpr hg] at hgrant
    cases hgrant

/-- The second and the third gate, for one grant. -/
theorem permits_applicable?_iff {g : Grant} :
    (∃ g', applicable? σ g = some g' ∧ g'.permits topic requested = true) ↔
      requested ≤ g.level ∧ ∃ e f, σ.expand g.filter = .ok e ∧ Filter.parse e.text = .ok f
        ∧ Filter.covers e.text topic = true := by
  unfold applicable?
  cases he : σ.expand g.filter with
  | error cause => simp
  | ok e =>
    cases hf : Filter.parse e.text with
    | error cause => simp [hf]
    | ok f => simp [hf, text_of_parse hf, Grant.permits, AccessLevel.includes]

/-! ## The decision -/

/-- Behind the first gate the decision is a statement about single rows. -/
theorem anyPermits_iff {grants : List Grant} (h : List.Forall₂ (Row.Gives requested) rows grants) :
    Grant.anyPermits (grants.filterMap (applicable? σ)) topic requested = true ↔
      ∃ row ∈ rows, row.Permits σ topic requested := by
  unfold Grant.anyPermits
  rw [List.any_eq_true]
  simp only [List.mem_filterMap]
  constructor
  · rintro ⟨g', ⟨g, hg, happlicable⟩, hpermits⟩
    obtain ⟨row, hrow, hgives⟩ := exists_mem_of_forall₂ h.flip hg
    exact ⟨row, hrow, g, hgives, permits_applicable?_iff.mp ⟨g', happlicable, hpermits⟩⟩
  · rintro ⟨row, hrow, g, hgives, hpermits⟩
    obtain ⟨g₁, hg₁, hgives₁⟩ := exists_mem_of_forall₂ h hrow
    obtain rfl := hgives.unique hgives₁
    obtain ⟨g', happlicable, hpermits⟩ := permits_applicable?_iff.mpr hpermits
    exact ⟨g', ⟨g, hg₁, happlicable⟩, hpermits⟩

theorem judgeAccess_rows (s : Store) :
    s.judgeAccess σ topic requested (.rows rows)
      = (grantsOf requested rows).map fun grants =>
          Grant.anyPermits (grants.filterMap (applicable? σ)) topic requested := by
  unfold judgeAccess
  cases h : grantsOf requested rows <;> simp [rowsOf, h, bind, Except.bind, pure, Except.pure, Except.map]

/-- The rows of a reply lead to a yes or a no exactly if all of them are readable, and then to a yes exactly
if some row permits the request. -/
theorem judgeAccess_eq_ok_iff {s : Store} {allowed : Bool} :
    s.judgeAccess σ topic requested (.rows rows) = .ok allowed ↔
      (∀ row ∈ rows, row.IsReadable)
        ∧ (allowed = true ↔ ∃ row ∈ rows, row.Permits σ topic requested) := by
  rw [judgeAccess_rows, map_eq_ok_iff]
  constructor
  · rintro ⟨grants, hgrants, rfl⟩
    have hgives := grantsOf_eq_ok_iff.mp hgrants
    refine ⟨fun row hrow => ?_, anyPermits_iff hgives⟩
    obtain ⟨g, -, hg⟩ := exists_mem_of_forall₂ hgives hrow
    exact (Row.isReadable_iff requested).mpr ⟨g, hg⟩
  · rintro ⟨hreadable, hallowed⟩
    cases hgrants : grantsOf requested rows with
    | error fault =>
      obtain ⟨-, row, hrow, hunreadable⟩ := grantsOf_eq_error hgrants
      exact absurd (hreadable row hrow) hunreadable
    | ok grants =>
      refine ⟨grants, rfl, ?_⟩
      rw [Bool.eq_iff_iff, hallowed]
      exact anyPermits_iff (grantsOf_eq_ok_iff.mp hgrants)

/-- They lead to a fault exactly if some row is not readable, and always to the same one. -/
theorem judgeAccess_eq_error_iff {s : Store} {fault : Fault} :
    s.judgeAccess σ topic requested (.rows rows) = .error fault ↔
      fault = unreadableRow ∧ ∃ row ∈ rows, ¬ row.IsReadable := by
  have hfault {fault : Fault} (h : s.judgeAccess σ topic requested (.rows rows) = .error fault) :
      fault = unreadableRow ∧ ∃ row ∈ rows, ¬ row.IsReadable := by
    rw [judgeAccess_rows] at h
    cases hgrants : grantsOf requested rows with
    | error fault' =>
      rw [hgrants] at h
      cases h
      exact grantsOf_eq_error hgrants
    | ok grants =>
      rw [hgrants] at h
      cases h
  constructor
  · exact hfault
  · rintro ⟨rfl, row, hrow, hunreadable⟩
    cases hjudge : s.judgeAccess σ topic requested (.rows rows) with
    | error fault => rw [(hfault hjudge).1]
    | ok allowed => exact absurd ((judgeAccess_eq_ok_iff.mp hjudge).1 row hrow) hunreadable

/-- Two replies lead to the same answer if they agree on whether all rows are readable and on whether some row
permits the request. -/
theorem judgeAccess_congr {s : Store} {rows' : List Row}
    (hreadable : (∀ row ∈ rows, row.IsReadable) ↔ ∀ row ∈ rows', row.IsReadable)
    (hpermits : (∃ row ∈ rows, row.Permits σ topic requested) ↔
      ∃ row ∈ rows', row.Permits σ topic requested) :
    s.judgeAccess σ topic requested (.rows rows) = s.judgeAccess σ topic requested (.rows rows') := by
  cases hjudge : s.judgeAccess σ topic requested (.rows rows) with
  | ok allowed =>
    rw [judgeAccess_eq_ok_iff, hreadable, hpermits] at hjudge
    exact (judgeAccess_eq_ok_iff.mpr hjudge).symm
  | error fault =>
    -- The fault does not tell which row it is due to, so any other such row will do.
    rw [judgeAccess_eq_error_iff] at hjudge
    obtain ⟨hfault, hunreadable⟩ := hjudge
    refine (judgeAccess_eq_error_iff.mpr ⟨hfault, ?_⟩).symm
    by_contra hnone
    obtain ⟨row, hrow, hrow'⟩ := hunreadable
    refine hrow' (hreadable.mpr (fun row' hmem => ?_) row hrow)
    by_contra hunreadable
    exact hnone ⟨row', hmem, hunreadable⟩

/-- The order of the rows does not matter. -/
theorem judgeAccess_perm {s : Store} {rows' : List Row} (h : rows.Perm rows') :
    s.judgeAccess σ topic requested (.rows rows) = s.judgeAccess σ topic requested (.rows rows') :=
  judgeAccess_congr (by simp only [h.mem_iff]) (by simp only [h.mem_iff])

/-- A row that is passed over does not matter. -/
theorem judgeAccess_cons_of_isDropped {s : Store} {row : Row} (h : row.IsDropped σ requested) :
    s.judgeAccess σ topic requested (.rows (row :: rows))
      = s.judgeAccess σ topic requested (.rows rows) := by
  apply judgeAccess_congr
  · rw [List.forall_mem_cons, and_iff_right h.isReadable]
  · rw [List.exists_mem_cons_iff, or_iff_right h.not_permits]

/-! ## The answer of a store -/

/-- The query about the grants of an identity. -/
def accessQuery (s : Store) (identity : String) (requested : AccessLevel) : Query :=
  ⟨s.templates.access, [.text identity, .level requested]⟩

/-- What a store answers about a topic, given how its database replies. -/
def accessAnswer (s : Store) (now : Instant) (token topic clientId : String)
    (requested : AccessLevel) (db : Database) : Verdict :=
  (s.checkAccess now token topic clientId requested).answer db

/-- For a token that is not rejected the answer is judged from the rows about its identity. -/
theorem accessAnswer_eq {s : Store} {now : Instant} {token clientId : String} {db : Database}
    {claims : Token.Claims} (hv : s.verifier.verify s.accessExpiry now token = .ok claims)
    (hrows : db (s.accessQuery claims.identity requested) = .rows rows) :
    s.accessAnswer now token topic clientId requested db
      = s.judgeAccess ⟨claims.identity, clientId⟩ topic requested (.rows rows) := by
  unfold accessAnswer checkAccess consult
  rw [hv, ← hrows]
  rfl

/-- For a token that is not rejected and a database that replies with rows: the answer is a fault exactly if
some row is not readable, and otherwise a yes if some row permits the request and a no if none does. The rows
may come in any order, and one that is passed over may as well be missing. -/
theorem checkAccess_answer_iff (s : Store) (now : Instant) (token topic clientId : String)
    (requested : AccessLevel) (claims : Token.Claims) (db : Database) (rows : List Row)
    (hv : s.verifier.verify s.accessExpiry now token = .ok claims)
    (hrows : db (s.accessQuery claims.identity requested) = .rows rows) :
    ((∃ text, s.accessAnswer now token topic clientId requested db
          = .error (.decode .access text)) ↔
        ∃ row ∈ rows, ¬ row.IsReadable)
      ∧ (s.accessAnswer now token topic clientId requested db = .ok true ↔
          (∀ row ∈ rows, row.IsReadable)
            ∧ ∃ row ∈ rows, row.Permits ⟨claims.identity, clientId⟩ topic requested)
      ∧ (s.accessAnswer now token topic clientId requested db = .ok false ↔
          (∀ row ∈ rows, row.IsReadable)
            ∧ ¬ ∃ row ∈ rows, row.Permits ⟨claims.identity, clientId⟩ topic requested)
      ∧ ∀ (db' : Database) (rows' : List Row),
          db' (s.accessQuery claims.identity requested) = .rows rows' →
          (rows.Perm rows' →
            s.accessAnswer now token topic clientId requested db'
              = s.accessAnswer now token topic clientId requested db)
          ∧ (∀ before row after, rows = before ++ row :: after → rows' = before ++ after →
              row.IsDropped ⟨claims.identity, clientId⟩ requested →
            s.accessAnswer now token topic clientId requested db'
              = s.accessAnswer now token topic clientId requested db) := by
  rw [accessAnswer_eq hv hrows]
  refine ⟨?_, ?_, ?_, ?_⟩
  · constructor
    · rintro ⟨text, h⟩
      exact (judgeAccess_eq_error_iff.mp h).2
    · intro hunreadable
      exact ⟨_, judgeAccess_eq_error_iff.mpr ⟨rfl, hunreadable⟩⟩
  · rw [judgeAccess_eq_ok_iff, iff_true_left rfl]
  · rw [judgeAccess_eq_ok_iff, iff_false_left Bool.false_ne_true]
  · intro db' rows' hrows'
    rw [accessAnswer_eq hv hrows']
    constructor
    · exact fun hperm => judgeAccess_perm hperm.symm
    -- A row in the middle is moved to the front, where it can be left out.
    · rintro before row after rfl rfl hdropped
      rw [judgeAccess_perm List.perm_middle, judgeAccess_cons_of_isDropped hdropped]

/-- Of two grants of `u` the first cannot be used for a client whose id has a slash in it. The second still
permits the request, alone as well as after the first. -/
theorem checkAccess_answer_beside_dropped :
    let s : Store := ⟨⟨.hs256, .shared (Utf8.encode "k"), "username", none, none, 0⟩,
      ⟨"", none, "SELECT filter, level"⟩, .ofSeconds 5, true, true⟩
    let token := Token.sign (.object [("username", .string "u")]) "k"
    let dropped : Row := [.text "clients/%c", .integer 4]
    let granting : Row := [.text "rooms/%u"]
    s.accessAnswer .epoch token "rooms/u" "a/b" 1 (fun _ => .rows [dropped, granting]) = .ok true
      ∧ s.accessAnswer .epoch token "rooms/u" "a/b" 1 (fun _ => .rows [granting]) = .ok true := by
  intro s token dropped granting
  have hv : s.verifier.verify s.accessExpiry .epoch token
      = .ok ⟨"u", none, none, [], none, none, none⟩ := by
    decide +kernel
  have hdropped : dropped.IsDropped ⟨"u", "a/b"⟩ 1 :=
    ⟨⟨"clients/%c", 4⟩, ⟨rfl, .inl rfl⟩, .inl ⟨⟨.clientId, "a/b"⟩, by decide +kernel⟩⟩
  have hf : Filter.parse "rooms/u" = .ok ⟨"rooms/u", by decide +kernel⟩ :=
    parse_eq_ok (by decide +kernel)
  have hgranting : granting.Permits ⟨"u", "a/b"⟩ "rooms/u" 1 :=
    ⟨⟨"rooms/%u", 1⟩, ⟨rfl, .inr ⟨rfl, rfl⟩⟩, by decide, ⟨"rooms/u", false⟩, _,
      by decide +kernel, hf, by decide +kernel⟩
  have hreadable : ∀ row ∈ [dropped, granting], row.IsReadable := by
    intro row hrow
    obtain rfl | rfl := by simpa using hrow
    · exact hdropped.isReadable
    · exact (Row.isReadable_iff 1).mpr ⟨⟨"rooms/%u", 1⟩, rfl, .inr ⟨rfl, rfl⟩⟩
  obtain ⟨-, hyes, -, hsame⟩ := checkAccess_answer_iff s .epoch token "rooms/u" "a/b" 1 _
    (fun _ => .rows [dropped, granting]) [dropped, granting] hv rfl
  have hboth := hyes.mpr ⟨hreadable, granting, by simp, hgranting⟩
  refine ⟨hboth, ?_⟩
  rw [← hboth]
  exact (hsame (fun _ => .rows [granting]) [granting] rfl).2 [] dropped [granting] rfl rfl hdropped

end TopicGuard.Store
