import TopicGuard.Proofs.Policy.Directory
import TopicGuard.Proofs.Store.Asking
import TopicGuard.Store.Tables

/-!
A database that holds a policy.

The database counts who is known and who is a superuser, and it lists what is granted at a level or above; its rows may
come in any order, repeated, and with a second column or without (`Holds`). A store over such a database gives the
verdict of the policy (`answer_of_holds`). Placeholders and filters are the store's own business: the rows have the
filters as they were granted.

The tables of a database in memory are one policy (`Tables.directory`), which the database holds
(`Tables.holds_database`).
-/

set_option autoImplicit false

namespace TopicGuard.Store

open Policy (Question Directory)

variable {d : Directory} {s : Store} {settings : Settings} {verifier : Token.Verifier} {db : Database} {reply : Reply}
  {row : Row} {g : Grant} {σ : Substitution} {identity topic token : String} {requested : AccessLevel} {now : Instant}
  {q : Question}

/-! ## What rows say -/

/-- The row has the filter of the grant, alone or with the level of the grant after it. -/
structure Row.Names (row : Row) (g : Grant) : Prop where
  filter : row[0]? = some (.text g.filter)
  level : row[1]? = some (.integer g.level) ∨ row[1]? = none

/-- The first row begins with a count, which is positive exactly if the answer is yes. -/
def Counts (reply : Reply) (yes : Bool) : Prop :=
  ∃ row rows n, reply = .rows (row :: rows) ∧ row[0]? = some (.integer n) ∧ (yes = true ↔ 0 < n)

/-- The rows name the grants, in any order and any number of times. -/
def Lists (reply : Reply) (grants : List Grant) : Prop :=
  ∃ rows, reply = .rows rows ∧ (∀ row ∈ rows, ∃ g ∈ grants, row.Names g) ∧ ∀ g ∈ grants, ∃ row ∈ rows, row.Names g

/-- The database holds the policy: it counts who is known and who is a superuser, and it lists what is granted at a
level or above. Without a template there are no superusers. -/
structure Holds (d : Directory) (templates : Templates) (db : Database) : Prop where
  known : ∀ identity, Counts (db ⟨templates.user, [.text identity]⟩) (d.isKnown identity)
  superuser : ∀ template identity, templates.superuser = some template →
    Counts (db ⟨template, [.text identity]⟩) (d.isSuperuser identity)
  noSuperuser : ∀ identity, templates.superuser = none → d.isSuperuser identity = false
  granted : ∀ identity requested, Lists (db ⟨templates.access, [.text identity, .level requested]⟩)
    ((d.grants identity).filter fun g => g.level.includes requested)

theorem judgeCount_of_counts {operation : Operation} {yes : Bool} (h : Counts reply yes) :
    s.judgeCount operation reply = .ok yes := by
  obtain ⟨row, rows, n, rfl, hn, hyes⟩ := h
  have hpositive : decide (0 < n) = yes := by
    rw [Bool.eq_iff_iff, decide_eq_true_iff, hyes]
  rw [judgeCount_rows_cons, Row.integer?_eq_some_iff.mpr hn, ← hpositive]

/-- A row that names a grant gives it, at its own level or, without one, at the requested level. The difference cannot
be told as long as the level is left out only where it is high enough. -/
theorem Row.Names.gives (h : row.Names g) (hlevel : row[1]? = none → requested ≤ g.level) :
    ∃ level, (requested ≤ level ↔ requested ≤ g.level) ∧ row.Gives requested ⟨g.filter, level⟩ := by
  rcases h.level with hcell | hcell
  · exact ⟨g.level, Iff.rfl, h.filter, .inl hcell⟩
  · exact ⟨requested, iff_of_true (Int64.le_refl requested) (hlevel hcell), h.filter, .inr ⟨hcell, rfl⟩⟩

/-- Such a row permits what the grant does. -/
theorem Row.Names.permits_iff (h : row.Names g) (hlevel : row[1]? = none → requested ≤ g.level) :
    row.Permits σ topic requested ↔
      requested ≤ g.level ∧ ∃ e, σ.expand g.filter = .ok e ∧ Filter.covers e.text topic = true := by
  obtain ⟨level, hle, hgives⟩ := h.gives hlevel
  constructor
  · rintro ⟨g', hgives', hle', e, f, he, -, hcovers⟩
    obtain rfl := hgives.unique hgives'
    exact ⟨hle.mp hle', e, he, hcovers⟩
  · -- A filter that covers the topic is not among those that are passed over.
    rintro ⟨hle', e, he, hcovers⟩
    obtain ⟨f, hf⟩ := Filter.parse_of_covers hcovers
    exact ⟨_, hgives, hle.mpr hle', e, f, he, hf, hcovers⟩

/-- From rows that name grants of the identity, among them all at the requested level or above, a topic is judged as the
policy says. A grant below that level may be named, but with its level. -/
theorem judgeAccess_of_names {rows : List Row} {clientId : String}
    (hnamed : ∀ row ∈ rows, ∃ g ∈ d.grants identity, row.Names g ∧ (row[1]? = none → requested ≤ g.level))
    (hlisted : ∀ g ∈ d.grants identity, requested ≤ g.level → ∃ row ∈ rows, row.Names g) :
    s.judgeAccess ⟨identity, clientId⟩ topic requested (.rows rows)
      = .ok (d.allows identity (.checkAccess topic clientId requested)) := by
  -- Every row names a grant, hence is readable; for the verdict every grant that is high enough has to have a row, too.
  refine judgeAccess_eq_ok_iff.mpr ⟨fun row hrow => ?_, ?_⟩
  · obtain ⟨g, -, hnames, hlevel⟩ := hnamed row hrow
    obtain ⟨level, -, hgives⟩ := hnames.gives hlevel
    exact (Row.isReadable_iff requested).mpr ⟨_, hgives⟩
  · rw [Directory.allows_checkAccess_iff]
    constructor
    · rintro ⟨g, hg, hle, he⟩
      obtain ⟨row, hrow, hnames⟩ := hlisted g hg hle
      exact ⟨row, hrow, (hnames.permits_iff fun _ => hle).mpr ⟨hle, he⟩⟩
    · rintro ⟨row, hrow, hpermits⟩
      obtain ⟨g, hg, hnames, hlevel⟩ := hnamed row hrow
      exact ⟨g, hg, (hnames.permits_iff hlevel).mp hpermits⟩

/-- In particular from a list of just the grants at the requested level or above, with their levels or without. -/
theorem judgeAccess_of_lists {clientId : String}
    (h : Lists reply ((d.grants identity).filter fun g => g.level.includes requested)) :
    s.judgeAccess ⟨identity, clientId⟩ topic requested reply
      = .ok (d.allows identity (.checkAccess topic clientId requested)) := by
  obtain ⟨rows, rfl, hnamed, hlisted⟩ := h
  simp only [List.mem_filter, AccessLevel.includes, decide_eq_true_iff] at hnamed hlisted
  apply judgeAccess_of_names
  · intro row hrow
    obtain ⟨g, ⟨hg, hlevel⟩, hnames⟩ := hnamed row hrow
    exact ⟨g, hg, hnames, fun _ => hlevel⟩
  · intro g hg hlevel
    exact hlisted g ⟨hg, hlevel⟩

/-- What a database that holds the policy replies is judged as the policy says. -/
theorem judge_of_holds {template : String} (hdb : Holds d settings.templates db)
    (htemplate : settings.templateFor q = some template) :
    s.judge identity q (db ⟨template, parametersFor identity q⟩) = .ok (d.allows identity q) := by
  cases q with
  | authenticate =>
    obtain rfl := Option.some.inj htemplate
    exact judgeCount_of_counts (hdb.known identity)
  | isPrivileged => exact judgeCount_of_counts (hdb.superuser template identity htemplate)
  | checkAccess topic clientId requested =>
    obtain rfl := Option.some.inj htemplate
    exact judgeAccess_of_lists (hdb.granted identity requested)

/-- Over a database that holds the policy, a store that heeds the validity window gives the verdict of the policy. -/
theorem answer_of_holds (hs : ofSettings settings verifier = .ok s) (hexpiry : settings.expiryFor q = .enforce)
    (hdb : Holds d settings.templates db) :
    (s.decision now token q).answer db = .ok (d.verdict verifier now token q) := by
  cases hv : verifier.verify .enforce now token with
  | error r =>
    rw [decision_eq_settled hs (.inr ⟨r, by rw [hexpiry, hv]⟩), Directory.verdict_of_error hv]
    rfl
  | ok claims =>
    rw [Directory.verdict_of_ok hv]
    cases htemplate : settings.templateFor q with
    | none =>
      -- Only the question about superusers can be without a template.
      have hno : d.allows claims.identity q = false := by
        cases q with
        | isPrivileged => exact hdb.noSuperuser claims.identity htemplate
        | authenticate => cases htemplate
        | checkAccess topic clientId requested => cases htemplate
      rw [decision_eq_settled hs (.inl htemplate), hno]
      rfl
    | some template =>
      rw [decision_eq_ask hs htemplate (by rw [hexpiry, hv])]
      exact judge_of_holds hdb htemplate

/-! ## Tables -/

/-- One column of filters lists the grants that they are from. -/
theorem lists_map (grants : List Grant) : Lists (.rows (grants.map fun g => [.text g.filter])) grants := by
  have hnames (g : Grant) : Row.Names [.text g.filter] g := ⟨rfl, .inr rfl⟩
  refine ⟨_, rfl, fun row hrow => ?_, fun g hg => ?_⟩
  · obtain ⟨g, hg, rfl⟩ := List.mem_map.mp hrow
    exact ⟨g, hg, hnames g⟩
  · exact ⟨_, List.mem_map_of_mem hg, hnames g⟩

/-- A count that is small enough for a cell is positive exactly if something was counted. -/
theorem counts_countRow {n : Nat} (h : n < Nat.pow 2 63) : Counts (.rows [Selection.countRow n]) (decide (0 < n)) := by
  refine ⟨_, _, Int64.ofNat n, rfl, rfl, ?_⟩
  rw [decide_eq_true_iff, Int64.lt_iff_toInt_lt, Int64.toInt_ofNat_of_lt h]
  exact Int.natCast_pos.symm

namespace Tables

/-- The policy that the tables are. -/
def directory (t : Tables) : Directory where
  isKnown identity := decide (0 < t.members.countP fun m => m.name == identity)
  isSuperuser identity := decide (0 < t.members.countP fun m => m.name == identity && m.isSuperuser)
  grants identity := Selection.grantsTo identity t.grants

/-- A database in memory holds the policy that its tables are, if its templates select the counts and the filters. -/
theorem holds_database {t : Tables} {templates : Templates} {superuser : String} {select : String → Selection}
    (hsmall : t.members.length < Nat.pow 2 63) (hsuperuser : templates.superuser = some superuser)
    (hmember : select templates.user = .memberCount) (hcount : select superuser = .superuserCount)
    (hfilters : select templates.access = .filters) : Holds t.directory templates (t.database .ready select) where
  known identity := by
    simp only [database, hmember, Selection.reply]
    exact counts_countRow (Nat.lt_of_le_of_lt List.countP_le_length hsmall)
  superuser template identity h := by
    obtain rfl : superuser = template := Option.some.inj (hsuperuser.symm.trans h)
    simp only [database, hcount, Selection.reply]
    exact counts_countRow (Nat.lt_of_le_of_lt List.countP_le_length hsmall)
  noSuperuser identity h := by
    rw [hsuperuser] at h
    cases h
  granted identity requested := by
    simp only [database, hfilters, Selection.reply]
    exact lists_map _

end Tables

end TopicGuard.Store
