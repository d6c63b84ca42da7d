import TopicGuard.Proofs.Policy.Question
import TopicGuard.Proofs.Store.Access
import TopicGuard.Proofs.Token.Verification

/-!
What a store asks its database, and when it answers with a fault.

The three questions differ in their query template, in their parameters, in whether the validity window counts, and in
how the rows are judged; what is done with them is the same (`decision_eq_ask`). A token that is rejected is a plain
no, and so is a question without a template: then the database is not asked. Otherwise it is asked once, about the
identity in the token. The answer is a fault exactly if the database had no rows to give or gave rows of another shape
than the question promises, so that a fault is never a no, nor a no a fault (`decision_run`).
-/

set_option autoImplicit false

namespace TopicGuard.Store

open Policy (Question)
open Policy.Consultation (recording)

variable {s : Store} {settings : Settings} {verifier : Token.Verifier} {q : Question} {now : Instant}
  {token identity : String} {rows : List Row} {reply : Reply}

/-! ## The three questions -/

/-- What a store does with a question about a token. -/
def decision (s : Store) (now : Instant) (token : String) : Question → Consultation
  | .authenticate => s.authenticate now token
  | .isPrivileged => s.isPrivileged now token
  | .checkAccess topic clientId requested => s.checkAccess now token topic clientId requested

/-- The query that a question is. -/
def operationOf : Question → Operation
  | .authenticate => .user
  | .isPrivileged => .superuser
  | .checkAccess _ _ _ => .access

/-- The template for a question, if there is one. -/
def Templates.for? (t : Templates) : Question → Option String
  | .authenticate => some t.user
  | .isPrivileged => t.superuser
  | .checkAccess _ _ _ => some t.access

/-- The template that a store of these settings has for a question. -/
def Settings.templateFor (settings : Settings) (q : Question) : Option String :=
  settings.templates.for? q

/-- The flag for a question, of one for identities and one for topics. -/
def flagFor (user access : Bool) : Question → Bool
  | .authenticate | .isPrivileged => user
  | .checkAccess _ _ _ => access

/-- Whether the validity window counts for a question under these flags for skipping it. -/
def expiryUnder (user access : Bool) (q : Question) : Token.Expiry :=
  if flagFor user access q then .skip else .enforce

/-- Whether the validity window counts for a question to a store. -/
def expiryFor (s : Store) (q : Question) : Token.Expiry :=
  expiryUnder s.skipUserExpiration s.skipAccessExpiration q

/-- Whether it counts for a question to a store of these settings. -/
def Settings.expiryFor (settings : Settings) (q : Question) : Token.Expiry :=
  expiryUnder settings.skipUserExpiration settings.skipAccessExpiration q

/-- The parameters of the query. Neither the topic nor the client is among them. -/
def parametersFor (identity : String) : Question → List Parameter
  | .authenticate | .isPrivileged => [.text identity]
  | .checkAccess _ _ requested => [.text identity, .level requested]

/-- How a reply is judged. -/
def judge (s : Store) (identity : String) : Question → Reply → Verdict
  | .authenticate => s.judgeCount .user
  | .isPrivileged => s.judgeCount .superuser
  | .checkAccess topic clientId requested => s.judgeAccess ⟨identity, clientId⟩ topic requested

/-- The rows have the shape that the question promises: the first row begins with an integer, or, for a topic, every
row is readable. -/
def Decodes (rows : List Row) : Question → Prop
  | .authenticate | .isPrivileged => ∀ row, rows.head? = some row → ∃ n, row[0]? = some (.integer n)
  | .checkAccess _ _ _ => ∀ row ∈ rows, row.IsReadable

theorem ofSettings_eq_ok_iff :
    ofSettings settings verifier = .ok s ↔ settings.validate = .ok ()
      ∧ s = ⟨verifier, settings.templates, settings.queryTimeout, settings.skipUserExpiration,
          settings.skipAccessExpiration⟩ := by
  unfold ofSettings
  rw [Outcome.bind_eq_ok_iff]
  constructor
  · rintro ⟨_, hvalid, h⟩
    cases h
    exact ⟨hvalid, rfl⟩
  · rintro ⟨hvalid, rfl⟩
    exact ⟨(), hvalid, rfl⟩

/-- A store is connected exactly if its pool can be opened and it can be made on an open one. -/
theorem connect_eq_ok_iff {openPool : PoolOptions → Except String Unit} :
    connect settings verifier openPool = .ok s ↔
      openPool settings.poolOptions = .ok () ∧ ofSettings settings verifier = .ok s := by
  unfold connect
  simp only [Outcome.bind_eq_ok_iff, Outcome.mapError_eq_ok_iff]
  constructor
  · rintro ⟨_, -, _, hopen, hs⟩
    exact ⟨hopen, hs⟩
  · rintro ⟨hopen, hs⟩
    -- A store that can be made has complete settings, so the check in front passes as well.
    obtain ⟨hvalid, -⟩ := ofSettings_eq_ok_iff.mp hs
    exact ⟨(), hvalid, (), hopen, hs⟩

/-- With complete settings it fails only where the pool does, and then with what the database says. -/
theorem connect_eq_error_iff {openPool : PoolOptions → Except String Unit} {fault : Fault}
    (hvalid : settings.validate = .ok ()) :
    connect settings verifier openPool = .error fault ↔
      ∃ text, openPool settings.poolOptions = .error text ∧ .database text = fault := by
  unfold connect
  rw [Outcome.bind_eq_error_iff_of_ok (Outcome.mapError_eq_ok_iff.mpr hvalid), Outcome.bind_eq_error_iff_of_ne,
    Outcome.mapError_eq_error_iff]
  -- The settings are checked once more behind the pool, and pass again.
  intro _
  rw [ofSettings_eq_ok_iff.mpr ⟨hvalid, rfl⟩]
  nofun

theorem consult_of_error {expiry : Token.Expiry} {question : String → Query} {judge : String → Reply → Verdict}
    {r : Token.Rejection} (h : s.verifier.verify expiry now token = .error r) :
    s.consult expiry now token question judge = .settled (.ok false) := by
  unfold consult
  rw [h]

theorem consult_of_ok {expiry : Token.Expiry} {question : String → Query} {judge : String → Reply → Verdict}
    {claims : Token.Claims} (h : s.verifier.verify expiry now token = .ok claims) :
    s.consult expiry now token question judge = .ask (question claims.identity) (judge claims.identity) := by
  unfold consult
  rw [h]

/-- A question without a template is settled. -/
theorem decision_of_no_template (h : s.templates.for? q = none) : s.decision now token q = .settled (.ok false) := by
  cases q with
  | authenticate => cases h
  | isPrivileged =>
    have hnone : s.templates.superuser = none := h
    unfold decision isPrivileged
    rw [hnone]
  | checkAccess topic clientId requested => cases h

/-- Any other question takes the same course. -/
theorem decision_of_template {template : String} (h : s.templates.for? q = some template) :
    s.decision now token q = s.consult (s.expiryFor q) now token
      (fun identity => ⟨template, parametersFor identity q⟩) fun identity => s.judge identity q := by
  cases q with
  | authenticate =>
    obtain rfl := Option.some.inj h
    rfl
  | isPrivileged =>
    have hsome : s.templates.superuser = some template := h
    unfold decision isPrivileged
    rw [hsome]
    rfl
  | checkAccess topic clientId requested =>
    obtain rfl := Option.some.inj h
    rfl

/-- The settings that a store is made from say the same about a question as the store does. -/
theorem for?_of_ofSettings (hs : ofSettings settings verifier = .ok s) :
    s.templates.for? q = settings.templateFor q ∧ s.expiryFor q = settings.expiryFor q ∧ s.verifier = verifier := by
  obtain ⟨-, rfl⟩ := ofSettings_eq_ok_iff.mp hs
  exact ⟨rfl, rfl, rfl⟩

/-- A question without a template, and one about a token that is rejected, is settled. -/
theorem decision_eq_settled (hs : ofSettings settings verifier = .ok s)
    (h : settings.templateFor q = none ∨ ∃ r, verifier.verify (settings.expiryFor q) now token = .error r) :
    s.decision now token q = .settled (.ok false) := by
  obtain ⟨htemplate, hexpiry, rfl⟩ := for?_of_ofSettings (q := q) hs
  rw [← htemplate, ← hexpiry] at h
  cases hfor : s.templates.for? q with
  | none => exact decision_of_no_template hfor
  | some template =>
    obtain ⟨r, hr⟩ := h.resolve_left (by simp [hfor])
    rw [decision_of_template hfor, consult_of_error hr]

/-- Any other question is asked, about the identity in the token. -/
theorem decision_eq_ask {template : String} {claims : Token.Claims} (hs : ofSettings settings verifier = .ok s)
    (htemplate : settings.templateFor q = some template)
    (hv : verifier.verify (settings.expiryFor q) now token = .ok claims) :
    s.decision now token q = .ask ⟨template, parametersFor claims.identity q⟩ (s.judge claims.identity q) := by
  obtain ⟨hfor, hexpiry, rfl⟩ := for?_of_ofSettings (q := q) hs
  rw [← hexpiry] at hv
  rw [decision_of_template (hfor.trans htemplate), consult_of_ok hv]

/-! ## Counts -/

theorem judgeCount_rows_nil {operation : Operation} : s.judgeCount operation (.rows []) = .ok false := rfl

theorem judgeCount_rows_cons {operation : Operation} {row : Row} :
    s.judgeCount operation (.rows (row :: rows)) =
      match row.integer? 0 with
      | some n => .ok (0 < n)
      | none => .error (.decode operation "the first column of the first row is no integer") := by
  unfold judgeCount
  simp only [rowsOf, bind, Except.bind]
  cases row.integer? 0 <;> rfl

/-- A count is positive exactly if the first row begins with a positive integer. -/
theorem judgeCount_eq_true_iff {operation : Operation} :
    s.judgeCount operation reply = .ok true ↔
      ∃ row rows n, reply = .rows (row :: rows) ∧ row[0]? = some (.integer n) ∧ 0 < n := by
  constructor
  · intro h
    cases reply with
    | rows rows =>
      cases rows with
      | nil => cases h
      | cons row rows =>
        rw [judgeCount_rows_cons] at h
        cases hn : row.integer? 0 with
        | none =>
          rw [hn] at h
          cases h
        | some n =>
          rw [hn, Except.ok.injEq, decide_eq_true_iff] at h
          exact ⟨row, rows, n, rfl, Row.integer?_eq_some_iff.mp hn, h⟩
    | failed text => cases h
    | late => cases h
    | refused => cases h
  · rintro ⟨row, rows, n, rfl, hn, hpositive⟩
    rw [judgeCount_rows_cons, Row.integer?_eq_some_iff.mpr hn, Except.ok.injEq, decide_eq_true_iff]
    exact hpositive

/-! ## Faults -/

/-- Rows lead to a fault exactly if they do not have the shape that the question promises. -/
theorem judge_rows_eq_error_iff :
    (∃ fault, s.judge identity q (.rows rows) = .error fault) ↔ ¬ Decodes rows q := by
  -- The two questions that count differ in the name of their fault only.
  have hcount (operation : Operation) :
      (∃ fault, s.judgeCount operation (.rows rows) = .error fault)
        ↔ ¬ ∀ row, rows.head? = some row → ∃ n, row[0]? = some (.integer n) := by
    cases rows with
    | nil =>
      rw [judgeCount_rows_nil]
      simp
    | cons row rows =>
      rw [judgeCount_rows_cons]
      simp only [← Row.integer?_eq_some_iff, List.head?_cons, Option.some.injEq, forall_eq']
      cases row.integer? 0 with
      | none => simp
      | some n => simp
  cases q with
  | authenticate => exact hcount .user
  | isPrivileged => exact hcount .superuser
  | checkAccess topic clientId requested =>
    unfold judge Decodes
    simp only [judgeAccess_eq_error_iff, exists_and_right, exists_eq, true_and, not_forall, exists_prop]

/-- Without rows there is nothing to judge. -/
theorem judge_of_rowsOf_eq_error {fault : Fault} (h : s.rowsOf (operationOf q) reply = .error fault) :
    s.judge identity q reply = .error fault := by
  have hcount {operation : Operation} (h : s.rowsOf operation reply = .error fault) :
      s.judgeCount operation reply = .error fault := by
    unfold judgeCount
    rw [h]
    rfl
  cases q with
  | authenticate => exact hcount h
  | isPrivileged => exact hcount h
  | checkAccess topic clientId requested =>
    have hrows : s.rowsOf .access reply = .error fault := h
    change (s.rowsOf .access reply).bind _ = _
    rw [hrows]
    rfl

/-- A reply leads to a fault exactly if it has no rows, or rows of another shape. -/
theorem judge_eq_error_iff :
    (∃ fault, s.judge identity q reply = .error fault) ↔
      (∃ text, reply = .failed text) ∨ reply = .late ∨ reply = .refused
        ∨ ∃ rows, reply = .rows rows ∧ ¬ Decodes rows q := by
  cases reply with
  | rows rows =>
    rw [judge_rows_eq_error_iff]
    simp
  | failed text => exact iff_of_true ⟨_, judge_of_rowsOf_eq_error rfl⟩ (.inl ⟨text, rfl⟩)
  | late => exact iff_of_true ⟨_, judge_of_rowsOf_eq_error rfl⟩ (.inr (.inl rfl))
  | refused => exact iff_of_true ⟨_, judge_of_rowsOf_eq_error rfl⟩ (.inr (.inr (.inl rfl)))

/-- Faults and denials of a store made from settings, for every world that its database may be in and every way that
the world replies. A question without a template and a question about a token that is rejected are answered with a no,
and the database is not asked. Otherwise it is asked exactly once: the query is the template for the question with the
identity in the token, which is not empty, and for a topic with the level. Then the answer is a fault exactly if the
query fails, times out, is refused, or has rows of another shape than the question promises. The two questions that
count are answered with a yes exactly if the first row begins with a positive integer, and with a no if there is no
row. -/
theorem decision_run (settings : Settings) (verifier : Token.Verifier) (s : Store)
    (hs : ofSettings settings verifier = .ok s) {World : Type} (respond : Query → StateM World Reply) (w : World)
    (record : List Query) (q : Question) (now : Instant) (token : String) :
    (settings.templateFor q = none ∨ (∃ r, verifier.verify (settings.expiryFor q) now token = .error r) →
        (s.decision now token q).run (recording respond) (w, record) = (.ok false, (w, record)))
      ∧ ∀ template claims, settings.templateFor q = some template →
          verifier.verify (settings.expiryFor q) now token = .ok claims →
          claims.identity ≠ "" ∧ ∃ answer reply w',
            respond ⟨template, parametersFor claims.identity q⟩ w = (reply, w')
              ∧ (s.decision now token q).run (recording respond) (w, record)
                = (answer, (w', record ++ [⟨template, parametersFor claims.identity q⟩]))
              ∧ ((∃ fault, answer = .error fault) ↔
                  (∃ text, reply = .failed text) ∨ reply = .late ∨ reply = .refused
                    ∨ ∃ rows, reply = .rows rows ∧ ¬ Decodes rows q)
              ∧ (q = .authenticate ∨ q = .isPrivileged →
                  (answer = .ok true ↔
                    ∃ row rows n, reply = .rows (row :: rows) ∧ row[0]? = some (.integer n) ∧ 0 < n)
                  ∧ (reply = .rows [] → answer = .ok false)) := by
  constructor
  · intro h
    rw [decision_eq_settled hs h, Policy.Consultation.run_recording_settled]
  · intro template claims htemplate hv
    -- The world is asked this query and nothing else, so its reply and its next state are the only ones there are.
    refine ⟨Token.Verifier.identity_ne_empty_of_verify hv, ?_⟩
    let query : Query := ⟨template, parametersFor claims.identity q⟩
    refine ⟨s.judge claims.identity q (respond query w).1, (respond query w).1, (respond query w).2, rfl, ?_,
      judge_eq_error_iff, ?_⟩
    · rw [decision_eq_ask hs htemplate hv, Policy.Consultation.run_recording_ask]
    · -- Both count, by the same judge.
      rintro (rfl | rfl)
      · refine ⟨judgeCount_eq_true_iff, fun hnil => ?_⟩
        rw [hnil]
        rfl
      · refine ⟨judgeCount_eq_true_iff, fun hnil => ?_⟩
        rw [hnil]
        rfl

/-- A database that is late once and counts one afterwards: the first question is a fault and the second one a yes, each
after one query. Without a template nobody is a superuser, and the database is not asked. -/
theorem decision_run_late_once :
    let settings : Settings := ⟨"sqlite::memory:", 1, .ofSeconds 5, ⟨"users", none, "grants"⟩, true, true⟩
    let verifier : Token.Verifier := ⟨.hs256, .shared (Utf8.encode "k"), "username", none, none, 0⟩
    let token := Token.sign (.object [("username", .string "u")]) "k"
    let respond : Query → StateM Nat Reply := fun _ n => (if n = 0 then .late else .rows [[.integer 1]], n + 1)
    let s : Store := ⟨verifier, settings.templates, .ofSeconds 5, true, true⟩
    ofSettings settings verifier = .ok s
      ∧ (s.decision .epoch token .isPrivileged).run (recording respond) (0, []) = (.ok false, (0, []))
      ∧ (∃ fault, (s.decision .epoch token .authenticate).run (recording respond) (0, [])
          = (.error fault, (1, [⟨"users", [.text "u"]⟩])))
      ∧ (s.decision .epoch token .authenticate).run (recording respond) (1, [])
          = (.ok true, (2, [⟨"users", [.text "u"]⟩])) := by
  intro settings verifier token respond s
  have hs : ofSettings settings verifier = .ok s := ofSettings_eq_ok_iff.mpr ⟨by decide +kernel, rfl⟩
  have hv : verifier.verify (settings.expiryFor .authenticate) .epoch token
      = .ok ⟨"u", none, none, [], none, none, none⟩ := by
    decide +kernel
  refine ⟨hs, ?_, ?_, ?_⟩
  · exact (decision_run settings verifier s hs respond 0 [] .isPrivileged .epoch token).1 (.inl rfl)
  · obtain ⟨-, answer, reply, w', hreply, hanswer, hfault, -⟩ :=
      (decision_run settings verifier s hs respond 0 [] .authenticate .epoch token).2 "users" _ rfl hv
    cases hreply
    obtain ⟨fault, rfl⟩ := hfault.mpr (.inr (.inl rfl))
    exact ⟨fault, hanswer⟩
  · obtain ⟨-, answer, reply, w', hreply, hanswer, -, hcount⟩ :=
      (decision_run settings verifier s hs respond 1 [] .authenticate .epoch token).2 "users" _ rfl hv
    cases hreply
    obtain rfl := (hcount (.inl rfl)).1.mpr ⟨_, _, 1, rfl, rfl, by decide⟩
    exact hanswer

end TopicGuard.Store
