import TopicGuard.Proofs.Engine.Parity
import TopicGuard.Proofs.Service.Run

/-!
What an engine answers after it has been closed.

The clones of an engine share its connections, so a call through any of them is a call on the one engine, and a run is
any sequence of questions and closings (`run`). Once there has been a closing the engine stays closed (`isClosed_run`),
and nothing outside is reached any more.

A closed service refuses every question before it looks at the token. A store has no such check of its own: it is its
database that refuses the query. So a question that is never put to the database is answered as before the closing,
with a no, and `decision_after_closing_iff` says of which questions this is true: those without a template, and those
about a token that is rejected. It is always a no, so that a closed engine never allows anything.
-/

set_option autoImplicit false

namespace TopicGuard

open Policy (Question)

namespace Store

variable {s : Store} {now : Instant} {token : String} {q : Question}

/-! ## Questions that are put to a database -/

/-- The question is put to the database: there is a template for it, and its token is not rejected. -/
def Asks (s : Store) (now : Instant) (token : String) (q : Question) : Prop :=
  s.templates.for? q ≠ none ∧ ∃ claims, s.verifier.verify (s.expiryFor q) now token = .ok claims

/-- A question that is put to a database that takes no queries is a fault. -/
theorem answer_refused_of_asks (h : s.Asks now token q) :
    (s.decision now token q).answer (fun _ => .refused) = .error .closed := by
  obtain ⟨htemplate, claims, hclaims⟩ := h
  obtain ⟨template, hfor⟩ := Option.ne_none_iff_exists'.mp htemplate
  have hrefused : s.judge claims.identity q .refused = .error .closed := judge_of_rowsOf_eq_error rfl
  rw [decision_of_template hfor, consult_of_ok hclaims]
  exact hrefused

/-- Any other question is a no, whatever the database does. -/
theorem answer_of_not_asks (h : ¬ s.Asks now token q) (respond : Query → Reply) :
    (s.decision now token q).answer respond = .ok false := by
  cases hfor : s.templates.for? q with
  | none =>
    rw [decision_of_no_template hfor]
    rfl
  | some template =>
    rw [decision_of_template hfor]
    cases hverify : s.verifier.verify (s.expiryFor q) now token with
    | error r =>
      rw [consult_of_error hverify]
      rfl
    | ok claims => exact absurd ⟨by simp [hfor], claims, hverify⟩ h

end Store

namespace Engine

open Service (Call)

variable {World : Type} {outside : Outside (StateM World)} {e : Engine} {w : World} {calls : List Call}
  {now : Instant} {token : String} {q : Question}

/-! ## Single questions -/

/-- The question needs an open backend: a service takes no question after a closing, and a store none that it puts to
its database. -/
def NeedsOpen (e : Engine) (now : Instant) (token : String) (q : Question) : Prop :=
  match e.backend with
  | .store s => s.Asks now token q
  | .service _ => True

theorem decision_of_store {s : Store} (h : e.backend = .store s) :
    e.decision outside now token q = e.runStore outside (s.decision now token q) := by
  obtain ⟨backend, closed⟩ := e
  obtain rfl := h
  cases q <;> rfl

theorem decision_of_service {s : Service} (h : e.backend = .service s) :
    e.decision outside now token q = runService outside (s.decision e.isClosed now token q) := by
  obtain ⟨backend, closed⟩ := e
  obtain rfl := h
  cases q <;> rfl

/-- A closed engine answers as if the database refused the query, and leaves the world as it is. -/
theorem runStore_of_isClosed (h : e.isClosed = true) (c : Store.Consultation) :
    e.runStore outside c w = ((c.answer fun _ => .refused).mapError Store.Fault.toPolicy, w) := by
  cases c with
  | settled answer => rfl
  | ask query judge =>
    have hrespond : e.respondTo outside query = pure .refused := if_pos h
    change (e.respondTo outside query >>= fun reply => pure ((judge reply).mapError Store.Fault.toPolicy)) w = _
    rw [hrespond]
    rfl

theorem decision_of_needsOpen (h : e.isClosed = true) (hneeds : e.NeedsOpen now token q) :
    e.decision outside now token q w = (.error .closed, w) := by
  unfold NeedsOpen at hneeds
  cases hbackend : e.backend with
  | store s =>
    rw [hbackend] at hneeds
    rw [decision_of_store hbackend, runStore_of_isClosed h, Store.answer_refused_of_asks hneeds]
    rfl
  | service s =>
    rw [decision_of_service hbackend, Service.decision_eq, if_pos h]
    rfl

theorem decision_of_not_needsOpen (h : e.isClosed = true) (hneeds : ¬ e.NeedsOpen now token q) :
    e.decision outside now token q w = (.ok false, w) := by
  unfold NeedsOpen at hneeds
  cases hbackend : e.backend with
  | store s =>
    rw [hbackend] at hneeds
    rw [decision_of_store hbackend, runStore_of_isClosed h, Store.answer_of_not_asks hneeds]
    rfl
  | service s =>
    rw [hbackend] at hneeds
    exact absurd trivial hneeds

/-! ## Runs -/

/-- What a call through any clone leaves behind: the engine that the clones share, and the world. -/
def step (outside : Outside (StateM World)) : Engine × World → Call → Engine × World
  | (e, w), .close => (e.close, w)
  | (e, w), .ask now token q => (e, (e.decision outside now token q w).2)

/-- What a sequence of calls leaves behind. -/
def run (outside : Outside (StateM World)) (st : Engine × World) (calls : List Call) : Engine × World :=
  calls.foldl (step outside) st

variable {st : Engine × World} {call : Call}

theorem run_cons : run outside st (call :: calls) = run outside (step outside st call) calls := rfl

theorem backend_run : (run outside st calls).1.backend = st.1.backend := by
  induction calls generalizing st with
  | nil => rfl
  | cons call calls ih =>
    rw [run_cons, ih]
    cases call <;> rfl

/-- An engine is closed exactly if it has been closed, through whichever clone. -/
theorem isClosed_run : (run outside st calls).1.isClosed = true ↔ st.1.isClosed = true ∨ .close ∈ calls := by
  induction calls generalizing st with
  | nil =>
    rw [run, List.foldl_nil]
    simp
  | cons call calls ih =>
    rw [run_cons, ih]
    cases call with
    | ask now token q => simp [step]
    | close => simp [step, close]

/-- After any run with a closing in it, a question is answered with a fault exactly if it needs an open backend, that
is, if the backend is a service, or a store that would put the question to its database. Every other question is
answered with a no. Whatever the answer, nothing outside is reached. -/
theorem decision_after_closing_iff (e : Engine) {World : Type} (outside : Outside (StateM World)) (w : World)
    (calls : List Call) (hclose : .close ∈ calls) (now : Instant) (token : String) (q : Question) :
    ∃ closed w' answer, run outside (e, w) calls = (closed, w')
      ∧ closed.decision outside now token q w' = (answer, w')
      ∧ ((∃ fault, answer = .error fault) ↔ e.NeedsOpen now token q)
      ∧ (answer = .error .closed ∨ answer = .ok false) := by
  have hclosed : (run outside (e, w) calls).1.isClosed = true := isClosed_run.mpr (.inr hclose)
  have hneeds : (run outside (e, w) calls).1.NeedsOpen now token q ↔ e.NeedsOpen now token q := by
    -- No call has changed the backend.
    unfold NeedsOpen
    rw [backend_run]
  refine ⟨(run outside (e, w) calls).1, (run outside (e, w) calls).2, ?_⟩
  by_cases h : e.NeedsOpen now token q
  · exact ⟨_, rfl, decision_of_needsOpen hclosed (hneeds.mpr h), iff_of_true ⟨_, rfl⟩ h, .inl rfl⟩
  · refine ⟨_, rfl, decision_of_not_needsOpen hclosed (mt hneeds.mp h), iff_of_false ?_ h, .inr rfl⟩
    rintro ⟨fault, hfault⟩
    cases hfault

/-- A store without a template for superusers, closed after one question. The same question is a fault now; a question
about a text that is no token is still a no, and so is the one about superusers. The database has been asked once. -/
theorem decision_after_closing_of_store :
    let verifier : Token.Verifier := ⟨.hs256, .shared (Utf8.encode "k"), "username", none, none, 0⟩
    let e := ofStore ⟨verifier, ⟨"users", none, "grants"⟩, .ofSeconds 5, false, false⟩
    let outside : Outside (StateM Nat) :=
      ⟨fun _ n => (.rows [[.integer 1]], n + 1), fun _ n => (.lapse .broken, n + 1)⟩
    let token := Token.sign (.object [("username", .string "u")]) "k"
    let calls : List Call := [.ask .epoch token .authenticate, .close]
    .close ∈ calls ∧ run outside (e, 0) calls = (e.close, 1)
      ∧ e.close.decision outside .epoch token .authenticate 1 = (.error .closed, 1)
      ∧ e.close.decision outside .epoch "garbage" .authenticate 1 = (.ok false, 1)
      ∧ e.close.decision outside .epoch token .isPrivileged 1 = (.ok false, 1) := by
  intro verifier e outside token calls
  have hclose : .close ∈ calls := by simp [calls]
  have hv : verifier.verify .enforce .epoch token = .ok ⟨"u", none, none, [], none, none, none⟩ := by decide +kernel
  have hgarbage : verifier.verify .enforce .epoch "garbage" = .error (.malformed .shape) := by decide +kernel
  have hworld : (e.decision outside .epoch token .authenticate 0).2 = 1 := by
    rw [decision_of_store rfl, Store.decision_of_template rfl, Store.consult_of_ok hv]
    rfl
  have hrun : run outside (e, 0) calls = (e.close, 1) := congrArg (Prod.mk e.close) hworld
  have hafter (text : String) (q : Question) :
      ∃ answer, e.close.decision outside .epoch text q 1 = (answer, 1)
        ∧ ((∃ fault, answer = .error fault) ↔ e.NeedsOpen .epoch text q)
        ∧ (answer = .error .closed ∨ answer = .ok false) := by
    obtain ⟨closed, w', answer, hstate, hanswer, hfault⟩ :=
      decision_after_closing_iff e outside 0 calls hclose .epoch text q
    rw [hrun] at hstate
    cases hstate
    exact ⟨answer, hanswer, hfault⟩
  refine ⟨hclose, hrun, ?_, ?_, ?_⟩
  · obtain ⟨answer, hanswer, hfault, hcases⟩ := hafter token .authenticate
    obtain ⟨fault, rfl⟩ := hfault.mpr ⟨by simp [Store.Templates.for?], _, hv⟩
    obtain rfl : fault = .closed := by simpa using hcases
    exact hanswer
  · obtain ⟨answer, hanswer, hfault, hcases⟩ := hafter "garbage" .authenticate
    have hrejected : ¬ e.NeedsOpen .epoch "garbage" .authenticate := by
      rintro ⟨-, claims, hclaims⟩
      cases hgarbage.symm.trans hclaims
    obtain rfl := hcases.resolve_left fun h => hrejected (hfault.mp ⟨_, h⟩)
    exact hanswer
  · obtain ⟨answer, hanswer, hfault, hcases⟩ := hafter token .isPrivileged
    have htemplate : ¬ e.NeedsOpen .epoch token .isPrivileged := fun h => h.1 rfl
    obtain rfl := hcases.resolve_left fun h => htemplate (hfault.mp ⟨_, h⟩)
    exact hanswer

/-- A closed engine may still answer: it is not so that every question after a closing is answered with a fault. -/
theorem not_forall_fault_after_closing :
    ¬ ∀ (e : Engine) (World : Type) (outside : Outside (StateM World)) (w : World) (calls : List Call),
        .close ∈ calls → ∀ (now : Instant) (token : String) (q : Question),
          ∃ fault, ((run outside (e, w) calls).1.decision outside now token q (run outside (e, w) calls).2).1
            = .error fault := by
  intro h
  let verifier : Token.Verifier := ⟨.hs256, .shared (Utf8.encode "k"), "username", none, none, 0⟩
  let e := ofStore ⟨verifier, ⟨"users", some "superusers", "grants"⟩, .ofSeconds 5, false, false⟩
  let outside : Outside (StateM Unit) := ⟨fun _ => pure .refused, fun _ => pure (.lapse .broken)⟩
  have hrejected : verifier.verify .enforce .epoch "garbage" = .error (.malformed .shape) := by decide +kernel
  -- The token is rejected before the database is asked, the only place where the closing would be noticed.
  have hneeds : ¬ e.close.NeedsOpen .epoch "garbage" .authenticate := by
    rintro ⟨-, claims, hclaims⟩
    cases hrejected.symm.trans hclaims
  obtain ⟨fault, hfault⟩ := h e Unit outside () [.close] (List.mem_singleton_self _) .epoch "garbage" .authenticate
  have hanswer : e.close.decision outside .epoch "garbage" .authenticate () = (.ok false, ()) :=
    decision_of_not_needsOpen rfl hneeds
  rw [run, List.foldl_cons, List.foldl_nil, step, hanswer] at hfault
  cases hfault

end Engine

end TopicGuard
