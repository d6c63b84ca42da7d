import TopicGuard.Proofs.Policy.Directory
import TopicGuard.Proofs.Service.Run
import TopicGuard.Proofs.Service.Wire

/-!
A server that speaks for a policy.

The server knows no more than a request tells: the identity is in the token of the header, and the question in the
address and in the body (`SpeaksFor`). A service that verifies tokens before it sends them gives the verdict of the
policy that its server speaks for (`answer_of_speaksFor`), in every mode.

Unless the questions about identities share an address, there is such a server for every policy and every mode
(`speaksFor_spokesman`).
-/

set_option autoImplicit false

namespace TopicGuard.Service

open Policy (Question Directory)

variable {d : Directory} {s : Service} {settings : Settings} {verifier : Token.Verifier} {server : Request → Reply}
  {token : String} {now : Instant} {q : Question}

/-! ## What requests ask -/

/-- The question that a request is, from its address and its parameters. -/
def questionOf? : Operation → Parameters → Option Question
  | .user, .none => some .authenticate
  | .superuser, .none => some .isPrivileged
  | .access, .access topic clientId requested => some (.checkAccess topic clientId requested)
  | _, _ => none

/-- The server speaks for the policy. It takes the identity from the token in the header, without verifying anything,
and the question from the address and from the body, which it reads in the mode for parameters; its reply conveys what
the policy says, in the mode for responses. -/
def SpeaksFor (d : Directory) (identityClaim : String) (settings : Settings) (server : Request → Reply) : Prop :=
  ∀ endpoints operation request identity parameters q, settings.endpoints = .ok endpoints →
    request.url = endpoints.of operation →
    Token.namedIdentity? identityClaim request.authorization = some identity →
    readParameters? settings.paramsMode (Utf8.encode request.content.body) = some parameters →
    questionOf? operation parameters = some q →
    Conveys settings.responseMode (d.allows identity q) (server request)

theorem ofSettings_eq_ok_iff {verifier : Option Token.Verifier} {buildClient : ClientOptions → Except String Unit} :
    ofSettings settings verifier buildClient = .ok s ↔
      ∃ endpoints, settings.endpoints = .ok endpoints ∧ buildClient settings.clientOptions = .ok ()
        ∧ s = ⟨endpoints, settings.paramsMode, settings.responseMode, settings.timeout, verifier⟩ := by
  unfold ofSettings
  simp only [Outcome.bind_eq_ok_iff, Outcome.mapError_eq_ok_iff]
  refine exists_congr fun endpoints => and_congr_right fun _ => ?_
  constructor
  · rintro ⟨_, hbuild, h⟩
    cases h
    exact ⟨hbuild, rfl⟩
  · rintro ⟨hbuild, rfl⟩
    exact ⟨(), hbuild, rfl⟩

/-- With addresses for all questions, making a service fails only where its client cannot be built. -/
theorem ofSettings_eq_error_iff {verifier : Option Token.Verifier} {buildClient : ClientOptions → Except String Unit}
    {endpoints : Endpoints} {cause : SettingsError} (hendpoints : settings.endpoints = .ok endpoints) :
    ofSettings settings verifier buildClient = .error cause ↔
      ∃ text, buildClient settings.clientOptions = .error text ∧ .client text = cause := by
  unfold ofSettings
  rw [Outcome.bind_eq_error_iff_of_ok hendpoints, Outcome.bind_eq_error_iff_of_ne nofun,
    Outcome.mapError_eq_error_iff]

theorem questionOf?_parametersOf (q : Question) : questionOf? (operationOf q) (parametersOf q) = some q := by
  cases q <;> rfl

/-- A reply that conveys a verdict is judged as this verdict. -/
theorem judge_of_conveys {operation : Operation} {allowed : Bool} {reply : Reply}
    (h : Conveys s.responseMode allowed reply) : s.judge operation reply = .ok allowed :=
  judge_eq_ok_iff.mpr (decode_of_conveys h)

/-- A token that is rejected here is not admitted. -/
theorem admits_of_verify_error {r : Token.Rejection} (hs : s.verifier = some verifier)
    (h : verifier.verify .enforce now token = .error r) : s.admits now token = false := by
  unfold admits passes
  simp only [hs, h, Bool.false_and]

/-- One that is verified here is, for it can stand in a header. -/
theorem admits_of_verify_ok {claims : Token.Claims} (hs : s.verifier = some verifier)
    (h : verifier.verify .enforce now token = .ok claims) : s.admits now token = true := by
  unfold admits passes
  simp only [hs, h, Bool.true_and]
  exact isHeaderValue_of_verify h

/-- With a server that speaks for the policy, a service that verifies tokens gives the verdict of the policy. -/
theorem answer_of_speaksFor {buildClient : ClientOptions → Except String Unit}
    (hs : ofSettings settings (some verifier) buildClient = .ok s)
    (hserver : SpeaksFor d verifier.identityClaim settings server) :
    (s.decision false now token q).answer server = .ok (d.verdict verifier now token q) := by
  obtain ⟨endpoints, hendpoints, -, rfl⟩ := ofSettings_eq_ok_iff.mp hs
  rw [decision_eq, if_neg Bool.false_ne_true]
  cases hv : verifier.verify .enforce now token with
  | error r =>
    rw [admits_of_verify_error rfl hv, if_neg Bool.false_ne_true, Directory.verdict_of_error hv]
    rfl
  | ok claims =>
    rw [admits_of_verify_ok rfl hv, if_pos rfl, Directory.verdict_of_ok hv]
    -- The server finds in the request the identity and the question that it was made from.
    exact judge_of_conveys (hserver endpoints _ _ _ _ _ hendpoints rfl (Token.namedIdentity?_of_verify hv)
      (readParameters?_encode settings.paramsMode (parametersOf q)) (questionOf?_parametersOf q))

/-! ## A server -/

/-- The question at an address. Those about identities need addresses of their own. -/
def questionAt? (endpoints : Endpoints) (url : Url) : Parameters → Option Question
  | .none =>
    if url = endpoints.user then some .authenticate
    else if url = endpoints.superuser then some .isPrivileged
    else none
  | .access topic clientId requested =>
    if url = endpoints.access then some (.checkAccess topic clientId requested) else none

/-- The question in a request. -/
def asked? (endpoints : Endpoints) (mode : ParamsMode) (request : Request) : Option Question :=
  (readParameters? mode (Utf8.encode request.content.body)).bind (questionAt? endpoints request.url)

/-- A reply with a verdict. -/
def verdictReply (mode : ResponseMode) (allowed : Bool) : Reply :=
  match mode with
  | .json => .response 200 (.ok (Utf8.encode (verdictJson allowed "").render))
  | .status => .response (if allowed then 200 else 403) (.ok [])
  | .text => .response 200 (.ok (if allowed then wordForYes else []))

/-- A server that speaks for a policy. It refuses what it cannot read. -/
def spokesman (d : Directory) (identityClaim : String) (settings : Settings) (endpoints : Endpoints)
    (request : Request) : Reply :=
  match Token.namedIdentity? identityClaim request.authorization, asked? endpoints settings.paramsMode request with
  | some identity, some q => verdictReply settings.responseMode (d.allows identity q)
  | _, _ => .response 400 (.ok [])

theorem conveys_verdictReply (mode : ResponseMode) (allowed : Bool) :
    Conveys mode allowed (verdictReply mode allowed) := by
  cases mode with
  | json => exact .json allowed 200 ""
  | status =>
    cases allowed with
    | true => exact .statusYes _
    | false => exact .statusNo 403 _ (by decide)
  | text =>
    cases allowed with
    | true => exact .textYes
    | false => exact .textNo 200 [] (.inr (by decide))

/-- Unless the addresses are the same, the question at the address of an operation is the one that the operation is. -/
theorem questionAt?_of {endpoints : Endpoints} {operation : Operation} {parameters : Parameters}
    (hne : endpoints.user ≠ endpoints.superuser) (hq : questionOf? operation parameters = some q) :
    questionAt? endpoints (endpoints.of operation) parameters = some q := by
  cases operation with
  | user =>
    cases parameters with
    | none => rw [← hq, questionAt?, Endpoints.of, if_pos rfl, questionOf?]
    | access topic clientId requested => cases hq
  | superuser =>
    cases parameters with
    | none => rw [← hq, questionAt?, Endpoints.of, if_neg hne.symm, if_pos rfl, questionOf?]
    | access topic clientId requested => cases hq
  | access =>
    cases parameters with
    | none => cases hq
    | access topic clientId requested => rw [← hq, questionAt?, Endpoints.of, if_pos rfl, questionOf?]

/-- Where the questions about identities have different addresses, any policy can be spoken for, in any mode. -/
theorem speaksFor_spokesman {identityClaim : String} {endpoints : Endpoints}
    (hendpoints : settings.endpoints = .ok endpoints) (hne : endpoints.user ≠ endpoints.superuser) :
    SpeaksFor d identityClaim settings (spokesman d identityClaim settings endpoints) := by
  intro endpoints' operation request identity parameters q hendpoints' hurl hidentity hread hq
  obtain rfl : endpoints = endpoints' := by
    rw [hendpoints, Except.ok.injEq] at hendpoints'
    exact hendpoints'
  have hasked : asked? endpoints settings.paramsMode request = some q := by
    rw [asked?, hread, Option.bind_some, hurl, questionAt?_of hne hq]
  unfold spokesman
  simp only [hidentity, hasked]
  exact conveys_verdictReply settings.responseMode (d.allows identity q)

end TopicGuard.Service
