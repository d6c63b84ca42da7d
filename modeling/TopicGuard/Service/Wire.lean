import TopicGuard.AccessLevel
import TopicGuard.Json.Record
import TopicGuard.Text.Blank
import TopicGuard.Text.Percent
import TopicGuard.Text.Quoted

/-!
What travels between a broker and an authorization service.

A request carries its parameters as a JSON object or as a form. Questions about an identity have no
parameters, since the token travels in a header of its own; questions about a topic have three. A response is
read as a JSON verdict, by its status alone, or as the word for yes.
-/

set_option autoImplicit false

namespace TopicGuard.Service

/-! ## Modes -/

/-- How parameters are written. -/
inductive ParamsMode where
  | json
  | form
deriving DecidableEq, Repr

/-- How responses are read. -/
inductive ResponseMode where
  /-- The body is a JSON verdict; the status does not matter. -/
  | json
  /-- The status alone decides. -/
  | status
  /-- The body must be the word for yes. -/
  | text
deriving DecidableEq, Repr

/-- A name that is no mode. -/
structure UnknownMode where
  kind : String
  value : String
deriving DecidableEq, Repr

/-- The wording of an unknown mode. -/
def UnknownMode.message (e : UnknownMode) : String :=
  s!"unknown {e.kind} mode: {Text.quote e.value}"

/-- A name without white space around it, in lower case. -/
def normalizeName (s : String) : String :=
  (Text.trim s).map Char.toLower

namespace ParamsMode

/-- The modes. -/
def all : List ParamsMode := [.json, .form]

/-- The name of a mode. -/
def name : ParamsMode → String
  | .json => "json"
  | .form => "form"

/-- The mode with exactly that name. -/
def ofName? (s : String) : Option ParamsMode :=
  all.find? fun m => m.name == s

/-- The mode with that name, in any case and with white space around it. -/
def parse (s : String) : Except UnknownMode ParamsMode :=
  match ofName? (normalizeName s) with
  | some m => .ok m
  | none => .error ⟨"params", s⟩

end ParamsMode

namespace ResponseMode

/-- The modes. -/
def all : List ResponseMode := [.json, .status, .text]

/-- The name of a mode. -/
def name : ResponseMode → String
  | .json => "json"
  | .status => "status"
  | .text => "text"

/-- The mode with exactly that name. -/
def ofName? (s : String) : Option ResponseMode :=
  all.find? fun m => m.name == s

/-- The mode with that name, in any case and with white space around it. -/
def parse (s : String) : Except UnknownMode ResponseMode :=
  match ofName? (normalizeName s) with
  | some m => .ok m
  | none => .error ⟨"response", s⟩

end ResponseMode

/-! ## Requests -/

/-- The parameters of a question. -/
inductive Parameters where
  /-- A question about the identity alone. -/
  | none
  /-- A question about a topic. -/
  | access (topic clientId : String) (level : AccessLevel)
deriving DecidableEq, Repr

/-- The parameters as a JSON value. -/
def Parameters.toJson : Parameters → Json
  | .none => .object []
  | .access topic clientId level => .object [("topic", .string topic),
      ("clientid", .string clientId), ("acc", .number (.int level.toInt))]

/-- The parameters as named values. -/
def Parameters.toPairs : Parameters → List (String × String)
  | .none => []
  | .access topic clientId level =>
    [("topic", topic), ("clientid", clientId), ("acc", toString level.toInt)]

/-- A request body with its content type. -/
structure Content where
  contentType : String
  body : String
deriving DecidableEq, Repr

/-- The parameters as a request body. -/
def encode (mode : ParamsMode) (p : Parameters) : Content :=
  match mode with
  | .json => ⟨"application/json", p.toJson.render⟩
  | .form => ⟨"application/x-www-form-urlencoded", Form.render p.toPairs⟩

/-! ## Responses -/

/-- The record of a JSON verdict. -/
def verdictLayout : Json.Layout where
  fields := [["ok", "Ok"], ["error", "Error"]]
  least := 1

/-- The verdict in a JSON record. The explanation has to be a text or null, but does not matter. -/
def verdict? (x : Json.Raw) : Option Bool := do
  let fields ← verdictLayout.ofRaw? x
  let _ ← Json.optional Json.Raw.isNull Json.Raw.text? (fields.lookup "error")
  (← fields.lookup "ok").bool?

/-- The word for yes. -/
def wordForYes : Bytes := [0x6F, 0x6B]

/-- A response body that is no verdict. -/
structure MalformedVerdict where
  status : Nat
deriving DecidableEq, Repr

/-- The wording of an unreadable response. -/
def MalformedVerdict.message (e : MalformedVerdict) : String :=
  s!"status {e.status}, undecodable body"

/-- The verdict of a response. Only a JSON verdict can be unreadable. -/
def decode (mode : ResponseMode) (status : Nat) (body : Bytes) : Except MalformedVerdict Bool :=
  match mode with
  | .json =>
    match (Json.Raw.ofBytes? body).bind verdict? with
    | some allowed => .ok allowed
    | none => .error ⟨status⟩
  | .status => .ok (status == 200)
  | .text => .ok (status == 200 && body == wordForYes)

end TopicGuard.Service
