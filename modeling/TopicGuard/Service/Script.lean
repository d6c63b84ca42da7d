import TopicGuard.Service

/-!
A service that follows a script.

The script says, one step a request, what becomes of the requests that arrive; when it is used up, every
request meets an empty response with status 500. The service listens on one port of the local machine. A
request that goes elsewhere does not arrive and uses up no step.
-/

set_option autoImplicit false

namespace TopicGuard.Service

/-- What becomes of one request. -/
inductive Script.Step where
  /-- A response; the body breaks off if it is announced longer than it is. -/
  | respond (status : Nat) (body : Bytes) (isShort : Bool)
  /-- The connection is closed without a response. -/
  | drop
  /-- Nothing ever comes. -/
  | hang
deriving DecidableEq, Repr

/-- The steps that are left, and the requests that have arrived. -/
structure Script where
  steps : List Script.Step
  arrived : List Request := []
deriving DecidableEq, Repr

namespace Script

/-- The port that the service listens on. -/
def port : Nat := 18080

/-- The host that the service listens on. -/
def host : Host := .ipv4 0x7F000001

/-- The request goes to the service. -/
def isReachedBy (q : Request) : Bool :=
  q.url.origin.scheme == .http && q.url.origin.host == host && q.url.origin.effectivePort == port

/-- A response with that status has no body, whatever follows it. -/
def isBodiless (status : Nat) : Bool :=
  status == 204 || status == 304

/-- What the sender sees of a step. A status always has three digits. -/
def Step.reply : Step → Reply
  | .respond status body isShort =>
    if status < 100 || 999 < status then .lapse .broken
    else if isBodiless status then .response status (.ok [])
    else .response status (if isShort then .error .broken else .ok body)
  | .drop => .lapse .broken
  | .hang => .lapse .late

/-- What becomes of a request when no steps are left. -/
def lastStep : Step := .respond 500 [] false

/-- What the sender of a request sees, and the script afterwards. -/
def exchange (s : Script) (q : Request) : Reply × Script :=
  if isReachedBy q then
    ((s.steps.headD lastStep).reply, ⟨s.steps.tail, s.arrived ++ [q]⟩)
  else (.lapse .broken, s)

end Script

end TopicGuard.Service
