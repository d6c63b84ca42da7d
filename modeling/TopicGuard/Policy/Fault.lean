import TopicGuard.Time.Span

/-!
Faults of a policy decision.

A decision is a yes or a no; a fault says that no decision could be made. The two are never mixed, and where
only a yes or a no will do, a fault counts as a no.
-/

set_option autoImplicit false

namespace TopicGuard.Policy

/-- Why no decision could be made. -/
inductive Fault where
  | store (text : String)
  | transport (text : String)
  /-- The operation took longer than it may. -/
  | timeout (operation : String) (limit : Span)
  | malformedResponse (text : String)
  | closed
deriving DecidableEq, Repr

namespace Fault

/-- A short label. -/
def label : Fault → String
  | .store _ => "store"
  | .transport _ => "transport"
  | .timeout _ _ => "timeout"
  | .malformedResponse _ => "malformed_response"
  | .closed => "closed"

/-- The wording of a fault. -/
def message : Fault → String
  | .store text => s!"policy store error: {text}"
  | .transport text => s!"policy service transport error: {text}"
  | .timeout operation limit => s!"{operation} timed out after {limit.render}"
  | .malformedResponse text => s!"policy service returned a malformed response: {text}"
  | .closed => "policy backend has been closed"

end Fault

/-- A decision, or the fault that prevented it. -/
abbrev Verdict := Except Fault Bool

/-- A yes only if there is a decision and it is yes. -/
def failClosed : Verdict → Bool
  | .ok allowed => allowed
  | .error _ => false

end TopicGuard.Policy
