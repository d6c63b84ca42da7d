import TopicGuard.Token.Claims

/-!
Checks on a payload before its claims are read.

The registered claims are looked at once on their own: none may be repeated, and some shapes of `sub`, `exp`
and `nbf` make a payload unreadable. Where an issuer or an audience is expected, the claim is compared with
it, but only a claim that is a text or a list of texts can fail the comparison: one that is missing or of
another kind passes here.
-/

set_option autoImplicit false

namespace TopicGuard.Token.Payload

/-- The claims that must not be repeated. -/
def registered : List String := ["exp", "nbf", "sub", "iss", "aud"]

/-- The claim occurs more than once. -/
def isRepeated (payload : Payload) (claim : String) : Bool :=
  1 < (payload.filter fun m => m.1 == claim).length

/-- A list or an object. -/
def isContainer : Json → Bool
  | .array _ | .object _ => true
  | _ => false

/-- A list or an object with something in it. -/
def isFilledContainer : Json → Bool
  | .array items => !items.isEmpty
  | .object members => !members.isEmpty
  | _ => false

/-- The claim has a value that passes the test. -/
def claimIs (payload : Payload) (claim : String) (test : Json → Bool) : Bool :=
  (Json.lookup? payload claim).any test

/-- The registered claims are readable. -/
def isReadable (payload : Payload) : Bool :=
  !registered.any (isRepeated payload) && !claimIs payload "sub" isContainer
    && !claimIs payload "exp" isFilledContainer && !claimIs payload "nbf" isFilledContainer

/-- The texts of a claim that is a text or a list of texts. -/
def texts? : Json → Option (List String)
  | .string s => some [s]
  | .array items => items.mapM fun x => match x with
    | .string s => some s
    | _ => none
  | _ => none

/-- The claim does not contradict the expected value. -/
def agrees (payload : Payload) (claim : String) (expected : Option String) : Bool :=
  match expected, (Json.lookup? payload claim).bind texts? with
  | some value, some texts => texts.contains value
  | _, _ => true

end TopicGuard.Token.Payload
