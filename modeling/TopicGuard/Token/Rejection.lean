/-!
Why a token is rejected.

A rejection is an expected outcome for a bad or stale token, not a fault of the system.
-/

set_option autoImplicit false

namespace TopicGuard.Token

/-- What makes a token unreadable. -/
inductive Defect where
  /-- It does not have three parts. -/
  | shape
  /-- A part is not base 64. -/
  | base64
  /-- A part is not the JSON it should be. -/
  | json
  /-- A claim that must be a text is not. -/
  | notText (claim : String)
  /-- A claim that must be a time is none. -/
  | notTimestamp (claim : String)
  /-- The list of audiences holds something else than texts. -/
  | audienceEntry
  /-- The audience is neither a text nor a list. -/
  | audienceKind
deriving DecidableEq, Repr

/-- The wording of a defect. -/
def Defect.message : Defect → String
  | .shape => "InvalidToken"
  | .base64 => "Base64 error"
  | .json => "JSON error"
  | .notText claim => s!"'{claim}' claim is not a string"
  | .notTimestamp claim => s!"'{claim}' claim is not a valid timestamp"
  | .audienceEntry => "'aud' claim has a non-string entry"
  | .audienceKind => "'aud' claim is not a string or array"

/-- Why a token is rejected. -/
inductive Rejection where
  | malformed (defect : Defect)
  | badSignature
  | expired
  | notYetValid
  /-- The claim that should name the identity does not. -/
  | missingIdentity (claim : String)
  | invalidIssuer
  | invalidAudience
deriving DecidableEq, Repr

/-- The wording of a rejection. -/
def Rejection.message : Rejection → String
  | .malformed defect => s!"malformed token: {defect.message}"
  | .badSignature => "token signature verification failed"
  | .expired => "token expired"
  | .notYetValid => "token not yet valid"
  | .missingIdentity claim => s!"token has no usable '{claim}' claim"
  | .invalidIssuer => "token issuer not accepted"
  | .invalidAudience => "token audience not accepted"

end TopicGuard.Token
