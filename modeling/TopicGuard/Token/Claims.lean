import TopicGuard.Json.Value
import TopicGuard.Time.Instant
import TopicGuard.Token.Rejection

/-!
Claims.

The payload of a token is a JSON object. `Claims.ofPayload` reads what is asked of it, in a fixed order, so
that a payload with several faults is rejected for the first. `Claims.checkWindow` compares the validity
window with a clock; sums and differences stop at the ends of the 64-bit range, which never changes the
outcome, since no instant lies near them.
-/

set_option autoImplicit false

namespace TopicGuard.Token

/-- The members of a token's payload. -/
abbrev Payload := List (String × Json)

/-- What a verified token says. -/
structure Claims where
  /-- Who holds the token; never empty. -/
  identity : String
  subject : Option String
  issuer : Option String
  audience : List String
  issuedAt : Option Instant
  notBefore : Option Instant
  expiresAt : Option Instant
deriving DecidableEq

namespace Claims

/-! ## Reading -/

/-- A claim that names the identity must be a text that is not empty. -/
def identityOf (payload : Payload) (claim : String) : Except Rejection String :=
  match Json.lookup? payload claim with
  | some (.string s) => if s.isEmpty then .error (.missingIdentity claim) else .ok s
  | _ => .error (.missingIdentity claim)

/-- A claim that is a text, if anything. -/
def textOf (payload : Payload) (claim : String) : Except Rejection (Option String) :=
  match Json.lookup? payload claim with
  | none | some .null => .ok none
  | some (.string s) => .ok (some s)
  | some _ => .error (.malformed (.notText claim))

/-- An entry in a list of audiences. -/
def audienceEntry : Json → Except Rejection String
  | .string s => .ok s
  | _ => .error (.malformed .audienceEntry)

/-- The audiences: one text or a list of texts, if anything. -/
def audienceOf (payload : Payload) : Except Rejection (List String) :=
  match Json.lookup? payload "aud" with
  | none | some .null => .ok []
  | some (.string s) => .ok [s]
  | some (.array items) => items.mapM audienceEntry
  | some _ => .error (.malformed .audienceKind)

/-- The whole seconds of a number. -/
def seconds? : Json.Number → Option Int
  | .int n => some n
  | .decimal d => d.truncate?

/-- A claim that is a time, if anything. -/
def timeOf (payload : Payload) (claim : String) : Except Rejection (Option Instant) :=
  match Json.lookup? payload claim with
  | none | some .null => .ok none
  | some (.number n) =>
    match (seconds? n).bind Instant.ofSeconds? with
    | some t => .ok (some t)
    | none => .error (.malformed (.notTimestamp claim))
  | some _ => .error (.malformed (.notTimestamp claim))

/-- The claims of a payload; `claim` is the one that names the identity. -/
def ofPayload (payload : Payload) (claim : String) : Except Rejection Claims := do
  let identity ← identityOf payload claim
  let subject ← textOf payload "sub"
  let issuer ← textOf payload "iss"
  let audience ← audienceOf payload
  let issuedAt ← timeOf payload "iat"
  let notBefore ← timeOf payload "nbf"
  let expiresAt ← timeOf payload "exp"
  return { identity, subject, issuer, audience, issuedAt, notBefore, expiresAt }

/-! ## The validity window -/

/-- The nearest number in the signed 64-bit range. -/
def saturate (n : Int) : Int :=
  max (-0x8000000000000000) (min 0x7FFFFFFFFFFFFFFF n)

/-- Compares the window with the second that the present time is in, tolerating a clock that is off by so many
seconds. Missing bounds are open, and both bounds belong to the window. -/
def checkWindow (c : Claims) (now : Instant) (leeway : UInt64) : Except Rejection Unit := do
  let leeway := saturate leeway.toNat
  match c.notBefore with
  | some nbf => if saturate (now.seconds + leeway) < nbf.seconds then throw .notYetValid
  | none => pure ()
  match c.expiresAt with
  | some exp => if exp.seconds < saturate (now.seconds - leeway) then throw .expired
  | none => pure ()

end Claims

end TopicGuard.Token
