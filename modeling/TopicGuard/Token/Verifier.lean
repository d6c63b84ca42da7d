import TopicGuard.FileAccess
import TopicGuard.Secret
import TopicGuard.Token.Header
import TopicGuard.Token.Payload

/-!
Verifying tokens.

A token is three base-64 parts between dots: a header, a payload and a signature over the first two. A
`Verifier` is made from settings once, which is when key material is loaded, and then answers for any number
of tokens. Nothing in the payload is looked at before the signature has been found right.
-/

set_option autoImplicit false

namespace TopicGuard.Token

/-! ## Settings -/

/-- Where the key comes from. -/
inductive KeySource where
  /-- A shared secret. -/
  | secret (value : Secret String)
  /-- An armoured public key. -/
  | pem (text : String)
  /-- A file with an armoured public key, read once. -/
  | file (path : String)
deriving DecidableEq

/-- How tokens are verified. -/
structure Settings where
  algorithm : Algorithm
  key : Option KeySource
  /-- The claim that names the identity. -/
  identityClaim : String
  issuer : Option String
  audience : Option String
  /-- The tolerated difference between clocks, in seconds. -/
  leeway : UInt64
deriving DecidableEq

namespace Settings

/-- The claim that names the identity unless another is set. -/
def defaultIdentityClaim : String := "username"

/-- There is something to verify signatures with. -/
def hasKey (s : Settings) : Bool :=
  match s.key with
  | some (.secret value) => !value.isEmpty
  | some _ => true
  | none => false

end Settings

/-- Why settings cannot be used. -/
inductive SetupError where
  | emptyIdentityClaim
  | missingKey (algorithm : Algorithm)
  /-- The key is of the wrong kind; `expected` describes the right one. -/
  | keyMismatch (algorithm : Algorithm) (expected : String)
  | keyFile (path : String) (fault : FileFault)
  | invalidKey
deriving DecidableEq, Repr

/-- The wording of a setup error. -/
def SetupError.message : SetupError → String
  | .emptyIdentityClaim => "identity claim name must not be empty"
  | .missingKey a => s!"no key material configured for {a.name}"
  | .keyMismatch a expected => s!"{a.name} requires {expected} key material"
  | .keyFile path fault => s!"failed to read public key at {path}: {fault.message}"
  | .invalidKey => "invalid public key: InvalidKeyFormat"

/-! ## Parts of a token -/

/-- A token cut at its last two dots. -/
structure Parts where
  header : List Char
  payload : List Char
  signature : List Char
deriving DecidableEq, Repr

namespace Parts

/-- What stands before and after the last dot. -/
def cutLast? (cs : List Char) : Option (List Char × List Char) :=
  if '.' ∈ cs then
    let reversed := cs.reverse
    some ((reversed.dropWhile (· ≠ '.')).tail.reverse, (reversed.takeWhile (· ≠ '.')).reverse)
  else none

/-- The parts of a token with at least two dots. Further dots belong to the header. -/
def ofChars? (cs : List Char) : Option Parts := do
  let (message, signature) ← cutLast? cs
  let (header, payload) ← cutLast? message
  return ⟨header, payload, signature⟩

/-- What the signature is over: the text before the last dot. -/
def signed (p : Parts) : List Char :=
  p.header ++ '.' :: p.payload

end Parts

/-! ## Verifiers -/

/-- Settings with their key material loaded. -/
structure Verifier where
  algorithm : Algorithm
  key : VerificationKey
  identityClaim : String
  issuer : Option String
  audience : Option String
  leeway : UInt64
deriving DecidableEq

/-- Whether the validity window counts. The signature always does. -/
inductive Expiry where
  | enforce
  | skip
deriving DecidableEq, Repr

namespace Verifier

/-- The key that the settings name. -/
def loadKey (s : Settings) (read : FileReader) : Except SetupError VerificationKey :=
  match s.key with
  | none => .error (.missingKey s.algorithm)
  | some source =>
    match s.algorithm.family, source with
    | .shared _, .secret value =>
      if value.isEmpty then .error (.missingKey s.algorithm)
      else .ok (.shared (Utf8.encode value.exposed))
    | .shared _, _ => .error (.keyMismatch s.algorithm "a shared secret")
    | .publicKey _, .secret _ => .error (.keyMismatch s.algorithm "a PEM public key")
    | .publicKey kind, .pem text => ofText kind text
    | .publicKey kind, .file path =>
      match read path with
      | .error fault => .error (.keyFile path fault)
      | .ok bytes => ofText kind (Utf8.decodeLossy bytes)
where
  /-- The key in an armoured text. -/
  ofText (kind : Crypto.PublicKey.Family) (text : String) : Except SetupError VerificationKey :=
    match Crypto.PublicKey.ofPem? kind text with
    | some key => .ok (.published key)
    | none => .error .invalidKey

/-- A verifier for the settings. -/
def ofSettings (s : Settings) (read : FileReader) : Except SetupError Verifier := do
  if s.identityClaim.isEmpty then throw .emptyIdentityClaim
  let key ← loadKey s read
  return ⟨s.algorithm, key, s.identityClaim, s.issuer, s.audience, s.leeway⟩

/-- The bytes of a part. -/
def decodePart (part : List Char) : Except Rejection Bytes :=
  match Base64.decode? .url part with
  | some bytes => .ok bytes
  | none => .error (.malformed .base64)

/-- The header of a token. -/
def readHeader (part : List Char) : Except Rejection Header := do
  let bytes ← decodePart part
  match (Json.Raw.ofBytes? bytes).bind Header.ofRaw? with
  | some header => return header
  | none => throw (.malformed .json)

/-- The payload of a token. -/
def readPayload (part : List Char) : Except Rejection Payload := do
  let bytes ← decodePart part
  match Json.ofBytes? bytes with
  | some (.object members) => return members
  | _ => throw (.malformed .json)

/-- The parts of a token whose signature is right. -/
def checkSignature (v : Verifier) (token : String) : Except Rejection Parts := do
  match Parts.ofChars? token.toList with
  | none => throw (.malformed .shape)
  | some parts =>
    let header ← readHeader parts.header
    if header.algorithm ≠ v.algorithm then throw .badSignature
    match v.key.accepts? v.algorithm (Utf8.encodeChars parts.signed) parts.signature with
    | none => throw (.malformed .base64)
    | some false => throw .badSignature
    | some true => return parts

/-- The claims of a payload that satisfies the settings. -/
def readClaims (v : Verifier) (part : List Char) : Except Rejection Claims := do
  let payload ← readPayload part
  if !payload.isReadable then throw (.malformed .json)
  if !payload.agrees "iss" v.issuer then throw .invalidIssuer
  if !payload.agrees "aud" v.audience then throw .invalidAudience
  Claims.ofPayload payload v.identityClaim

/-- The claims of a token that passes every check at the time `now`. -/
def verify (v : Verifier) (expiry : Expiry) (now : Instant) (token : String) :
    Except Rejection Claims := do
  let parts ← v.checkSignature token
  let claims ← v.readClaims parts.payload
  match expiry with
  | .enforce => claims.checkWindow now v.leeway
  | .skip => pure ()
  return claims

/-- A verifier as a diagnostic shows it. -/
def describe (v : Verifier) (clock : Clock) : String :=
  describeFields "TokenValidator" [("algorithms", TopicGuard.describe [v.algorithm]),
    ("identity_claim", TopicGuard.describe v.identityClaim), ("leeway_secs", toString v.leeway),
    ("clock", clock.describe)]

end Verifier

end TopicGuard.Token
