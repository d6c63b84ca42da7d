import TopicGuard.Token.Verifier

/-!
Signing tokens.

`sign` makes a token with a shared secret; its header is always the same. `dayClaims` are claims that are
valid for a day from a given second on.
-/

set_option autoImplicit false

namespace TopicGuard.Token

/-- The header of a token that `sign` makes. -/
def signedHeader : String := "\x7b\"typ\":\"JWT\",\"alg\":\"HS256\"\x7d"

/-- The header and the payload of a token, without a signature. -/
def unsigned (claims : Json) : List Char :=
  Base64.encode .url (Utf8.encode signedHeader) ++ '.' ::
    Base64.encode .url (Utf8.encode claims.render)

/-- A token with the given payload, signed with a shared secret under HS256. -/
def sign (claims : Json) (secret : String) : String :=
  let message := unsigned claims
  String.ofList (message ++ '.' ::
    VerificationKey.sharedSignature .sha256 (Utf8.encode secret) (Utf8.encodeChars message))

/-- The length of a day in seconds. -/
def dayLength : Int := 86400

/-- Claims for an identity, valid for a day. -/
def dayClaims (identity : String) (start : Int) : Payload :=
  [("iss", .string "jwt-test"), ("aud", .string "jwt-test"), ("nbf", .number (.int start)),
    ("exp", .number (.int (start + dayLength))), ("sub", .string "user"),
    ("username", .string identity)]

end TopicGuard.Token
