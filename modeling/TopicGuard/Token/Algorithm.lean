import TopicGuard.Crypto.Edwards
import TopicGuard.Crypto.Pem
import TopicGuard.Crypto.PrimeCurve
import TopicGuard.Crypto.Rsa
import TopicGuard.Text.Diagnostic

/-!
Signature algorithms of tokens.

Each algorithm belongs to a family that says what key it needs: a shared secret, or a public key of one of
three kinds. `VerificationKey.accepts?` is the one question that verification asks of a key. With a shared
secret a signature is compared as text, so any text but the expected one is simply wrong; with a public key a
signature has to be base 64 before it can be wrong.
-/

set_option autoImplicit false

namespace TopicGuard.Token

/-- How tokens are signed. -/
inductive Algorithm where
  | hs256 | hs384 | hs512
  | rs256 | rs384 | rs512
  | ps256 | ps384 | ps512
  | es256 | es384
  | edDsa
deriving DecidableEq, Repr

namespace Algorithm

/-- All algorithms. -/
def all : List Algorithm :=
  [.hs256, .hs384, .hs512, .rs256, .rs384, .rs512, .ps256, .ps384, .ps512, .es256, .es384, .edDsa]

/-- The name of an algorithm in tokens and settings. -/
def name : Algorithm → String
  | .hs256 => "HS256"
  | .hs384 => "HS384"
  | .hs512 => "HS512"
  | .rs256 => "RS256"
  | .rs384 => "RS384"
  | .rs512 => "RS512"
  | .ps256 => "PS256"
  | .ps384 => "PS384"
  | .ps512 => "PS512"
  | .es256 => "ES256"
  | .es384 => "ES384"
  | .edDsa => "EdDSA"

/-- The algorithm with that name. -/
def ofName? (s : String) : Option Algorithm :=
  all.find? fun a => a.name == s

theorem ofName?_name (a : Algorithm) : ofName? a.name = some a := by
  cases a <;> rfl

/-- What key an algorithm needs. -/
inductive Family where
  | shared (hash : Crypto.Hash)
  | publicKey (kind : Crypto.PublicKey.Family)

/-- The family of an algorithm. -/
def family : Algorithm → Family
  | .hs256 => .shared .sha256
  | .hs384 => .shared .sha384
  | .hs512 => .shared .sha512
  | .rs256 | .rs384 | .rs512 | .ps256 | .ps384 | .ps512 => .publicKey .rsa
  | .es256 | .es384 => .publicKey .prime
  | .edDsa => .publicKey .edwards

instance : Diagnostic Algorithm where
  describe a := a.name

end Algorithm

/-! ## Keys ready for use -/

/-- What signatures are checked with. -/
inductive VerificationKey where
  | shared (secret : Bytes)
  | published (key : Crypto.PublicKey)
deriving DecidableEq, Repr

namespace VerificationKey

/-- The signature text of a message under a shared secret. -/
def sharedSignature (h : Crypto.Hash) (secret : Bytes) (message : Bytes) : List Char :=
  Base64.encode .url (Crypto.Hmac.tag h secret message)

/-- A signature by its bytes belongs to the message under a public key. A key of another family than the
algorithm's accepts nothing. -/
def acceptsBytes (key : Crypto.PublicKey) (a : Algorithm) (message signature : Bytes) : Bool :=
  match a, key with
  | .rs256, .rsa der => Crypto.Rsa.verifyPlain .sha256 der message signature
  | .rs384, .rsa der => Crypto.Rsa.verifyPlain .sha384 der message signature
  | .rs512, .rsa der => Crypto.Rsa.verifyPlain .sha512 der message signature
  | .ps256, .rsa der => Crypto.Rsa.verifySalted .sha256 der message signature
  | .ps384, .rsa der => Crypto.Rsa.verifySalted .sha384 der message signature
  | .ps512, .rsa der => Crypto.Rsa.verifySalted .sha512 der message signature
  | .es256, .prime point => Crypto.PrimeCurve.p256.verify .sha256 point message signature
  | .es384, .prime point => Crypto.PrimeCurve.p384.verify .sha384 point message signature
  | .edDsa, .edwards point => Crypto.Edwards.verify point message signature
  | _, _ => false

/-- The signature text belongs to the message; `none` if the text is not even base 64 where that
matters. -/
def accepts? (key : VerificationKey) (a : Algorithm) (message : Bytes) (signature : List Char) :
    Option Bool :=
  match key with
  | .shared secret =>
    match a.family with
    | .shared h => some (signature == sharedSignature h secret message)
    | .publicKey _ => some false
  | .published key => (Base64.decode? .url signature).map (acceptsBytes key a message)

-- A known answer: a signed text, and the same signature for another one.
example :
    let key := (Base64.decode? .url "11qYAYKxCrfVS_7TyWQHOg7hcvPapiMlrwIaaPcHURo".toList).getD []
    let signature := "hgyY0il_MGCjP0JzlnLWG1PPOt7-09PGcvMg3AIbQR6dWbhijcNR4ki4iylGjg5BhVsPt9g7sVvpAr_MuM0KAg".toList
    let accepts (text : String) := (published (.edwards key)).accepts? .edDsa (Utf8.encode text) signature
    accepts "eyJhbGciOiJFZERTQSJ9.RXhhbXBsZSBvZiBFZDI1NTE5IHNpZ25pbmc" = some true
      ∧ accepts "eyJhbGciOiJFZERTQSJ9.RXhhbXBsZSBvZiBFZDI1NTE5" = some false := by
  decide +kernel

end VerificationKey

end TopicGuard.Token
