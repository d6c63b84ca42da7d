import TopicGuard.Json.Record
import TopicGuard.Token.Algorithm

/-!
Token headers.

A header is a JSON record. Only the algorithm in it is used, but every field that has a meaning must have
the right shape: most are texts, one is a list of texts, and `jwk` is a description of a key.
-/

set_option autoImplicit false

namespace TopicGuard.Token

open Json (Raw Layout optional)

/-! ## Key descriptions -/

/-- A key description inside a header: some common members and, by the kind of the key, its own. -/
abbrev KeyDescription := List (String × Json)

namespace KeyDescription

/-- The values of a member, in the order of the text. -/
def values (k : KeyDescription) (name : String) : List Json :=
  (k.filter fun m => m.1 == name).map Prod.snd

/-- The member occurs at most once, and its value is null or passes the test. -/
def atMostOne (k : KeyDescription) (name : String) (test : Json → Bool) : Bool :=
  match values k name with
  | [] => true
  | [x] => Json.isNull x || test x
  | _ => false

/-- The member occurs once, and its value passes the test. -/
def exactlyOne (k : KeyDescription) (name : String) (test : Json → Bool) : Bool :=
  match values k name with
  | [x] => test x
  | _ => false

/-- The value is a text. -/
def isText : Json → Bool
  | .string _ => true
  | _ => false

/-- The value is a list of texts. -/
def isTexts : Json → Bool
  | .array items => items.all isText
  | _ => false

/-- The value names one of the family: a text, or an object with the name as its only key and null. -/
def isChoice (family : List String) : Json → Bool
  | .string s => family.contains s
  | .object [(s, .null)] => family.contains s
  | _ => false

/-- The value names an algorithm, known or not. -/
def isAnyChoice : Json → Bool
  | .string _ => true
  | .object [(_, .null)] => true
  | _ => false

/-- The curves that a key description can name. -/
def curves : List String := ["P-256", "P-384", "P-521", "Ed25519"]

/-- The members that every kind of key may have. -/
def hasCommonMembers (k : KeyDescription) : Bool :=
  atMostOne k "use" isText && atMostOne k "key_ops" isTexts && atMostOne k "alg" isAnyChoice
    && atMostOne k "kid" isText && atMostOne k "x5u" isText && atMostOne k "x5c" isTexts
    && atMostOne k "x5t" isText && atMostOne k "x5t#S256" isText

/-- The members of one of the four kinds of key. -/
def hasKindMembers (k : KeyDescription) : Bool :=
  (exactlyOne k "kty" (isChoice ["EC"]) && exactlyOne k "crv" (isChoice curves)
      && exactlyOne k "x" isText && exactlyOne k "y" isText)
    || (exactlyOne k "kty" (isChoice ["RSA"]) && exactlyOne k "n" isText && exactlyOne k "e" isText)
    || (exactlyOne k "kty" (isChoice ["oct"]) && exactlyOne k "k" isText)
    || (exactlyOne k "kty" (isChoice ["OKP"]) && exactlyOne k "crv" (isChoice curves)
      && exactlyOne k "x" isText)

/-- The part is a key description. It is decoded as a whole, one container below the header. -/
def isWellFormed (x : Raw) : Bool :=
  match Json.ofRaw? (Json.depthLimit - 1) x with
  | some (.object k) => hasCommonMembers k && hasKindMembers k
  | _ => false

end KeyDescription

/-! ## Headers -/

/-- The part of a token that says how it is signed. -/
structure Header where
  algorithm : Algorithm
deriving DecidableEq, Repr

namespace Header

/-- The fields of a header, in the order of its array form. -/
def layout : Layout where
  fields := [["typ"], ["alg"], ["cty"], ["jku"], ["jwk"], ["kid"], ["x5u"], ["x5c"], ["x5t"],
    ["x5t#S256"]]
  least := 10

/-- The fields that hold a text, if anything. -/
def textFields : List String := ["typ", "cty", "jku", "kid", "x5u", "x5t", "x5t#S256"]

/-- The header that a JSON text describes. -/
def ofRaw? (x : Raw) : Option Header := do
  let fields ← layout.ofRaw? x
  let field (name : String) : Option Raw := fields.lookup name
  let _ ← textFields.mapM fun name => optional Raw.isNull Raw.text? (field name)
  let _ ← optional Raw.isNull Raw.texts? (field "x5c")
  let _ ← optional Raw.isNull (fun x => guard (KeyDescription.isWellFormed x)) (field "jwk")
  let name ← (← field "alg").choice?
  let algorithm ← Algorithm.ofName? name
  return ⟨algorithm⟩

end Header

end TopicGuard.Token
