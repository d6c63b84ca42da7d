import TopicGuard.Url.Host
import TopicGuard.Url.Path

/-!
Addresses of services.

`Url.parse` reads what follows the scheme of an `http` or `https` address. Tabs and line breaks are ignored
wherever they stand, and any number of slashes may come before the authority. The authority ends at the next
slash, question mark or hash sign: whatever stands behind it can change the path, the query and the fragment,
but not where the address leads.

Which texts are hosts, and which host a text is, is left to a `HostReader`. `Url.parse` takes the one that
reads domain names in ASCII, `Host.parse`.
-/

set_option autoImplicit false

namespace TopicGuard

/-- The schemes of services. -/
inductive Scheme where
  | http
  | https
deriving DecidableEq, Repr

namespace Scheme

/-- The name of a scheme. -/
def name : Scheme → String
  | .http => "http"
  | .https => "https"

/-- The port that need not be named. -/
def defaultPort : Scheme → Nat
  | .http => 80
  | .https => 443

end Scheme

/-- Where an address leads, and as whom. -/
structure Origin where
  scheme : Scheme
  /-- The encoded credentials; empty if there are none. -/
  credentials : String
  host : Host
  /-- The port, unless it is that of the scheme. -/
  port : Option Nat
deriving DecidableEq, Repr

/-- An address. -/
structure Url where
  origin : Origin
  segments : List (List Char)
  query : Option (List Char)
  fragment : Option (List Char)
deriving DecidableEq, Repr

namespace Url

/-! ## Authority -/

/-- The characters that end the authority. -/
def endsAuthority (c : Char) : Bool :=
  c == '/' || c == '\\' || c == '?' || c == '#'

/-- A slash of either kind. -/
def isSlash (c : Char) : Bool :=
  c == '/' || c == '\\'

/-- What stands before and after the last `@`, if there is one. -/
def cutCredentials (authority : List Char) : List Char × List Char :=
  if '@' ∈ authority then
    let reversed := authority.reverse
    ((reversed.dropWhile (· ≠ '@')).tail.reverse, (reversed.takeWhile (· ≠ '@')).reverse)
  else ([], authority)

/-- Encoded credentials: a name, and a password behind a colon unless it is empty. -/
def encodeCredentials (cs : List Char) : List Char :=
  let user := cs.takeWhile (· ≠ ':')
  let password := (cs.dropWhile (· ≠ ':')).drop 1
  Percent.encode inUserSet user
    ++ (if password.isEmpty then [] else ':' :: Percent.encode inUserSet password)

/-- What stands before and after the first colon outside brackets. -/
def cutPort (inBrackets : Bool) : List Char → List Char × List Char
  | [] => ([], [])
  | c :: cs =>
    if c = ':' ∧ !inBrackets then ([], c :: cs)
    else
      let (host, port) := cutPort (if c = '[' then true else if c = ']' then false else inBrackets) cs
      (c :: host, port)

/-- The number of a port, digit by digit, so that the first fault is found. -/
def portNumber (n : Nat) : List Char → Except UrlError Nat
  | [] => .ok n
  | c :: cs =>
    if '0' ≤ c ∧ c ≤ '9' then
      let n := n * 10 + (c.toNat - '0'.toNat)
      if n < 65536 then portNumber n cs else .error .invalidPort
    else .error .invalidPort

/-- A port behind a colon; none if it is empty or that of the scheme. -/
def parsePort (scheme : Scheme) : List Char → Except UrlError (Option Nat)
  | [] => .ok none
  | _ :: digits => do
    let n ← portNumber 0 digits
    return if digits.isEmpty ∨ n = scheme.defaultPort then none else some n

/-- How a host is read from its part of an authority. -/
abbrev HostReader := List Char → Except UrlError Host

/-- The origin that an authority names. -/
def parseAuthority (readHost : HostReader) (scheme : Scheme) (authority : List Char) : Except UrlError Origin := do
  let (credentials, location) := cutCredentials authority
  let (host, port) := cutPort false location
  let host ← readHost host
  let port ← parsePort scheme port
  let encoded := encodeCredentials credentials
  return ⟨scheme, String.ofList encoded, host, port⟩

/-! ## Addresses -/

/-- The characters that are ignored wherever they stand. -/
def isIgnored (c : Char) : Bool :=
  c == '\t' || c == '\n' || c == '\r'

/-- A text without ignored characters, and without blanks and controls at its end. -/
def clean (cs : List Char) : List Char :=
  ((cs.filter fun c => !isIgnored c).reverse.dropWhile fun c => c.toNat ≤ 0x20).reverse

/-- The path, the query and the fragment that follow the authority. -/
def parseRest (origin : Origin) (rest : List Char) : Url :=
  let path := rest.takeWhile fun c => c ≠ '?' ∧ c ≠ '#'
  let path := if path.head?.any isSlash then path.drop 1 else path
  let rest := rest.dropWhile fun c => c ≠ '?' ∧ c ≠ '#'
  let query := rest.takeWhile (· ≠ '#')
  let fragment := rest.dropWhile (· ≠ '#')
  { origin
    segments := pathSegments path
    query := if query.isEmpty then none else some (Percent.encode inQuerySet (query.drop 1))
    fragment :=
      if fragment.isEmpty then none else some (Percent.encode inFragmentSet (fragment.drop 1)) }

/-- The address whose scheme is followed by a colon and the given text, with a reader of hosts. -/
def parseWith (readHost : HostReader) (scheme : Scheme) (afterColon : List Char) : Except UrlError Url := do
  let text := (clean afterColon).dropWhile isSlash
  let authority := text.takeWhile fun c => !endsAuthority c
  let rest := text.dropWhile fun c => !endsAuthority c
  let origin ← parseAuthority readHost scheme authority
  return parseRest origin rest

/-- The address whose scheme is followed by a colon and the given text. -/
def parse (scheme : Scheme) (afterColon : List Char) : Except UrlError Url :=
  parseWith Host.parse scheme afterColon

/-! ## Writing -/

/-- The scheme, the credentials, the host and the port. -/
def renderOrigin (o : Origin) : String :=
  o.scheme.name ++ "://" ++ (if o.credentials.isEmpty then "" else o.credentials ++ "@")
    ++ o.host.render ++ (match o.port with
      | none => ""
      | some n => ":" ++ toString n)

/-- The path and the query: what a request names as its target. -/
def target (u : Url) : String :=
  String.ofList (renderPath u.segments ++ (match u.query with
    | none => []
    | some query => '?' :: query))

/-- An address as text. -/
def render (u : Url) : String :=
  renderOrigin u.origin ++ u.target ++ (match u.fragment with
    | none => ""
    | some fragment => "#" ++ String.ofList fragment)

end Url

/-- The port that an origin leads to. -/
def Origin.effectivePort (o : Origin) : Nat :=
  o.port.getD o.scheme.defaultPort

end TopicGuard
