/-!
Placeholders in stored filters.

A stored filter may name the client it is evaluated for: `%u` stands for the identity of the token, `%c`
for the client id of the connection. Both values come from outside, so a value that could change the
shape of the filter is refused. Substituted text is never read again: a value that spells a placeholder
stays as it is.
-/

set_option autoImplicit false

namespace TopicGuard

/-- What a filter may leave open. -/
inductive Placeholder where
  /-- The identity that a token names. -/
  | identity
  /-- The client id of a connection, which the client chooses freely. -/
  | clientId
deriving DecidableEq, Repr

namespace Placeholder

/-- The letter after the percent sign. -/
def letter : Placeholder → Char
  | .identity => 'u'
  | .clientId => 'c'

/-- How a filter spells the placeholder. -/
def spelling : Placeholder → String
  | .identity => "%u"
  | .clientId => "%c"

/-- The placeholder with that letter. -/
def ofLetter? (c : Char) : Option Placeholder :=
  if c = 'u' then some .identity else if c = 'c' then some .clientId else none

theorem ofLetter?_letter (p : Placeholder) : ofLetter? p.letter = some p := by
  cases p <;> rfl

/-- The characters that give a filter its shape. -/
def isStructural (c : Char) : Bool :=
  c == '+' || c == '#' || c == '/'

/-- A value that stays inside one level and adds no wildcard. -/
def isPlain (value : String) : Bool :=
  !value.toList.any isStructural

end Placeholder

/-- A value that was not put into a filter. -/
structure UnsafeSubstitution where
  placeholder : Placeholder
  value : String
deriving DecidableEq, Repr

/-- The wording of a refused substitution. -/
def UnsafeSubstitution.message (e : UnsafeSubstitution) : String :=
  s!"refusing to substitute {e.placeholder.spelling} with '{e.value}': it contains '+', '#' or '/'"

/-- The values of the placeholders during one evaluation. -/
structure Substitution where
  identity : String
  clientId : String
deriving DecidableEq, Repr

namespace Substitution

/-- The value of a placeholder. -/
def value (σ : Substitution) : Placeholder → String
  | .identity => σ.identity
  | .clientId => σ.clientId

/-- The value of a placeholder, if it is plain. -/
def fill (σ : Substitution) (p : Placeholder) : Except UnsafeSubstitution (List Char) :=
  if Placeholder.isPlain (σ.value p) then .ok (σ.value p).toList
  else .error ⟨p, σ.value p⟩

/-- Puts the values in, from left to right. A percent sign without a placeholder's letter after it is
ordinary text. -/
def expandChars (σ : Substitution) : List Char → Except UnsafeSubstitution (List Char)
  | [] => .ok []
  | [c] => .ok [c]
  | c :: d :: rest =>
    if c = '%' then
      match Placeholder.ofLetter? d with
      | some p => do
        let value ← σ.fill p
        let tail ← σ.expandChars rest
        return value ++ tail
      | none => do
        let tail ← σ.expandChars (d :: rest)
        return c :: tail
    else do
      let tail ← σ.expandChars (d :: rest)
      return c :: tail

/-- The outcome of an expansion: the text, and whether it is the stored text itself. -/
structure Expansion where
  text : String
  verbatim : Bool
deriving DecidableEq, Repr

/-- Expands a stored filter. One without any percent sign is taken as it is. -/
def expand (σ : Substitution) (filter : String) : Except UnsafeSubstitution Expansion :=
  if '%' ∈ filter.toList then do
    let chars ← σ.expandChars filter.toList
    return ⟨String.ofList chars, false⟩
  else .ok ⟨filter, true⟩

end Substitution

end TopicGuard
