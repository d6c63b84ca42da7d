import TopicGuard.Json.Value
import TopicGuard.Text.Diagnostic

/-!
Secrets.

A secret can be used but not shown. Everything that prints a value, to an operator, into a diagnostic or into
a document, prints the same placeholder for every secret, so no printed text depends on the value.
-/

set_option autoImplicit false

namespace TopicGuard

/-- A value that must never be printed. -/
structure Secret (α : Type) where
  /-- The value in the clear. -/
  exposed : α
deriving DecidableEq

namespace Secret

/-- What is printed in place of any secret. -/
def placeholder : String := "[REDACTED]"

instance {α : Type} : ToString (Secret α) where
  toString _ := placeholder

instance {α : Type} : Diagnostic (Secret α) where
  describe _ := "Secret(" ++ describe placeholder ++ ")"

/-- A secret in a document. -/
def toJson {α : Type} (_ : Secret α) : Json :=
  .string placeholder

/-- The secret text has no content. -/
def isEmpty (s : Secret String) : Bool :=
  s.exposed.isEmpty

/-- A secret text, read from a document. -/
def ofJson? : Json → Option (Secret String)
  | .string s => some ⟨s⟩
  | _ => none

end Secret

end TopicGuard
