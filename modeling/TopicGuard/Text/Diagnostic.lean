import TopicGuard.Text.Quoted

/-!
Values in diagnostics.

A diagnostic shows a value in a form that leaves no doubt about its shape: texts stand in quotes, an optional
value says whether it is there, and a list has brackets.
-/

set_option autoImplicit false

namespace TopicGuard

/-- Types whose values can be shown in a diagnostic. -/
class Diagnostic (α : Type) where
  /-- The value as a diagnostic shows it. -/
  describe : α → String

export Diagnostic (describe)

instance : Diagnostic String where
  describe := Text.quote

instance : Diagnostic Nat where
  describe n := toString n

instance {α : Type} [Diagnostic α] : Diagnostic (Option α) where
  describe
    | none => "None"
    | some x => "Some(" ++ describe x ++ ")"

instance {α : Type} [Diagnostic α] : Diagnostic (List α) where
  describe xs := "[" ++ ", ".intercalate (xs.map describe) ++ "]"

/-- A named value with its fields, some of them left out. -/
def describeFields (name : String) (fields : List (String × String)) : String :=
  name ++ " \x7b " ++ String.join (fields.map fun f => f.1 ++ ": " ++ f.2 ++ ", ") ++ ".. \x7d"

end TopicGuard
