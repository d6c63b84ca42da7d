import TopicGuard.Json.Value

/-!
Records in JSON.

A record has named fields. It is written as an object, whose members may come in any order and among
others, or as an array of the field values in the order of the layout. A member that is no field only has
to have a key that can be decoded; a field must not occur twice, under whichever of its names.
-/

set_option autoImplicit false

namespace TopicGuard.Json

/-- The fields of a record. -/
structure Layout where
  /-- The names of each field, the principal one first. -/
  fields : List (List String)
  /-- The least length of the array form. -/
  least : Nat

namespace Layout

/-- The principal name of the field with that name. -/
def principal? (l : Layout) (name : String) : Option String :=
  (l.fields.find? fun names => names.contains name).bind List.head?

/-- The fields among the members of an object. -/
def ofMembers? (l : Layout) : List (Literal × Raw) → Option (List (String × Raw))
  | [] => some []
  | (key, x) :: members => do
    let key ← key.text?
    let fields ← l.ofMembers? members
    match l.principal? key with
    | none => return fields
    | some name =>
      guard (!fields.any fun f => f.1 == name)
      return (name, x) :: fields

/-- The fields of a record in either form. -/
def ofRaw? (l : Layout) : Raw → Option (List (String × Raw))
  | .object members => l.ofMembers? members
  | .array items =>
    if l.least ≤ items.length ∧ items.length ≤ l.fields.length then
      some ((l.fields.filterMap List.head?).zip items)
    else none
  | _ => none

end Layout

namespace Raw

/-- A text. -/
def text? : Raw → Option String
  | .string s => s.text?
  | _ => none

/-- An array of texts. -/
def texts? : Raw → Option (List String)
  | .array items => items.mapM text?
  | _ => none

/-- A truth value. -/
def bool? : Raw → Option Bool
  | .bool b => some b
  | _ => none

/-- One of a family of names: the name itself, or an object with the name as its only key and null. -/
def choice? : Raw → Option String
  | .string s => s.text?
  | .object [(key, .null)] => key.text?
  | _ => none

end Raw

/-- A field that may be missing or null. -/
def optional {α β : Type} (isNull : α → Bool) (read : α → Option β) : Option α → Option (Option β)
  | none => some none
  | some x => if isNull x then some none else (read x).map some

/-- The part is the word for no value. -/
def Raw.isNull : Raw → Bool
  | .null => true
  | _ => false

/-- The value is no value. -/
def isNull : Json → Bool
  | .null => true
  | _ => false

end TopicGuard.Json
