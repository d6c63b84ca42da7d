import TopicGuard.Text.Blank

/-!
The kinds of backend that a configuration can choose.
-/

set_option autoImplicit false

namespace TopicGuard

/-- Where decisions come from. -/
inductive BackendKind where
  | store
  | service
deriving DecidableEq, Repr

namespace BackendKind

/-- The kinds. -/
def all : List BackendKind := [.store, .service]

/-- The name of a kind in settings. -/
def name : BackendKind → String
  | .store => "local"
  | .service => "remote"

/-- The kind with exactly that name. -/
def ofName? (s : String) : Option BackendKind :=
  all.find? fun k => k.name == s

/-- A text that names no kind, without white space around it and in lower case. -/
structure Unknown where
  value : String
deriving DecidableEq, Repr

/-- The wording of an unknown kind. -/
def Unknown.message (e : Unknown) : String :=
  s!"expected 'local' or 'remote', got '{e.value}'"

/-- The kind with that name, in any case and with white space around it. -/
def parse (s : String) : Except Unknown BackendKind :=
  let value := (Text.trim s).map Char.toLower
  match ofName? value with
  | some k => .ok k
  | none => .error ⟨value⟩

end BackendKind

end TopicGuard
