import TopicGuard.FileAccess
import TopicGuard.Secret

/-!
Secrets from the environment.

A secret stands in a variable, or in a file that a second variable names. The file wins, even over a variable
that is set, so a secret can be mounted without changing anything else. One line break at the end of the file
does not belong to the secret.
-/

set_option autoImplicit false

namespace TopicGuard

/-- The variables of an environment by name. -/
abbrev Environment := String → Option String

/-- Why a secret could not be loaded. -/
inductive SecretFault where
  | unreadable (path : String) (fault : FileFault)
  | emptyPath (variableName : String)
deriving DecidableEq, Repr

/-- The wording of a secret fault. -/
def SecretFault.message : SecretFault → String
  | .unreadable path fault => s!"failed to read secret file at {path}: {fault.message}"
  | .emptyPath variableName => s!"secret file path in {variableName} is empty"

namespace Environment

/-- A variable that is set and not empty. -/
def nonEmpty? (env : Environment) (name : String) : Option String :=
  (env name).filter fun value => !value.isEmpty

/-- The variable that names the file of a secret. -/
def fileVariable (name : String) : String :=
  name ++ "_FILE"

/-- A text without a line feed at its end. -/
def withoutLastBreak (text : String) : String :=
  if text.toList.getLast? = some '\n' then String.ofList text.toList.dropLast else text

/-- The secret of a variable or of its file. -/
def secret? (env : Environment) (read : FileReader) (name : String) :
    Except SecretFault (Option (Secret String)) :=
  match env (fileVariable name) with
  | some path =>
    if path.isEmpty then .error (.emptyPath (fileVariable name))
    else match read.readText path with
      | .ok text => .ok (some ⟨withoutLastBreak text⟩)
      | .error fault => .error (.unreadable path fault)
  | none => .ok ((env.nonEmpty? name).map Secret.mk)

end Environment

end TopicGuard
