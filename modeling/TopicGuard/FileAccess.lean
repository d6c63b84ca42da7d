import TopicGuard.Text.Utf8

/-!
Reading files.

Whoever needs a file takes a `FileReader`, a function from paths to contents, so what a program reads is
part of its input. Reading text can fail in one more way than reading bytes.
-/

set_option autoImplicit false

namespace TopicGuard

/-- Why a file could not be read. -/
inductive FileFault where
  | missing
  /-- There can be nothing at the path, in the words of the system. -/
  | unreachable (text : String)
  | isDirectory
  | notText
  /-- Any other cause, in the words of the system. -/
  | other (text : String)
deriving DecidableEq, Repr

/-- The wording of a file fault. -/
def FileFault.message : FileFault → String
  | .missing => "No such file or directory (os error 2)"
  | .unreachable text => text
  | .isDirectory => "Is a directory (os error 21)"
  | .notText => "stream did not contain valid UTF-8"
  | .other text => text

/-- The contents of the files by path. -/
abbrev FileReader := String → Except FileFault Bytes

/-- There is nothing at the path. -/
def FileFault.isAbsence : FileFault → Bool
  | .missing | .unreachable _ => true
  | _ => false

/-- The text in a file. -/
def FileReader.readText (read : FileReader) (path : String) : Except FileFault String := do
  let bytes ← read path
  match Utf8.decode? bytes with
  | some text => .ok text
  | none => .error .notText

end TopicGuard
