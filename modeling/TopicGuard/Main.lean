import Std.Time.DateTime.Timestamp
import TopicGuard.Program

/-!
The program on a machine.

Here the arguments, the variables, the files and the clock are those of the machine; everything that is decided
is decided in `TopicGuard.Program`. There is no driver for databases and no network here: a database cannot be
opened and a service does not answer, which a run reports like any other fault.
-/

set_option autoImplicit false

namespace TopicGuard.Program

/-- The contents of a file. -/
def readFile (path : String) : IO (Except FileFault Bytes) := do
  if path.isEmpty then return .error .missing
  try
    let bytes ← IO.FS.readBinFile path
    return .ok bytes.toList
  catch
    | .noFileOrDirectory _ _ _ => return .error .missing
    | .inappropriateType _ 21 _ => return .error .isDirectory
    | .inappropriateType _ _ details => return .error (.unreachable details)
    | e => return .error (.other (toString e))

/-- The contents of files. No other file is there. -/
def readFiles (paths : List String) : IO FileReader := do
  let contents ← paths.mapM fun path => return (path, ← readFile path)
  return fun path => (contents.lookup path).getD (.error .missing)

/-- The values of variables. No other variable is set. -/
def readVariables (names : List String) : IO Environment := do
  let values ← names.mapM fun name => return (name, ← IO.getEnv name)
  return fun name => (values.lookup name).join

/-- The files that a run reads. Where the key is kept shows only in the settings. -/
def filesOf (words : List String) (env : Environment) : IO FileReader := do
  match Arguments.parse env words with
  | .error _ => readFiles []
  | .ok a =>
    let read ← readFiles (settingsFiles a env)
    let key := ((Config.load read (sources a env)).toOption.bind keyFile?).toList
    readFiles (settingsFiles a env ++ key)

/-- The present second. -/
def presentTime : IO Instant := do
  let now ← Std.Time.Timestamp.now
  return (Instant.ofSeconds? now.toSecondsSinceUnixEpoch.val).getD .epoch

/-- No database can be opened. A client has nothing to open. -/
def noDatabase : Connector where
  openPool _ := .error "there is no driver for the database"
  buildClient _ := .ok ()

/-- Nothing answers. -/
def nothingOutside : Outside IO where
  query _ := return .failed "there is no driver for the database"
  request _ := return .lapse .broken

end TopicGuard.Program

open TopicGuard.Program in
/-- Runs the program with the words behind its name. -/
def main (words : List String) : IO UInt32 := do
  let env ← readVariables variableNames
  let outcome ← run words env (← filesOf words env) noDatabase nothingOutside (← presentTime)
  if !outcome.output.isEmpty then IO.println outcome.output
  return outcome.exitCode.toUInt32
