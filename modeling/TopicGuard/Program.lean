import TopicGuard.Config.Source
import TopicGuard.Program.Arguments

/-!
The command-line program.

A run reads its arguments, then its configuration, makes an engine, asks it one question and closes it
(`useOnce`). The verdict is one word on the output and the exit code; where there is none, because the arguments or the
configuration cannot be used, the output stays empty. A fault is never reported as a yes or a no.
-/

set_option autoImplicit false

namespace TopicGuard.Program

/-- What a run leaves behind. -/
structure Outcome where
  exitCode : UInt8
  output : String
deriving DecidableEq, Repr

/-- The version of the program. -/
def versionText : String := "vigil 0.1.0"

/-- How the program is used. -/
def helpText : String :=
  "Usage: vigil [--config PATH] [--token TOKEN] COMMAND\n\n" ++
  "Commands:\n" ++
  "  authenticate  May the token holder connect?\n" ++
  "  superuser     Is the token holder a superuser?\n" ++
  "  acl           May the token holder use a topic? --topic TOPIC [--client-id ID] [--acc LEVEL]\n" ++
  "  help          Print this message"

namespace Outcome

/-- No verdict could be asked for. -/
def unusable : Outcome := ⟨2, ""⟩

/-- The outcome of arguments without a command to run. -/
def ofUsage (u : Usage) : Outcome where
  exitCode := u.exitCode
  output :=
    match u with
    | .help => helpText
    | .version => versionText
    | _ => ""

/-- The outcome of a decision. -/
def ofVerdict : Policy.Verdict → Outcome
  | .ok true => ⟨0, "allow"⟩
  | .ok false => ⟨1, "deny"⟩
  | .error fault => ⟨2, s!"fault: {fault.message}"⟩

end Outcome

/-- The sources of a run's configuration. -/
def sources (a : Arguments) (env : Environment) : List Config.Source :=
  Config.Source.ofProgram (a.config.getD Config.Source.systemPath) env

/-- The variables that a run looks at. -/
def variableNames : List String :=
  configVariable :: tokenVariable :: Config.variableNames

/-- The files that a run reads to know its settings. -/
def settingsFiles (a : Arguments) (env : Environment) : List String :=
  a.config.getD Config.Source.systemPath ::
    (env (Environment.fileVariable Config.secretVariable)).toList

/-- The file that an engine reads its key from. -/
def keyFile? (s : EngineSettings) : Option String :=
  match s.token.key with
  | some (.file path) => some path
  | _ => none

/-- Asks the question of a command. -/
def decide {m : Type → Type} [Monad m] (e : Engine) (outside : Outside m) (now : Instant)
    (token : String) : Command → m Policy.Verdict
  | .authenticate => e.authenticate outside now token
  | .superuser => e.isPrivileged outside now token
  | .access topic clientId level => e.checkAccess outside now token topic clientId level

/-- What is done with an engine: it is asked the question of a command, and then it is closed. -/
def useOnce {m : Type → Type} [Monad m] (e : Engine) (outside : Outside m) (now : Instant)
    (token : String) (c : Command) : m (Policy.Verdict × Engine) := do
  let verdict ← decide e outside now token c
  return (verdict, e.close)

/-- The engine of a run, unless its configuration cannot be used. -/
def engine? (a : Arguments) (env : Environment) (read : FileReader) (connector : Connector) :
    Option Engine := do
  let settings ← (Config.load read (sources a env)).toOption
  (Engine.ofSettings settings read connector).toOption

/-- A run with arguments that name a command. -/
def runCommand {m : Type → Type} [Monad m] (a : Arguments) (env : Environment) (read : FileReader)
    (connector : Connector) (outside : Outside m) (now : Instant) : m Outcome :=
  match engine? a env read connector with
  | none => pure .unusable
  | some e => do
    let (verdict, _) ← useOnce e outside now (a.token.getD "") a.command
    return .ofVerdict verdict

/-- A run of the program. -/
def run {m : Type → Type} [Monad m] (words : List String) (env : Environment) (read : FileReader)
    (connector : Connector) (outside : Outside m) (now : Instant) : m Outcome :=
  match Arguments.parse env words with
  | .error usage => pure (.ofUsage usage)
  | .ok a => runCommand a env read connector outside now

end TopicGuard.Program
