import TopicGuard.Config.Document
import TopicGuard.Config.Resolve
import TopicGuard.Config.Variables

/-!
Sources of configuration.

Settings come from a file and from the environment, over usual values; who embeds an engine may have sources of another
kind. The order of the layers is that of the sources' precedence, whatever order the sources are named in; sources of
the same precedence keep their order. A file that is not there says nothing.
-/

set_option autoImplicit false

namespace TopicGuard.Config

/-- Where a layer comes from. -/
inductive Source where
  /-- The usual values, which need no setting. -/
  | usual
  | file (path : String)
  | environment (env : Environment)
  /-- A source of another kind, with what it says when it is asked. -/
  | custom (name : String) (precedence : Nat) (layer : Except Fault Layer)

namespace Source

/-- The name of a source. -/
def name : Source → String
  | .usual => "defaults"
  | .file _ => "toml-config"
  | .environment _ => "environment"
  | .custom name _ _ => name

/-- A source with a higher precedence is laid over one with a lower. -/
def precedence : Source → Nat
  | .usual => 10
  | .file _ => 20
  | .environment _ => 50
  | .custom _ precedence _ => precedence

/-- The layer in a file. -/
def layerOfFile (read : FileReader) (path : String) : Except Fault Layer :=
  match read.readText path with
  | .ok text =>
    match Layer.ofDocument? text with
    | some layer => .ok layer
    | none => .error (.document path)
  | .error fault => if fault.isAbsence then .ok {} else .error (.unreadable path fault)

/-- What a source says. -/
def layer (read : FileReader) : Source → Except Fault Layer
  | .usual => .ok {}
  | .file path => layerOfFile read path
  | .environment env => Layer.ofEnvironment env read
  | .custom _ _ layer => layer

/-- Sources in the order of their precedence. -/
def sorted (sources : List Source) : List Source :=
  sources.mergeSort fun a b => a.precedence ≤ b.precedence

/-- The layers of all sources over each other. -/
def merge (read : FileReader) (sources : List Source) : Except Fault Layer :=
  (sorted sources).foldlM (fun base source => return base.overlay (← source.layer read)) {}

/-- Where the configuration of the whole machine is kept. -/
def systemPath : String := "/etc/vigil/vigil.toml"

/-- The sources of a program: usual values, a file and the environment. -/
def ofProgram (path : String) (env : Environment) : List Source :=
  [.usual, .file path, .environment env]

end Source

/-- The settings that sources give together. -/
def load (read : FileReader) (sources : List Source) : Except Fault EngineSettings := do
  let layer ← Source.merge read sources
  layer.resolve

end TopicGuard.Config
