import TopicGuard.AccessLevel
import TopicGuard.Config.SecretVariable
import TopicGuard.Number.Numeral

/-!
The arguments of the program.

Words are read from the left. An option takes the rest of its own word behind an equals sign, or else the next
word, and a value taken from the next word is looked at only when the next option or the end is reached; so of
two mistakes the one that is reached first is reported. Options of the whole program stand before the command,
those of a command behind it, and the token may stand in either place, the later one counting.
-/

set_option autoImplicit false

namespace TopicGuard.Program

/-! ## What arguments say -/

/-- A question to be decided. -/
inductive Command where
  | authenticate
  | superuser
  | access (topic clientId : String) (level : AccessLevel)
deriving DecidableEq, Repr

/-- The name of a command. -/
def Command.name : Command → String
  | .authenticate => "authenticate"
  | .superuser => "superuser"
  | .access _ _ _ => "acl"

/-- All that the arguments say. -/
structure Arguments where
  config : Option String
  token : Option String
  command : Command
deriving DecidableEq, Repr

/-- Why there is no command to run. -/
inductive Usage where
  /-- Help was asked for. -/
  | help
  /-- The version was asked for. -/
  | version
  /-- There is nothing at all to go by. -/
  | nothing
  | missingCommand
  | unknownCommand
  | unknownArgument
  /-- The option occurs twice in one place. -/
  | repeatedOption
  /-- The option has no value, or an empty one where that is not allowed. -/
  | missingValue
  /-- The value is none of its kind. -/
  | invalidValue
  /-- A value for something that takes none. -/
  | unexpectedValue
  | missingOption
deriving DecidableEq, Repr

/-- The mark of success or failure that a program ends with. -/
def Usage.exitCode : Usage → UInt8
  | .help | .version => 0
  | _ => 2

/-! ## Options -/

/-- An option with a value. -/
inductive Name where
  | config
  | token
  | topic
  | clientId
  | level
deriving DecidableEq, Repr

namespace Name

/-- How an option is spelled, without its dashes. -/
def long : Name → String
  | .config => "config"
  | .token => "token"
  | .topic => "topic"
  | .clientId => "client-id"
  | .level => "acc"

/-- The level that a text spells: at least that to read. -/
def level? (value : String) : Option AccessLevel := do
  let n ← Numeral.integer? value
  guard (1 ≤ n)
  AccessLevel.ofInt? n

/-- Refuses a value that is none of its kind. -/
def check (name : Name) (value : String) : Except Usage Unit :=
  match name with
  | .config => if value.isEmpty then .error .missingValue else .ok ()
  | .level => if (level? value).isSome then .ok () else .error .invalidValue
  | _ => .ok ()

end Name

/-- A word that chooses a command. -/
inductive CommandWord where
  | authenticate
  | superuser
  | access
  | help
deriving DecidableEq, Repr

namespace CommandWord

/-- The words. -/
def all : List CommandWord := [.authenticate, .superuser, .access, .help]

/-- How a word is spelled. -/
def spelling : CommandWord → String
  | .authenticate => "authenticate"
  | .superuser => "superuser"
  | .access => "acl"
  | .help => "help"

/-- The word with that spelling. -/
def ofString? (s : String) : Option CommandWord :=
  all.find? fun w => w.spelling == s

end CommandWord

/-- What may be said in a place: before the command, or behind it. -/
structure Place where
  options : List Name
  /-- The place is before the command. -/
  isOuter : Bool

namespace Place

/-- Before the command. -/
def outer : Place := ⟨[.config, .token], true⟩

/-- Behind a command. -/
def behind : CommandWord → Place
  | .access => ⟨[.topic, .clientId, .level, .token], false⟩
  | _ => ⟨[.token], false⟩

/-- The option with that spelling. -/
def option? (p : Place) (long : String) : Option Name :=
  p.options.find? fun name => name.long == long

/-- The command with that spelling. -/
def command? (p : Place) (word : String) : Option CommandWord :=
  if p.isOuter then CommandWord.ofString? word else none

/-- What is wrong with a word that is no option and no value. -/
def strayWord (p : Place) : Usage :=
  if p.isOuter then .unknownCommand else .unknownArgument

/-- What is wrong with a word after the end of options. -/
def trailingWord (p : Place) (word : String) : Usage :=
  if (p.command? word).isSome then .unknownArgument else p.strayWord

end Place

/-! ## Reading words -/

/-- The values found so far, and the option whose value is still to be looked at. -/
structure Progress where
  values : List (Name × String) := []
  pending : Option (Name × Option String) := none
deriving DecidableEq, Repr

namespace Progress

/-- The value of an option. -/
def value? (p : Progress) (name : Name) : Option String :=
  p.values.lookup name

/-- One more value. -/
def accept (p : Progress) (name : Name) (value : String) : Except Usage Progress := do
  if (p.value? name).isSome then throw .repeatedOption
  name.check value
  return { p with values := (name, value) :: p.values }

/-- Looks at the value that is still to be looked at. -/
def settle (p : Progress) : Except Usage Progress :=
  match p.pending with
  | none => .ok p
  | some (_, none) => .error .missingValue
  | some (name, some value) => { p with pending := none }.accept name value

/-- The option that the next word is the value of. -/
def awaiting? (p : Progress) : Option Name :=
  match p.pending with
  | some (name, none) => some name
  | _ => none

end Progress

/-- A word as an option sees it: its spelling without dashes, and what stands behind the equals sign. -/
def cutEquals (cs : List Char) : String × Option String :=
  let value := cs.dropWhile (· ≠ '=')
  (String.ofList (cs.takeWhile (· ≠ '=')),
    if value.isEmpty then none else some (String.ofList value.tail))

/-- A request for help or the version ends everything, after what was still to be looked at. -/
def interrupt (p : Progress) (attached : Option String) (usage : Usage) : Except Usage Progress := do
  if attached.isSome then throw .unexpectedValue
  let _ ← p.settle
  throw usage

/-- A word with two dashes. -/
def readLong (place : Place) (p : Progress) (cs : List Char) : Except Usage Progress :=
  let (long, attached) := cutEquals cs
  if long = "help" then interrupt p attached .help
  else if long = "version" ∧ place.isOuter then interrupt p attached .version
  else match place.option? long with
    | none => .error .unknownArgument
    | some name => do
      let p ← p.settle
      match attached with
      | some value => p.accept name value
      | none => return { p with pending := some (name, none) }

/-- A word with one dash. Its first letter decides. -/
def readShort (place : Place) (p : Progress) (letter : Char) : Except Usage Progress :=
  if letter = 'h' then interrupt p none .help
  else if letter = 'V' ∧ place.isOuter then interrupt p none .version
  else .error .unknownArgument

/-- Reads the words of a place: up to its end, or to a command with the words behind it. -/
def readWords (place : Place) (p : Progress) :
    List String → Except Usage (Progress × Option (CommandWord × List String))
  | [] => .ok (p, none)
  | word :: words =>
    match p.awaiting?, place.command? word with
    | none, some command => .ok (p, some (command, words))
    | awaiting, _ =>
      match word.toList with
      | ['-', '-'] =>
        match words with
        | [] => .ok (p, none)
        | next :: _ => .error (place.trailingWord next)
      | '-' :: '-' :: cs => do
        let p ← readLong place p cs
        readWords place p words
      | '-' :: letter :: _ => do
        let p ← readShort place p letter
        readWords place p words
      | _ =>
        match awaiting with
        | some name => readWords place { p with pending := some (name, some word) } words
        | none => .error place.strayWord

/-! ## Reading arguments -/

/-- The client that a topic is asked for unless another is named. -/
def defaultClientId : String := "vigil-cli"

/-- The command that a word and its options give. -/
def commandOf (word : CommandWord) (p : Progress) : Except Usage Command :=
  match word with
  | .help => .error .help
  | .authenticate => .ok .authenticate
  | .superuser => .ok .superuser
  | .access =>
    match p.value? .topic with
    | none => .error .missingOption
    | some topic =>
      .ok (.access topic ((p.value? .clientId).getD defaultClientId)
        (((p.value? .level).bind Name.level?).getD AccessLevel.read))

/-- Help on the whole program or on one command. -/
def helpOn : List String → Usage
  | [] => .help
  | [word] => if (CommandWord.ofString? word).isSome then .help else .unknownCommand
  | _ => .unknownCommand

/-- A command with the options behind it. -/
def readCommand (word : CommandWord) (words : List String) : Except Usage (Command × Option String) :=
  if word = .help then .error (helpOn words)
  else do
    let (p, _) ← readWords (.behind word) {} words
    let p ← p.settle
    let command ← commandOf word p
    return (command, p.value? .token)

/-- The variable with the path of the configuration. -/
def configVariable : String := "VIGIL_CONFIG"

/-- The variable with the token. -/
def tokenVariable : String := "VIGIL_TOKEN"

/-- What the words and the environment say. The words win. -/
def Arguments.parse (env : Environment) (words : List String) : Except Usage Arguments := do
  let (p, rest) ← readWords .outer {} words
  let inner ← rest.mapM fun (word, words) => readCommand word words
  let p ← p.settle
  let config ←
    match p.value? .config, env configVariable with
    | some path, _ => pure (some path)
    | none, some path => do
      Name.check .config path
      pure (some path)
    | none, none => pure none
  let token := (p.value? .token).or (env tokenVariable)
  match inner with
  | none => if config.isNone ∧ token.isNone then throw .nothing else throw .missingCommand
  | some (command, later) => return ⟨config, later.or token, command⟩

end TopicGuard.Program
