import Scaffold.Command.Scan
import Scaffold.Request
import Scaffold.Text.Case

/-!
# Invocations

What the arguments of a run ask for: a command with its request, and the options every command
takes.  An option given at several levels counts where it stands deepest, and one that is given
nowhere falls back on its variable.
-/

namespace Scaffold

open Scaffold.Text

/-- The options every command takes. -/
structure SharedOptions where
  /-- How much detail is asked for. -/
  verbosity : Nat := 0
  /-- Leave out everything but errors. -/
  quiet : Bool := false
  /-- Leave out colours. -/
  noColor : Bool := false
  /-- The file of the settings. -/
  config : Option String := none
  /-- How output is rendered. -/
  format : OutputFormat := .auto
  /-- The root of the project. -/
  root : Option String := none
  /-- The directory of template overrides. -/
  templates : Option String := none
  /-- The provider for a project that has none. -/
  provider : Option Provider := none
  /-- Leave the build out. -/
  noBuild : Bool := false
  /-- Leave the migration out. -/
  noMigrate : Bool := false
  /-- The file log events are added to. -/
  logFile : Option String := none
  /-- The directory of what is remembered for a user. -/
  dataDir : Option String := none
deriving Repr, DecidableEq

/-- What can be done with the settings. -/
inductive ConfigCommand where
  | get (key : String)
  | list
  | path
  | init (force : Bool)
deriving Repr, DecidableEq

/-- What a run is asked to do. -/
inductive Command where
  | init (name : String) (style : Option Exposure)
  | crud (request : CrudRequest)
  | action (request : ActionRequest) (migrate : Bool)
  | service (request : ServiceRequest)
  | constant (request : ConstantRequest)
  | enum (request : EnumRequest)
  | status
  | completions (shell : Shell)
  | config (command : ConfigCommand)
deriving Repr, DecidableEq

/-- A command with the options it is run under. -/
structure Invocation where
  /-- The options every command takes. -/
  options : SharedOptions
  /-- What to do. -/
  command : Command
deriving Repr, DecidableEq

namespace Command

/-- The deepest value of an option. -/
def givenValue? (levels : List Level) (name : String) : Option String :=
  levels.reverse.findSome? (·.given.lookup name)

/-- How often an option is given at the deepest level that has it. -/
def givenCount (levels : List Level) (name : String) : Nat :=
  ((levels.reverse.find? (·.has name)).map fun l => l.given.countP (·.1 == name)).getD 0

/-- The words that switch an option off when they are the value of its variable. -/
def falseWords : List String := ["", "n", "no", "f", "false", "off", "0"]

/-- Decide whether a variable switches an option on. -/
def isOn (value : String) : Bool := !falseWords.contains (String.ofList (lowercase value.toList))

/-- The options every command takes, from the levels of a run. -/
def sharedOptionsOf (environment : List (String × String)) (levels : List Level) : SharedOptions :=
  let value? (name : String) : Option String := givenValue? levels name
  let orVariable (name fallback : String) : Option String :=
    value? name <|> environment.lookup fallback
  { verbosity := givenCount levels "verbose"
    quiet := (value? "quiet").isSome
    noColor := (value? "no-color").isSome || ((environment.lookup "NO_COLOR").map isOn).getD false
    config := value? "config"
    format := ((value? "output-format").bind fun s => formatWords.lookup s).getD .auto
    root := value? "root"
    templates := orVariable "templates" "LAYERKIT_TEMPLATES_DIR"
    provider := (value? "provider").bind fun s => providerWords.lookup s
    noBuild := (value? "no-build").isSome
    noMigrate := (value? "no-migrate").isSome
    logFile := value? "log-file"
    dataDir := orVariable "data-dir" "LAYERKIT_DATA_DIR" }

/-- The command of the deepest level. -/
def ofLevel? (l : Level) : Option Command :=
  let value? (name : String) : Option String := l.given.lookup name
  match l.node, l.words with
  | .init, [name] => some (.init name ((value? "style").bind fun s => styleWords.lookup s))
  | .crud, [entity] => some (.crud ⟨entity⟩)
  | .action, [entity, name] => do
      let verb ← verbWords.lookup (← value? "verb")
      return .action ⟨entity, name, verb, l.has "crud-style"⟩ (l.has "migrate")
  | .service, [] =>
      let external := (value? "external").bind fun s => externalWords.lookup s
      let lifetime := ((value? "lifetime").bind fun s => lifetimeWords.lookup s).getD .scoped
      some (.service ⟨value? "name", value? "entity", external, lifetime⟩)
  | .constant, [name] => some (.constant ⟨value? "entity", name⟩)
  | .enum, [entity, name] => some (.enum ⟨entity, name⟩)
  | .status, [] => some .status
  | .completions, [shell] => (shellWords.lookup shell).map .completions
  | .configGet, [key] => some (.config (.get key))
  | .configList, [] => some (.config .list)
  | .configPath, [] => some (.config .path)
  | .configInit, [] => some (.config (.init (l.has "force")))
  | _, _ => none

/-- What the arguments of a run ask for. -/
def parse (environment : List (String × String)) (arguments : List String) :
    Except Stop Invocation := do
  let levels ← scan environment arguments
  match levels.getLast?.bind ofLevel? with
  | some command => return ⟨sharedOptionsOf environment levels, command⟩
  | none => throw (.misuse .top)

end Command

end Scaffold
