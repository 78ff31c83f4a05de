import Scaffold.Vocabulary

/-!
# The grammar of the command line

Which commands there are, which options and words each takes, and which texts an option
admits.  Commands form a tree; the options of the top are taken everywhere below it.
-/

namespace Scaffold

/-! ## Words with a meaning -/

/-- How output is rendered. -/
inductive OutputFormat where
  /-- By whether the output is a terminal. -/
  | auto
  /-- For people, with colours. -/
  | human
  /-- For people, without colours. -/
  | plain
  /-- For programs. -/
  | json
deriving Repr, DecidableEq

/-- The shells a completion script can be made for. -/
inductive Shell where
  | bash | zsh | fish | powerShell | elvish
deriving Repr, DecidableEq

namespace Command

/-- The words for the exposure styles. -/
def styleWords : List (String × Exposure) :=
  [("routes", .routes), ("controllers", .controllers), ("minimal", .routes), ("mvc", .controllers)]

/-- The words for the persistence providers. -/
def providerWords : List (String × Provider) :=
  [("postgres", .postgres), ("sqlserver", .sqlServer), ("sqlite", .sqlite),
   ("postgresql", .postgres), ("mssql", .sqlServer)]

/-- The words for the verbs. -/
def verbWords : List (String × Verb) :=
  [("get", .get), ("post", .post), ("put", .put), ("delete", .delete), ("patch", .patch)]

/-- The words for the lifetimes of a service. -/
def lifetimeWords : List (String × Lifetime) :=
  [("scoped", .scoped), ("transient", .transient), ("singleton", .singleton)]

/-- The words for the external systems. -/
def externalWords : List (String × ExternalSystem) :=
  [("cache", .cache), ("broker", .broker), ("redis", .cache), ("rabbitmq", .broker)]

/-- The words for the output formats. -/
def formatWords : List (String × OutputFormat) :=
  [("auto", .auto), ("human", .human), ("plain", .plain), ("json", .json)]

/-- The words for the shells. -/
def shellWords : List (String × Shell) :=
  [("bash", .bash), ("zsh", .zsh), ("fish", .fish), ("power-shell", .powerShell),
   ("elvish", .elvish)]

/-! ## Texts and options -/

/-- Which texts a place in the command line admits. -/
abbrev Admits := String → Bool

/-- Any text. -/
def anyText : Admits := fun _ => true

/-- A path: any text but the empty one. -/
def aPath : Admits := fun s => !s.isEmpty

/-- One of some words. -/
def oneOf {α : Type} (words : List (String × α)) : Admits := fun s => (words.lookup s).isSome

/-- What an option does. -/
inductive OptionKind where
  /-- It is given or not, at most once. -/
  | switch
  /-- It is given any number of times. -/
  | counter
  /-- It has a value, and is given at most once. -/
  | value (admits : Admits)
  /-- It asks for help instead of a run. -/
  | help
  /-- It asks for the version instead of a run. -/
  | version

/-- An option. -/
structure OptionForm where
  /-- Its name after two dashes. -/
  long : String
  /-- Its letter after one dash. -/
  short : Option Char := none
  /-- What it does. -/
  kind : OptionKind := .switch
  /-- The environment variable that stands in for it. -/
  fallback : Option String := none
  /-- What it is for. -/
  purpose : String

/-- The option that asks for help, which every command has. -/
def helpOption : OptionForm :=
  { long := "help", short := some 'h', kind := .help, purpose := "Print help" }

/-- The option that asks for the version. -/
def versionOption : OptionForm :=
  { long := "version", short := some 'V', kind := .version, purpose := "Print version" }

/-- The options every command takes. -/
def sharedOptions : List OptionForm :=
  [ { long := "verbose", short := some 'v', kind := .counter,
      purpose := "Increase verbosity (-v, -vv, -vvv)" },
    { long := "quiet", short := some 'q', purpose := "Suppress non-error output" },
    { long := "no-color", fallback := some "NO_COLOR", purpose := "Disable colored output" },
    { long := "config", short := some 'c', kind := .value aPath, purpose := "Configuration file path" },
    { long := "output-format", kind := .value (oneOf formatWords), purpose := "Output format" },
    { long := "root", short := some 'r', kind := .value aPath,
      purpose := "Project root (defaults to cwd, then the last used root)" },
    { long := "templates", kind := .value aPath, fallback := some "LAYERKIT_TEMPLATES_DIR",
      purpose := "Template override directory" },
    { long := "provider", kind := .value (oneOf providerWords),
      purpose := "Persistence provider used when the project has none recorded" },
    { long := "no-build", purpose := "Skip the build checkpoint" },
    { long := "no-migrate", purpose := "Skip the migration checkpoint" },
    { long := "log-file", kind := .value aPath, purpose := "Append log events to a file" },
    { long := "data-dir", kind := .value aPath, fallback := some "LAYERKIT_DATA_DIR",
      purpose := "Directory of the state kept for a user" } ]

/-! ## Commands -/

/-- A place in the tree of commands. -/
inductive Node where
  | top
  | init | crud | action | service | constant | enum | status | completions | config
  | configGet | configList | configPath | configInit
deriving Repr, DecidableEq

namespace Node

/-- The commands below a node, by each of their names. -/
def children : Node → List (String × Node)
  | top =>
      [("init", init), ("crud", crud), ("c", crud), ("action", action), ("a", action),
       ("service", service), ("s", service), ("constant", constant), ("enum", enum),
       ("status", status), ("st", status), ("completions", completions), ("config", config)]
  | config =>
      [("get", configGet), ("list", configList), ("path", configPath), ("init", configInit)]
  | _ => []

/-- The options of a node alone. -/
def ownOptions : Node → List OptionForm
  | top => [versionOption]
  | init =>
      [{ long := "style", kind := .value (oneOf styleWords),
         purpose := "Exposure style (defaults to config defaults.style, then routes)" }]
  | action =>
      [{ long := "verb", kind := .value (oneOf verbWords), purpose := "HTTP verb" },
       { long := "crud-style", purpose := "Name the use case after action and entity" },
       { long := "migrate", purpose := "Add a migration after a successful build" }]
  | service =>
      [{ long := "name", kind := .value anyText, purpose := "Service name" },
       { long := "entity", kind := .value anyText,
         purpose := "Place the service next to an existing entity" },
       { long := "external", kind := .value (oneOf externalWords),
         purpose := "Externally-backed service class" },
       { long := "lifetime", kind := .value (oneOf lifetimeWords), purpose := "DI lifetime" }]
  | constant =>
      [{ long := "entity", kind := .value anyText, purpose := "Scope the constant to an entity" }]
  | configInit =>
      [{ long := "force", short := some 'f', purpose := "Overwrite an existing config file" }]
  | _ => []

/-- The options a node takes. -/
def options (n : Node) : List OptionForm := n.ownOptions ++ sharedOptions ++ [helpOption]

/-- The words a node needs, each with its name in the usage. -/
def words : Node → List (String × Admits)
  | init | constant => [("NAME", anyText)]
  | crud => [("ENTITY", anyText)]
  | action => [("ENTITY", anyText), ("ACTION", anyText)]
  | enum => [("ENTITY", anyText), ("ENUM", anyText)]
  | completions => [("SHELL", oneOf shellWords)]
  | configGet => [("KEY", anyText)]
  | _ => []

/-- The options a node needs. -/
def required : Node → List String
  | action => ["verb"]
  | _ => []

/-- The options that cannot be given to a node together. -/
def exclusive : Node → List (String × String)
  | service => [("entity", "external"), ("quiet", "verbose")]
  | _ => [("quiet", "verbose")]

/-- The node topics lead to.  Where there are commands, help is one too. -/
def topic? : Node → List String → Option Node
  | n, [] => some n
  | n, t :: ts =>
      match n.children.lookup t with
      | some child => child.topic? ts
      | none => if t = "help" ∧ !n.children.isEmpty ∧ ts.isEmpty then some n else none

/-- What a node does. -/
def purpose : Node → String
  | top => "Idempotent code-artifact reconciler for layered .NET solutions"
  | init => "Initialise a project descriptor"
  | crud => "Reconcile the CRUD surface of an entity"
  | action => "Add a named action to an existing entity"
  | service => "Add a service"
  | constant => "Add a constant"
  | enum => "Add an enum to an entity"
  | status => "Show the project descriptor"
  | completions => "Generate shell completions"
  | config => "Configuration management"
  | configGet => "Print the value of a configuration key"
  | configList => "Print all configuration values"
  | configPath => "Print the path to the active configuration file"
  | configInit => "Write a configuration file with the built-in defaults"

end Node

end Command

end Scaffold
