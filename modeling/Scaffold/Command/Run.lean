import Scaffold.Command.Printer
import Scaffold.Command.Usage
import Scaffold.Format.EnvFile
import Scaffold.Plural
import Scaffold.Reconcile
import Scaffold.System.LocalFiles
import Scaffold.System.Stores
import Scaffold.Template.Overrides

/-!
# Runs

A run of the program on a system: from its arguments to an exit code and what it prints.  The
variables of a file in the working directory or above it count as if they were set.  Then come
the arguments, the log file, the settings and the command, and the first that fails ends the
run.
-/

namespace Scaffold

open Scaffold.Text

namespace Path

/-- A path as an absolute one, from a working directory on.  Idle components go, `..` stays, and
so do two slashes at the beginning and one at the end. -/
def absolute (here p : String) : String :=
  let names := (components p).filter fun c => c != .root && c != .current
  let starts (s : String) : Bool := beginsWith p s
  let base :=
    if !isAbsolute p then here
    else if starts "//" && !starts "///" then "//"
    else "/"
  let whole := names.foldl (fun q c => join q c.text) base
  if endsWith p "/" && !endsWith whole "/" then whole ++ "/" else whole

example : absolute "/w" "./a//b/../c/" = "/w/a/b/../c/" := by decide +kernel
example : absolute "/w" "//a" = "//a" ∧ absolute "/w" "///a" = "/a" ∧ absolute "/w" "." = "/w" := by
  decide +kernel

end Path

/-- What a run leaves behind besides files. -/
structure Transcript where
  /-- The exit code. -/
  exit : Nat
  /-- What was printed. -/
  out : String := ""
  /-- What was printed as errors. -/
  err : String := ""
deriving Repr, DecidableEq

variable {m : Type → Type} [Monad m]

/-- A computation that prints lines and may end in an error. -/
abbrev Session (m : Type → Type) := ExceptT CommandError (StateT (List String) m)

namespace Session

/-- Print lines. -/
def say (lines : List String) : Session m Unit := modify (· ++ lines)

/-- Do something of the system. -/
def perform {α : Type} (x : m α) : Session m α := ExceptT.lift (StateT.lift x)

/-- Do a part of a request. -/
def request {α : Type} (x : Fallible m α) : Session m α := do
  match ← perform x.run with
  | .ok a => return a
  | .error e => throw (.library e)

/-- Do an operation on a file, whose refusal says what was tried. -/
def access {α : Type} (tried : String) (x : Os m α) : Session m α := do
  match ← perform x.run with
  | .ok a => return a
  | .error e => throw (.file tried e.message)

end Session

open Session

/-- What a command is carried out with. -/
structure Setting (m : Type → Type) where
  /-- The system. -/
  sys : System m
  /-- The variables. -/
  environment : List (String × String)
  /-- The options of the run. -/
  options : SharedOptions
  /-- The settings of the user. -/
  settings : Settings
  /-- How to print. -/
  printer : Printer

/-! ## Directories of a user -/

/-- The program's own directory of one kind, which a variable can name the parent of. -/
def userDir (sys : System m) (environment : List (String × String)) (name below : String) :
    m String := do
  let parent ← match (environment.lookup name).filter Path.isAbsolute with
    | some dir => pure dir
    | none => do
        let home ← match (environment.lookup "HOME").filter (!·.isEmpty) with
          | some home => pure home
          | none => sys.accountHome
        pure (Path.join home below)
  return Path.join parent Command.programName

/-- The file of the settings, where the options name none. -/
def defaultConfigPath (sys : System m) (environment : List (String × String)) : m String := do
  return Path.join (← userDir sys environment "XDG_CONFIG_HOME" ".config") "config.toml"

namespace Setting

variable (s : Setting m)

/-- The directory of what is remembered for a user. -/
def dataDir : m String :=
  match s.options.dataDir with
  | some dir => pure dir
  | none => userDir s.sys s.environment "XDG_DATA_HOME" ".local/share"

/-- The file of the settings. -/
def configPath : m String :=
  match s.options.config with
  | some path => pure path
  | none => defaultConfigPath s.sys s.environment

/-- The working directory. -/
def currentDir : Session m String := access "Failed to read the current directory" s.sys.currentDir

/-- The root that is asked for, else the working directory. -/
def targetRoot : Session m String := do
  match s.options.root with
  | some root => return Path.absolute (← s.currentDir) root
  | none => s.currentDir

/-- The root that is asked for, else the working directory if it has a descriptor, else the last
root that was used if it still has one. -/
def resolveRoot : Session m String := do
  if s.options.root.isSome then s.targetRoot
  else
    let here ← s.currentDir
    if ← perform (s.sys.isProjectRoot here) then return here
    match ← request (s.sys.loadLastRoot (← perform s.dataDir)) with
    | none => throw (.rootUnresolved here)
    | some last =>
        if ← perform (s.sys.isProjectRoot last) then return last
        else throw (.rootUnresolved here)

/-- Remember a root as the last one that was used, if that can be done. -/
def rememberRoot (root : String) : Session m Unit := do
  let _ ← perform (s.sys.saveLastRoot (← perform s.dataDir) root).run

/-! ## Requests -/

/-- The provider for a project that has none, from the options, else from the settings. -/
def presetProvider : Session m (Option Provider) :=
  match s.options.provider, s.settings.provider with
  | some p, _ => return some p
  | none, none => return none
  | none, some word =>
      if isBlankText word then return none
      else match Provider.parse word with
        | .ok p => return some p
        | .error e => throw (.settings ("defaults.provider: " ++ e.message) (some e.message))

/-- The checkpoints to run. -/
def checkpoints (migrateActions : Bool) : Options :=
  { skipBuild := s.options.noBuild || s.settings.skipBuild
    skipMigration := s.options.noMigrate || s.settings.skipMigration
    migrateActions := migrateActions }

/-- What requests need of their surroundings. -/
def ports : Session m (Ports m) := do
  let templates ← request (s.sys.discoverTemplates (s.options.templates <|> s.settings.templatesDir))
  let preset ← s.presetProvider
  let dataDir ← perform s.dataDir
  return {
    files := s.sys.filePort
    templates := templates.resolve
    pluralize := Plural.english
    runCommand := s.sys.runCommand
    choose := fun prompt choices =>
      match presetChoice (preset.map Provider.spelling) prompt choices with
      | .ok i => pure i
      | .error e => throw e
    loadDescriptor := s.sys.loadDescriptor
    saveDescriptor := s.sys.saveDescriptor
    saveContainer := s.sys.saveContainer dataDir
    now := s.sys.now
    freshId := s.sys.freshId }

/-- Carry out a request at the resolved root: print its report and remember the root.  A failed
checkpoint is the error of the command. -/
def reconcile (f : Ports m → String → Fallible m Report) : Session m Unit := do
  let root ← s.resolveRoot
  let report ← request (f (← s.ports) root)
  say (s.printer.report report)
  s.rememberRoot root
  match report.firstFailure? with
  | some cause => throw (.library (.run cause))
  | none => return

/-! ## Commands -/

/-- Set a project up. -/
def init (name : String) (style : Option Exposure) : Session m Unit := do
  let root ← s.targetRoot
  let style ← match style with
    | some style => pure style
    | none =>
        match Exposure.parse s.settings.style with
        | .ok style => pure style
        | .error e => throw (.library (.request e))
  let provider ← s.presetProvider
  let created ← request (initProject (← s.ports) root name style provider)
  s.rememberRoot root
  let persistence := (created.provider.map Provider.spelling).getD "chosen on first crud"
  say (s.printer.success ("Initialised '" ++ created.name ++ "' at " ++ root))
  say (s.printer.info ("Exposure style: " ++ created.style.spelling ++ "; persistence: " ++ persistence))

/-- Show a project. -/
def status : Session m Unit := do
  let root ← s.resolveRoot
  say (s.printer.project (← request (requireDescriptor (← s.ports) root)))

/-- Write a file of the default settings.  One that is there stays unless it is forced. -/
def writeConfig (force : Bool) : Session m Unit := do
  let path ← perform s.configPath
  if !force && (← perform (s.sys.pathExists path)) then
    say (s.printer.warning
      ("Config already exists at " ++ path ++ "  (use --force to overwrite)"))
  else
    match Path.parent path with
    | none | some "" => pure ()
    | some dir => access ("Failed to create config directory '" ++ dir ++ "'") (s.sys.createDirs dir)
    access ("Failed to write config to '" ++ path ++ "'")
      (s.sys.write path (Settings.document {}).toUTF8)
    say (s.printer.success ("Configuration created at " ++ path))

/-- Show or write settings. -/
def config : ConfigCommand → Session m Unit
  | .get key =>
      match s.settings.get? key with
      | some value => say (s.printer.line value)
      | none => throw (.settings ("Unknown config key: '" ++ key ++ "'") none)
  | .list => do
      say (s.printer.header "Current Configuration:")
      say (s.printer.line s.settings.document)
  | .path => do say (s.printer.line (← perform s.configPath))
  | .init force => s.writeConfig force

/-- Carry out a command. -/
def carryOut : Command → Session m Unit
  | .init name style => s.init name style
  | .crud r => s.reconcile fun ports root => addCrud ports (s.checkpoints false) root r
  | .action r migrate => s.reconcile fun ports root => addAction ports (s.checkpoints migrate) root r
  | .service r => s.reconcile fun ports root => addService ports (s.checkpoints false) root r
  | .constant r => s.reconcile fun ports root => addConstant ports root r
  | .enum r => s.reconcile fun ports root => addEnum ports root r
  | .status => s.status
  | .completions shell => say [Command.completionScript shell]
  | .config command => s.config command

end Setting

/-! ## The whole run -/

/-- The nearest file of variables in a chain of directories.  A directory that cannot be looked
into ends the search. -/
def nearestEnvFile? (sys : System m) : List String → m (Option String)
  | [] => return none
  | dir :: above => do
      let path := Path.join dir ".env"
      match ← (sys.kindOf path).run with
      | .ok .file => return some path
      | .ok .directory | .error .notFound => nearestEnvFile? sys above
      | .error _ => return none

/-- The variables of a run. -/
def effectiveVariables (sys : System m) : m (List (String × String)) := do
  let environment ← sys.environment
  match ← sys.currentDir.run with
  | .error _ => return environment
  | .ok here =>
      match ← nearestEnvFile? sys (Path.ancestors here) with
      | none => return environment
      | some path =>
          match ← (sys.read path).run with
          | .ok bytes => return EnvFile.read environment bytes
          | .error _ => return environment

/-- Make the log file, with the directories above it, or say why it cannot be. -/
def openLog (sys : System m) (path : String) : m (Option String) := do
  match Path.fileName path with
  | none => return some ("Log file path '" ++ path ++ "' has no file name")
  | some name =>
      let dir := Path.directoryOf path
      match ← (sys.createDirs dir).run with
      | .error e => return some ("Failed to create log directory '" ++ dir ++ "': " ++ e.message)
      | .ok () =>
          let file := Path.join dir name
          unless ← sys.pathExists file do
            let _ ← (sys.write file .empty).run
          return none

/-- The transcript of a command that is over. -/
def Transcript.ofSession (verbose : Bool) (result : Except CommandError Unit) (lines : List String) :
    Transcript :=
  let out := String.join (lines.map (· ++ "\n"))
  match result with
  | .ok () => { exit := 0, out := out }
  | .error e => { exit := e.kind.exitCode, out := out, err := e.plain verbose }

/-- The transcript of arguments that do not make a run. -/
def Transcript.ofStop : Command.Stop → Transcript
  | .help node => { exit := 0, out := node.help }
  | .version => { exit := 0, out := Command.versionLine }
  | .misuse node => { exit := 2, err := node.complaint }

/-- Run an invocation. -/
def runInvocation (sys : System m) (environment : List (String × String)) (call : Invocation) :
    m Transcript := do
  let options := call.options
  let failed ← match options.logFile with
    | some path => openLog sys path
    | none => pure none
  match failed with
  | some reason => return { exit := 1, err := "Failed to initialise logging: " ++ reason ++ "\n" }
  | none =>
      let verbose := options.verbosity > 0
      let path ← match options.config with
        | some path => pure path
        | none => defaultConfigPath sys environment
      let creates := match call.command with
        | .config (.init _) => true
        | _ => false
      match ← (Settings.load sys path (options.config.isSome && !creates) environment).run with
      | .error e => return .ofSession verbose (.error e) []
      | .ok settings =>
          let setting : Setting m := ⟨sys, environment, options, settings, .ofOptions options settings⟩
          let (result, lines) ← (setting.carryOut call.command).run.run []
          return .ofSession verbose result lines

/-- Run the program with arguments. -/
def run (sys : System m) (arguments : List String) : m Transcript := do
  let environment ← effectiveVariables sys
  match Command.parse environment arguments with
  | .error stop => return .ofStop stop
  | .ok call => runInvocation sys environment call

end Scaffold
