import Scaffold.Locator
import Scaffold.Ports
import Scaffold.Report

/-!
# Checkpoints

After its tasks a request builds the solution and, if it asks for one, adds a migration.
Neither undoes anything when it fails.  A migration is not attempted when the build failed,
when migrations are switched off or when one of its name is there already.
-/

namespace Scaffold

open Scaffold.Text

/-- Which checkpoints run. -/
structure Options where
  /-- Leave the build out. -/
  skipBuild : Bool := false
  /-- Leave the migration out. -/
  skipMigration : Bool := false
  /-- Add a migration for single actions too. -/
  migrateActions : Bool := false
deriving Repr, DecidableEq, Inhabited

variable {m : Type → Type} [Monad m]

/-- The tool that builds and migrates. -/
def buildTool : String := "dotnet"

/-- Run the build tool.  That it is missing or fails is how the checkpoint went; any other
error is an error of the request. -/
def runTool (ports : Ports m) (root : String) (arguments : List String) :
    Fallible m CheckpointStatus := do
  match ← attempt (ports.runCommand buildTool arguments root) with
  | .ok output =>
      if output.success then return .passed
      else return .failed (.commandFailed (joinWith " " (buildTool :: arguments)) output.code output.output)
  | .error (.run cause) => if cause.isCheckpointFailure then return .failed cause else throw (.run cause)
  | .error e => throw e

/-- The file name every migration of a name ends with. -/
def migrationSuffix (name : String) : String := "_" ++ name ++ ".cs"

/-- Decide whether there is a migration of a name. -/
def migrationExists (files : FilePort m) (root : String) (l : Locator) (name : String) :
    Fallible m Bool := do
  let found ← files.listFiles (l.migrationsDir.under root)
  return found.any (endsWith · (migrationSuffix name))

/-- The arguments that add a migration. -/
def migrationArguments (l : Locator) (name : String) : List String :=
  ["ef", "migrations", "add", name, "--project", (l.moduleDir .infrastructure).slashed,
   "--startup-project", (l.moduleDir .api).slashed]

/-- The file a tool makes when it adds a migration, with a time before its name. -/
def migrationFile? (dir : String) : List String → Option String
  | "ef" :: "migrations" :: "add" :: name :: "--project" :: module :: _ =>
      some (Path.join (Path.join (Path.join dir module) "Migrations")
        ("20261019120000" ++ migrationSuffix name))
  | _ => none

/-- Build. -/
def runBuild (ports : Ports m) (options : Options) (root : String) : Fallible m CheckpointStatus :=
  if options.skipBuild then return .skipped "disabled with --no-build"
  else runTool ports root ["build"]

/-- Add a migration after a build that went as `build` says. -/
def runMigration (ports : Ports m) (options : Options) (root : String) (l : Locator)
    (build : CheckpointStatus) (name : String) : Fallible m CheckpointStatus := do
  match build with
  | .failed _ => return .skipped "build failed"
  | .passed | .skipped _ =>
      if options.skipMigration then return .skipped "disabled with --no-migrate"
      else if ← migrationExists ports.files root l name then
        return .skipped "migration already exists"
      else runTool ports root (migrationArguments l name)

/-- Run the checkpoints of a request. -/
def runCheckpoints (ports : Ports m) (options : Options) (root : String) (l : Locator)
    (migration : Option String) : Fallible m (List Checkpoint) := do
  let build ← runBuild ports options root
  match migration with
  | none => return [⟨.build, build⟩]
  | some name =>
      let status ← runMigration ports options root l build name
      return [⟨.build, build⟩, ⟨.migration name, status⟩]

end Scaffold
