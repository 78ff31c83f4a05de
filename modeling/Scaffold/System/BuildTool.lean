import Scaffold.Checkpoint
import Scaffold.System.Machine

/-!
# A stand-in for the build tool

A program for machines in memory that answers like a build tool: with one exit code and output
for building, and another for migrations, which it can make the files of.
-/

namespace Scaffold

/-- What a stand-in for the build tool does. -/
structure BuildTool where
  /-- The exit code and the output of a build. -/
  build : Int × String
  /-- The exit code and the output of a migration. -/
  migrate : Int × String
  /-- Whether adding a migration makes its file. -/
  writesMigrations : Bool
deriving Repr, DecidableEq

namespace BuildTool

/-- The stand-in as a program. -/
def program (t : BuildTool) : Program := fun call disk =>
  let (code, output) := if call.arguments.head? = some "build" then t.build else t.migrate
  let disk := match migrationFile? (Machine.pathOf call.directory) call.arguments with
    | some path => if t.writesMigrations then disk.seed (Machine.placeOf path) .empty else disk
    | none => disk
  (⟨some code, output.toUTF8, .empty⟩, disk)

end BuildTool

end Scaffold
