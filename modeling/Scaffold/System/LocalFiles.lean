import Scaffold.Ports
import Scaffold.System.Files
import Scaffold.Text.Utf8
import Scaffold.Text.Visible

/-!
# Ports of a system

The files and the external commands of a request, served by a system.  A file is replaced in
one move, what is not there reads as nothing, and a refusal says what was tried.
-/

namespace Scaffold

open Scaffold.Text

/-! ## Files -/

/-- The names of files, in the order of their characters. -/
def sortNames (names : List String) : List String := names.mergeSort fun a b => !(b < a)

variable {m : Type → Type} [Monad m]

/-- An operation on a path, whose refusal says what was tried. -/
def trying {α : Type} (path action : String) (x : Os m α) : Fallible m α := do
  match ← ExceptT.lift x.run with
  | .ok a => return a
  | .error e => throw (.run (.filesystem path s!"Failed to {action}: {e.message}"))

/-- The files of a system. -/
def System.filePort (sys : System m) : FilePort m where
  pathExists := sys.pathExists
  read path := trying path "read file" (sys.readOptional path)
  write path content := do
    match ← ExceptT.lift (sys.replaceFile path content) with
    | .ok () => return
    | .error (.create spare e) =>
        throw (.run (.filesystem path
          s!"Failed to create temp file: {e.message} at path {visible spare}"))
    | .error (.move e) =>
        throw (.run (.filesystem path s!"Failed to replace file: {e.message}"))
  createDirs path := trying path "create directory" (sys.createDirs path)
  listFiles dir := do
    match ← ExceptT.lift (sys.list dir).run with
    | .ok entries => return sortNames ((entries.filter (·.2 = .file)).map (·.1))
    | .error .notFound => return []
    | .error e => throw (.run (.filesystem dir s!"Failed to list directory: {e.message}"))

/-! ## External commands -/

/-- Run an external command.  One that is not there is a missing tool, and a directory that
is not there counts as that. -/
def System.runCommand (sys : System m) (program : String) (arguments : List String)
    (dir : String) : Fallible m CommandOutput := do
  match ← ExceptT.lift (sys.launch program arguments dir).run with
  | .ok done =>
      return ⟨done.code = some 0, done.code, lossyText done.output ++ lossyText done.errors⟩
  | .error .notFound => throw (.run (.toolMissing program))
  | .error e =>
      throw (.run (.commandFailed (joinWith " " (program :: arguments)) none e.message))

end Scaffold
