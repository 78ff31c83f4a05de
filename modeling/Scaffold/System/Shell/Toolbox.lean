import Scaffold.System.Shell.Session
import Scaffold.System.Shell.Tools.Files
import Scaffold.System.Shell.Tools.Lines
import Scaffold.System.Shell.Tools.Search
import Scaffold.System.Shell.Tools.Values

/-!
# The toolbox

The tools that a shell finds on its machine, and how a shell runs them on its descriptors.
-/

namespace Scaffold.Shell

open Scaffold.Text

/-- The tools by name. -/
def toolbox : List (String × Tool) :=
  [("[", Tools.bracket), ("basename", Tools.basename), ("cat", Tools.cat), ("cp", Tools.cp),
   ("cut", Tools.cut), ("dirname", Tools.dirname), ("echo", Tools.echo), ("expr", Tools.expr),
   ("false", Tools.fail), ("fold", Tools.fold), ("grep", Tools.grep), ("head", Tools.head),
   ("ls", Tools.ls), ("mkdir", Tools.mkdir), ("mv", Tools.mv), ("od", Tools.od),
   ("paste", Tools.paste), ("printenv", Tools.printenv), ("printf", Tools.printf),
   ("pwd", Tools.pwd), ("rev", Tools.rev), ("rm", Tools.rm),
   ("rmdir", Tools.rmdir), ("sed", Tools.sed), ("seq", Tools.seq), ("sleep", Tools.sleep),
   ("sort", Tools.sort), ("tac", Tools.tac), ("tail", Tools.tail), ("tee", Tools.tee),
   ("test", Tools.test), ("touch", Tools.touch), ("tr", Tools.tr), ("true", Tools.succeed),
   ("uname", Tools.uname), ("uniq", Tools.uniq), ("wc", Tools.wc), ("yes", Tools.yes)]

/-- The names of the shell. -/
def shells : List String := ["sh", "dash"]

/-- The programs that start other programs, or say which files can be started. -/
def starters : List String := ["chmod", "env", "nice", "nohup", "timeout", "xargs"]

/-- The names of all programs. -/
def programNames : List String := toolbox.map (·.1) ++ starters ++ shells

/-- The directories of the programs. -/
def programDirectories : List Place := [["usr", "bin"], ["bin"]]

/-- The name of the program at a place. -/
def programNameAt? (place : Place) : Option String :=
  match place.getLast? with
  | some name =>
      if programDirectories.contains place.dropLast && programNames.contains name then some name
      else none
  | none => none

/-- Run a tool on the descriptors of the shell. -/
def runTool (name : String) (t : Tool) (arguments : List String)
    (environment : List (String × String)) : Act Unit := do
  let s ← get
  let input ← pendingInput 0
  let target := match ← streamOf? 1 with
    | some (_, { medium := .file place, .. }) => some place
    | _ => none
  let job : Job := ⟨name, arguments, input, s.directory, environment, target⟩
  let (_, w) := (t.run job).run { disk := s.disk }
  modify fun s => { s with disk := w.disk }
  for (isError, text) in w.written.reverse do
    let _ ← write (if isError then 2 else 1) text
  if w.used then consume 0 input.length
  setStatus w.status

/-- The directories that programs are searched in at first. -/
def defaultPath : String := "/usr/local/sbin:/usr/local/bin:/usr/sbin:/usr/bin:/sbin:/bin"

/-- The directories that programs are searched in. -/
def Own.searchPath (o : Own) : List String :=
  ((o.valueOf? "PATH").map (splitOnChar ':')).getD []

/-- Where the program is that a name stands for, and its path; or the status of a refusal. -/
def findProgram (name : String) : Act (Except Nat (Place × String)) := do
  let s ← get
  let at' (path : String) : Except Nat (Place × String) :=
    match s.disk.locate s.directory (ofOctets path) with
    | .ok (place, .file _) =>
        if (programNameAt? place).isSome || s.runnable.contains place then .ok (place, path)
        else .error 126
    | .ok (_, .directory) => .error 126
    | .error _ => .error 127
  if name.toList.contains '/' then return at' name
  let candidates := s.searchPath.map fun dir =>
    at' (if dir.isEmpty then name else dir ++ "/" ++ name)
  match candidates.find? (·.isOk) with
  | some found => return found
  | none => return .error 127

end Scaffold.Shell
