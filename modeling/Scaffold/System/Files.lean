import Scaffold.Path
import Scaffold.System.Basic

/-!
# Files of a system

What is built from the operations of a system: texts, whole chains of directories, and
replacing a file in one move, so that a reader never sees half of it.
-/

namespace Scaffold

namespace Path

/-- A path, the directory that holds it, and so on upwards. -/
def ancestors (p : String) : List String :=
  go (p.length + 1) p
where
  /-- At most `n` of them. -/
  go : Nat → String → List String
    | 0, p => [p]
    | n + 1, p => p :: ((parent p).map (go n)).getD []

/-- The directory to put a file's neighbours in. -/
def directoryOf (p : String) : String :=
  match parent p with
  | some dir => if dir.isEmpty then "." else dir
  | none => "."

example : ancestors "/a/b" = ["/a/b", "/a", "/"] := by decide
example : ancestors "a/b" = ["a/b", "a", ""] := by decide

end Path

namespace System

variable {m : Type → Type} [Monad m] (sys : System m)

/-- The result of an operation, be it a refusal. -/
def outcome {α : Type} (x : Os m α) : Os m (Except OsError α) := ExceptT.lift x.run

/-- The reason a file that holds other bytes cannot be read as text. -/
def notText : OsError := .other "stream did not contain valid UTF-8"

/-- The text of a file. -/
def readText (path : String) : Os m String := do
  match String.fromUTF8? (← sys.read path) with
  | some text => return text
  | none => throw notText

/-- The text of a file, if it is there. -/
def readOptional (path : String) : Os m (Option String) := do
  match ← outcome (readText sys path) with
  | .ok text => return some text
  | .error .notFound => return none
  | .error e => throw e

/-- Decide whether a path names anything. -/
def pathExists (path : String) : m Bool := do
  return (← (sys.kindOf path).run).toBool

/-- Decide whether a path names something of a kind. -/
def isKind (kind : EntryKind) (path : String) : m Bool := do
  match ← (sys.kindOf path).run with
  | .ok k => return k = kind
  | .error _ => return false

/-- Decide whether a path names a file. -/
def isFile (path : String) : m Bool := isKind sys .file path

/-- Decide whether a path names a directory. -/
def isDirectory (path : String) : m Bool := isKind sys .directory path

/-- Accept a refusal to make a directory that is there. -/
def unlessDirectory (path : String) (e : OsError) : Os m Unit := do
  unless ← ExceptT.lift (isDirectory sys path) do throw e

/-- Make the first directory of a chain, and before it those further down that are missing. -/
def createChain : List String → Os m Unit
  | [] => throw (.other "failed to create whole tree")
  | path :: above => do
      if path.isEmpty then return
      match ← outcome (sys.createDir path) with
      | .ok () => return
      | .error .notFound =>
          createChain above
          match ← outcome (sys.createDir path) with
          | .ok () => return
          | .error e => unlessDirectory sys path e
      | .error e => unlessDirectory sys path e

/-- Make a directory and those above it. -/
def createDirs (path : String) : Os m Unit := createChain sys (Path.ancestors path)

/-- How far replacing a file got before it was refused. -/
inductive ReplaceFailure where
  /-- The new file could not be made at a path beside the old one. -/
  | create (path : String) (e : OsError)
  /-- The new file could not be moved over the old one. -/
  | move (e : OsError)

/-- Write a file beside its place and move it there. -/
def replaceFile (path content : String) : m (Except ReplaceFailure Unit) := do
  let spare := Path.join (Path.directoryOf path) (← sys.spareName)
  match ← (sys.write spare content.toUTF8).run with
  | .error e => return .error (.create spare e)
  | .ok () =>
      match ← (sys.rename spare path).run with
      | .ok () => return .ok ()
      | .error e =>
          let _ ← (sys.remove spare).run
          return .error (.move e)

end System

end Scaffold
