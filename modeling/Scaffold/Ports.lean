import Scaffold.Descriptor
import Scaffold.Template.Context

/-!
# Ports

What the library needs of its surroundings: files, templates, plurals, external commands,
answers to questions, the stores and the clock.  A port that can fail says so in its type,
and what it did before it failed is not undone.

The monad is a parameter.  A pure state gives runs that can be reasoned about, and the
command line runs the same requests over the real file system.
-/

namespace Scaffold

/-- What an external command answered. -/
structure CommandOutput where
  /-- Whether it succeeded. -/
  success : Bool
  /-- Its exit code, unless it was killed. -/
  code : Option Int
  /-- What it wrote. -/
  output : String
deriving Repr, DecidableEq

/-- A computation that may end in an error. -/
abbrev Fallible (m : Type → Type) := ExceptT Error m

/-- The result of a computation, be it an error. -/
def attempt {m : Type → Type} [Monad m] {α : Type} (x : Fallible m α) :
    Fallible m (Except Error α) := ExceptT.lift x.run

/-- The files of a tree. -/
structure FilePort (m : Type → Type) where
  /-- Decide whether a file or directory is there. -/
  pathExists : String → m Bool
  /-- The content of a file, if it is there. -/
  read : String → Fallible m (Option String)
  /-- Replace the content of a file, whose directory has to be there. -/
  write : String → String → Fallible m Unit
  /-- Make a directory and those above it. -/
  createDirs : String → Fallible m Unit
  /-- The names of the files in a directory, in order. -/
  listFiles : String → Fallible m (List String)

/-- The text of a template with its slots filled. -/
abbrev Templates := String → Context → Except Error String

/-- Everything a request needs of its surroundings. -/
structure Ports (m : Type → Type) where
  /-- The files. -/
  files : FilePort m
  /-- The templates. -/
  templates : Templates
  /-- The plural of a name. -/
  pluralize : String → String
  /-- Run a program with arguments in a directory. -/
  runCommand : String → List String → String → Fallible m CommandOutput
  /-- Choose one of several answers, by index. -/
  choose : String → List String → Fallible m Nat
  /-- The descriptor at a root, if there is one. -/
  loadDescriptor : String → Fallible m (Option Descriptor)
  /-- Replace the descriptor at a root. -/
  saveDescriptor : String → Descriptor → Fallible m Unit
  /-- Record the last container that was set up. -/
  saveContainer : Container → Fallible m Unit
  /-- The present moment. -/
  now : m Instant
  /-- An identifier that was not used before. -/
  freshId : m Uuid

/-- The index of a preset answer among the choices, up to ASCII case. -/
def presetChoice (preset : Option String) (prompt : String) (choices : List String) :
    Except Error Nat :=
  match preset.bind fun p => choices.findIdx? (Text.asciiLower · == Text.asciiLower p) with
  | some i => .ok i
  | none => .error (.run (.selectionCancelled prompt))

end Scaffold
