import Scaffold.Path
import Scaffold.Ports

/-!
# A tree in memory

Files and directories as a value.  Paths are compared by components, a file keeps the
spelling it was first written under, and the files are kept in the order of their paths.  A
file can only be written where its directory is.
-/

namespace Scaffold

/-- A file of the tree. -/
structure TreeFile where
  /-- The path as it was first spelled. -/
  path : String
  /-- The content. -/
  content : String
deriving Repr, DecidableEq

/-- Files and directories. -/
structure MemoryTree where
  /-- The files, ordered by the components of their paths. -/
  files : List TreeFile := []
  /-- The directories, by components. -/
  dirs : List (List Component) := []
  /-- How many files were written. -/
  writes : Nat := 0
deriving Repr, DecidableEq, Inhabited

namespace MemoryTree

open Scaffold.Path (components parentComponents)

/-- Put a file into an ordered list, in place of one of the same path. -/
def insertFile (path content : String) : List TreeFile → List TreeFile
  | [] => [⟨path, content⟩]
  | f :: rest =>
      if components path = components f.path then ⟨f.path, content⟩ :: rest
      else if componentsLt (components path) (components f.path) then ⟨path, content⟩ :: f :: rest
      else f :: insertFile path content rest

/-- The content of a file. -/
def read? (t : MemoryTree) (path : String) : Option String :=
  (t.files.find? fun f => components f.path = components path).map TreeFile.content

/-- Decide whether a directory is there. -/
def hasDir (t : MemoryTree) (dir : List Component) : Bool := t.dirs.contains dir

/-- Decide whether a file or a directory is there. -/
def hasPath (t : MemoryTree) (path : String) : Bool :=
  (t.read? path).isSome || t.hasDir (components path)

/-- Put a directory in. -/
def addDir (t : MemoryTree) (dir : List Component) : MemoryTree :=
  if t.hasDir dir then t else { t with dirs := t.dirs ++ [dir] }

/-- The non-empty beginnings of a list of components, shortest first. -/
def prefixes (cs : List Component) : List (List Component) :=
  (List.range cs.length).map fun i => cs.take (i + 1)

/-- Put a directory and those above it in. -/
def createDirs (t : MemoryTree) (dir : List Component) : MemoryTree :=
  (prefixes dir).foldl addDir t

/-- Decide whether a file can be written: its directory is there, or it needs none. -/
def canWrite (t : MemoryTree) (path : String) : Bool :=
  match parentComponents (components path) with
  | none | some [] => true
  | some dir => t.hasDir dir

/-- Write a file. -/
def write (t : MemoryTree) (path content : String) : Except Error MemoryTree :=
  if t.canWrite path then
    .ok { t with files := insertFile path content t.files, writes := t.writes + 1 }
  else .error (.run (.filesystem path "Parent directory does not exist"))

/-- Put a file in with the directories above it, without counting it as written. -/
def seed (t : MemoryTree) (path content : String) : MemoryTree :=
  let t := match parentComponents (components path) with
    | some dir => t.createDirs dir
    | none => t
  { t with files := insertFile path content t.files }

/-- The names of the files in a directory, in order. -/
def listFiles (t : MemoryTree) (dir : String) : List String :=
  (t.files.filter fun f => parentComponents (components f.path) = some (components dir)).filterMap
    fun f => Path.fileName f.path

end MemoryTree

end Scaffold
