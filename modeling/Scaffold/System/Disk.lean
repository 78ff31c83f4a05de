import Scaffold.Path
import Scaffold.System.Basic

/-!
# A disk in memory

Files as bytes and directories, each at a place: the list of names that leads to it from the
root.  A path is followed piece by piece, and every piece but the last has to lead to a directory
that is there; how an operation takes the last piece is up to it.  Refusals are those of the
operating system.
-/

namespace Scaffold

open Scaffold.Text

/-- A place on a disk: the names that lead to it from the root. -/
abbrev Place := List String

/-- What is at a place. -/
inductive Node where
  | file (content : ByteArray)
  | directory

/-- What a path can name, of a node. -/
def Node.kind : Node → EntryKind
  | .file _ => .file
  | .directory => .directory

/-- Files and directories by place.  The root is always there. -/
structure Disk where
  /-- The entries, each place once. -/
  entries : List (Place × Node) := []

instance : Inhabited Disk := ⟨{}⟩

namespace Disk

/-- The longest name of an entry, in bytes. -/
def longestName : Nat := 255

/-- The longest path, in bytes. -/
def longestPath : Nat := 4095

/-! ## Places -/

/-- What is at a place. -/
def node? (d : Disk) (place : Place) : Option Node :=
  if place.isEmpty then some .directory else d.entries.lookup place

/-- A name in a directory, as a place. -/
def child (dir : Place) (name : String) : Except OsError Place :=
  if longestName < name.utf8ByteSize then .error .nameTooLong else .ok (dir ++ [name])

/-- The directory that a piece of a path leads to from a directory. -/
def enter (d : Disk) (dir : Place) (piece : String) : Except OsError Place := do
  if piece = "." then return dir
  if piece = ".." then return dir.dropLast
  let place ← child dir piece
  match d.node? place with
  | some .directory => return place
  | some (.file _) => throw .notDirectory
  | none => throw .notFound

/-- The end of a path: the directory that all of it but the last piece leads to, and that piece. -/
structure Ending where
  /-- A directory that is there. -/
  directory : Place
  /-- The last piece.  There is none if the path ends in the directory itself. -/
  name : Option String
  /-- Whether slashes come after the last piece. -/
  slashed : Bool

/-- Follow a path from a directory to its last piece, whether that is there or not. -/
def follow (d : Disk) (start : Place) (path : String) : Except OsError Ending := do
  if path.toList.contains '\x00' then throw .zeroInPath
  if path.isEmpty then throw .notFound
  if longestPath < path.utf8ByteSize then throw .nameTooLong
  let pieces := (splitOnChar '/' path).filter (!·.isEmpty)
  let dir ← pieces.dropLast.foldlM d.enter (if Path.isAbsolute path then [] else start)
  match pieces.getLast? with
  | none | some "." => return ⟨dir, none, false⟩
  | some ".." => return ⟨dir.dropLast, none, false⟩
  | some name => return ⟨dir, some name, path.toList.getLast? == some '/'⟩

/-- The place a path leads to from a directory, and what is there. -/
def locate (d : Disk) (start : Place) (path : String) : Except OsError (Place × Node) := do
  let e ← d.follow start path
  match e.name with
  | none => return (e.directory, .directory)
  | some name =>
      let place ← child e.directory name
      match d.node? place with
      | none => throw .notFound
      | some (.file content) =>
          if e.slashed then throw .notDirectory else return (place, .file content)
      | some .directory => return (place, .directory)

/-! ## Changes -/

/-- Put a node at a place. -/
def put (d : Disk) (place : Place) (n : Node) : Disk :=
  let rec go : List (Place × Node) → List (Place × Node)
    | [] => [(place, n)]
    | e :: rest => if e.1 = place then (place, n) :: rest else e :: go rest
  ⟨go d.entries⟩

/-- Take away what is at a place. -/
def drop (d : Disk) (place : Place) : Disk := ⟨d.entries.filter (·.1 ≠ place)⟩

/-- Put a file at a place with the directories above it. -/
def seed (d : Disk) (place : Place) (content : ByteArray) : Disk :=
  let above := (List.range (place.length - 1)).map fun i => place.take (i + 1)
  (above.foldl (fun d dir => if (d.node? dir).isSome then d else d.put dir .directory) d).put place
    (.file content)

/-! ## Operations -/

/-- The node a path names. -/
def find (d : Disk) (start : Place) (path : String) : Except OsError Node :=
  (d.locate start path).map (·.2)

/-- The bytes of a file. -/
def read (d : Disk) (start : Place) (path : String) : Except OsError ByteArray := do
  match ← d.find start path with
  | .file content => return content
  | .directory => throw .isDirectory

/-- Write a file. -/
def write (d : Disk) (start : Place) (path : String) (content : ByteArray) :
    Except OsError Disk := do
  let e ← d.follow start path
  match e.name with
  | none => throw .isDirectory
  | some name =>
      if e.slashed then throw .isDirectory
      let place ← child e.directory name
      match d.node? place with
      | some .directory => throw .isDirectory
      | _ => return d.put place (.file content)

/-- Make one directory. -/
def createDir (d : Disk) (start : Place) (path : String) : Except OsError Disk := do
  let e ← d.follow start path
  match e.name with
  | none => throw .alreadyExists
  | some name =>
      let place ← child e.directory name
      if (d.node? place).isSome then throw .alreadyExists
      return d.put place .directory

/-- The entries of a directory. -/
def list (d : Disk) (start : Place) (path : String) :
    Except OsError (List (String × EntryKind)) := do
  match ← d.locate start path with
  | (_, .file _) => throw .notDirectory
  | (place, .directory) =>
      return d.entries.filterMap fun (p, n) =>
        if p ≠ [] ∧ p.dropLast = place then some (p.getLast?.getD "", n.kind) else none

/-- Move a file to a path.  A path with the character zero is no argument of this. -/
def rename (d : Disk) (start : Place) (source target : String) : Except OsError Disk := do
  if (source ++ target).toList.contains '\x00' then throw .invalidArgument
  let (old, node) ← d.locate start source
  let e ← d.follow start target
  match e.name, node with
  | none, _ => throw .busy
  | some _, .directory => throw .isDirectory
  | some name, .file content =>
      let place ← child e.directory name
      if e.slashed then throw .notDirectory
      match d.node? place with
      | some .directory => throw .isDirectory
      | _ => return (d.drop old).put place (.file content)

/-- Remove a file. -/
def remove (d : Disk) (start : Place) (path : String) : Except OsError Disk := do
  match ← d.locate start path with
  | (place, .file _) => return d.drop place
  | (_, .directory) => throw .isDirectory

/-- The files with their contents. -/
def files (d : Disk) : List (Place × ByteArray) :=
  d.entries.filterMap fun (p, n) => match n with
    | .file content => some (p, content)
    | .directory => none

end Disk

end Scaffold
