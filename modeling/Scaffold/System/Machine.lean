import Scaffold.System.Disk

/-!
# A machine in memory

A disk, a working directory, variables, programs, a clock and a supply of identifiers.  A
program is what it does: from its arguments and a disk it makes its output and a disk.
-/

namespace Scaffold

open Scaffold.Text

/-- What a program is started with. -/
structure Call where
  /-- The arguments, without the program's own name. -/
  arguments : List String
  /-- The working directory. -/
  directory : Place
  /-- The environment variables. -/
  environment : List (String × String)

/-- A program, by what it does. -/
abbrev Program := Call → Disk → Finished × Disk

/-- A machine. -/
structure Machine where
  /-- The files. -/
  disk : Disk := {}
  /-- The working directory. -/
  directory : Place := []
  /-- The environment variables. -/
  environment : List (String × String) := []
  /-- The programs, by the place they are installed at. -/
  programs : List (Place × Program) := []
  /-- How often the clock was read. -/
  ticks : Nat := 0
  /-- How many identifiers were given out. -/
  ids : Nat := 0

namespace Machine

/-- A place as an absolute path. -/
def pathOf (place : Place) : String := "/" ++ joinWith "/" place

/-- The place an absolute path leads to by its names alone. -/
def placeOf (path : String) : Place :=
  (Path.components path).filterMap fun c => if c = .root then none else some c.text

/-- The directories programs are searched in when no variable names them. -/
def defaultSearchPath : String := "/bin:/usr/bin"

/-- Put a program on a machine. -/
def install (w : Machine) (place : Place) (program : Program) : Machine :=
  { w with disk := w.disk.seed place .empty, programs := (place, program) :: w.programs }

/-! ## Programs -/

/-- The program a path names, or why there is none to run. -/
def programAt (w : Machine) (directory : Place) (path : String) : Except OsError Program := do
  let (place, _) ← w.disk.locate directory path
  match w.programs.lookup place with
  | some program => return program
  | none => throw .permissionDenied

/-- The first of several paths that a program can be run from.  What may not be run is
reported only if nothing else is found. -/
def firstProgram (w : Machine) (directory : Place) : List String → Except OsError Program
  | [] => .error .notFound
  | path :: rest =>
      match w.programAt directory path with
      | .ok program => .ok program
      | .error .permissionDenied =>
          match firstProgram w directory rest with
          | .ok program => .ok program
          | .error _ => .error .permissionDenied
      | .error _ => firstProgram w directory rest

/-- The program a name stands for: a path, or a name to search for. -/
def program (w : Machine) (directory : Place) (name : String) : Except OsError Program :=
  if name.isEmpty then .error .notFound
  else if name.toList.contains '/' then w.programAt directory name
  else
    let dirs := splitOnChar ':' ((w.environment.lookup "PATH").getD defaultSearchPath)
    w.firstProgram directory (dirs.map fun dir => if dir.isEmpty then name else Path.join dir name)

/-- Run a program in a directory.  Nothing of this holds the character zero. -/
def launch (w : Machine) (name : String) (arguments : List String) (dir : String) :
    Except OsError (Finished × Machine) := do
  if (name :: dir :: arguments).any fun s => s.toList.contains '\x00' then
    throw (.other "nul byte found in provided data")
  match ← w.disk.locate w.directory dir with
  | (_, .file _) => throw .notDirectory
  | (directory, .directory) =>
      let run ← w.program directory name
      let (finished, disk) := run ⟨arguments, directory, w.environment⟩ w.disk
      return (finished, { w with disk := disk })

/-! ## The system -/

/-- Ask the disk. -/
def ask {α : Type} (f : Disk → Place → Except OsError α) : Os (StateM Machine) α := do
  let w ← get
  liftExcept (f w.disk w.directory)
where
  /-- A result as a computation. -/
  liftExcept : Except OsError α → Os (StateM Machine) α
    | .ok a => pure a
    | .error e => throw e

/-- Change the disk. -/
def change (f : Disk → Place → Except OsError Disk) : Os (StateM Machine) Unit := do
  let disk ← ask f
  modify fun w => { w with disk := disk }

/-- The moment the clock starts at. -/
def epoch : Int := 1792411200

/-- The operations of a machine. -/
def system : System (StateM Machine) where
  kindOf path := ask fun d here => Node.kind <$> d.find here path
  read path := ask fun d here => d.read here path
  write path content := change fun d here => d.write here path content
  createDir path := change fun d here => d.createDir here path
  list path := ask fun d here => d.list here path
  rename source target := change fun d here => d.rename here source target
  remove path := change fun d here => d.remove here path
  spareName := pure ".tmpXXXXXX"
  currentDir := return pathOf (← get).directory
  environment := return (← get).environment
  accountHome := pure "/root"
  launch name arguments dir := do
    match (← get).launch name arguments dir with
    | .ok (finished, w) =>
        set w
        return finished
    | .error e => throw e
  now := modifyGet fun w => (⟨epoch + w.ticks, 0⟩, { w with ticks := w.ticks + 1 })
  freshId := modifyGet fun w => (⟨w.ids⟩, { w with ids := w.ids + 1 })

end Machine

end Scaffold
