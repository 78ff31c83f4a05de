import Scaffold.MemoryTree
import Scaffold.Reconcile
import Scaffold.Text.Search

/-!
# A simulated world

A world in memory that requests can run against: a tree, the stores, a clock, and a script
that says which calls fail and what the external tool and the user answer.  It records the
calls it gets.
-/

namespace Scaffold

open Scaffold.Text

/-! ## Scripts -/

/-- The paths on which file operations fail, by parts of the path. -/
structure FileFaults where
  read : List String := []
  write : List String := []
  mkdir : List String := []
  list : List String := []
deriving Repr, Inhabited

/-- The store operations that fail. -/
structure StoreFaults where
  load : Bool := false
  save : Bool := false
  container : Bool := false
deriving Repr, Inhabited

/-- How the external tool behaves, by parts of its command line. -/
structure ToolScript where
  /-- The tool is not there. -/
  missing : List String := []
  /-- Running it is an error. -/
  raise : List String := []
  /-- Running it is an error no checkpoint accounts for. -/
  abort : List String := []
  /-- It does not succeed. -/
  fail : List String := []
  /-- The exit code of what does not succeed. -/
  code : Option Int := none
  /-- What is written when it does not succeed. -/
  output : String := ""
  /-- Whether adding a migration makes its file. -/
  writesMigrations : Bool := false
deriving Repr, Inhabited

/-- How a question is answered. -/
inductive Answer where
  /-- By a preset, if it is among the choices. -/
  | preset (text : Option String)
  /-- By an index. -/
  | index (i : Nat)
deriving Repr

instance : Inhabited Answer := ⟨.preset none⟩

/-- Everything that is scripted. -/
structure Script where
  faults : FileFaults := {}
  stores : StoreFaults := {}
  tool : ToolScript := {}
  answer : Answer := default
deriving Repr, Inhabited

/-! ## Worlds -/

/-- A tree, the stores, the clock and what was recorded. -/
structure World where
  /-- The files. -/
  tree : MemoryTree := {}
  /-- The descriptor. -/
  descriptor : Option Descriptor := none
  /-- The container record. -/
  container : Option Container := none
  /-- How often the clock was read. -/
  ticks : Nat := 0
  /-- How many identifiers were given out. -/
  ids : Nat := 0
  /-- How often the descriptor was saved. -/
  saves : Nat := 0
  /-- The external commands, with their directories. -/
  calls : List String := []
  /-- The questions and their choices. -/
  prompts : List (String × List String) := []
deriving Repr, Inhabited

/-- A computation in a world that may end in an error; the world stays as it was left. -/
abbrev InWorld := Fallible (StateM World)

namespace World

/-- Decide whether a text contains one of several parts. -/
def hits (parts : List String) (text : String) : Bool := parts.any (contains text)

/-- Fail on a path that the script names for an operation. -/
def failOn (parts : List String) (operation path : String) : InWorld Unit :=
  if hits parts path then throw (.run (.filesystem path ("injected " ++ operation))) else pure ()

/-- Change the tree. -/
def modifyTree (f : MemoryTree → MemoryTree) : InWorld Unit :=
  modify fun w => { w with tree := f w.tree }

/-- The files of a world. -/
def filePort (faults : FileFaults) : FilePort (StateM World) where
  pathExists path := return (← get).tree.hasPath path
  read path := do
    failOn faults.read "read" path
    return (← get).tree.read? path
  write path content := do
    failOn faults.write "write" path
    match (← get).tree.write path content with
    | .ok tree => modifyTree fun _ => tree
    | .error e => throw e
  createDirs path := do
    failOn faults.mkdir "mkdir" path
    modifyTree (·.createDirs (Path.components path))
  listFiles path := do
    failOn faults.list "list" path
    return (← get).tree.listFiles path

/-- What the tool does to the tree when it succeeds. -/
def toolEffect (script : ToolScript) (dir : String) (arguments : List String) : InWorld Unit :=
  match migrationFile? dir arguments with
  | some path => if script.writesMigrations then modifyTree (·.seed path "") else pure ()
  | none => pure ()

/-- Run the tool as the script says. -/
def runTool (script : ToolScript) (program : String) (arguments : List String) (dir : String) :
    InWorld CommandOutput := do
  let line := joinWith " " (program :: arguments)
  modify fun w => { w with calls := w.calls ++ [dir ++ " $ " ++ line] }
  if hits script.missing line then throw (.run (.toolMissing program))
  else if hits script.raise line then throw (.run (.commandFailed line script.code script.output))
  else if hits script.abort line then throw (.internal "injected abort")
  else if hits script.fail line then return ⟨false, script.code, script.output⟩
  else
    toolEffect script dir arguments
    return ⟨true, some 0, ""⟩

/-- Answer a question. -/
def choose (answer : Answer) (prompt : String) (choices : List String) : InWorld Nat := do
  modify fun w => { w with prompts := w.prompts ++ [(prompt, choices)] }
  match answer with
  | .index i => return i
  | .preset text => (presetChoice text prompt choices : Except Error Nat)

/-- Fail if the script says so. -/
def failStore (fails : Bool) : InWorld Unit :=
  if fails then throw (.run (.stateStore "" "injected")) else pure ()

/-- The ports of a world. -/
def ports (script : Script) (templates : Templates) (pluralize : String → String) :
    Ports (StateM World) where
  files := filePort script.faults
  templates := templates
  pluralize := pluralize
  runCommand := runTool script.tool
  choose := choose script.answer
  loadDescriptor _ := do
    failStore script.stores.load
    return (← get).descriptor
  saveDescriptor _ d := do
    failStore script.stores.save
    modify fun w => { w with descriptor := some d, saves := w.saves + 1 }
  saveContainer c := do
    failStore script.stores.container
    modify fun w => { w with container := some c }
  now := modifyGet fun w => (⟨1767225600 + w.ticks, 0⟩, { w with ticks := w.ticks + 1 })
  freshId := modifyGet fun w => (⟨w.ids⟩, { w with ids := w.ids + 1 })

end World

end Scaffold
