import Scaffold.System.Shell.Fields
import Scaffold.System.Shell.Script

/-!
# Sessions

What a script works on: the disk and the open streams, which all shells of a session share, and
what each shell has of its own.  A shell inside a shell works on the same streams and disk, and
what it had of its own is forgotten at its end.
-/

namespace Scaffold.Shell

open Scaffold.Text

/-! ## Streams -/

/-- What a stream leads to. -/
inductive Medium where
  /-- A text that grows as it is written. -/
  | memory (content : String)
  | file (place : Place)
  /-- Nothing: all that is written is lost, and there is nothing to read. -/
  | nowhere
deriving Repr, DecidableEq

/-- An open stream. -/
structure Stream where
  medium : Medium
  /-- How many octets come before what is read or written next. -/
  position : Nat := 0
  /-- Whether all is written at the end. -/
  append : Bool := false
  readable : Bool := true
  writable : Bool := true
deriving Repr, DecidableEq

/-- The text a stream leads to. -/
def Stream.content (disk : Disk) (s : Stream) : String :=
  match s.medium with
  | .memory content => content
  | .nowhere => ""
  | .file place =>
      match disk.node? place with
      | some (.file content) => ofBytes content.toList
      | _ => ""

/-! ## Shells -/

/-- A variable. -/
structure Variable where
  value : Option String := none
  /-- Whether other programs see it. -/
  exported : Bool := false
  readOnly : Bool := false
deriving Repr, DecidableEq

/-- What a shell has of its own. -/
structure Own where
  /-- The number of the process. -/
  process : Nat
  /-- The name the shell was started by. -/
  name : String
  parameters : List String := []
  directory : Place
  bindings : List (String × Variable) := []
  functions : List (String × Command) := []
  /-- The streams of the descriptors that are open. -/
  descriptors : List (Nat × Nat) := []
  /-- The options that are on. -/
  options : List Char := []
  /-- What is done on signals, and at the end. -/
  traps : List (String × String) := []
  /-- The line of the command that runs. -/
  line : Nat := 1
  /-- The command of the shell that runs, or the file whose commands run. -/
  context : String := ""
  /-- The status of the last command. -/
  status : Nat := 0
  /-- The status of the last command whose output was taken. -/
  taken : Nat := 0
  /-- Whether it is a shell inside the shell of the same process. -/
  nested : Bool := false
  /-- Whether somebody looks at the status of what runs, so that failure is no end. -/
  watched : Bool := false
  /-- How many loops are around what runs. -/
  loops : Nat := 0
  /-- How many functions are around what runs. -/
  calls : Nat := 0
  /-- In a function, what its own variables were before. -/
  locals : Option (List (String × Option Variable)) := none
  /-- The process of the last command in the background, and how each of them ended. -/
  jobs : List (Nat × Nat) := []
  /-- The number of the parameter that the next option is read from. -/
  option : Nat := 1
  /-- How many characters of it were read. -/
  cluster : Nat := 0

/-- A session. -/
structure Session extends Own where
  disk : Disk
  streams : Array Stream := #[]
  /-- The files that can be run. -/
  runnable : List Place := []
  /-- The texts that belong to redirections, by their numbers. -/
  texts : List (Nat × Word) := []
  /-- The number of the next text. -/
  nextText : Nat := 0
  /-- The number of the next process. -/
  nextProcess : Nat := 2
  /-- The signals that were sent to processes. -/
  pending : List (Nat × String) := []

/-- Why commands end before their last one. -/
inductive Leave where
  /-- The shell ends. -/
  | exit
  /-- So many loops end. -/
  | stop (loops : Nat)
  /-- The round of a loop ends, after the end of the loops inside it. -/
  | skip (loops : Nat)
  /-- The function ends. -/
  | back
  /-- The process is killed by a signal. -/
  | killed (process signal : Nat)
deriving Repr, DecidableEq

/-- Something a script does. -/
abbrev Act := ExceptT Leave (StateM Session)

/-- Do something, and then do something else in any case. -/
def Act.finally {α : Type} (x : Act α) (after : Act Unit) : Act α := do
  try
    let a ← x
    after
    return a
  catch e =>
    after
    throw e

/-- Do something on behalf of a command of the shell, or of a file. -/
def inContext {α : Type} (context : String) (x : Act α) : Act α := do
  let old := (← get).context
  modify fun s => { s with context }
  Act.finally x (modify fun s => { s with context := old })

/-- Set the status. -/
def setStatus (status : Nat) : Act Unit := modify fun s => { s with status }

/-- Change what the shell has of its own. -/
def modifyOwn (f : Own → Own) : Act Unit := modify fun s => { s with toOwn := f s.toOwn }

/-! ## Reading and writing -/

/-- The stream of a descriptor. -/
def streamOf? (descriptor : Nat) : Act (Option (Nat × Stream)) := do
  let s ← get
  match s.descriptors.lookup descriptor with
  | none => return none
  | some i => return (s.streams[i]?).map fun stream => (i, stream)

/-- Open a stream, and get its number. -/
def openStream (stream : Stream) : Act Nat := do
  let s ← get
  set { s with streams := s.streams.push stream }
  return s.streams.size

/-- Let a descriptor lead to a stream, or close it. -/
def point (descriptor : Nat) (stream : Option Nat) : Act Unit := modifyOwn fun o =>
  let others := o.descriptors.filter (·.1 != descriptor)
  { o with descriptors := (stream.map fun i => (descriptor, i)).toList ++ others }

/-- Bytes with a text written over them from a position on. -/
def written (old : List UInt8) (position : Nat) (new : List UInt8) : ByteArray :=
  let before := old.take position
  let gap := List.replicate (position - before.length) 0
  ⟨(before ++ gap ++ new ++ old.drop (position + new.length)).toArray⟩

/-- Write to a descriptor, and say whether it can be written to. -/
def write (descriptor : Nat) (text : String) : Act Bool := do
  match ← streamOf? descriptor with
  | none => return false
  | some (i, stream) =>
      if !stream.writable then return false
      match stream.medium with
      | .nowhere => return true
      | .memory _ =>
          modify fun s => { s with streams := s.streams.modify i fun stream =>
            match stream.medium with
            | .memory content => { stream with medium := .memory (content ++ text) }
            | _ => stream }
          return true
      | .file place =>
          modify fun s =>
            let old := match s.disk.node? place with
              | some (.file content) => content.toList
              | _ => []
            let at' := if stream.append then old.length else stream.position
            let new := toBytes text
            { s with
              disk := s.disk.put place (.file (written old at' new))
              streams := s.streams.set! i { stream with position := at' + new.length } }
          return true

/-- What is left to read from a descriptor. -/
def pendingInput (descriptor : Nat) : Act String := do
  match ← streamOf? descriptor with
  | none => return ""
  | some (_, stream) =>
      if !stream.readable then return ""
      return String.ofList ((stream.content (← get).disk).toList.drop stream.position)

/-- Go on in what is read from a descriptor by so many octets. -/
def consume (descriptor count : Nat) : Act Unit := do
  match ← streamOf? descriptor with
  | none => return
  | some (i, stream) =>
      modify fun s => { s with
        streams := s.streams.set! i { stream with position := stream.position + count } }

/-- Report a problem, with the shell's name, the line and the command. -/
def report (message : String) : Act Unit := do
  let s ← get
  let context := if s.context.isEmpty then "" else s.context ++ ": "
  let _ ← write 2 (s.name ++ ": " ++ toString s.line ++ ": " ++ context ++ message ++ "\n")

/-- Report a problem and fail. -/
def problem (message : String) (status : Nat := 2) : Act Unit := do
  report message
  setStatus status

/-- Report a problem and end the shell. -/
def fatal {α : Type} (message : String) : Act α := do
  problem message
  throw .exit

/-! ## Variables -/

/-- Replace the value of a key, or add it. -/
def putKey {α : Type} (key : String) (value : α) : List (String × α) → List (String × α)
  | [] => [(key, value)]
  | (k, v) :: rest => if k == key then (key, value) :: rest else (k, v) :: putKey key value rest

/-- The value of a variable. -/
def Own.valueOf? (o : Own) (name : String) : Option String :=
  (o.bindings.lookup name).bind (·.value)

/-- Put a variable, and set its value to another one. -/
def putVariable (name : String) (f : Variable → Variable) : Act Unit := modifyOwn fun o =>
  { o with bindings := putKey name (f ((o.bindings.lookup name).getD {})) o.bindings }

/-- Decide whether a variable is read only. -/
def Own.isFixed (o : Own) (name : String) : Bool :=
  ((o.bindings.lookup name).map (·.readOnly)).getD false

/-- Assign a variable.  One that is read only ends the shell. -/
def assign (name value : String) : Act Unit := do
  if (← get).isFixed name then fatal (name ++ ": is read only")
  putVariable name fun v => { v with value := some value }
  if name == "OPTIND" then
    modifyOwn fun o => { o with cluster := 0, option := (value.toNat?).getD 1 }
  let allExported := (← get).options.contains 'a'
  if allExported then putVariable name fun v => { v with exported := true }

/-- The characters that separate fields. -/
def Own.separators (o : Own) : String := (o.valueOf? "IFS").getD " \t\n"

/-- The variables that other programs see. -/
def Own.environment (o : Own) : List (String × String) :=
  o.bindings.filterMap fun (name, v) =>
    if v.exported then v.value.map fun value => (name, value) else none

/-- What the parameters make together: they are set apart by the first separator. -/
def Own.joined (o : Own) : String :=
  joinWith ((o.separators.toList.head?.map Char.toString).getD "") o.parameters

/-- The value of a parameter. -/
def Own.parameter? (o : Own) (name : String) : Option String :=
  match name with
  | "@" | "*" => if o.parameters.isEmpty then none else some o.joined
  | "#" => some (toString o.parameters.length)
  | "?" => some (toString o.status)
  | "$" => some (toString o.process)
  | "!" => o.jobs.head?.map fun (process, _) => toString process
  | "-" => some (String.ofList o.options)
  | "0" => some o.name
  | name =>
      if (name.toList.head?.map Char.isDigit).getD false then
        o.parameters[(name.toList.foldl (fun n c => n * 10 + (c.toNat - 48)) 0) - 1]?
      else o.valueOf? name

/-! ## Signals -/

/-- The signals by name and number, and what a shell says of a program that is killed by one. -/
def signals : List (String × Nat × String) :=
  [("HUP", 1, "Hangup"), ("INT", 2, ""), ("QUIT", 3, "Quit"), ("ILL", 4, "Illegal instruction"),
   ("TRAP", 5, "Trace/breakpoint trap"), ("ABRT", 6, "Aborted"), ("BUS", 7, "Bus error"),
   ("FPE", 8, "Floating point exception"), ("KILL", 9, "Killed"),
   ("USR1", 10, "User defined signal 1"), ("SEGV", 11, "Segmentation fault"),
   ("USR2", 12, "User defined signal 2"), ("PIPE", 13, ""), ("ALRM", 14, "Alarm clock"),
   ("TERM", 15, "Terminated")]

/-- The name of a signal, given by name or number.  Zero is the end of the shell. -/
def signalName? (s : String) : Option String :=
  let name := if beginsWith s "SIG" then String.ofList (s.toList.drop 3) else s
  if s == "0" || s == "EXIT" then some "EXIT"
  else if (signals.lookup name).isSome then some name
  else (signals.find? fun (_, n, _) => toString n == s).map (·.1)

end Scaffold.Shell
