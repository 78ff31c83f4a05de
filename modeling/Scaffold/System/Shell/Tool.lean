import Scaffold.System.Machine
import Scaffold.Text.Octets

/-!
# Tools

A tool is a program that reads its arguments, its input and the disk, writes to its output and
its error output in turn, and may change the disk.  The texts it works on are texts of octets.
-/

namespace Scaffold.Shell

open Scaffold.Text

/-- What a tool is started with. -/
structure Job where
  name : String
  arguments : List String
  input : String
  directory : Place
  environment : List (String × String)
  /-- The file that the output goes to. -/
  target : Option Place := none

/-- What a tool has done so far. -/
structure Work where
  disk : Disk
  status : Nat := 0
  /-- What was written, the last first, and whether it was written as an error. -/
  written : List (Bool × String) := []
  /-- Whether the input was read. -/
  used : Bool := false

/-- A tool. -/
abbrev Tool := ReaderT Job (StateM Work) Unit

/-- A part of what a tool does. -/
abbrev Step := ReaderT Job (StateM Work)

/-- Write to the output. -/
def say (s : String) : Step Unit := modify fun w => { w with written := (false, s) :: w.written }

/-- Write a line. -/
def sayLine (s : String) : Step Unit := say (s ++ "\n")

/-- Write a message after the name of the tool, and fail. -/
def complain (message : String) (status : Nat := 1) : Step Unit := do
  let name := (← read).name
  modify fun w => { w with
    status, written := (true, name ++ ": " ++ message ++ "\n") :: w.written }

/-- Refuse the way a tool was called. -/
def misuse (message : String) (status : Nat := 1) : Step Unit := do
  complain (message ++ "\nTry '" ++ (← read).name ++ " --help' for more information.") status

/-- A text in quotes. -/
def inQuotes (s : String) : String :=
  let quoted := s.toList.flatMap fun c => if c == '\'' then "'\\''".toList else [c]
  "'" ++ String.ofList quoted ++ "'"

/-- The name of a file in a message, in quotes where it could be misread. -/
def shown (path : String) : String :=
  let plain (c : Char) : Bool := c.isAlphanum || "%+,-./:@_]".toList.contains c
  if path.isEmpty || !path.toList.all plain then inQuotes path else path

/-- The words of a refusal, without its number. -/
def reasonOf (e : OsError) : String := (splitText e.message).getD e.message
where
  /-- What comes before the number. -/
  splitText (s : String) : Option String :=
    (cutAt? " (os error".toList s.toList).map fun (before, _) => String.ofList before

/-- The input. -/
def wholeInput : Step String := do
  modify fun w => { w with used := true }
  return (← read).input

/-- The text of a file, or of the input if the path is a dash. -/
def contentOf (path : String) : Step (Except OsError String) := do
  if path == "-" then return .ok (← wholeInput)
  let w ← get
  return (w.disk.read (← read).directory (ofOctets path)).map fun content => ofBytes content.toList

/-- What is at a path. -/
def nodeAt (path : String) : Step (Except OsError (Place × Node)) := do
  return (← get).disk.locate (← read).directory (ofOctets path)

/-- Change the disk, and say whether and why not it could be changed. -/
def tryChange (f : Disk → Place → Except OsError Disk) : Step (Option OsError) := do
  let w ← get
  match f w.disk (← read).directory with
  | .ok disk =>
      set { w with disk }
      return none
  | .error e => return some e

/-- The texts of files, or of the input if there are none.  A file that cannot be read makes a
message, in which the file is described. -/
def contents (paths : List String) (describe : String → String := shown) (status : Nat := 1) :
    Step (List (String × String)) := do
  let mut found := []
  for path in (if paths.isEmpty then ["-"] else paths) do
    match ← contentOf path with
    | .ok s => found := found ++ [(path, s)]
    | .error e => complain (describe path ++ ": " ++ reasonOf e) status
  return found

/-- The lines of a text, whether or not the last one ends. -/
def linesOf (s : String) : List String :=
  let lines := splitOnChar '\n' s
  if lines.getLast? == some "" then lines.dropLast else lines

/-! ## Options -/

/-- The options among arguments. -/
structure Options where
  /-- The options with their values, in order. -/
  given : List (Char × String) := []
  operands : List String := []
  /-- An option that does not exist. -/
  unknown : Option Char := none
  /-- An option that lacks its value. -/
  bare : Option Char := none

/-- Read a cluster of options, and say whether the last one takes the next argument. -/
def Options.addCluster (plain valued : String) (o : Options) : List Char → Options × Option Char
  | [] => (o, none)
  | c :: rest =>
      if valued.toList.contains c then
        if rest.isEmpty then (o, some c)
        else ({ o with given := o.given ++ [(c, String.ofList rest)] }, none)
      else if plain.toList.contains c then
        Options.addCluster plain valued { o with given := o.given ++ [(c, "")] } rest
      else ({ o with unknown := o.unknown.or (some c) }, none)

/-- Read arguments, of which some are options.  Where options come first, they end at the first
operand. -/
def Options.read (plain valued : String) (first : Bool) (o : Options) : List String → Options
  | [] => o
  | "--" :: rest => { o with operands := o.operands ++ rest }
  | s :: rest =>
      match s.toList with
      | '-' :: c :: more =>
          match o.addCluster plain valued (c :: more) with
          | (o, none) => Options.read plain valued first o rest
          | (o, some v) =>
              match rest with
              | [] => { o with bare := some v }
              | value :: rest =>
                  Options.read plain valued first { o with given := o.given ++ [(v, value)] } rest
      | _ =>
          if first then { o with operands := o.operands ++ s :: rest }
          else Options.read plain valued first { o with operands := o.operands ++ [s] } rest

/-- Decide whether an option was given. -/
def Options.has (o : Options) (c : Char) : Bool := o.given.any (·.1 == c)

/-- The last value of an option. -/
def Options.value? (o : Options) (c : Char) : Option String :=
  (o.given.filter (·.1 == c)).getLast?.map (·.2)

/-- Run a tool with the options it knows, or fail with a status.  Where options come first, they
end at the first operand. -/
def withOptionsBy (first : Bool) (status : Nat) (plain valued : String) (f : Options → Step Unit) :
    Tool := do
  let o := Options.read plain valued first {} (← read).arguments
  match o.unknown, o.bare with
  | some c, _ => misuse ("invalid option -- '" ++ c.toString ++ "'") status
  | none, some c => misuse ("option requires an argument -- '" ++ c.toString ++ "'") status
  | none, none => f o

/-- Run a tool with the options it knows. -/
def withOptions : (plain valued : String) → (Options → Step Unit) → Tool := withOptionsBy false 1

/-- Run a tool with the options it knows, which come before its operands. -/
def withLeadingOptions : (plain valued : String) → (Options → Step Unit) → Tool :=
  withOptionsBy true 1

/-- The number that a text is. -/
def natural? (s : String) : Option Nat :=
  if !s.isEmpty && s.toList.all Char.isDigit then
    some (s.toList.foldl (fun n c => n * 10 + (c.toNat - 48)) 0)
  else none

end Scaffold.Shell
