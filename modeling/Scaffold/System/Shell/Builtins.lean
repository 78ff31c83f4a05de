import Scaffold.System.Shell.Format
import Scaffold.System.Shell.Reader
import Scaffold.System.Shell.Test
import Scaffold.System.Shell.Toolbox

/-!
# Commands of the shell

The commands that a shell does itself and that run no other commands.
-/

namespace Scaffold.Shell

open Scaffold.Text

/-- The commands that a shell looks for before its functions.  A failure of theirs ends it. -/
def specialBuiltins : List String :=
  [".", ":", "break", "continue", "eval", "exec", "exit", "export", "readonly", "return", "set",
   "shift", "times", "trap", "unset"]

/-- The other commands of a shell. -/
def regularBuiltins : List String :=
  ["[", "alias", "bg", "cd", "chdir", "command", "echo", "false", "fg", "getopts", "hash", "jobs",
   "kill", "local", "printf", "pwd", "read", "test", "true", "type", "ulimit", "umask", "unalias",
   "wait"]

/-- The commands of a shell. -/
def builtins : List String := specialBuiltins ++ regularBuiltins

/-- The commands whose arguments are assigned. -/
def assigningBuiltins : List String := ["export", "local", "readonly"]

/-- Write to the output of a command. -/
def put (text : String) : Act Unit := do
  if ← write 1 text then setStatus 0 else problem ((← get).context ++ ": I/O error") 1

/-- The number that an argument of a command is. -/
def numberArgument (text : String) : Act Nat :=
  match natural? text with
  | some n => if n < Nat.pow 2 31 then return n else fatal ("Illegal number: " ++ text)
  | none => fatal ("Illegal number: " ++ text)

/-! ## Output and tests -/

/-- Write arguments by a format. -/
def doPrintf (arguments : List String) : Act Unit := do
  match (if arguments.head? == some "--" then arguments.drop 1 else arguments) with
  | [] => problem "usage: printf format [arg ...]"
  | format :: rest =>
      let dashed := format.toList.head? == some '-' && 1 < format.length &&
        arguments.head? != some "--"
      if dashed then
        problem ("Illegal option -" ++ String.ofList ((format.toList.drop 1).take 1))
      else
        let r := printed format rest
        for message in r.messages do report message
        put (String.ofList r.written.reverse)
        if (← get).status = 0 then setStatus r.status

/-- Decide a test. -/
def doTest (name : String) (arguments : List String) : Act Unit := do
  let s ← get
  let scene : Scene := ⟨s.disk, s.directory, fun place =>
    (programNameAt? place).isSome || s.runnable.contains place⟩
  if name == "[" && arguments.getLast? != some "]" then problem "missing ]"
  else
    match decideTest scene (if name == "[" then arguments.dropLast else arguments) with
    | .ok b => setStatus (if b then 0 else 1)
    | .error e => problem e.message

/-! ## The directory -/

/-- Show the directory. -/
def doPwd : Act Unit := do put (octets (Machine.pathOf (← get).directory) ++ "\n")

/-- Go to a directory. -/
def doCd (arguments : List String) : Act Unit := do
  let s ← get
  let arguments := arguments.filter fun a => !(["-L", "-P", "--"].contains a)
  let target := match arguments with
    | [] => s.valueOf? "HOME"
    | "-" :: _ => some ((s.valueOf? "OLDPWD").getD "")
    | dir :: _ => some dir
  match target with
  | none => setStatus 0
  | some dir =>
      match s.disk.locate s.directory (ofOctets (if dir.isEmpty then "." else dir)) with
      | .ok (place, .directory) =>
          let old := octets (Machine.pathOf s.directory)
          modifyOwn fun o => { o with directory := place }
          putVariable "OLDPWD" fun v => { v with value := some old }
          putVariable "PWD" fun v => { v with value := some (octets (Machine.pathOf place)) }
          setStatus 0
          if arguments.head? == some "-" then doPwd
      | _ => problem ("can't cd to " ++ dir)

/-! ## Variables -/

/-- The name and the value of an assignment that is an argument. -/
def assignmentOf (text : String) : String × Option String :=
  match cutAt? ['='] text.toList with
  | some (name, value) => (String.ofList name, some (String.ofList value))
  | none => (text, none)

/-- Show variables in a form that makes them again. -/
def showVariables (command : String) (p : Variable → Bool) : Act Unit := do
  let shown := ((← get).bindings.filter fun (_, v) => p v).map fun (name, v) =>
    command ++ name ++ ((v.value.map fun value => "=" ++ inQuotes value).getD "") ++ "\n"
  put (String.join (shown.mergeSort fun a b => a ≤ b))

/-- Mark variables, and assign those that come with a value. -/
def markVariables (command : String) (mark : Variable → Variable) (shown : Variable → Bool)
    (arguments : List String) : Act Unit := do
  match arguments.filter (· != "-p") with
  | [] => showVariables (command ++ " ") shown
  | texts =>
      for text in texts do
        let (name, value) := assignmentOf text
        if !isName name then fatal (name ++ ": bad variable name")
        match value with
        | some value => assign name value
        | none => pure ()
        putVariable name mark
      setStatus 0

/-- Make variables of a function's own. -/
def doLocal (arguments : List String) : Act Unit := do
  for text in arguments do
    match (← get).locals with
    | none => fatal "not in a function"
    | some locals =>
        let (name, value) := assignmentOf text
        if !isName name then fatal (name ++ ": bad variable name")
        let old := (← get).bindings.lookup name
        if (locals.lookup name).isNone then
          modifyOwn fun o => { o with locals := some ((name, old) :: locals) }
        match value with
        | some value => assign name value
        | none => pure ()
  if (← get).locals.isNone then fatal "not in a function"
  setStatus 0

/-- Forget variables or functions. -/
def doUnset (arguments : List String) : Act Unit := do
  let names := arguments.filter fun a => a != "-f" && a != "-v"
  for name in names do
    if arguments.head? == some "-f" then
      modifyOwn fun o => { o with functions := o.functions.filter (·.1 != name) }
    else
      if !isName name then fatal (name ++ ": bad variable name")
      if (← get).isFixed name then fatal (name ++ ": is read only")
      modifyOwn fun o => { o with bindings := o.bindings.filter (·.1 != name) }
  setStatus 0

/-- Decide whether a cell is a blank that separates fields. -/
def isSeparatingBlank (separators : String) : Cell → Bool
  | .char c _ true => separators.toList.contains c && (c == ' ' || c == '\t' || c == '\n')
  | _ => false

/-- The first field of cells and what is left of them. -/
def firstField (separators : String) (cells : List Cell) : List Cell × List Cell :=
  let isBlank := isSeparatingBlank separators
  let isMark (c : Cell) : Bool := match c with
    | .char c _ true => separators.toList.contains c
    | _ => false
  let field := cells.takeWhile fun c => !isMark c
  let rest := (cells.drop field.length).dropWhile isBlank
  match rest with
  | c :: more =>
      if isMark c && (cells.drop field.length).length != 0 then (field, more.dropWhile isBlank)
      else (field, rest)
  | [] => (field, [])

/-- Cells without the blanks at their end.  What is quoted after such a blank does not keep it. -/
def withoutEndBlanks (separators : String) (cells : List Cell) : List Cell :=
  let isLoose (c : Cell) : Bool := match c with
    | .char _ _ true => isSeparatingBlank separators c
    | _ => true
  let count := (cells.reverse.takeWhile isLoose).length
  let kept := cells.take (cells.length - count)
  kept ++ (cells.drop kept.length).takeWhile fun c => !isSeparatingBlank separators c

/-- The values that names get from cells.  The last name gets all that is left. -/
def valuesFor (separators : String) : List String → List Cell → List (String × String)
  | [], _ => []
  | [name], cells =>
      let value := match fieldsOf separators cells with
        | [] => ""
        | [field] => textOf field
        | _ => textOf (plainOf (withoutEndBlanks separators cells))
      [(name, value)]
  | name :: names, cells =>
      let (field, rest) := firstField separators cells
      (name, textOf (plainOf field)) :: valuesFor separators names rest

/-- A line as cells, how many octets it takes, and whether it ends.  A backslash keeps its
meaning unless the line is raw. -/
def lineCells (raw : Bool) : List Char → List Cell × Nat × Bool
  | [] => ([], 0, false)
  | '\n' :: _ => ([], 1, true)
  | '\\' :: c :: rest =>
      if raw then
        let (cells, n, full) := lineCells raw (c :: rest)
        (.char '\\' false true :: cells, n + 1, full)
      else
        let (cells, n, full) := lineCells raw rest
        (if c == '\n' then cells else .char c true false :: cells, n + 2, full)
  | c :: rest =>
      let (cells, n, full) := lineCells raw rest
      (.char c false true :: cells, n + 1, full)

/-- Read a line into variables. -/
def doRead (arguments : List String) : Act Unit := do
  let o := Options.read "r" "p" true {} arguments
  match o.operands.find? fun name => !isName name with
  | some name => problem (name ++ ": bad variable name")
  | none =>
      if o.operands.isEmpty then problem "arg count"
      else
        let (cells, n, full) := lineCells (o.has 'r') (← pendingInput 0).toList
        consume 0 n
        let separators := (← get).separators
        let cells := cells.dropWhile (isSeparatingBlank separators)
        for (name, value) in valuesFor separators o.operands cells do
          if (← get).isFixed name then return ← problem (name ++ ": is read only")
          assign name value
        setStatus (if full then 0 else 1)

/-- Where the next option is read, and the variable that tells. -/
def nextOption (option cluster : Nat) : Act Unit := do
  putVariable "OPTIND" fun v => { v with value := some (toString option) }
  modifyOwn fun o => { o with option, cluster }

/-- Read the next option of some arguments into a variable.  A specification that begins with a
colon keeps messages back. -/
def takeOption (spec name : String) (given : List String) : Act Unit := do
  let s ← get
  let quiet := beginsWith spec ":"
  let report (message : String) (c : Char) : Act Unit := do
    if quiet then assign "OPTARG" c.toString
    else
      modifyOwn fun o => { o with bindings := o.bindings.filter (·.1 != "OPTARG") }
      let _ ← write 2 (message ++ " -" ++ c.toString ++ "\n")
  let finish (option : Nat) : Act Unit := do
    assign name "?"
    nextOption option 0
    setStatus 1
  match given[s.option - 1]? with
  | none => finish s.option
  | some word =>
      if word == "--" then finish (s.option + 1)
      else if !(beginsWith word "-") || word.length < 2 then finish s.option
      else
        let i := max s.cluster 1
        let c := (word.toList[i]?).getD '?'
        let last := word.length ≤ i + 1
        setStatus 0
        if c == ':' || !spec.toList.contains c then
          assign name "?"
          report "Illegal option" c
          if last then nextOption (s.option + 1) 0 else nextOption s.option (i + 1)
        else if !contains spec (c.toString ++ ":") then
          assign name c.toString
          assign "OPTARG" ""
          if last then nextOption (s.option + 1) 0 else nextOption s.option (i + 1)
        else
          let value := if last then given[s.option]?
            else some (String.ofList (word.toList.drop (i + 1)))
          match value with
          | some value =>
              assign name c.toString
              assign "OPTARG" value
              nextOption (if last then s.option + 2 else s.option + 1) 0
          | none =>
              assign name (if quiet then ":" else "?")
              report "No arg for" c
              nextOption (s.option + 1) 0

/-- Read the next option of the parameters, or of other arguments. -/
def doGetopts (arguments : List String) : Act Unit := do
  match arguments with
  | spec :: name :: given =>
      let s ← get
      let given := if given.isEmpty then s.parameters else given
      if given.length + 1 < s.option || s.option = 0 then nextOption 1 0
      takeOption spec name given
  | _ => fatal "Usage: getopts optstring var [arg...]"

/-! ## Parameters and options -/

/-- The options of a shell by letter and name. -/
def optionNames : List (Char × String) :=
  [('e', "errexit"), ('f', "noglob"), ('I', "ignoreeof"), ('i', "interactive"), ('m', "monitor"),
   ('n', "noexec"), ('s', "stdin"), ('x', "xtrace"), ('v', "verbose"), ('V', "vi"), ('E', "emacs"),
   ('C', "noclobber"), ('a', "allexport"), ('b', "notify"), ('u', "nounset")]

/-- Read options: which are on after them, and the arguments that follow, if there are any or a
sign that there are none.  Some letters are options only here. -/
def readFlags (extra : List Char) (on : List Char) :
    List String → Except String (List Char × Option (List String))
  | [] => .ok (on, none)
  | "--" :: rest => .ok (on, some rest)
  | "-" :: rest =>
      .ok (on.filter fun c => c != 'x' && c != 'v', if rest.isEmpty then none else some rest)
  | s :: rest =>
      let switch (sign c : Char) (on : List Char) : List Char :=
        let others := on.filter (· != c)
        if sign == '-' then others ++ [c] else others
      match s.toList with
      | sign :: c :: cs =>
          if sign != '-' && sign != '+' then .ok (on, some (s :: rest))
          else if c == 'o' && cs.isEmpty then
            match rest with
            | [] => .ok (on, none)
            | name :: rest =>
                match optionNames.find? (·.2 == name) with
                | some (c, _) => readFlags extra (switch sign c on) rest
                | none => .error ("Illegal option -o " ++ name)
          else
            match (c :: cs).find? fun c => !extra.contains c && !optionNames.any (·.1 == c) with
            | some c => .error ("Illegal option " ++ String.ofList [sign, c])
            | none => readFlags extra ((c :: cs).foldl (fun on c => switch sign c on) on) rest
      | _ => .ok (on, some (s :: rest))

/-- Show the options: as a table, or as commands that set them. -/
def showOptions (asTable : Bool) : Act Unit := do
  let on := (← get).options
  let names := optionNames ++ [('p', "privileged"), ('\x00', "nolog"), ('\x00', "debug")]
  let row (c : Char) (name : String) : String :=
    let isOn := on.contains c
    if asTable then
      name ++ String.ofList (List.replicate (16 - name.length) ' ') ++
        (if isOn then "on" else "off")
    else (if isOn then "set -o " else "set +o ") ++ name
  let rows := names.map fun (c, name) => row c name ++ "\n"
  put ((if asTable then "Current option settings\n" else "") ++ String.join rows)

/-- Set options and parameters. -/
def doSet (arguments : List String) : Act Unit := do
  if arguments.isEmpty then showVariables "" fun v => v.value.isSome
  else if arguments == ["-o"] then showOptions true
  else if arguments == ["+o"] then showOptions false
  else
    match readFlags [] (← get).options arguments with
    | .error message => fatal message
    | .ok (options, parameters) =>
        modifyOwn fun o => { o with options }
        match parameters with
        | some parameters => modifyOwn fun o => { o with parameters, option := 1, cluster := 0 }
        | none => pure ()
        setStatus 0

/-- Drop parameters. -/
def doShift (arguments : List String) : Act Unit := do
  let n ← match arguments with
    | [] => pure 1
    | text :: _ => numberArgument text
  if (← get).parameters.length < n then fatal "can't shift that many"
  modifyOwn fun o => { o with parameters := o.parameters.drop n }
  setStatus 0

/-! ## Endings and signals -/

/-- The status that an argument is, or that of the last command. -/
def statusArgument (arguments : List String) : Act Nat := do
  match arguments with
  | [] => return (← get).status
  | text :: _ => numberArgument text

/-- End the shell. -/
def doExit (arguments : List String) : Act Unit := do
  setStatus (← statusArgument arguments)
  throw .exit

/-- End the function. -/
def doReturn (arguments : List String) : Act Unit := do
  setStatus (← statusArgument arguments)
  throw .back

/-- End loops, or their rounds. -/
def doLeave (leave : Nat → Leave) (arguments : List String) : Act Unit := do
  let n ← match arguments with
    | [] => pure 1
    | text :: _ => numberArgument text
  if n = 0 then fatal ("Illegal number: " ++ (arguments.headD ""))
  let loops := (← get).loops
  setStatus 0
  if loops != 0 then throw (leave (min n loops))

/-- Set what is done on signals. -/
def doTrap (arguments : List String) : Act Unit := do
  let arguments := if arguments.head? == some "--" then arguments.drop 1 else arguments
  let isNumber (s : String) : Bool := (natural? s).isSome
  match arguments with
  | [] =>
      let shown := (← get).traps.reverse.map fun (signal, action) =>
        "trap -- " ++ inQuotes action ++ " " ++ signal ++ "\n"
      put (String.join shown)
  | action :: names =>
      let (action, names) := if isNumber action || names.isEmpty then ("-", action :: names)
        else (action, names)
      setStatus 0
      for name in names do
        match signalName? name with
        | none => problem (name ++ ": bad trap") 1
        | some signal =>
            modifyOwn fun o =>
              let others := o.traps.filter (·.1 != signal)
              { o with traps := if action == "-" then others else (signal, action) :: others }

/-- The signal and the processes that arguments name. -/
def signalAndTargets (arguments : List String) : Option String × List String :=
  match arguments with
  | "-s" :: name :: targets => (signalName? name, targets)
  | "--" :: targets => (some "TERM", targets)
  | s :: targets =>
      match s.toList with
      | '-' :: name =>
          if name == ['0'] then (some "0", targets)
          else (signalName? (String.ofList name), targets)
      | _ => (some "TERM", s :: targets)
  | [] => (none, [])

/-- Send a signal.  Only the shell's own process is there to get one. -/
def doKill (arguments : List String) : Act Unit := do
  let usage := "Usage: kill [-s sigspec | -signum | -sigspec] [pid | job]... or\n" ++
    "kill -l [exitstatus]"
  match arguments, signalAndTargets arguments with
  | [], _ => problem usage
  | "-l" :: text :: _, _ =>
      match signalName? text with
      | some name => put (name ++ "\n")
      | none => problem ("invalid signal number or exit status: " ++ text)
  | _, (none, _) => problem ("invalid signal number or name: " ++ (arguments.headD ""))
  | _, (some _, []) => problem usage
  | _, (some name, target :: _) =>
      let s ← get
      if (natural? target).isNone then problem ("Illegal number: " ++ target)
      else if target != toString s.process then problem "No such process" 1
      else
        setStatus 0
        if name != "0" && name != "EXIT" then
          modify fun s => { s with pending := s.pending ++ [(s.process, name)] }

/-! ## Names -/

/-- Say what names stand for. -/
def doType (names : List String) : Act Unit := do
  let mut status := 0
  for name in names do
    let s ← get
    let kind ←
      if reserved.contains name then pure (some "a shell keyword")
      else if specialBuiltins.contains name then pure (some "a special shell builtin")
      else if (s.functions.lookup name).isSome then pure (some "a shell function")
      else if regularBuiltins.contains name then pure (some "a shell builtin")
      else match ← findProgram name with
        | .ok (_, path) => pure (some path)
        | .error _ => pure none
    match kind with
    | some kind =>
        let _ ← write 1 (name ++ " is " ++ kind ++ "\n")
    | none =>
        let _ ← write 1 (name ++ ": not found\n")
        status := 127
  setStatus status

/-- Say how a name would be run. -/
def doWhich (names : List String) : Act Unit := do
  match names with
  | [] => setStatus 0
  | name :: _ =>
      let s ← get
      if reserved.contains name || specialBuiltins.contains name ||
          (s.functions.lookup name).isSome || regularBuiltins.contains name then
        put (name ++ "\n")
      else match ← findProgram name with
        | .ok (_, path) => put (path ++ "\n")
        | .error _ => setStatus 127

end Scaffold.Shell
