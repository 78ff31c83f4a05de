import Scaffold.System.Shell.Arithmetic
import Scaffold.System.Shell.Builtins

/-!
# Running commands

What a word expands to depends on the output of the commands in it, and what a command does on the
words it is made of, so both are one family of functions.  Each call of one by another uses up
fuel, and a loop uses up some in each round.  A session goes on from where it is when the fuel is
used up, so more fuel never takes back what was done.
-/

namespace Scaffold.Shell

open Scaffold.Text

/-- Refuse to go deeper. -/
def exhausted {α : Type} : Act α := fatal "out of steps"

/-- How many functions can call each other. -/
def deepestCall : Nat := 1000

/-- Do something while somebody looks at its status. -/
def whileWatched (x : Act Unit) : Act Unit := do
  let watched := (← get).watched
  modifyOwn fun o => { o with watched := true }
  Act.finally x (modifyOwn fun o => { o with watched })

/-- Do something and put the descriptors back to what they were. -/
def withDescriptors (x : Act Unit) : Act Unit := do
  let descriptors := (← get).descriptors
  Act.finally x (modifyOwn fun o => { o with descriptors })

/-- End the shell after a failure that nobody looks at, if it is told to. -/
def checkFailure : Act Unit := do
  let s ← get
  if s.status != 0 && s.options.contains 'e' && !s.watched then throw .exit

/-- Do something to its end, and then what is to be done at the end of a shell; the process and
the signal if the shell is killed. -/
def toTheEnd (atEnd : Act Unit) (x : Act Unit) : Act (Option (Nat × Nat)) := do
  let attempt (x : Act Unit) : Act (Option Leave) := do
    try
      x
      return none
    catch e => return some e
  let leave ← match ← attempt x with
    | some (.killed process signal) => pure (some (Leave.killed process signal))
    | _ => attempt atEnd
  match leave with
  | some (.killed process signal) => return some (process, signal)
  | _ => return none

/-- Do something in a shell inside the shell, with something to do at its end. -/
def inside (atEnd : Act Unit) (x : Act Unit) : Act Unit := do
  let own := (← get).toOwn
  modifyOwn fun o =>
    { o with nested := true, traps := o.traps.filter fun (_, action) => action.isEmpty }
  let killed ← toTheEnd atEnd x
  let status := (← get).status % 256
  modify fun s => { s with toOwn := { own with status } }
  match killed with
  | some (process, signal) => throw (.killed process signal)
  | none => return

/-- Do something that can end loops, or a round of them; say whether the innermost loop goes on. -/
def inRound (x : Act Unit) : Act Bool := do
  try
    x
    return true
  catch e =>
    match e with
    | .stop n => if n ≤ 1 then return false else throw (.stop (n - 1))
    | .skip n => if n ≤ 1 then return true else throw (.skip (n - 1))
    | e => throw e

/-- Do something with one more loop around it. -/
def inLoop (x : Act Unit) : Act Unit := do
  let loops := (← get).loops
  modifyOwn fun o => { o with loops := loops + 1 }
  Act.finally x (modifyOwn fun o => { o with loops })

/-- Do something that a function does, with its parameters. -/
def inFunction (parameters : List String) (x : Act Unit) : Act Unit := do
  let own := (← get).toOwn
  if deepestCall ≤ own.calls then
    fatal ("Maximum function recursion depth (" ++ toString deepestCall ++ ") reached")
  modifyOwn fun o => { o with
    parameters, loops := 0, calls := own.calls + 1, locals := some [], option := 1, cluster := 0 }
  let leave ← try
      x
      pure none
    catch e => pure (some e)
  for (name, old) in ((← get).locals).getD [] do
    modifyOwn fun o => { o with bindings := match old with
      | some v => putKey name v o.bindings
      | none => o.bindings.filter (·.1 != name) }
  modifyOwn fun o =>
    { o with parameters := own.parameters, loops := own.loops, calls := own.calls,
             locals := own.locals, option := own.option, cluster := own.cluster }
  match leave with
  | none | some .back => return
  | some e => throw e

/-- The cells of a value, in quotes or not. -/
def valueCells (quoted : Bool) (s : String) : List Cell :=
  if quoted then .mark :: cellsOf s true false else cellsOf s false true

/-- The cells of the parameters, each in a field of its own. -/
def parameterCells (o : Own) (quoted : Bool) : List Cell :=
  ((o.parameters.map (valueCells quoted)).intersperse [.cut]).flatten

/-- The cells of the value of a parameter. -/
def shownCells (o : Own) (name : String) (quoted : Bool) : List Cell :=
  if name == "@" || (name == "*" && !quoted) then parameterCells o quoted
  else valueCells quoted ((o.parameter? name).getD "")

/-- A word with the home directory for a tilde at its beginning. -/
def withHome (o : Own) (w : Word) : Word :=
  match w, o.valueOf? "HOME" with
  | .text s false :: rest, some home =>
      let name := s.toList.takeWhile (· != '/')
      if name == ['~'] && (s.length != 1 || rest.isEmpty) then
        .text home true :: .text (String.ofList (s.toList.drop 1)) false :: rest
      else w
  | w, _ => w

/-- A text without the line breaks at its end, and without the octet zero. -/
def outputText (s : String) : String :=
  let cs := s.toList.filter (· != '\x00')
  String.ofList (cs.reverse.dropWhile (· == '\n')).reverse

/-- Let a descriptor lead to a file; say whether it could be opened. -/
def openFile (descriptor : Nat) (channel : Channel) (path : String) : Act Bool := do
  let s ← get
  let name := ofOctets path
  let reading := channel == .input
  let refused (e : OsError) : Act Bool := do
    let reason := match e with
      | .notFound | .notDirectory => if reading then "No such file" else "Directory nonexistent"
      | e => reasonOf e
    report ((if reading then "cannot open " else "cannot create ") ++ path ++ ": " ++ reason)
    return false
  let opened (stream : Stream) : Act Bool := do
    point descriptor (some (← openStream stream))
    return true
  let copyOf (other : Nat) : Act Bool := do
    point descriptor (s.descriptors.lookup other)
    return true
  match path with
  | "/dev/null" => opened { medium := .nowhere }
  | "/dev/stdin" => copyOf 0
  | "/dev/stdout" => copyOf 1
  | "/dev/stderr" => copyOf 2
  | _ =>
      match s.disk.locate s.directory name with
      | .ok (_, .directory) =>
          if reading then opened { medium := .nowhere } else refused .isDirectory
      | .ok (place, .file _) =>
          if channel == .output && s.options.contains 'C' then refused .alreadyExists
          else
            if channel == .output || channel == .overwrite then
              modify fun s => { s with disk := s.disk.put place (.file .empty) }
            opened { medium := .file place, append := channel == .append,
                     readable := reading || channel == .both, writable := !reading }
      | .error e =>
          if reading then refused e
          else match s.disk.write s.directory name .empty with
            | .error e => refused e
            | .ok disk =>
                set { s with disk }
                match disk.locate s.directory name with
                | .ok (place, _) =>
                    opened { medium := .file place, append := channel == .append,
                             readable := channel == .both }
                | .error e => refused e

/-- Show a command and its assignments, if the shell is told to. -/
def trace (assignments : List (String × String)) (words : List String) : Act Unit := do
  if (← get).options.contains 'x' then
    let parts := assignments.map (fun (name, value) => name ++ "=" ++ value) ++ words
    let _ ← write 2 ("+ " ++ joinWith " " parts ++ "\n")

/-- Put variables back to what they were. -/
def restoreVariables (saved : List (String × Option Variable)) : Act Unit := modifyOwn fun o =>
  { o with bindings := saved.foldl (fun vs (name, old) => match old with
      | some v => putKey name v vs
      | none => vs.filter (·.1 != name)) o.bindings }

/-- Say that a program was killed by a signal. -/
def noteSignal (signal : Option Nat) : Act Unit := do
  match signals.find? fun (_, number, _) => some number == signal with
  | some (_, _, what) =>
      if !what.isEmpty then
        let _ ← write 2 (what ++ "\n")
  | none => return

/-- The variables of a shell at its start. -/
def firstVariables (directory : Place) (environment : List (String × String)) :
    List (String × Variable) :=
  let own := [("IFS", " \t\n"), ("OPTIND", "1"), ("PATH", defaultPath), ("PS4", "+ ")].map
    fun (name, value) => (name, { value := some value : Variable })
  let place : Variable := { value := some (octets (Machine.pathOf directory)), exported := true }
  environment.foldl (fun vs (name, value) =>
    putKey name { value := some value, exported := true } vs) (own ++ [("PWD", place)])

/-- What a shell of its own runs: a script, its name and its parameters. -/
structure Startup where
  script : String
  name : String
  parameters : List String
  options : List Char

/-- What the arguments of a shell ask for. -/
def Startup.ofArguments (arguments : List String) : Act (Except String Startup) := do
  match readFlags ['c', 'l'] [] arguments with
  | .error message => return .error message
  | .ok (options, operands) =>
      let kept := options.filter (· != 'c')
      let operands := operands.getD []
      if options.contains 'c' then
        match operands with
        | [] => return .error "-c requires an argument"
        | script :: rest => return .ok ⟨script, rest.headD "sh", rest.drop 1, kept⟩
      else
        match options.contains 's', operands with
        | false, path :: rest =>
            let s ← get
            match s.disk.read s.directory (ofOctets path) with
            | .ok content => return .ok ⟨ofBytes content.toList, path, rest, kept⟩
            | .error e =>
                let reason := if e == .notFound then "No such file" else reasonOf e
                return .error ("cannot open " ++ path ++ ": " ++ reason)
        | _, parameters =>
            let script ← pendingInput 0
            consume 0 script.length
            return .ok ⟨script, "sh", parameters, kept⟩

/-- The words of a text between blanks, with quotes and backslashes as a shell takes them. -/
def quotedWords : List Char → Option Char → Option (List Char) → List String
  | [], _, word => (word.map fun cs => String.ofList cs.reverse).toList
  | '\\' :: c :: rest, none, word => quotedWords rest none (some (c :: word.getD []))
  | c :: rest, some q, word =>
      if c == q then quotedWords rest none word else quotedWords rest q (some (c :: word.getD []))
  | c :: rest, none, word =>
      if c == '"' || c == '\'' then quotedWords rest (some c) (some (word.getD []))
      else if c == ' ' || c == '\t' || c == '\n' then
        (word.map fun cs => String.ofList cs.reverse).toList ++ quotedWords rest none none
      else quotedWords rest none (some (c :: word.getD []))

/-- The arguments of a program that starts another one for each few words of its input. -/
def xargsBatches (o : Options) (input : String) : List (List String) :=
  let blank (c : Char) : Bool := c == ' ' || c == '\t' || c == '\n'
  let words := if o.has '0' then (splitOnChar '\x00' input).filter (!·.isEmpty)
    else quotedWords input.toList none none
  let rec batches (size : Nat) : Nat → List String → List (List String)
    | 0, _ => []
    | _, [] => []
    | n + 1, words => words.take size :: batches size n (words.drop size)
  match o.value? 'I', (o.value? 'n').bind natural? with
  | some mark, _ =>
      let lines := (linesOf input).map fun line => String.ofList (line.toList.dropWhile blank)
      (lines.filter (!·.isEmpty)).map fun line => o.operands.map fun s => replaceAll s mark line
  | none, some size =>
      if words.isEmpty && !o.has 'r' then [o.operands]
      else (batches (max size 1) words.length words).map (o.operands ++ ·)
  | none, none => if words.isEmpty && o.has 'r' then [] else [o.operands ++ words]

mutual

/-- The cells of a word.  Where it is split, so is its text out of quotes. -/
def cells : Nat → Bool → Word → Act (List Cell)
  | 0, _, _ => exhausted
  | _, _, [] => return []
  | n + 1, split, p :: rest => do
      let first ← pieceCells n split p
      return first ++ (← cells n split rest)

/-- The text of a word that is one field. -/
def plainText : Nat → Word → Act String
  | 0, _ => exhausted
  | n + 1, w => return textOf (plainOf (← cells n false (withHome (← get).toOwn w)))

/-- The cells of a piece. -/
def pieceCells : Nat → Bool → Piece → Act (List Cell)
  | 0, _, _ => exhausted
  | _, split, .text s quoted => return if quoted then valueCells true s else cellsOf s false split
  | n + 1, _, .output c quoted => do
      let own := (← get).toOwn
      let stream ← openStream { medium := .memory "" }
      inside (atEnd n) do
        point 1 (some stream)
        run n c
      modifyOwn fun o => { o with taken := o.status, status := own.status }
      let s ← get
      let text := ((s.streams[stream]?).map (Stream.content s.disk)).getD ""
      return valueCells quoted (outputText text)
  | n + 1, _, .sum w quoted => do
      let source ← plainText n w
      let s ← get
      let bindings : Bindings := { find := s.parameter? }
      match evaluateText source bindings with
      | .error e => fatal (e.message source)
      | .ok (value, bindings) =>
          for (name, value) in bindings.assigned.reverse do assign name value
          return valueCells quoted (toString value.toInt)
  | n + 1, _, .parameter name use w quoted => do
      let o := (← get).toOwn
      let value := o.parameter? name
      let lacks (ifEmpty : Bool) : Bool := value.isNone || (ifEmpty && value == some "")
      let shown : List Cell := shownCells o name quoted
      let word : Act (List Cell) := do
        return (if quoted then [Cell.mark] else []) ++ (← cells n (!quoted) w)
      let strict : Act Unit := do
        if value.isNone && o.options.contains 'u' && name != "@" && name != "*" then
          fatal (name ++ ": parameter not set")
      let cut (f : List Element → List Char → List Char) : Act (List Cell) := do
        strict
        let p := Pattern.ofMarked (plainOf (← cells n false w))
        return valueCells quoted (String.ofList (f p (value.getD "").toList))
      match use with
      | .value =>
          strict
          return shown
      | .length =>
          strict
          return valueCells quoted (toString (value.getD "").length)
      | .orElse e => if lacks e then word else return shown
      | .instead e => if lacks e then return (if quoted then [.mark] else []) else word
      | .orAssign e =>
          if !lacks e then return shown
          if !isName name then fatal (name ++ ": bad variable name")
          let new := textOf (plainOf (← cells n false w))
          assign name new
          return valueCells quoted new
      | .orFail e =>
          if !lacks e then return shown
          let message := textOf (plainOf (← cells n false w))
          fatal <| name ++ ": " ++ (if !message.isEmpty then message
            else if e then "parameter not set or null" else "parameter not set")
      | .withoutStart longest => cut (withoutStart longest)
      | .withoutEnd longest => cut (withoutEnd longest)
      | .unknown => fatal "Bad substitution"

/-- The fields of words. -/
def fields : Nat → List Word → Act (List String)
  | 0, _ => exhausted
  | _, [] => return []
  | n + 1, w :: rest => do
      let found ← cells n false (withHome (← get).toOwn w)
      let s ← get
      let own := (fieldsOf s.separators found).flatMap fun f =>
        if s.options.contains 'f' then [textOf f] else filesOf s.disk s.directory f
      return own ++ (← fields n rest)

/-- The fields of the words of a command.  Where a command assigns its arguments, an assignment is
one field. -/
def commandFields : Nat → List Word → Act (List String)
  | 0, _ => exhausted
  | n + 1, words => do
      match words with
      | [.text name _] :: rest =>
          if !assigningBuiltins.contains name then fields n words
          else return name :: (← argumentFields n rest)
      | words => fields n words

/-- The fields of words, of which an assignment is one field. -/
def argumentFields : Nat → List Word → Act (List String)
  | 0, _ => exhausted
  | _, [] => return []
  | n + 1, w :: rest => do
      let own ← match assignment? w with
        | some (name, value) => pure [name ++ "=" ++ (← plainText n value)]
        | none => fields n [w]
      return own ++ (← argumentFields n rest)

/-- Make redirections; say whether all could be made. -/
def redirect : Nat → List Redirection → Act Bool
  | 0, _ => exhausted
  | _, [] => return true
  | n + 1, .mk descriptor channel target :: rest => do
      let done ← match channel with
        | .here number =>
            let w := ((← get).texts.lookup number).getD []
            try
              let text := textOf (plainOf (← cells n false w))
              point descriptor (some (← openStream { medium := .memory text }))
              pure true
            catch e => if e == .exit then pure false else throw e
        | .copy =>
            let name ← plainText n target
            let s ← get
            match natural? name with
            | some other =>
                match s.descriptors.lookup other with
                | some stream =>
                    point descriptor (some stream)
                    pure true
                | none =>
                    report (name ++ ": Bad file descriptor")
                    pure false
            | none =>
                if name == "-" then
                  point descriptor none
                  pure true
                else fatal "Syntax error: Bad fd number"
        | channel => openFile descriptor channel (← plainText n target)
      if done then redirect n rest else return false

/-- Run a command. -/
def run : Nat → Command → Act Unit
  | 0, _ => exhausted
  | n + 1, c => do
      if (← get).options.contains 'n' then return
      match c with
      | .nothing => return
      | .simple line assignments words redirections =>
          modifyOwn fun o => { o with line, taken := 0 }
          runSimple n assignments words redirections
          deliverPending n
          checkFailure
      | .sequence a b =>
          run n a
          run n b
      | .pipeline parts =>
          pipe n parts none
          deliverPending n
          checkFailure
      | .negation c =>
          whileWatched (run n c)
          setStatus (if (← get).status = 0 then 1 else 0)
      | .joint onSuccess a b =>
          whileWatched (run n a)
          if ((← get).status == 0) == onSuccess then run n b
      | .background c =>
          let process := (← get).nextProcess
          modify fun s => { s with nextProcess := process + 1 }
          let nowhere ← openStream { medium := .nowhere }
          inside (atEnd n) do
            point 0 (some nowhere)
            run n c
          modifyOwn fun o => { o with jobs := (process, o.status) :: o.jobs, status := 0 }
      | .subshell c =>
          inside (atEnd n) (run n c)
          deliverPending n
          checkFailure
      | .redirected line c redirections =>
          withDescriptors do
            modifyOwn fun o => { o with line }
            if ← redirect n redirections then run n c else setStatus 2
          checkFailure
      | .conditional test yes no =>
          whileWatched (run n test)
          if (← get).status = 0 then run n yes
          else
            setStatus 0
            run n no
      | .loop whileSuccess test body => inLoop (rounds n whileSuccess test body 0)
      | .iteration line name words body =>
          modifyOwn fun o => { o with line }
          let values ← match words with
            | some ws => fields n ws
            | none => pure (← get).parameters
          setStatus 0
          inLoop (each n name values body)
      | .selection line w cases =>
          modifyOwn fun o => { o with line }
          let text ← plainText n w
          setStatus 0
          select n text cases
      | .definition name body =>
          modifyOwn fun o => { o with functions := putKey name body o.functions, status := 0 }

/-- Run a body for as long as a test succeeds, or fails.  The status is that of the last round. -/
def rounds : Nat → Bool → Command → Command → Nat → Act Unit
  | 0, _, _, _, _ => exhausted
  | n + 1, whileSuccess, test, body, status => do
      let goesOn ← inRound (whileWatched (run n test))
      if !goesOn then return
      if ((← get).status == 0) == whileSuccess then
        let goesOn ← inRound (run n body)
        if goesOn then rounds n whileSuccess test body (← get).status
      else setStatus status

/-- Run a body for each value of a variable. -/
def each : Nat → String → List String → Command → Act Unit
  | 0, _, _, _ => exhausted
  | _, _, [], _ => return
  | n + 1, name, value :: rest, body => do
      assign name value
      let goesOn ← inRound (run n body)
      if goesOn then each n name rest body

/-- Run the first case with a pattern that matches a text. -/
def select : Nat → String → List (List Word × Command) → Act Unit
  | 0, _, _ => exhausted
  | _, _, [] => return
  | n + 1, text, (patterns, body) :: rest => do
      if ← matchesAny n text patterns then run n body else select n text rest

/-- Decide whether one of some patterns matches a text. -/
def matchesAny : Nat → String → List Word → Act Bool
  | 0, _, _ => exhausted
  | _, _, [] => return false
  | n + 1, text, w :: rest => do
      let p := plainOf (← cells n false (withHome (← get).toOwn w))
      if matchesAll (Pattern.ofMarked p) text.toList then return true
      matchesAny n text rest

/-- Run commands of which each reads the output of the one before it. -/
def pipe : Nat → List Command → Option Nat → Act Unit
  | 0, _, _ => exhausted
  | _, [], _ => return
  | n + 1, c :: rest, input => do
      let output ← if rest.isEmpty then pure none
        else some <$> openStream { medium := .memory "" }
      inside (atEnd n) do
        if input.isSome then point 0 input
        if output.isSome then point 1 output
        run n c
      pipe n rest output

/-- Assign the values of words. -/
def assignAll : Nat → List (String × Word) → Act (List (String × String))
  | 0, _ => exhausted
  | _, [] => return []
  | n + 1, (name, w) :: rest => do
      let value ← plainText n w
      assign name value
      return (name, value) :: (← assignAll n rest)

/-- Run a simple command. -/
def runSimple : Nat → List (String × Word) → List Word → List Redirection → Act Unit
  | 0, _, _, _ => exhausted
  | n + 1, assignments, words, redirections => do
      let found ← commandFields n words
      let descriptors := (← get).descriptors
      let isSpecial := specialBuiltins.contains (found.headD "")
      let restore : Act Unit := modifyOwn fun o => { o with descriptors }
      Act.finally (do
        if !(← redirect n redirections) then
          setStatus 2
          if isSpecial then throw .exit
        else
          match found with
          | [] =>
              let assigned ← assignAll n assignments
              trace assigned []
              setStatus (← get).taken
          | name :: arguments =>
              let bindings := (← get).bindings
              let saved := assignments.map fun (name, _) => (name, bindings.lookup name)
              let assigned ← assignAll n assignments
              trace assigned found
              if isSpecial then invoke n true name arguments
              else
                for (name, _) in assigned do putVariable name fun v => { v with exported := true }
                Act.finally (invoke n true name arguments) (restoreVariables saved))
        (if found == ["exec"] then pure () else restore)

/-- Run what a name stands for: a command of the shell, a function or a program. -/
def invoke : Nat → Bool → String → List String → Act Unit
  | 0, _, _, _ => exhausted
  | n + 1, withFunctions, name, arguments => do
      let s ← get
      let function :=
        if withFunctions && !specialBuiltins.contains name then s.functions.lookup name else none
      match function with
      | some body => inFunction arguments (run n body)
      | none =>
          if name == "command" then plainly n arguments
          else if builtins.contains name then inContext name (builtin n name arguments)
          else program n name arguments s.environment

/-- Run a command of the shell. -/
def builtin : Nat → String → List String → Act Unit
  | 0, _, _ => exhausted
  | n + 1, name, arguments => do
      match name with
      | ":" | "true" => setStatus 0
      | "false" => setStatus 1
      | "echo" => put (echoed arguments)
      | "printf" => doPrintf arguments
      | "test" | "[" => doTest name arguments
      | "pwd" => doPwd
      | "cd" | "chdir" => doCd arguments
      | "export" =>
          markVariables "export" (fun v => { v with exported := true }) (·.exported) arguments
      | "readonly" =>
          markVariables "readonly" (fun v => { v with readOnly := true }) (·.readOnly) arguments
      | "local" => doLocal arguments
      | "unset" => doUnset arguments
      | "read" => doRead arguments
      | "getopts" => doGetopts arguments
      | "set" => doSet arguments
      | "shift" => doShift arguments
      | "exit" => doExit arguments
      | "return" => doReturn arguments
      | "break" => doLeave .stop arguments
      | "continue" => doLeave .skip arguments
      | "trap" => doTrap arguments
      | "type" => doType arguments
      | "umask" => if arguments.isEmpty then put "0022\n" else setStatus 0
      | "wait" =>
          let jobs := (← get).jobs
          let status := arguments.head?.bind fun text =>
            jobs.find? fun (process, _) => toString process == text
          setStatus ((status.map (·.2)).getD (if arguments.isEmpty then 0 else 127))
      | "kill" => doKill arguments
      | "eval" =>
          let script := joinWith " " arguments
          setStatus 0
          runText n script
      | "." => runFile n arguments
      | "exec" =>
          match arguments with
          | [] => setStatus 0
          | name :: rest =>
              program n name rest (← get).environment
              throw .exit
      | _ => setStatus 0

/-- Run what a name stands for, but no function. -/
def plainly : Nat → List String → Act Unit
  | 0, _ => exhausted
  | n + 1, arguments => do
      match arguments with
      | "-v" :: names => inContext "command" (doWhich names)
      | "-V" :: names => inContext "command" (doType names)
      | "-p" :: name :: rest => invoke n false name rest
      | name :: rest => invoke n false name rest
      | [] => setStatus 0

/-- Run the commands of a file. -/
def runFile : Nat → List String → Act Unit
  | 0, _ => exhausted
  | n + 1, arguments => do
      let s ← get
      match arguments with
      | [] => setStatus 0
      | path :: _ =>
          let candidates := if path.toList.contains '/' then [path]
            else s.searchPath.map fun dir => if dir.isEmpty then path else dir ++ "/" ++ path
          let content := candidates.findSome? fun path =>
            (s.disk.read s.directory (ofOctets path)).toOption
          match content with
          | some content =>
              setStatus 0
              try
                inContext path (runText n (ofBytes content.toList))
              catch e => if e == .back then return else throw e
          | none =>
              fatal (if path.toList.contains '/' then "cannot open " ++ path ++ ": No such file"
                else path ++ ": not found")

/-- Do what the signals ask for that the process has got.  A shell inside the shell leaves them to
the process around it. -/
def deliverPending : Nat → Act Unit
  | 0 => exhausted
  | n + 1 => do
      let s ← get
      if !s.nested then
        match s.pending.find? (·.1 == s.process) with
        | none => return
        | some (process, name) =>
            set { s with pending := s.pending.erase (process, name) }
            match if name == "KILL" then none else s.traps.lookup name with
            | some action =>
                runText n action
                setStatus s.status
                deliverPending n
            | none => throw (.killed process (((signals.lookup name).map (·.1)).getD 15))

/-- Run a program with an environment. -/
def program : Nat → String → List String → List (String × String) → Act Unit
  | 0, _, _, _ => exhausted
  | n + 1, name, arguments, environment => do
      match ← findProgram name with
      | .error status =>
          let reason := if status = 126 then "Permission denied" else "not found"
          problem (name ++ ": " ++ reason) status
      | .ok (place, path) =>
          match programNameAt? place with
          | none => noteSignal (← shell n (path :: arguments) environment)
          | some known =>
              match toolbox.lookup known with
              | some t => runTool known t arguments environment
              | none => starter n known arguments environment

/-- Run a program that starts another one. -/
def starter : Nat → String → List String → List (String × String) → Act Unit
  | 0, _, _, _ => exhausted
  | n + 1, name, arguments, environment => do
      let started (command : List String) (environment : List (String × String)) : Act Unit := do
        match command with
        | [] => setStatus 0
        | target :: rest =>
            match ← findProgram target with
            | .ok _ => program n target rest environment
            | .error status =>
                let reason :=
                  if status = 126 then "Permission denied" else "No such file or directory"
                let shownTarget := if name == "xargs" then target else inQuotes target
                let _ ← write 2 (name ++ ": " ++ shownTarget ++ ": " ++ reason ++ "\n")
                setStatus status
      match name with
      | "chmod" =>
          match arguments with
          | mode :: paths =>
              let s ← get
              let runs := contains mode "x" || contains mode "7" || contains mode "5"
              let on := runs && !contains mode "-x"
              for path in paths do
                match s.disk.locate s.directory (ofOctets path) with
                | .ok (place, _) =>
                    modify fun s =>
                      let others := s.runnable.filter (· != place)
                      { s with runnable := if on then place :: others else others }
                    setStatus 0
                | .error e =>
                    let _ ← write 2
                      ("chmod: cannot access " ++ inQuotes path ++ ": " ++ reasonOf e ++ "\n")
                    setStatus 1
          | [] =>
              let _ ← write 2 "chmod: missing operand\nTry 'chmod --help' for more information.\n"
              setStatus 1
      | "env" =>
          let cleared := arguments.head? == some "-i" || arguments.head? == some "-"
          let arguments := if cleared then arguments.drop 1 else arguments
          let isAssignment (s : String) : Bool := s.toList.contains '='
          let given := (arguments.takeWhile isAssignment).map fun s =>
            let (name, value) := assignmentOf s
            (name, value.getD "")
          let environment := given.foldl (fun env (name, value) => putKey name value env)
            (if cleared then [] else environment)
          match arguments.dropWhile isAssignment with
          | [] =>
              let _ ← write 1 (String.join (environment.map fun (name, value) =>
                name ++ "=" ++ value ++ "\n"))
              setStatus 0
          | command => started command environment
      | "xargs" =>
          let o := Options.read "0rt" "nI" true {} arguments
          let o := if o.operands.isEmpty then { o with operands := ["echo"] } else o
          let input ← pendingInput 0
          consume 0 input.length
          startAll n (xargsBatches o input) environment
      | "timeout" => started (arguments.drop 1) environment
      | "nohup" | "nice" => started arguments environment
      | _ => noteSignal (← shell n arguments environment)

/-- Run a program for each of several lists of arguments. -/
def startAll : Nat → List (List String) → List (String × String) → Act Unit
  | 0, _, _ => exhausted
  | _, [], _ => setStatus 0
  | n + 1, [] :: rest, environment => startAll n rest environment
  | n + 1, (target :: arguments) :: rest, environment => do
      match ← findProgram target with
      | .error status =>
          let _ ← write 2 ("xargs: " ++ target ++ ": No such file or directory\n")
          setStatus status
      | .ok _ =>
          program n target arguments environment
          let failed := (← get).status != 0
          startAll n rest environment
          if failed then setStatus 123

/-- Run a shell as a program, with arguments; the signal that killed it, if one did. -/
def shell : Nat → List String → List (String × String) → Act (Option Nat)
  | 0, _, _ => exhausted
  | n + 1, arguments, environment => do
      let own := (← get).toOwn
      let process := (← get).nextProcess
      modify fun s => { s with nextProcess := process + 1 }
      match ← Startup.ofArguments arguments with
      | .error message =>
          let _ ← write 2 ("sh: 0: " ++ message ++ "\n")
          setStatus 2
          return none
      | .ok startup =>
          modify fun s => { s with toOwn := {
            process, name := startup.name, parameters := startup.parameters,
            directory := own.directory, bindings := firstVariables own.directory environment,
            descriptors := own.descriptors, options := startup.options } }
          let killed ← toTheEnd (atEnd n) (runText n startup.script)
          let status := (← get).status % 256
          modify fun s => { s with toOwn := { own with status } }
          match killed with
          | some (victim, signal) =>
              if victim != process then throw (.killed victim signal)
              setStatus (128 + signal)
              return some signal
          | none => return none

/-- Run a text as commands. -/
def runText : Nat → String → Act Unit
  | 0, _ => exhausted
  | n + 1, text => do
      let line := (← get).line
      runLines n { rest := text.toList }
      modifyOwn fun o => { o with line }

/-- Run the commands from a line on. -/
def runLines : Nat → Source → Act Unit
  | 0, _ => exhausted
  | n + 1, source => do
      let s ← get
      match readLine?.run { source with count := s.nextText } with
      | .error fault =>
          modifyOwn fun o => { o with line := fault.line }
          fatal fault.reason
      | .ok (none, _) => return
      | .ok (some c, source) =>
          modify fun s => { s with texts := source.texts ++ s.texts, nextText := source.count }
          run n c
          runLines n { source with texts := [] }

/-- Do what is to be done at the end of the shell. -/
def atEnd : Nat → Act Unit
  | 0 => exhausted
  | n + 1 => do
      let s ← get
      match s.traps.lookup "EXIT" with
      | some action =>
          modifyOwn fun o => { o with traps := o.traps.filter (·.1 != "EXIT") }
          runText n action
          setStatus s.status
      | none => return

end

/-! ## The shell as a program -/

/-- How deep a script can go, and how often its loops can go around. -/
def fuel : Nat := 1000000

/-- Run one of the programs by name: how it ends, and the disk then. -/
def launch (name : String) : Program := fun call disk =>
  let environment := call.environment.map fun (name, value) => (octets name, octets value)
  let arguments := call.arguments.map octets
  let own : Own := {
    process := 1, name := "sh", directory := call.directory,
    bindings := firstVariables call.directory environment,
    descriptors := [(0, 0), (1, 1), (2, 2)] }
  let session : Session := {
    toOwn := own, disk := disk,
    streams := #[{ medium := .nowhere }, { medium := .memory "" }, { medium := .memory "" }] }
  let act : Act (Option Nat) :=
    match toolbox.lookup name with
    | some t => do
        runTool name t arguments environment
        return none
    | none =>
        if shells.contains name then shell fuel arguments environment
        else do
          starter fuel name arguments environment
          return none
  let (ended, s) := act.run.run session
  let killed := match ended with
    | .ok (some _) => true
    | _ => false
  let content (i : Nat) : ByteArray :=
    ⟨(toBytes (((s.streams[i]?).map (Stream.content s.disk)).getD "")).toArray⟩
  let code := if killed then none else some (Int.ofNat (s.status % 256))
  (⟨code, content 1, content 2⟩, s.disk)

end Scaffold.Shell
