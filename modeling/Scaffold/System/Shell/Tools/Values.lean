import Scaffold.System.Shell.Format
import Scaffold.System.Shell.Regex
import Scaffold.System.Shell.Test
import Scaffold.System.Shell.Tool

/-!
# Tools for values

Tools that compute and show texts and numbers, and those that only succeed or fail.
-/

namespace Scaffold.Shell.Tools

open Scaffold.Text

/-! ## Texts -/

/-- Show arguments.  Escapes are replaced only where an option asks for it. -/
def echo : Tool := do
  let isOption (s : String) : Bool := match s.toList with
    | '-' :: c :: rest => (c :: rest).all ['n', 'e', 'E'].contains
    | _ => false
  let arguments := (← read).arguments
  let options := arguments.takeWhile isOption
  let flags := options.flatMap String.toList
  let line := joinWith " " (arguments.drop options.length)
  let escapes := (flags.filter fun c => c == 'e' || c == 'E').getLast? == some 'e'
  let (cs, stopped) := if escapes then unescaped (line.length + 1) line.toList
    else (line.toList, false)
  say (String.ofList cs ++ (if stopped || flags.contains 'n' then "" else "\n"))

/-- Show arguments by a format. -/
def printf : Tool := do
  match (← read).arguments with
  | [] => misuse "missing operand"
  | format :: arguments =>
      let r := printed format arguments
      for message in r.messages do complain message
      say (String.ofList r.written.reverse)

/-- Repeat a line.  Nobody reads more than so many of them. -/
def yes : Tool := do
  let arguments := (← read).arguments
  let line := (if arguments.isEmpty then "y" else joinWith " " arguments) ++ "\n"
  say (String.join (List.replicate 20000 line))

/-- Show the name of the system. -/
def uname : Tool := withOptions "sa" "" fun _ => sayLine "Linux"

/-- Show variables of the environment. -/
def printenv : Tool := do
  let job ← read
  match job.arguments with
  | [] => job.environment.forM fun (name, value) => sayLine (name ++ "=" ++ value)
  | names =>
      for name in names do
        match job.environment.lookup name with
        | some value => sayLine value
        | none => modify fun w => { w with status := 1 }

/-! ## Numbers -/

/-- A number as digits without a point, how many of them follow the point, and its sign. -/
def decimalOf? (s : String) : Option (Int × Nat) :=
  let (negative, cs) := match s.toList with
    | '-' :: rest => (true, rest)
    | '+' :: rest => (false, rest)
    | cs => (false, cs)
  let whole := cs.takeWhile Char.isDigit
  let fraction := match cs.drop whole.length with
    | '.' :: rest => some rest
    | [] => some []
    | _ => none
  fraction.bind fun fraction =>
    if (whole ++ fraction).isEmpty || !fraction.all Char.isDigit then none
    else
      let n := Int.ofNat (digitsValue 10 (whole ++ fraction))
      some (if negative then -n else n, fraction.length)

/-- A number of units of which so many places follow the point. -/
def decimalText (places : Nat) (n : Int) : String :=
  (if n < 0 then "-" else "") ++ fixedText places n.natAbs (Nat.pow 10 places)

/-- Show the numbers between two. -/
def seq : Tool := do
  let isNumber (s : String) : Bool := (decimalOf? s).isSome
  let o := Options.read "w" "sf" true {} ((← read).arguments.map fun s =>
    if isNumber s then "\x00" ++ s else s)
  let operands := o.operands.map fun s => String.ofList (s.toList.dropWhile (· == '\x00'))
  match operands.find? fun s => !isNumber s with
  | some s => misuse ("invalid floating point argument: " ++ inQuotes s)
  | none =>
      let numbers := operands.filterMap decimalOf?
      let run (first step last : Int × Nat) : Step Unit := do
        let places := max first.2 step.2
        let unit := max places last.2
        let scaled (x : Int × Nat) : Int := x.1 * Int.ofNat (Nat.pow 10 (unit - x.2))
        let (a, d, b) := (scaled first, scaled step, scaled last)
        if d = 0 then misuse "invalid Zero increment value: '0'"
        else
          let count := if (0 < d && b < a) || (d < 0 && a < b) then 0
            else ((b - a).tdiv d).toNat + 1
          let down := Int.ofNat (Nat.pow 10 (unit - places))
          let texts := (List.range count).map fun i =>
            decimalText places ((a + d * Int.ofNat i).tdiv down)
          let width := (texts.map String.length).foldl max 0
          let fill (s : String) : String :=
            let zeros := String.ofList (List.replicate (width - s.length) '0')
            if beginsWith s "-" then "-" ++ zeros ++ String.ofList (s.toList.drop 1) else zeros ++ s
          let texts := if o.has 'w' then texts.map fill else texts
          if !texts.isEmpty then sayLine (joinWith ((o.value? 's').getD "\n") texts)
      match numbers with
      | [] => misuse "missing operand"
      | [last] => run (1, 0) (1, 0) last
      | [first, last] => run first (1, 0) last
      | [first, step, last] => run first step last
      | _ => misuse ("extra operand " ++ inQuotes ((operands[3]?).getD ""))

/-- What a part of an expression is worth, and the arguments after it; or the message and the
status of a refusal. -/
abbrev Valued := Except (String × Nat) (String × List String)

/-- The whole number that a value is. -/
def integerOf? (s : String) : Option Int :=
  match s.toList with
  | '-' :: digits => (natural? (String.ofList digits)).map fun n => -Int.ofNat n
  | _ => (natural? s).map Int.ofNat

/-- The value of what matches at the beginning of a text: its first group, or its length. -/
def matched (text pattern : String) : Option String :=
  (Regex.ofText? ⟨false⟩ pattern).map fun r =>
    let grouped := contains pattern "\\("
    match r.matchHere ⟨0, text.toList, []⟩ with
    | some m => if grouped then String.ofList ((m.groups.lookup 1).getD []) else toString m.position
    | none => if grouped then "" else "0"

/-- The operators of expressions, from those that bind least. -/
def exprOps : List (List String) :=
  [["|"], ["&"], ["<", "<=", "=", "==", "!=", ">=", ">"], ["+", "-"], ["*", "/", "%"], [":"]]

/-- The value of an operator. -/
def exprApply (op a b : String) : Except (String × Nat) String := do
  let isNull (s : String) : Bool := s.isEmpty || s == "0"
  let truth (x : Bool) : String := if x then "1" else "0"
  let compared (p : Ordering → Bool) : String :=
    match integerOf? a, integerOf? b with
    | some x, some y => truth (p (compare x y))
    | _, _ => truth (p (compare a b))
  let numbers (f : Int → Int → Int) : Except (String × Nat) String :=
    match integerOf? a, integerOf? b with
    | some x, some y => return toString (f x y)
    | _, _ => throw ("non-integer argument", 2)
  match op with
  | "|" => return if isNull a then (if isNull b then "0" else b) else a
  | "&" => return if isNull a || isNull b then "0" else a
  | "<" => return compared (· == .lt)
  | "<=" => return compared (· != .gt)
  | "=" | "==" => return compared (· == .eq)
  | "!=" => return compared (· != .eq)
  | ">=" => return compared (· != .lt)
  | ">" => return compared (· == .gt)
  | "+" => numbers (· + ·)
  | "-" => numbers (· - ·)
  | "*" => numbers (· * ·)
  | ":" =>
      match matched a b with
      | some s => return s
      | none => throw ("Invalid regular expression", 2)
  | _ =>
      if integerOf? b == some 0 && (integerOf? a).isSome then throw ("division by zero", 2)
      else if op == "/" then numbers Int.tdiv else numbers Int.tmod

mutual

/-- The value of operators that bind as tightly as a level, or more. -/
def exprLevel : Nat → Nat → String → List String → Valued
  | 0, _, last, _ => .error ("syntax error: missing argument after " ++ inQuotes last, 2)
  | n + 1, level, last, args => do
      match exprOps[level]? with
      | none => exprOne n last args
      | some ops =>
          let (a, rest) ← exprLevel n (level + 1) last args
          exprRest n level ops a rest

/-- The value of the operators of a level after a value. -/
def exprRest : Nat → Nat → List String → String → List String → Valued
  | 0, _, _, a, rest => return (a, rest)
  | n + 1, level, ops, a, rest => do
      match rest with
      | op :: more =>
          if ops.contains op then
            let (b, rest) ← exprLevel n (level + 1) op more
            exprRest n level ops (← exprApply op a b) rest
          else return (a, rest)
      | [] => return (a, [])

/-- The value of an argument, of a function, or of what is in parentheses. -/
def exprOne : Nat → String → List String → Valued
  | 0, last, _ => .error ("syntax error: missing argument after " ++ inQuotes last, 2)
  | n + 1, last, args => do
      match args with
      | [] => throw ("syntax error: missing argument after " ++ inQuotes last, 2)
      | "(" :: rest =>
          let (a, rest) ← exprLevel n 0 "(" rest
          match rest with
          | ")" :: rest => return (a, rest)
          | [] => throw ("syntax error: expecting ')' after " ++ inQuotes a, 2)
          | s :: _ => throw ("syntax error: expecting ')' instead of " ++ inQuotes s, 2)
      | "+" :: s :: rest => return (s, rest)
      | ["+"] => throw ("syntax error: missing argument after '+'", 2)
      | "length" :: s :: rest => return (toString s.length, rest)
      | "index" :: s :: set :: rest =>
          let i := s.toList.findIdx set.toList.contains
          return (toString (if i < s.length then i + 1 else 0), rest)
      | "substr" :: s :: i :: k :: rest =>
          match integerOf? i, integerOf? k with
          | some i, some k =>
              if i < 1 || k < 1 then return ("", rest)
              return (String.ofList ((s.toList.drop (i.toNat - 1)).take k.toNat), rest)
          | _, _ => return ("", rest)
      | "match" :: s :: p :: rest => return (← exprApply ":" s p, rest)
      | s :: rest => return (s, rest)

end

/-- Show the value of an expression.  A value that is empty or zero makes a failure. -/
def expr : Tool := do
  let arguments := (← read).arguments
  let arguments := if arguments.head? == some "--" then arguments.drop 1 else arguments
  match arguments with
  | [] => misuse "missing operand" 2
  | arguments =>
      match exprLevel (16 * arguments.length + 32) 0 "" arguments with
      | .error (message, status) => complain message status
      | .ok (value, []) =>
          sayLine value
          let isNull := value.isEmpty || integerOf? value == some 0
          modify fun w => { w with status := if isNull then 1 else 0 }
      | .ok (_, s :: _) => complain ("syntax error: unexpected argument " ++ inQuotes s) 2

/-! ## Success and failure -/

/-- Succeed. -/
def succeed : Tool := pure ()

/-- Fail. -/
def fail : Tool := modify fun w => { w with status := 1 }

/-- Wait. -/
def sleep : Tool := do
  let isTime (s : String) : Bool :=
    let cs := s.toList
    let cs := if ['s', 'm', 'h', 'd'].contains (cs.getLast?.getD ' ') then cs.dropLast else cs
    (decimalOf? (String.ofList cs)).isSome
  match (← read).arguments with
  | [] => misuse "missing operand"
  | times =>
      match times.find? fun s => !isTime s with
      | some s => misuse ("invalid time interval " ++ inQuotes s)
      | none => pure ()

/-- Decide a test. -/
def test : Tool := do
  let job ← read
  match decideTest ⟨(← get).disk, job.directory, fun _ => false⟩ job.arguments with
  | .ok b => modify fun w => { w with status := if b then 0 else 1 }
  | .error e => complain e.message 2

/-- Decide a test, whose arguments end with a bracket. -/
def bracket : Tool := do
  let job ← read
  if job.arguments.getLast? != some "]" then complain "missing ']'" 2
  else fun job => test { job with arguments := job.arguments.dropLast }

end Scaffold.Shell.Tools
