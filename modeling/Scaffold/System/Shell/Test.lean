import Scaffold.System.Machine
import Scaffold.Text.Octets

/-!
# Tests

The conditions that scripts ask for: of texts, of numbers and of files.  With three arguments the
middle one decides whether they are a comparison; else they are read from left to right.
-/

namespace Scaffold.Shell

open Scaffold.Text

/-- Where a test is decided. -/
structure Scene where
  disk : Disk
  directory : Place
  /-- Whether a file can be run. -/
  runs : Place → Bool

/-- Why a test cannot be decided. -/
inductive TestError where
  | illegalNumber (text : String)
  | unexpectedOperator (text : String)
  | argumentExpected (operator : String)
  | parenExpected
deriving Repr, DecidableEq

/-- The words of a reason. -/
def TestError.message : TestError → String
  | illegalNumber text => "Illegal number: " ++ text
  | unexpectedOperator text => (if text.isEmpty then "" else text ++ ": ") ++ "unexpected operator"
  | argumentExpected operator => operator ++ ": argument expected"
  | parenExpected => "closing paren expected"

/-- The operators before an operand. -/
def unaryTests : List String :=
  ["-r", "-w", "-x", "-e", "-f", "-d", "-c", "-b", "-p", "-u", "-g", "-k", "-s", "-t", "-z", "-n",
   "-h", "-O", "-G", "-L", "-S"]

/-- The operators between operands. -/
def binaryTests : List String :=
  ["=", "!=", "<", ">", "-eq", "-ne", "-gt", "-ge", "-lt", "-le", "-nt", "-ot", "-ef"]

/-- The whole number that a text is. -/
def wholeNumber (text : String) : Except TestError Int := do
  let isBlank (c : Char) : Bool := c == ' ' || ('\t' ≤ c && c ≤ '\r')
  let cs := ((text.toList.dropWhile isBlank).reverse.dropWhile isBlank).reverse
  let (negative, digits) := match cs with
    | '-' :: rest => (true, rest)
    | '+' :: rest => (false, rest)
    | cs => (false, cs)
  if digits.isEmpty || !digits.all Char.isDigit then throw (.illegalNumber text)
  let n := Int.ofNat (digits.foldl (fun n c => n * 10 + (c.toNat - 48)) 0)
  let n := if negative then -n else n
  if n < Int64.minValue.toInt || Int64.maxValue.toInt < n then throw (.illegalNumber text)
  return n

/-- Decide a test of one operand. -/
def decideUnary (scene : Scene) (op operand : String) : Except TestError Bool := do
  let found := (scene.disk.locate scene.directory (ofOctets operand)).toOption
  match op with
  | "-z" => return operand.isEmpty
  | "-n" => return !operand.isEmpty
  | "-t" =>
      let _ ← wholeNumber operand
      return false
  | "-e" | "-r" | "-w" | "-O" | "-G" => return found.isSome
  | "-f" => return (found.map fun (_, n) => n.kind == .file).getD false
  | "-d" => return (found.map fun (_, n) => n.kind == .directory).getD false
  | "-x" => return (found.map fun (place, n) => n.kind == .directory || scene.runs place).getD false
  | "-s" =>
      return (found.map fun (_, n) => match n with
        | .file content => content.size != 0
        | .directory => true).getD false
  | _ => return false

/-- Decide a test of two operands. -/
def decideBinary (scene : Scene) (op a b : String) : Except TestError Bool := do
  let place (path : String) :=
    ((scene.disk.locate scene.directory (ofOctets path)).toOption).map (·.1)
  let numbers (p : Int → Int → Bool) : Except TestError Bool := do
    return p (← wholeNumber a) (← wholeNumber b)
  match op with
  | "=" => return a == b
  | "!=" => return a != b
  | "<" => return a < b
  | ">" => return b < a
  | "-eq" => numbers (· == ·)
  | "-ne" => numbers (· != ·)
  | "-gt" => numbers fun x y => y < x
  | "-ge" => numbers fun x y => y ≤ x
  | "-lt" => numbers fun x y => x < y
  | "-le" => numbers fun x y => x ≤ y
  | "-ef" => return (place a).isSome && place a == place b
  | _ => return false

/-- What an argument is, by itself and what follows it. -/
inductive Role where
  | missing | operand | negation | opening | closing | conjunction | disjunction
  | unary (op : String)
  | binary (op : String)
deriving Repr, DecidableEq

/-- The role of an argument.  An operator before an operand is itself an operand when nothing
follows it, or one of the operators between operands. -/
def roleAt (arguments : List String) (i : Nat) : Role :=
  match arguments[i]? with
  | none => .missing
  | some "!" => .negation
  | some "-a" => .conjunction
  | some "-o" => .disjunction
  | some "(" => if (arguments[i + 1]?).isSome then .opening else .operand
  | some ")" => .closing
  | some s =>
      if binaryTests.contains s then .binary s
      else if unaryTests.contains s then
        match arguments[i + 1]?, arguments[i + 2]? with
        | none, _ => .operand
        | some _, none => .unary s
        | some next, some _ => if binaryTests.contains next then .operand else .unary s
      else .operand

mutual

/-- Decide what "or" joins from an argument on.  The number is that of the last argument it
reads. -/
def decideEither (scene : Scene) (as : List String) :
    Nat → Nat → Bool → Except TestError (Bool × Nat)
  | 0, i, acc => return (acc, i)
  | n + 1, i, acc => do
      let (b, i) ← decideBoth scene as n i true
      if roleAt as (i + 1) == .disjunction && i < as.length then
        decideEither scene as n (i + 2) (acc || b)
      else return (acc || b, i)

/-- Decide what "and" joins from an argument on. -/
def decideBoth (scene : Scene) (as : List String) : Nat → Nat → Bool → Except TestError (Bool × Nat)
  | 0, i, acc => return (acc, i)
  | n + 1, i, acc => do
      let (b, i) ← decideOne scene as n i
      if roleAt as (i + 1) == .conjunction && i < as.length then
        decideBoth scene as n (i + 2) (acc && b)
      else return (acc && b, i)

/-- Decide one test from an argument on. -/
def decideOne (scene : Scene) (as : List String) : Nat → Nat → Except TestError (Bool × Nat)
  | 0, i => return (false, i)
  | n + 1, i => do
      match roleAt as i with
      | .missing => return (false, i)
      | .negation =>
          let next := if roleAt as (i + 1) == .missing then i else i + 1
          let (b, j) ← if next == i then pure (false, i) else decideOne scene as n next
          return (!b, j)
      | .opening =>
          if roleAt as (i + 1) == .closing then return (false, i + 1)
          let (b, i) ← decideEither scene as n (i + 1) false
          if roleAt as (i + 1) == .closing then return (b, i + 1) else throw .parenExpected
      | .unary op =>
          match as[i + 1]? with
          | none => throw (.argumentExpected op)
          | some operand => return (← decideUnary scene op operand, i + 1)
      | _ =>
          let a := (as[i]?).getD ""
          match roleAt as (i + 1) with
          | .binary op =>
              match as[i + 2]? with
              | none => throw (.argumentExpected op)
              | some b => return (← decideBinary scene op a b, i + 2)
          | _ => return (!a.isEmpty, i)

end

/-- Decide a test whose arguments have no form of their own. -/
def decideFree (scene : Scene) (as : List String) : Except TestError Bool := do
  let (b, i) ← decideEither scene as (4 * as.length + 8) 0 false
  match as[i]?, as[i + 1]? with
  | some last, some _ => throw (.unexpectedOperator last)
  | _, _ => return b

/-- Decide a test. -/
def decideTest (scene : Scene) : List String → Except TestError Bool
  | [] => return false
  | ["!", a, op, b] => return !(← decideTest scene [a, op, b])
  | ["(", a, b, ")"] => decideFree scene [a, b]
  | [a, op, b] =>
      if binaryTests.contains op then decideBinary scene op a b
      else if a == "(" && b == ")" then decideFree scene [op]
      else if a == "!" then return !(← decideFree scene [op, b])
      else decideFree scene [a, op, b]
  | as => decideFree scene as

end Scaffold.Shell
