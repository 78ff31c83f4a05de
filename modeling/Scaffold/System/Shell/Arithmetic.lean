import Scaffold.System.Shell.Script

/-!
# Sums in scripts

Expressions over numbers of 64 bits, in which names stand for variables.  An expression is read
into a tree and then evaluated from left to right, together with the variables it assigns.  What
does not decide the value is not evaluated.  Where a text is no expression, what comes before the
fault is evaluated all the same, so the first fault from the left is the one that counts.
-/

namespace Scaffold.Shell

/-! ## Expressions -/

/-- An operator between two values. -/
inductive BinaryOp where
  | multiply | divide | remainder | add | subtract | shiftLeft | shiftRight
  | less | greater | atMost | atLeast | equal | different | bitAnd | bitXor | bitOr
deriving Repr, DecidableEq

/-- An operator before a value. -/
inductive UnaryOp where
  | plus | minus | complement | negation
deriving Repr, DecidableEq

/-- Why an expression has no value. -/
inductive SumError where
  /-- Something else had to come. -/
  | expecting (what : String)
  | divisionByZero
  /-- A variable that holds no number. -/
  | illegalNumber (text : String)
deriving Repr, DecidableEq

/-- An expression. -/
inductive Expression where
  /-- A fault in the place of a value. -/
  | invalid (e : SumError)
  | number (n : Int64)
  /-- The value of a variable. -/
  | named (name : String)
  | unary (op : UnaryOp) (a : Expression)
  | binary (op : BinaryOp) (a b : Expression)
  | both (a b : Expression)
  | either (a b : Expression)
  | choice (test yes no : Expression)
  /-- An assignment, after an operator on the old value if there is one. -/
  | assign (name : String) (op : Option BinaryOp) (a : Expression)
deriving Repr, DecidableEq

/-- The words of a reason about an expression. -/
def SumError.message (source : String) : SumError → String
  | expecting what => "arithmetic expression: expecting " ++ what ++ ": \"" ++ source ++ "\""
  | divisionByZero => "arithmetic expression: division by zero: \"" ++ source ++ "\""
  | illegalNumber text => "Illegal number: " ++ text

/-! ## Numbers -/

/-- The value of a digit, in any base up to sixteen. -/
def digitValue (c : Char) : Nat :=
  if c.isDigit then c.toNat - 48
  else if 'a' ≤ c ∧ c ≤ 'f' then c.toNat - 87
  else if 'A' ≤ c ∧ c ≤ 'F' then c.toNat - 55
  else 16

/-- The value of digits in a base. -/
def digitsValue (base : Nat) (cs : List Char) : Nat :=
  cs.foldl (fun n c => n * base + digitValue c) 0

/-- The number at the beginning of a text, in the base its first characters say, and what
follows. -/
def readNumber (cs : List Char) : Option (Nat × List Char) :=
  let digits (base : Nat) (cs : List Char) := (cs.takeWhile (digitValue · < base),
    cs.dropWhile (digitValue · < base))
  match cs with
  | '0' :: x :: d :: rest =>
      if (x == 'x' || x == 'X') && digitValue d < 16 then
        let (ds, rest) := digits 16 (d :: rest)
        some (digitsValue 16 ds, rest)
      else
        let (ds, rest) := digits 8 cs
        some (digitsValue 8 ds, rest)
  | c :: _ =>
      if c.isDigit then
        let base := if c == '0' then 8 else 10
        let (ds, rest) := digits base cs
        some (digitsValue base ds, rest)
      else none
  | [] => none

/-- The nearest number of 64 bits. -/
def clamp (n : Int) : Int64 :=
  if n < Int64.minValue.toInt then Int64.minValue
  else if Int64.maxValue.toInt < n then Int64.maxValue
  else Int64.ofInt n

/-- The number of a text with blanks and a sign before it, and what follows. -/
def readSigned (cs : List Char) : Option (Int × List Char) :=
  let cs := cs.dropWhile fun c => c == ' ' || ('\t' ≤ c && c ≤ '\r')
  let (negative, cs) := match cs with
    | '-' :: rest => (true, rest)
    | '+' :: rest => (false, rest)
    | cs => (false, cs)
  (readNumber cs).map fun (n, rest) => (if negative then -(n : Int) else (n : Int), rest)

/-- The number that the value of a variable is. -/
def numberOf? (text : String) : Option Int64 :=
  let isBlank (c : Char) : Bool := c == ' ' || ('\t' ≤ c && c ≤ '\r')
  if text.toList.all isBlank then some 0
  else match readSigned text.toList with
    | some (n, rest) => if rest.all isBlank then some (clamp n) else none
    | none => none

/-! ## Reading -/

/-- The operators between two values, longer ones first, with how tightly they bind. -/
def binaryOps : List (String × Nat × BinaryOp) :=
  [("<<", 8, .shiftLeft), (">>", 8, .shiftRight), ("<=", 7, .atMost), (">=", 7, .atLeast),
   ("==", 6, .equal), ("!=", 6, .different), ("*", 10, .multiply), ("/", 10, .divide),
   ("%", 10, .remainder), ("+", 9, .add), ("-", 9, .subtract), ("<", 7, .less), (">", 7, .greater),
   ("&", 5, .bitAnd), ("^", 4, .bitXor), ("|", 3, .bitOr)]

/-- The operators that assign, longer ones first. -/
def assignments : List (String × Option BinaryOp) :=
  [("<<=", some .shiftLeft), (">>=", some .shiftRight), ("*=", some .multiply),
   ("/=", some .divide), ("%=", some .remainder), ("+=", some .add), ("-=", some .subtract),
   ("&=", some .bitAnd), ("^=", some .bitXor), ("|=", some .bitOr), ("=", none)]

/-- A text without the blanks before it. -/
def afterBlanks (cs : List Char) : List Char :=
  cs.dropWhile fun c => c == ' ' || c == '\t' || c == '\n'

/-- What follows an operator that comes next. -/
def afterOp? (op : String) (cs : List Char) : Option (List Char) :=
  let cs := afterBlanks cs
  if op.toList.isPrefixOf cs then some (cs.drop op.length) else none

/-- The operator between two values that comes next. -/
def binaryOp? (cs : List Char) : Option (Nat × BinaryOp × List Char) :=
  if (assignments.any fun (op, _) => op != "=" && (afterOp? op cs).isSome) ||
      ["&&", "||"].any fun op => (afterOp? op cs).isSome then none
  else binaryOps.findSome? fun (op, level, f) => (afterOp? op cs).map fun rest => (level, f, rest)

/-- What a reader of expressions makes of a text: an expression and what follows it, and the first
fault. -/
abbrev SumReading := StateM (Option SumError) (Expression × List Char)

/-- Note that something else had to come after an expression.  Nothing more is read then. -/
def faultAfter (e : Expression) (what : String) : SumReading := do
  modify fun first => first.or (some (.expecting what))
  return (e, [])

/-- Note that a value is missing. -/
def noValue : SumReading := faultAfter (.invalid (.expecting "primary")) "primary"

mutual

/-- Read an assignment, or a choice. -/
def readAssignment : Nat → List Char → SumReading
  | 0, _ => noValue
  | n + 1, cs => do
      let cs := afterBlanks cs
      let name := cs.takeWhile isNameChar
      let rest := cs.drop name.length
      let assigned := if isName (String.ofList name) && (afterOp? "==" rest).isNone then
          assignments.findSome? fun (op, f) => (afterOp? op rest).map fun rest => (f, rest)
        else none
      match assigned with
      | some (f, rest) =>
          let (a, rest) ← readAssignment n rest
          return (.assign (String.ofList name) f a, rest)
      | none => readChoice n cs

/-- Read a choice between two values, or what is joined by "or". -/
def readChoice : Nat → List Char → SumReading
  | 0, _ => noValue
  | n + 1, cs => do
      let (test, rest) ← readEither n cs
      match afterOp? "?" rest with
      | none => return (test, rest)
      | some rest =>
          let (yes, rest) ← readAssignment n rest
          match afterOp? ":" rest with
          | none => faultAfter (.choice test yes (.number 0)) "':'"
          | some rest =>
              let (no, rest) ← readChoice n rest
              return (.choice test yes no, rest)

/-- Read what is joined by "or". -/
def readEither : Nat → List Char → SumReading
  | 0, _ => noValue
  | n + 1, cs => do
      let (a, rest) ← readBoth n cs
      match afterOp? "||" rest with
      | none => return (a, rest)
      | some rest =>
          let (b, rest) ← readEither n rest
          return (.either a b, rest)

/-- Read what is joined by "and". -/
def readBoth : Nat → List Char → SumReading
  | 0, _ => noValue
  | n + 1, cs => do
      let (a, rest) ← readUnary n cs
      let (a, rest) ← readBinary n 0 a rest
      match afterOp? "&&" rest with
      | none => return (a, rest)
      | some rest =>
          let (b, rest) ← readBoth n rest
          return (.both a b, rest)

/-- Read the operators after a value that bind more tightly than a level, with their values. -/
def readBinary : Nat → Nat → Expression → List Char → SumReading
  | 0, _, _, _ => noValue
  | n + 1, level, a, cs => do
      match binaryOp? cs with
      | none => return (a, cs)
      | some (l, op, rest) =>
          if l ≤ level then return (a, cs)
          let (b, rest) ← readUnary n rest
          let (b, rest) ← readBinary n l b rest
          readBinary n level (.binary op a b) rest

/-- Read a value. -/
def readUnary : Nat → List Char → SumReading
  | 0, _ => noValue
  | n + 1, cs => do
      let signed (op : UnaryOp) (rest : List Char) : SumReading := do
        let (a, rest) ← readUnary n rest
        return (.unary op a, rest)
      match afterBlanks cs with
      | '!' :: rest => signed .negation rest
      | '~' :: rest => signed .complement rest
      | '-' :: rest => signed .minus rest
      | '+' :: rest => signed .plus rest
      | '(' :: rest =>
          let (a, rest) ← readAssignment n rest
          match afterOp? ")" rest with
          | none => faultAfter a "')'"
          | some rest => return (a, rest)
      | c :: rest =>
          if isNameStart c then
            let name := (c :: rest).takeWhile isNameChar
            return (.named (String.ofList name), (c :: rest).drop name.length)
          match readNumber (c :: rest) with
          | some (k, rest) => return (.number (clamp k), rest)
          | none => noValue
      | [] => noValue

end

/-- The expression that a text is, and the first fault in it. -/
def Expression.ofText (source : String) : Expression × Option SumError :=
  let cs := source.toList
  let read : SumReading := do
    let (e, rest) ← readAssignment (8 * cs.length + 16) cs
    if (afterBlanks rest).isEmpty then return (e, []) else faultAfter e "EOF"
  let ((e, _), fault) := read.run none
  (e, fault)

/-! ## Evaluation -/

/-- The number of a truth value. -/
def truth (b : Bool) : Int64 := if b then 1 else 0

/-- The value of an operator. -/
def BinaryOp.apply (op : BinaryOp) (a b : Int64) : Except SumError Int64 :=
  match op with
  | multiply => return a * b
  | divide => if b == 0 then throw .divisionByZero else return a / b
  | remainder => if b == 0 then throw .divisionByZero else return a % b
  | add => return a + b
  | subtract => return a - b
  | shiftLeft => return a <<< b
  | shiftRight => return a >>> b
  | less => return truth (a < b)
  | greater => return truth (b < a)
  | atMost => return truth (a ≤ b)
  | atLeast => return truth (b ≤ a)
  | equal => return truth (a == b)
  | different => return truth (a != b)
  | bitAnd => return a &&& b
  | bitXor => return a ^^^ b
  | bitOr => return a ||| b

/-- The value of an operator before a value. -/
def UnaryOp.apply (op : UnaryOp) (a : Int64) : Int64 :=
  match op with
  | plus => a
  | minus => -a
  | complement => ~~~a
  | negation => truth (a == 0)

/-- Where an expression finds its variables, and keeps what it assigns. -/
structure Bindings where
  /-- The value of a variable. -/
  find : String → Option String
  /-- What was assigned, the last first. -/
  assigned : List (String × String) := []

/-- The number a variable holds.  One without a value holds zero. -/
def Bindings.number (b : Bindings) (name : String) : Except SumError Int64 :=
  match (b.assigned.lookup name).or (b.find name) with
  | none => return 0
  | some text =>
      match numberOf? text with
      | some n => return n
      | none => throw (.illegalNumber text)

/-- The value of an expression, and its variables afterwards. -/
def Expression.evaluate : Expression → Bindings → Except SumError (Int64 × Bindings)
  | invalid e, _ => throw e
  | number n, b => return (n, b)
  | named name, b => return (← b.number name, b)
  | unary op a, b => do
      let (x, b) ← a.evaluate b
      return (op.apply x, b)
  | binary op e f, b => do
      let (x, b) ← e.evaluate b
      let (y, b) ← f.evaluate b
      return (← op.apply x y, b)
  | both e f, b => do
      let (x, b) ← e.evaluate b
      if x == 0 then return (0, b)
      let (y, b) ← f.evaluate b
      return (truth (y != 0), b)
  | either e f, b => do
      let (x, b) ← e.evaluate b
      if x != 0 then return (1, b)
      let (y, b) ← f.evaluate b
      return (truth (y != 0), b)
  | choice test yes no, b => do
      let (x, b) ← test.evaluate b
      if x != 0 then yes.evaluate b else no.evaluate b
  | assign name op a, b => do
      let (x, b) ← a.evaluate b
      let x ← match op with
        | none => pure x
        | some op => op.apply (← b.number name) x
      return (x, { b with assigned := (name, toString x.toInt) :: b.assigned })

/-- The value of a text that is an expression, and its variables afterwards. -/
def evaluateText (source : String) (b : Bindings) : Except SumError (Int64 × Bindings) := do
  let (e, fault) := Expression.ofText source
  let result ← e.evaluate b
  match fault with
  | some fault => throw fault
  | none => return result

end Scaffold.Shell
