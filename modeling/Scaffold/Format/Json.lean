import Scaffold.Text.Digits
import Scaffold.Text.Search

/-!
# JSON

Values, their reader and their two printers.  Objects keep their members in order, repeated
ones included: what a repetition means is for the reader of a record to say.
-/

namespace Scaffold

/-- A value. -/
inductive JsonValue where
  | null
  | bool (b : Bool)
  /-- A number, as it is spelled. -/
  | number (spelling : String)
  | string (s : String)
  /-- A string that is no text, or an object with such a key: an escape in it stands for half a
  character. -/
  | broken
  | array (items : List JsonValue)
  | object (members : List (String × JsonValue))
deriving Repr

instance : Inhabited JsonValue := ⟨.null⟩

namespace JsonValue

open Scaffold.Text

/-! ## Reading -/

/-- The characters between tokens. -/
def isSpace (c : Char) : Bool := c == ' ' || c == '\t' || c == '\n' || c == '\r'

/-- Skip to the next token. -/
def skip (cs : List Char) : List Char := cs.dropWhile isSpace

/-- The character a letter after a backslash stands for. -/
def simpleEscape : Char → Option Char
  | '"' => some '"'
  | '\\' => some '\\'
  | '/' => some '/'
  | 'b' => some '\x08'
  | 'f' => some '\x0c'
  | 'n' => some '\n'
  | 'r' => some '\r'
  | 't' => some '\t'
  | _ => none

/-- Decide whether a code unit begins a pair. -/
def isHighUnit (n : Nat) : Bool := 0xD800 ≤ n && n < 0xDC00

/-- Decide whether a code unit ends a pair. -/
def isLowUnit (n : Nat) : Bool := 0xDC00 ≤ n && n < 0xE000

/-- Put a code before the codes of a string that is being read. -/
def consCode (n : Nat) (r : Option (List Nat × List Char)) : Option (List Nat × List Char) :=
  r.map fun (codes, rest) => (n :: codes, rest)

/-- The codes of a string up to its closing quote, and what follows.  Halves of characters are
codes by themselves. -/
def readString : List Char → Option (List Nat × List Char)
  | [] => none
  | '"' :: rest => some ([], rest)
  | '\\' :: 'u' :: a :: b :: c :: d :: rest => do
      consCode (← hexNumber? [a, b, c, d]) (readString rest)
  | '\\' :: c :: rest => do consCode (← simpleEscape c).toNat (readString rest)
  | c :: rest => if c.toNat < 0x20 then none else consCode c.toNat (readString rest)

/-- The text that codes stand for, two halves together for one character; none if a half is
alone. -/
def textOfCodes? : List Nat → Option (List Char)
  | [] => some []
  | [n] => if n.isValidChar then some [Char.ofNat n] else none
  | high :: low :: rest =>
      if isHighUnit high && isLowUnit low then
        (textOfCodes? rest).map (Char.ofNat (0x10000 + (high - 0xD800) * 0x400 + (low - 0xDC00)) :: ·)
      else if high.isValidChar then (textOfCodes? (low :: rest)).map (Char.ofNat high :: ·)
      else none

example : textOfCodes? [0x61, 0xD83D, 0xDE00] = some ['a', '😀'] ∧ textOfCodes? [0xDE00] = none := by
  decide

/-- The value of a string. -/
def ofCodes (codes : List Nat) : JsonValue :=
  match textOfCodes? codes with
  | some cs => .string (String.ofList cs)
  | none => .broken

/-- The value of an object: one with a key that is no text is broken. -/
def ofMembers (members : List (List Nat × JsonValue)) : JsonValue :=
  match members.mapM fun (key, x) => (textOfCodes? key).map fun cs => (String.ofList cs, x) with
  | some members => .object members
  | none => .broken

/-- A run of at least one digit, and what follows. -/
def readDigits (cs : List Char) : Option (List Char × List Char) :=
  let digits := cs.takeWhile Char.isDigit
  if digits.isEmpty then none else some (digits, cs.dropWhile Char.isDigit)

/-- The whole part of a number, which does not begin with a needless zero. -/
def readWhole : List Char → Option (List Char × List Char)
  | '0' :: rest => if (rest.head?.map Char.isDigit).getD false then none else some (['0'], rest)
  | cs => readDigits cs

/-- The fraction of a number, if it has one. -/
def readFraction : List Char → Option (List Char × List Char)
  | '.' :: rest => (readDigits rest).map fun (ds, rest) => ('.' :: ds, rest)
  | cs => some ([], cs)

/-- The exponent of a number, if it has one. -/
def readExponent (cs : List Char) : Option (List Char × List Char) :=
  match cs with
  | e :: rest =>
      if e = 'e' ∨ e = 'E' then
        match rest with
        | s :: rest' =>
            if s = '+' ∨ s = '-' then (readDigits rest').map fun (ds, r) => (e :: s :: ds, r)
            else (readDigits rest).map fun (ds, r) => (e :: ds, r)
        | [] => none
      else some ([], cs)
  | [] => some ([], [])

/-- A number, and what follows. -/
def readNumber (cs : List Char) : Option (JsonValue × List Char) := do
  let (sign, cs) := match cs with
    | '-' :: rest => (['-'], rest)
    | cs => ([], cs)
  let (whole, cs) ← readWhole cs
  let (fraction, cs) ← readFraction cs
  let (exponent, cs) ← readExponent cs
  return (.number (String.ofList (sign ++ whole ++ fraction ++ exponent)), cs)

mutual

/-- A value, and what follows. -/
def readValue : Nat → List Char → Option (JsonValue × List Char)
  | 0, _ => none
  | n + 1, cs =>
      match skip cs with
      | 'n' :: 'u' :: 'l' :: 'l' :: rest => some (.null, rest)
      | 't' :: 'r' :: 'u' :: 'e' :: rest => some (.bool true, rest)
      | 'f' :: 'a' :: 'l' :: 's' :: 'e' :: rest => some (.bool false, rest)
      | '"' :: rest => (readString rest).map fun (s, rest) => (ofCodes s, rest)
      | '[' :: rest =>
          match skip rest with
          | ']' :: rest => some (.array [], rest)
          | rest => (readItems n rest).map fun (xs, rest) => (.array xs, rest)
      | '\x7b' :: rest =>
          match skip rest with
          | '\x7d' :: rest => some (.object [], rest)
          | rest => (readMembers n rest).map fun (ms, rest) => (ofMembers ms, rest)
      | cs => readNumber cs

/-- The items of an array up to its bracket, and what follows. -/
def readItems : Nat → List Char → Option (List JsonValue × List Char)
  | 0, _ => none
  | n + 1, cs => do
      let (x, rest) ← readValue n cs
      match skip rest with
      | ',' :: rest =>
          let (xs, rest) ← readItems n rest
          return (x :: xs, rest)
      | ']' :: rest => return ([x], rest)
      | _ => none

/-- The members of an object up to its brace, and what follows. -/
def readMembers : Nat → List Char → Option (List (List Nat × JsonValue) × List Char)
  | 0, _ => none
  | n + 1, cs => do
      match skip cs with
      | '"' :: rest =>
          let (key, rest) ← readString rest
          match skip rest with
          | ':' :: rest =>
              let (x, rest) ← readValue n rest
              let member := (key, x)
              match skip rest with
              | ',' :: rest =>
                  let (ms, rest) ← readMembers n rest
                  return (member :: ms, rest)
              | '\x7d' :: rest => return ([member], rest)
              | _ => none
          | _ => none
      | _ => none

end

/-- Read a text that holds one value and nothing else. -/
def parse? (s : String) : Option JsonValue := do
  let (x, rest) ← readValue (2 * s.length + 2) s.toList
  if (skip rest).isEmpty then some x else none

/-! ## Printing

What is broken has no text of its own, and is written as nothing. -/

/-- A character inside a string. -/
def escaped (c : Char) : List Char :=
  match c with
  | '"' => ['\\', '"']
  | '\\' => ['\\', '\\']
  | '\x08' => ['\\', 'b']
  | '\x0c' => ['\\', 'f']
  | '\n' => ['\\', 'n']
  | '\r' => ['\\', 'r']
  | '\t' => ['\\', 't']
  | c => if c.toNat < 0x20 then '\\' :: 'u' :: hexText 4 c.toNat else [c]

/-- A string in quotes. -/
def quoted (s : String) : String := "\"" ++ String.ofList (s.toList.flatMap escaped) ++ "\""

mutual

/-- A value on one line, without blanks. -/
def compact : JsonValue → String
  | .null => "null"
  | .bool b => toString b
  | .number spelling => spelling
  | .string s => quoted s
  | .broken => "null"
  | .array items => "[" ++ joinWith "," (compactItems items) ++ "]"
  | .object members => "\x7b" ++ joinWith "," (compactMembers members) ++ "\x7d"

/-- Items on one line each. -/
def compactItems : List JsonValue → List String
  | [] => []
  | x :: rest => x.compact :: compactItems rest

/-- Members without blanks. -/
def compactMembers : List (String × JsonValue) → List String
  | [] => []
  | (key, x) :: rest => (quoted key ++ ":" ++ x.compact) :: compactMembers rest

end

/-- A line break and the indentation after it. -/
def lineBreak (depth : Nat) : String := "\n" ++ String.ofList (List.replicate (2 * depth) ' ')

mutual

/-- A value over several lines, indented from the given depth. -/
def prettyAt (depth : Nat) : JsonValue → String
  | .array (x :: items) =>
      let line := lineBreak (depth + 1)
      "[" ++ line ++ joinWith ("," ++ line) (x.prettyAt (depth + 1) :: prettyItems (depth + 1) items)
        ++ lineBreak depth ++ "]"
  | .object ((key, x) :: members) =>
      let line := lineBreak (depth + 1)
      let first := quoted key ++ ": " ++ x.prettyAt (depth + 1)
      "\x7b" ++ line ++ joinWith ("," ++ line) (first :: prettyMembers (depth + 1) members)
        ++ lineBreak depth ++ "\x7d"
  | .array [] => "[]"
  | .object [] => "\x7b\x7d"
  | .null => "null"
  | .bool b => toString b
  | .number spelling => spelling
  | .string s => quoted s
  | .broken => "null"

/-- Items at the given depth. -/
def prettyItems (depth : Nat) : List JsonValue → List String
  | [] => []
  | x :: rest => x.prettyAt depth :: prettyItems depth rest

/-- Members at the given depth. -/
def prettyMembers (depth : Nat) : List (String × JsonValue) → List String
  | [] => []
  | (key, x) :: rest => (quoted key ++ ": " ++ x.prettyAt depth) :: prettyMembers depth rest

end

/-- A value over several lines. -/
def pretty (x : JsonValue) : String := x.prettyAt 0

/-- A count as a value. -/
def ofNat (n : Nat) : JsonValue := .number (toString n)

end JsonValue

end Scaffold
