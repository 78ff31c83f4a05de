import Scaffold.Text.Search

/-!
# TOML values

The values of a document, and how a text is written as one of them.
-/

namespace Scaffold

/-- A value. -/
inductive Toml where
  | text (s : String)
  | flag (b : Bool)
  | integer (n : Int)
  /-- A fraction, by its shortest text. -/
  | fraction (spelling : String)
  /-- A date, a time, or both, by its text. -/
  | moment (spelling : String)
  /-- What stands at a place of a list that nothing was put in.  No document has one. -/
  | gap
  | list (items : List Toml)
  | table (entries : List (String × Toml))
deriving Repr

instance : Inhabited Toml := ⟨.table []⟩

namespace Toml

open Scaffold.Text

/-- Put a value under a key, in place of the one that is there. -/
def put (key : String) (v : Toml) : List (String × Toml) → List (String × Toml)
  | [] => [(key, v)]
  | (k, old) :: rest => if k = key then (k, v) :: rest else (k, old) :: put key v rest

/-! ## Writing texts -/

/-- Decide whether a text that holds a character needs escapes. -/
def isControl (c : Char) : Bool := (c.toNat < 0x20 && c != '\t' && c != '\n') || c == '\x7f'

/-- The length of the longest run of a character. -/
def longestRun (ch : Char) (cs : List Char) : Nat :=
  (cs.foldl (fun (most, now) c =>
    let now := if c = ch then now + 1 else 0
    (max most now, now)) (0, 0)).1

/-- A character other than a quote inside double quotes, where line breaks are kept or not. -/
def escapedChar (keepBreaks : Bool) (c : Char) : List Char :=
  match c with
  | '\x08' => ['\\', 'b']
  | '\t' => ['\\', 't']
  | '\x0c' => ['\\', 'f']
  | '\r' => ['\\', 'r']
  | '\\' => ['\\', '\\']
  | '\n' => if keepBreaks then ['\n'] else ['\\', 'n']
  | c => if isControl c then '\\' :: 'u' :: "00".toList ++ upper c.toNat else [c]
where
  /-- Two digits of a number in hexadecimal. -/
  upper (n : Nat) : List Char := [Nat.digitChar (n / 16), (Nat.digitChar (n % 16)).toUpper]

/-- A text inside double quotes after a run of so many of them: one on one line, or three that
keep line breaks.  Between three, only the quote that would make a run of three is escaped. -/
def escapedFrom (blocks : Bool) : Nat → List Char → List Char
  | _, [] => []
  | run, '"' :: cs =>
      if blocks && run < 2 then '"' :: escapedFrom blocks (run + 1) cs
      else '\\' :: '"' :: escapedFrom blocks 0 cs
  | _, c :: cs => escapedChar blocks c ++ escapedFrom blocks 0 cs

/-- A text in the plainest quotes it can stand in: double quotes, single quotes, three of
either where it has line breaks or the quotes themselves, and double quotes with escapes.  A tab
needs no other quotes, but double quotes show it as an escape. -/
def quoted (s : String) : String :=
  let cs := s.toList
  let controls := cs.any isControl
  let slashes := cs.contains '\\'
  let breaks := cs.contains '\n'
  let double := longestRun '"' cs
  let single := longestRun '\'' cs
  let opening := if breaks then "\n" else ""
  let onOneLine := "\"" ++ String.ofList (escapedFrom false 0 cs) ++ "\""
  let inBlock := "\"\"\"" ++ opening ++ String.ofList (escapedFrom true 0 cs) ++ "\"\"\""
  if !controls && !slashes && double == 0 && !breaks then onOneLine
  else if !controls && single == 0 && !breaks then "'" ++ s ++ "'"
  else if !controls && !slashes && double ≤ 2 then inBlock
  else if !controls && single ≤ 2 then "'''" ++ opening ++ s ++ "'''"
  else if breaks then inBlock else onOneLine

example : quoted "a\tb" = "\"a\\tb\"" ∧ quoted "a\"b" = "'a\"b'" ∧ quoted "a\nb" = "\"\"\"\na\nb\"\"\""
    ∧ quoted "\"'" = "\"\"\"\"'\"\"\"" ∧ quoted "\r\"" = "\"\\r\\\"\"" := by decide +kernel

end Toml

end Scaffold
