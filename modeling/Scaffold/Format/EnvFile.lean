import Scaffold.Text.Blank
import Scaffold.Text.Search
import Scaffold.Text.NameTable

/-!
# Files of variables

A file that gives variables their values, one `NAME=value` a line.  A line goes on as long as a
quote is open or a backslash ends it.  A value can name variables, which are looked up among
those that are known so far; a variable that is known already keeps its value.

Reading stops at the first line that is not well formed, and what was read before it stays.
-/

namespace Scaffold.EnvFile

open Scaffold.Text

/-- Variables with their values. -/
abbrev Variables := List (String × String)

/-! ## Lines -/

/-- Where in a line a character stands, as far as the end of the line depends on it. -/
inductive Spot where
  | outside
  /-- After a blank, where a comment can begin. -/
  | blank
  | escaped
  | quoted (quote : Char)
  | quotedEscape (quote : Char)
deriving Repr, DecidableEq

/-- The spot after a character that is outside of quotes. -/
def Spot.afterPlain (c : Char) : Spot :=
  if c = '\\' then .escaped else if c = '"' ∨ c = '\'' then .quoted c else .outside

/-- The spot after one more character. -/
def Spot.next (c : Char) : Spot → Spot
  | outside => if isBlank c && c != '\n' && c != '\r' then .blank else afterPlain c
  | blank => afterPlain c
  | escaped => .outside
  | quoted q => if c = '\\' then .quotedEscape q else if c = q then .outside else .quoted q
  | quotedEscape q => .quoted q

/-- The spot after characters, or what comes before a comment that begins in them. -/
def scan (spot : Spot) : List Char → List Char × Option Spot
  | [] => ([], some spot)
  | c :: cs =>
      if spot = .blank ∧ c = '#' then ([], none)
      else
        let (kept, stop) := scan (spot.next c) cs
        (c :: kept, stop)

/-- A line without its line break. -/
def dropBreak (cs : List Char) : List Char :=
  match cs.reverse with
  | '\n' :: '\r' :: r => r.reverse
  | '\n' :: r => r.reverse
  | _ => cs

/-- The lines of a file as they are read: each goes over as many breaks as it has to.  A last
line that is not finished is none. -/
def logicalLines (spot : Spot) (begun : List Char) : List (List Char) → List (List Char)
  | [] => []
  | line :: rest =>
      let (kept, stop) := scan spot line
      if ((begun ++ line).dropWhile isBlank).head? = some '#' then logicalLines .outside [] rest
      else match stop with
        | none => (begun ++ kept) :: logicalLines .outside [] rest
        | some .outside => dropBreak (begun ++ kept) :: logicalLines .outside [] rest
        | some spot => logicalLines spot (begun ++ kept) rest

/-! ## Values -/

/-- What the next character of a value belongs to. -/
inductive Phase where
  | text
  | escape
  /-- A variable's name, read so far. -/
  | name (chars : List Char)
  /-- A variable's name in braces, read so far. -/
  | braced (chars : List Char)
  /-- The blanks after the value. -/
  | ended
  | comment
deriving Repr, DecidableEq

/-- A value as it is read. -/
structure Reading where
  phase : Phase := .text
  /-- The quote that is open. -/
  quote : Option Char := none
  output : List Char := []

/-- The value of a variable; an unknown one is empty. -/
def valueOf (vars : Variables) (name : List Char) : List Char :=
  ((vars.lookup (String.ofList name)).getD "").toList

/-- Decide whether a character can belong to a variable's name without braces. -/
def isNameChar (c : Char) : Bool :=
  if c.toNat < 128 then c.isAlphanum else inSpans alphanumericSpans c.toNat

/-- The character a backslash and a character stand for. -/
def escapedChar? (c : Char) : Option Char :=
  if c = 'n' then some '\n' else if "\\'\"$ ".toList.contains c then some c else none

/-- One more character of the text of a value. -/
def Reading.text (r : Reading) (c : Char) : Reading :=
  let r := { r with phase := .text }
  let literal := { r with output := r.output ++ [c] }
  match r.quote with
  | some '\'' => if c = '\'' then { r with quote := none } else literal
  | some _ =>
      if c = '$' then { r with phase := .name [] }
      else if c = '"' then { r with quote := none }
      else if c = '\\' then { r with phase := .escape }
      else literal
  | none =>
      if c = '$' then { r with phase := .name [] }
      else if c = '"' ∨ c = '\'' then { r with quote := some c }
      else if c = '\\' then { r with phase := .escape }
      else if c = ' ' ∨ c = '\t' then { r with phase := .ended }
      else literal

/-- One more character of a value.  The character that ends a name without braces stands for
itself, even if it is a quote. -/
def Reading.next? (vars : Variables) (r : Reading) (c : Char) : Option Reading :=
  match r.phase with
  | .text => some (r.text c)
  | .escape => (escapedChar? c).map fun c => { r with phase := .text, output := r.output ++ [c] }
  | .name cs =>
      if isNameChar c then some { r with phase := .name (cs ++ [c]) }
      else if c = '\x7b' ∧ cs = [] then some { r with phase := .braced [] }
      else
        let output := r.output ++ valueOf vars cs
        if c = '$' then some { r with phase := .name [], output := output }
        else some { r with phase := .text, output := output ++ [c] }
  | .braced cs =>
      if c = '\x7d' then some { r with phase := .text, output := r.output ++ valueOf vars cs }
      else some { r with phase := .braced (cs ++ [c]) }
  | .ended =>
      if c = ' ' ∨ c = '\t' then some r
      else if c = '#' then some { r with phase := .comment }
      else none
  | .comment => some r

/-- A value.  Its quotes and braces are closed. -/
def value? (vars : Variables) (cs : List Char) : Option String := do
  let r ← cs.foldlM (Reading.next? vars) {}
  if r.quote.isSome then none
  match r.phase with
  | .braced _ => none
  | .name name => return String.ofList (r.output ++ valueOf vars name)
  | _ => return String.ofList r.output

/-! ## Entries -/

/-- A name, and what follows it and the blanks after it. -/
def name? (cs : List Char) : Option (List Char × List Char) :=
  let name := cs.takeWhile fun c => c.isAlphanum || c == '_' || c == '.'
  if name.head?.any fun c => c.isAlpha || c == '_' then
    some (name, (cs.drop name.length).dropWhile isBlank)
  else none

/-- The name and the text of the value of a line that has them; a word may come before. -/
def assignment? (cs : List Char) : Option (List Char × List Char) := do
  match ← name? cs with
  | (name, '=' :: r) => return (name, r.dropWhile isBlank)
  | (name, r) =>
      if name ≠ "export".toList then none
      match ← name? r with
      | (name, '=' :: r) => return (name, r.dropWhile isBlank)
      | _ => none

/-- What a line gives a value to, or nothing if it is blank or a comment; none if it is not well
formed. -/
def entry? (vars : Variables) (line : List Char) : Option (Option (String × String)) :=
  match trimChars line with
  | [] | '#' :: _ => some none
  | cs => do
      let (name, text) ← assignment? cs
      let value ← match text with
        | [] | '#' :: _ => some ""
        | text => value? vars text
      return some (String.ofList name, value)

/-- The variables after some lines. -/
def readLines (vars : Variables) : List (List Char) → Variables
  | [] => vars
  | line :: rest =>
      match entry? vars line with
      | none => vars
      | some none => readLines vars rest
      | some (some (name, value)) =>
          if (vars.lookup name).isSome then readLines vars rest
          else readLines (vars ++ [(name, value)]) rest

/-- The lines of bytes with their breaks, up to the first that is not text. -/
def textLines (bytes : List UInt8) : Nat → List (List Char)
  | 0 => []
  | fuel + 1 =>
      let line := bytes.takeWhile (· != 10)
      let line := line ++ (bytes.drop line.length).take 1
      if line.isEmpty then []
      else match String.fromUTF8? ⟨line.toArray⟩ with
        | none => []
        | some text => text.toList :: textLines (bytes.drop line.length) fuel

/-- The variables after a file. -/
def read (vars : Variables) (bytes : ByteArray) : Variables :=
  let bytes := match bytes.toList with
    | 0xEF :: 0xBB :: 0xBF :: rest => rest
    | all => all
  readLines vars (logicalLines .outside [] (textLines bytes (bytes.length + 1)))

example : readLines [("A", "1")] ["A=2".toList, "export B = \"$A $\x7bA\x7d\" # c".toList, "C='x".toList]
    = [("A", "1"), ("B", "1 1")] := by decide +kernel

end Scaffold.EnvFile
