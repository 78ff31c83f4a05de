import Scaffold.Format.Yaml.Basic

/-!
# Writing YAML

Documents in block style.  A text is written in the plainest way that reads back as the same
text: without quotes, in single quotes, as a literal block when it has several lines, and in
double quotes when it holds a character that has to be escaped.

A key stays on one line.  One that cannot, or is too long, is written after a question mark,
and its value below it after a colon.
-/

namespace Scaffold.Yaml

open Scaffold.Text

/-! ## What a text allows -/

/-- Decide whether a character is written as itself. -/
def isPrintable (c : Char) : Bool :=
  isAllowed c && !(['\t', '\r', '\u0085', '\ufeff'].contains c) && c.toNat < 0x10000

/-- Decide whether somewhere a character of the first kind is followed by one of the second. -/
def hasPair (p q : Char → Bool) : List Char → Bool
  | a :: b :: rest => (p a && q b) || hasPair p q (b :: rest)
  | _ => false

/-- Decide whether the first character gives a word a meaning. -/
def startsIndicator (cs : List Char) : Bool :=
  match cs with
  | [] => false
  | c :: rest =>
      "#,[]\x7b\x7d&*!|>'\"%@".toList.contains c || c == '\x60'
        || ((c == '?' || c == ':' || c == '-') && endsPlain rest.head?)
        || ["---", "..."].contains (String.ofList (cs.take 3))

/-- Decide whether a later character gives a word a meaning: a colon before a blank, or a
mark of a comment after one. -/
def holdsIndicator (cs : List Char) : Bool :=
  hasPair (fun c => isSpaceOrTab c || isBreak c) (· == '#') cs
    || hasPair (· == ':') (fun c => isSpaceOrTab c || isBreak c) (cs.drop 1)
    || (1 < cs.length && cs.getLast? == some ':')

/-- Decide whether a text has more than one line. -/
def isMultiline (s : String) : Bool := s.toList.any isBreak

/-- Decide whether a text begins or ends with a space or a line break. -/
def hasLooseEnd (cs : List Char) : Bool :=
  let loose (c : Option Char) := (c.map fun c => c == ' ' || isBreak c).getD false
  loose cs.head? || loose cs.getLast?

/-- Decide whether a text can only be written with escapes. -/
def needsEscapes (cs : List Char) : Bool :=
  !cs.all isPrintable || hasPair (· == ' ') isBreak cs

/-- Decide whether a text can be written without quotes. -/
def allowsPlain (s : String) : Bool :=
  let cs := s.toList
  !(isTaken s || needsEscapes cs || isMultiline s || hasLooseEnd cs || startsIndicator cs
    || holdsIndicator cs)

/-- Decide whether a text can be written in single quotes. -/
def allowsSingle (s : String) : Bool :=
  let cs := s.toList
  !(needsEscapes cs || hasPair isBreak (· == ' ') cs)

/-- Decide whether a text can be written as a literal block. -/
def allowsLiteral (s : String) : Bool :=
  let cs := s.toList
  !(needsEscapes cs || cs.getLast? == some ' ')

/-! ## Scalars -/

/-- The blanks before a line. -/
def margin (indent : Nat) : List Char := List.replicate indent ' '

/-- A text in which every line that holds something is indented.  The flag says whether a
line begins. -/
def indented (indent : Nat) : Bool → List Char → List Char
  | _, [] => []
  | atStart, c :: rest =>
      if isBreak c then c :: indented indent true rest
      else (if atStart then margin indent else []) ++ c :: indented indent false rest

/-- A text in single quotes. -/
def singleQuoted (indent : Nat) (s : String) : String :=
  let cs := s.toList.flatMap fun c => if c == '\'' then ['\'', '\''] else [c]
  let tail := if (cs.getLast?.map isBreak).getD false then margin indent else []
  String.ofList ('\'' :: (indented indent false cs ++ tail ++ ['\'']))

/-- A number in hexadecimal, in upper case. -/
def upperHex (width n : Nat) : List Char := (hexText width n).map Char.toUpper

/-- A character inside double quotes. -/
def escapedChar (c : Char) : List Char :=
  let named := [('\x00', '0'), ('\x07', 'a'), ('\x08', 'b'), ('\t', 't'), ('\n', 'n'),
    ('\x0b', 'v'), ('\x0c', 'f'), ('\r', 'r'), ('\x1b', 'e'), ('"', '"'), ('\\', '\\'),
    ('\u0085', 'N'), ('\u2028', 'L'), ('\u2029', 'P')]
  match named.lookup c with
  | some letter => ['\\', letter]
  | none =>
      let n := c.toNat
      if isPrintable c then [c]
      else if n < 0x100 then '\\' :: 'x' :: upperHex 2 n
      else if n < 0x10000 then '\\' :: 'u' :: upperHex 4 n
      else '\\' :: 'U' :: upperHex 8 n

/-- A text in double quotes. -/
def doubleQuoted (s : String) : String :=
  String.ofList ('"' :: (s.toList.flatMap escapedChar ++ ['"']))

/-- What a literal block says of its indentation and its last line breaks. -/
def literalHeader (cs : List Char) : List Char :=
  let hint := match cs with
    | c :: _ => if c == ' ' || isBreak c then ['2'] else []
    | [] => []
  let keep := match cs.reverse with
    | last :: before =>
        if !isBreak last then ['-']
        else if (before.head?.map isBreak).getD true then ['+'] else []
    | [] => ['-']
  '|' :: (hint ++ keep)

/-- A text as a literal block. -/
def literal (indent : Nat) (s : String) : String :=
  let cs := s.toList
  String.ofList (literalHeader cs ++ '\n' :: indented indent true cs)

/-- A text whose further lines are indented. -/
def scalarText (indent : Nat) (s : String) : String :=
  if s.toList.contains '\n' then
    if allowsLiteral s then literal indent s else doubleQuoted s
  else if allowsPlain s then s
  else if allowsSingle s then singleQuoted indent s
  else doubleQuoted s

/-- A text, and a line break unless it ends with one. -/
def lineEnded (s : String) : String :=
  if (s.toList.getLast?.map isBreak).getD false then s else s ++ "\n"

/-! ## Collections -/

/-- Decide whether a value can stand before a colon. -/
def isShortKey : Yaml → Bool
  | .scalar s _ _ => !isMultiline s && s.utf8ByteSize ≤ 128
  | .sequence items => items.isEmpty
  | .mapping entries => entries.isEmpty
  | .alias _ => true

/-- Decide whether a value is written below its key. -/
def isNested : Yaml → Bool
  | .scalar .. | .alias _ => false
  | .sequence items => !items.isEmpty
  | .mapping entries => !entries.isEmpty

/-- The blanks and line breaks between a colon and its value. -/
def gapAfterColon (indent : Nat) : Yaml → String
  | .sequence (_ :: _) => "\n" ++ String.ofList (margin indent)
  | .mapping (_ :: _) => "\n" ++ String.ofList (margin (indent + 2))
  | _ => " "

/-- How far a value is indented that follows a key: the items of a sequence as far as the
key, all else further. -/
def valueIndent (indent : Nat) : Yaml → Nat
  | .sequence (_ :: _) => indent
  | _ => indent + 2

/-- A scalar, on one line where its text allows it.  What reads as something other than a text
is written as it is. -/
def scalarAt (indent : Nat) (s : String) (form : Form) : String :=
  if form = .plain then s else scalarText indent s

/-- What stands for another value, by its number. -/
def aliasText (number : Nat) : String := "*" ++ toString number

/-- A key before its colon. -/
def keyText (indent : Nat) : Yaml → String
  | .scalar s form _ => scalarAt indent s form
  | .sequence _ => "[]"
  | .mapping _ => "\x7b\x7d"
  | .alias n => aliasText n ++ " "

mutual

/-- A value from the given column on, to the end of its last line. -/
def block (indent : Nat) : Yaml → String
  | .scalar s form _ => lineEnded (scalarAt indent s form)
  | .alias n => lineEnded (aliasText n)
  | .sequence [] => "[]\n"
  | .sequence (item :: items) => "- " ++ block (indent + 2) item ++ blockItems indent items
  | .mapping [] => "\x7b\x7d\n"
  | .mapping (entry :: entries) => blockEntry indent entry ++ blockEntries indent entries

/-- Items on lines of their own. -/
def blockItems (indent : Nat) : List Yaml → String
  | [] => ""
  | item :: items =>
      String.ofList (margin indent) ++ "- " ++ block (indent + 2) item ++ blockItems indent items

/-- A key and its value. -/
def blockEntry (indent : Nat) : Yaml × Yaml → String
  | (key, value) =>
      if isShortKey key then
        keyText indent key ++ ":" ++ gapAfterColon indent value
          ++ block (valueIndent indent value) value
      else
        "? " ++ block (indent + 2) key ++ String.ofList (margin indent) ++ ": "
          ++ block (indent + 2) value

/-- Entries on lines of their own. -/
def blockEntries (indent : Nat) : List (Yaml × Yaml) → String
  | [] => ""
  | entry :: entries =>
      String.ofList (margin indent) ++ blockEntry indent entry ++ blockEntries indent entries

end

/-- A document.  Tags are not written. -/
def document (v : Yaml) : String := block (if isNested v then 0 else 2) v

example : ["", "a", "a b", "a: b", "1", "- a", "a\tb", "a\n", "it's", "'", ":a"].map (scalarText 2)
    = ["''", "a", "a b", "'a: b'", "'1'", "'- a'", "\"a\\tb\"", "|\n  a\n", "it's", "''''", ":a"] := by
  decide +kernel

end Scaffold.Yaml
