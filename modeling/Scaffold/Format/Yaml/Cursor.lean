import Scaffold.Format.Yaml.Basic

/-!
# Places in a document

A cursor is what is left of a document and where that begins.  The column is counted because
indentation has a meaning, the line and the octets because a key has to end on its line and
within a bound.
-/

namespace Scaffold.Yaml

/-- What is left of a document, and where it begins. -/
structure Cursor where
  /-- What is left. -/
  rest : List Char
  /-- The number of line breaks before it. -/
  line : Nat := 0
  /-- The number of characters before it on its line. -/
  column : Nat := 0
  /-- The number of octets before it. -/
  octets : Nat := 0
deriving Repr

namespace Cursor

/-- The cursor after the next character. -/
def next (c : Cursor) : Cursor :=
  match c.rest with
  | [] => c
  | ch :: rest =>
      let octets := c.octets + ch.utf8Size
      if isBreak ch then ⟨rest, c.line + 1, 0, octets⟩
      else ⟨rest, c.line, c.column + 1, octets⟩

/-- The cursor after so many characters. -/
def skip : Nat → Cursor → Cursor
  | 0, c => c
  | n + 1, c => skip n c.next

/-- The characters of a kind from here on, and the cursor after them. -/
def span (p : Char → Bool) (c : Cursor) : List Char × Cursor :=
  let taken := c.rest.takeWhile p
  (taken, c.skip taken.length)

/-- The cursor after the characters of a kind. -/
def skipWhile (p : Char → Bool) (c : Cursor) : Cursor := (c.span p).2

/-- The next character. -/
def peek (c : Cursor) : Option Char := c.rest.head?

/-- The character after the next one. -/
def peekSecond (c : Cursor) : Option Char := (c.rest.drop 1).head?

/-- Decide whether the next character is a given one. -/
def at? (ch : Char) (c : Cursor) : Bool := c.peek == some ch

/-- Decide whether a line begins here that consists of a mark of three characters. -/
def atMark (mark : String) (c : Cursor) : Bool :=
  c.column == 0 && c.rest.take 3 == mark.toList && endsPlain (c.rest.drop 3).head?

/-- Decide whether a document ends or begins here. -/
def atDocumentMark (c : Cursor) : Bool := c.atMark "---" || c.atMark "..."

/-- The cursor at the end of the line. -/
def toLineEnd (c : Cursor) : Cursor := c.skipWhile (!isBreak ·)

/-- The cursor on the next line, if nothing but blanks and a comment are left of this one. -/
def endLine? (c : Cursor) : Option Cursor :=
  let c := c.skipWhile isSpaceOrTab
  let c := if c.at? '#' then c.toLineEnd else c
  match c.peek with
  | none => some c
  | some ch => if isBreak ch then some c.next else none

end Cursor

/-- A document with one character at the end of each line, or nothing when it holds a
character that cannot stand in a document. -/
def normalized? (s : String) : Option (List Char) :=
  if s.toList.all isAllowed then some (go s.toList) else none
where
  /-- The characters with one for each line break. -/
  go : List Char → List Char
    | [] => []
    | '\r' :: '\n' :: rest => '\n' :: go rest
    | '\r' :: rest => '\n' :: go rest
    | '\u0085' :: rest => '\n' :: go rest
    | c :: rest => c :: go rest

end Scaffold.Yaml
