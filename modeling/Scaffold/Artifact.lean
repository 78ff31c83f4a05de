import Scaffold.Text.Blank
import Scaffold.Text.Search

/-!
# Text artifacts

An artifact is a text file as its lines, each with the terminator it was read with, so that
a file is written back as it was outside the lines that changed.  A block of lines is put
in at an anchor, which is looked up on the current lines every time.

A line carries its own terminator, so the two cannot drift apart.
-/

namespace Scaffold

open Scaffold.Text

/-! ## Lines -/

/-- The terminator of a line. -/
inductive Ending where
  | lf | crlf
deriving Repr, DecidableEq

/-- The characters of a terminator. -/
def Ending.text : Ending → String
  | .lf => "\n"
  | .crlf => "\r\n"

/-- One line and its terminator. -/
structure Line where
  /-- The text without the terminator. -/
  text : String
  /-- The terminator. -/
  ending : Ending
deriving Repr, DecidableEq

namespace Line

/-- Read a piece that stood before a line feed. -/
def ofPiece (piece : List Char) : Line :=
  match dropTail? ['\r'] piece with
  | some text => ⟨String.ofList text, .crlf⟩
  | none => ⟨String.ofList piece, .lf⟩

/-- The line as it is written in a file. -/
def render (l : Line) : String := l.text ++ l.ending.text

end Line

/-- The terminator most of the lines have; a line feed when there is a tie. -/
def majorityEnding (ls : List Line) : Ending :=
  if ls.length < 2 * ls.countP (·.ending == .crlf) then .crlf else .lf

/-! ## Anchors -/

/-- Where a block goes. -/
inductive Anchor where
  /-- Before the last line that is a closing brace. -/
  | endOfBlock
  /-- Before the last line that is the given text, up to blanks around it. -/
  | beforeMarker (marker : String)
  /-- After the last import line. -/
  | afterImports
  /-- At the end of the file. -/
  | endOfFile
deriving Repr, DecidableEq

/-- An anchor found in a list of lines. -/
structure Position where
  /-- How many lines come before the block. -/
  index : Nat
  /-- What each line of the block is indented by. -/
  indent : String
  /-- Whether the block is the first import of the file. -/
  opensImports : Bool
deriving Repr, DecidableEq

/-- The index of the last line that satisfies `p`. -/
def lastIndex? (p : String → Bool) (lines : List String) : Option Nat :=
  (lines.reverse.findIdx? p).map (lines.length - 1 - ·)

/-- Decide whether a line is a top-level import. -/
def isImportLine (line : String) : Bool :=
  let directive := (dropStart? "global ".toList line.toList).getD line.toList
  "using ".toList.isPrefixOf directive
    && endsWith (trimEnd (String.ofList directive)) ";"
    && !directive.contains '('

/-- One level of indentation: a tab if the file indents by tabs, four spaces otherwise. -/
def indentUnit (lines : List String) : String :=
  if lines.any (beginsWith · "\t") then "\t" else "    "

namespace Anchor

/-- The end of a list of lines. -/
def atEnd (lines : List String) : Position := ⟨lines.length, "", false⟩

/-- Before the last closing brace, one level deeper than it; at the end if there is none. -/
def atLastBrace (lines : List String) : Position :=
  match lastIndex? (fun l => trim l == "\x7d") lines with
  | some i => ⟨i, leadingBlanks (lines[i]?.getD "") ++ indentUnit lines, false⟩
  | none => atEnd lines

/-- Look an anchor up in a list of lines. -/
def locate (lines : List String) : Anchor → Position
  | .endOfBlock => atLastBrace lines
  | .beforeMarker marker =>
      match lastIndex? (fun l => trim l == trim marker) lines with
      | some i => ⟨i, leadingBlanks (lines[i]?.getD ""), false⟩
      | none => atLastBrace lines
  | .afterImports =>
      match lastIndex? isImportLine lines with
      | some i => ⟨i + 1, "", false⟩
      | none => ⟨0, "", true⟩
  | .endOfFile => atEnd lines

end Anchor

/-! ## Artifacts -/

/-- A text file as its lines. -/
structure Artifact where
  /-- Where the file is. -/
  path : String
  /-- The lines in order. -/
  lines : List Line
  /-- Whether the file is there already. -/
  isPresent : Bool
  /-- The terminator of a line that has no neighbour. -/
  majority : Ending
  /-- Whether the last line is terminated. -/
  endsInNewline : Bool
deriving Repr, DecidableEq

namespace Artifact

/-- A file that is not there yet. -/
def absent (path : String) : Artifact := ⟨path, [], false, .lf, true⟩

/-- Read a file.  An unterminated last line keeps a carriage return as text, and takes the
terminator of the majority if a line follows it later. -/
def parse (path content : String) : Artifact :=
  let pieces := piecesBy (· == '\n') content.toList
  let terminated := pieces.dropLast.map Line.ofPiece
  let majority := majorityEnding terminated
  match pieces.getLast? with
  | none | some [] => ⟨path, terminated, true, majority, true⟩
  | some rest => ⟨path, terminated ++ [⟨String.ofList rest, majority⟩], true, majority, false⟩

/-- The texts of the lines. -/
def texts (a : Artifact) : List String := a.lines.map Line.text

/-- Write lines out, the last one without its terminator unless `closed`. -/
def renderLines (closed : Bool) : List Line → String
  | [] => ""
  | [l] => if closed then l.render else l.text
  | l :: next :: rest => l.render ++ renderLines closed (next :: rest)

/-- Write a file out. -/
def render (a : Artifact) : String := renderLines a.endsInNewline a.lines

/-- Decide whether some line contains `needle`. -/
def containsText (a : Artifact) (needle : String) : Bool := a.texts.any (contains · needle)

/-- Decide whether some line is `literal`. -/
def containsLine (a : Artifact) (literal : String) : Bool := a.texts.any (· == literal)

/-! ### Line edits -/

/-- The terminator of a line put in at `index`: that of the line it displaces, else that of
the line before it, else that of the majority. -/
def endingNear (a : Artifact) (index : Nat) : Ending :=
  match a.lines[index]? with
  | some l => l.ending
  | none =>
      match index with
      | 0 => a.majority
      | i + 1 => ((a.lines[i]?).map Line.ending).getD a.majority

/-- Put lines in at `index`. -/
def insertLines (a : Artifact) (index : Nat) (texts : List String) : Artifact :=
  { a with lines :=
      a.lines.take index ++ texts.map (⟨·, a.endingNear index⟩) ++ a.lines.drop index }

/-- Put one line in at `index`. -/
def insertLine (a : Artifact) (index : Nat) (text : String) : Artifact :=
  a.insertLines index [text]

/-- Take the line at `index` out. -/
def removeLine (a : Artifact) (index : Nat) : Artifact :=
  { a with lines := a.lines.eraseIdx index }

/-- Change the text of the line at `index`; its terminator stays. -/
def replaceLine (a : Artifact) (index : Nat) (text : String) : Artifact :=
  { a with lines := a.lines.modify index fun l => { l with text := text } }

/-! ### Blocks -/

/-- Decide whether a separated block needs a blank line after `previous`. -/
def needsGap (previous : String) : Bool :=
  let shown := trimEnd previous
  !shown.isEmpty && !endsWith shown "\x7b"

/-- The blank line before a separated block, if it needs one. -/
def gapBefore (texts : List String) (index : Nat) (separated : Bool) : List String :=
  match index with
  | 0 => []
  | i + 1 => if separated && needsGap (texts[i]?.getD "") then [""] else []

/-- The blank line after the first import of a file, if a declaration follows it. -/
def gapAfter (texts : List String) (position : Position) : List String :=
  if position.opensImports && (texts[position.index]?.any fun l => !isBlankText l) then [""] else []

/-- A line of a block at its indentation; empty lines stay empty. -/
def indentBy (indent line : String) : String := if line.isEmpty then "" else indent ++ line

/-- Put a block in at an anchor. -/
def insertBlock (a : Artifact) (anchor : Anchor) (block : List String) (separated : Bool) :
    Artifact :=
  let position := anchor.locate a.texts
  a.insertLines position.index
    (gapBefore a.texts position.index separated
      ++ block.map (indentBy position.indent)
      ++ gapAfter a.texts position)

/-- Put an import line in after the last one. -/
def insertImport (a : Artifact) (literal : String) : Artifact :=
  a.insertBlock .afterImports [literal] false

/-! ### Removing known lines -/

/-- Decide whether lines begin with a sequence, up to blanks around each line. -/
def matchesSequence : List String → List String → Bool
  | [], _ => true
  | _ :: _, [] => false
  | s :: seq, l :: lines => trim l == trim s && matchesSequence seq lines

/-- The index of the first run of lines that matches a sequence. -/
def findSequence? (seq : List String) : List String → Option Nat
  | [] => none
  | l :: lines =>
      if matchesSequence seq (l :: lines) then some 0
      else (findSequence? seq lines).map (· + 1)

/-- The artifact without the first run of lines that matches a non-empty sequence, if there
is one. -/
def removeSequence? (a : Artifact) (seq : List String) : Option Artifact :=
  if seq.isEmpty then none
  else (findSequence? seq a.texts).map fun i =>
    { a with lines := a.lines.take i ++ a.lines.drop (i + seq.length) }

end Artifact

/-! ## Declarations and outcomes -/

/-- What ensuring a declaration did to its file. -/
inductive Outcome where
  /-- The file was made. -/
  | created
  /-- Nothing was written. -/
  | unchanged
  /-- The block went into an existing file. -/
  | updated
  /-- Known sample lines went out. -/
  | cleaned
deriving Repr, DecidableEq

namespace Outcome

/-- Every outcome. -/
def all : List Outcome := [.created, .unchanged, .updated, .cleaned]

/-- The canonical spelling of an outcome. -/
def spelling : Outcome → String
  | .created => "created"
  | .unchanged => "unchanged"
  | .updated => "updated"
  | .cleaned => "cleaned"

/-- Decide whether something was written. -/
def changed : Outcome → Bool
  | .unchanged => false
  | .created | .updated | .cleaned => true

end Outcome

/-- A block that has to be in a file. -/
structure Declaration where
  /-- The text whose presence on a line proves that the block is there. -/
  detection : String
  /-- The lines to put in. -/
  block : List String
  /-- Where they go. -/
  anchor : Anchor := .endOfBlock
  /-- Whether a blank line sets the block off. -/
  separated : Bool := false
  /-- The template of the whole file, for when it is not there. -/
  template : Option String := none
deriving Repr, DecidableEq

example : (Artifact.parse "f" "a\r\nb").render = "a\r\nb" := by decide
example : ((Artifact.parse "f" "class A\n\x7b\n\x7d\n").insertBlock .endOfBlock ["x;"] true).render
    = "class A\n\x7b\n    x;\n\x7d\n" := by decide

end Scaffold
