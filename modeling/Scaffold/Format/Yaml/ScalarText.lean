import Scaffold.Format.Yaml.Cursor

/-!
# The text of a scalar

How a text is read that is written without quotes, in quotes, or as a block.

A text in the first two ways can go on over several lines.  The blanks around a line break are
not part of it: a break by itself reads as a space, and of several the first one is dropped.
-/

namespace Scaffold.Yaml

open Scaffold.Text

/-! ## Between the words -/

/-- The line breaks of a run of blanks, as they read in a text. -/
def foldBreaks : List Char → List Char
  | ['\n'] => [' ']
  | '\n' :: more => more
  | breaks => breaks

/-- What a run of blanks and line breaks between two words reads as.  After a backslash at the
end of a line the first break is gone already. -/
def gapText (escaped : Bool) (gap : List Char) : List Char :=
  let breaks := gap.filter isBreak
  if escaped then breaks
  else if breaks.isEmpty then gap
  else foldBreaks breaks

/-- Decide whether a character is a blank or a line break. -/
def isGap (c : Char) : Bool := isSpaceOrTab c || isBreak c

/-- Decide whether on a line after the first there is a tab before the given column. -/
def tabBefore (column : Nat) (gap : List Char) : Bool :=
  go false 0 gap
where
  /-- The flag says that a line break came before. -/
  go (broken : Bool) (at_ : Nat) : List Char → Bool
    | [] => false
    | c :: rest =>
        if isBreak c then go true 0 rest
        else (broken && c == '\t' && at_ < column) || go broken (at_ + 1) rest

/-! ## Without quotes -/

/-- The part of a word up to the next blank or to what ends the scalar; `none` where a colon
stands that the collection around it cannot take. -/
def plainWord? (flow : Bool) : List Char → Option (List Char)
  | [] => some []
  | c :: rest =>
      let next := rest.head?
      let nextIn (cs : List Char) := (next.map cs.contains).getD false
      if isGap c then some []
      else if flow && c == ':' && nextIn [',', '?', '[', ']', '\x7b', '\x7d'] then none
      else if c == ':' && endsPlain next then some []
      else if flow && [',', '[', ']', '\x7b', '\x7d'].contains c then some []
      else (plainWord? flow rest).map (c :: ·)

/-- A scalar without quotes, on lines that begin right of the given indentation, and whether a
line break follows it.  At most `fuel` words are read. -/
def plainFrom? (flow : Bool) (indent : Nat) :
    Nat → Cursor → Option (List Char × Bool × Cursor)
  | 0, _ => none
  | fuel + 1, c => do
      let word ← plainWord? flow c.rest
      let c := c.skip word.length
      let (gap, after) := c.span isGap
      let broken := gap.any isBreak
      if gap.isEmpty then return (word, false, c)
      if tabBefore indent gap then none
      let outside := !flow && after.column < indent
      if outside || after.atDocumentMark || after.at? '#' then return (word, broken, after)
      let (more, broken', after) ← plainFrom? flow indent fuel after
      let text := if more.isEmpty then word else word ++ gapText false gap ++ more
      return (text, if more.isEmpty then broken else broken', after)

/-! ## In quotes -/

/-- The character a letter after a backslash stands for. -/
def namedEscape? (c : Char) : Option Char :=
  [('0', '\x00'), ('a', '\x07'), ('b', '\x08'), ('t', '\t'), ('\t', '\t'), ('n', '\n'),
   ('v', '\x0b'), ('f', '\x0c'), ('r', '\r'), ('e', '\x1b'), (' ', ' '), ('"', '"'),
   ('/', '/'), ('\\', '\\'), ('N', '\u0085'), ('_', '\u00a0'), ('L', '\u2028'),
   ('P', '\u2029')].lookup c

/-- The number of hexadecimal digits a letter after a backslash asks for. -/
def escapeWidth? (c : Char) : Option Nat := [('x', 2), ('u', 4), ('U', 8)].lookup c

/-- The character with a number, if there is one. -/
def charOf? (n : Nat) : Option Char := if n.isValidChar then some (Char.ofNat n) else none

/-- An escape after its backslash: the character and the number of characters read. -/
def escape? : List Char → Option (Char × Nat)
  | [] => none
  | c :: rest =>
      match namedEscape? c, escapeWidth? c with
      | some ch, _ => some (ch, 1)
      | none, some width => do
          let digits := rest.take width
          if digits.length ≠ width then none
          let ch ← charOf? (← hexNumber? digits)
          return (ch, width + 1)
      | none, none => none

/-- A text in quotes, from after its opening quote to after its closing one.  At most `fuel`
characters and gaps are read. -/
def quotedFrom? (single : Bool) : Nat → Cursor → Option (List Char × Cursor)
  | 0, _ => none
  | fuel + 1, c => do
      if c.atDocumentMark then none
      match c.rest with
      | [] => none
      | ch :: rest =>
          if single && ch == '\'' && rest.head? == some '\'' then
            let (more, c) ← quotedFrom? single fuel (c.skip 2)
            return ('\'' :: more, c)
          else if ch == (if single then '\'' else '"') then return ([], c.next)
          else if !single && ch == '\\' then
            if (rest.head?.map isBreak).getD false then
              let (gap, c) := (c.skip 2).span isGap
              let (more, c) ← quotedFrom? single fuel c
              return (gapText true gap ++ more, c)
            else
              let (ch, width) ← escape? rest
              let (more, c) ← quotedFrom? single fuel (c.skip (width + 1))
              return (ch :: more, c)
          else if isGap ch then
            let (gap, c) := c.span isGap
            let (more, c) ← quotedFrom? single fuel c
            return (gapText false gap ++ more, c)
          else
            let (more, c) ← quotedFrom? single fuel c.next
            return (ch :: more, c)

/-! ## Blocks -/

/-- What becomes of the line breaks at the end of a block. -/
inductive Chomping where
  | clip
  | strip
  | keep
deriving Repr, DecidableEq

/-- What the header of a block says of the line breaks at its end. -/
def chomping? (c : Cursor) : Option Chomping :=
  if c.at? '+' then some .keep else if c.at? '-' then some .strip else none

/-- The header of a block: its chomping, its indentation if it is given, and the cursor on its
first line. -/
def blockHeader? (c : Cursor) : Option (Chomping × Option Nat × Cursor) := do
  let digit (c : Cursor) : Option Nat := do
    let ch ← c.peek
    if ch.isDigit then some (ch.toNat - 48) else none
  let (chomp, c) := match chomping? c with
    | some chomp => (some chomp, c.next)
    | none => (none, c)
  let (width, c) := match digit c with
    | some n => (some n, c.next)
    | none => (none, c)
  if width == some 0 then none
  let (chomp, c) := match chomp, chomping? c with
    | none, some chomp => if width.isSome then (some chomp, c.next) else (none, c)
    | chomp, _ => (chomp, c)
  return (chomp.getD .clip, width, ← c.endLine?)

/-- The empty lines from here on: their breaks, and the largest column reached.  Without an
indentation all spaces before a line are skipped. -/
def emptyLines? (indent : Option Nat) : Nat → Nat → Cursor → Option (List Char × Nat × Cursor)
  | 0, _, _ => none
  | fuel + 1, widest, c => do
      let most := match indent with
        | some n => n - c.column
        | none => c.rest.length
      let spaces := (c.rest.take most).takeWhile (· == ' ')
      let c := c.skip spaces.length
      let widest := max widest c.column
      let within := (indent.map fun n => decide (c.column < n)).getD true
      if within && c.at? '\t' then none
      match c.peek with
      | none => return ([], widest, c)
      | some ch =>
          if isBreak ch then
            let (breaks, widest, c) ← emptyLines? indent fuel widest c.next
            return (ch :: breaks, widest, c)
          else return ([], widest, c)

/-- The lines of a block from its first line on: the text, the break after its last line, and
the breaks after that. -/
def blockLines? (folded : Bool) (indent : Nat) :
    Nat → Bool → List Char → List Char → Cursor → Option (List Char × List Char × List Char × Cursor)
  | 0, _, _, _, _ => none
  | fuel + 1, blankBefore, lead, trail, c => do
      if c.column ≠ indent ∨ c.rest.isEmpty then return ([], lead, trail, c)
      let blank := (c.peek.map isSpaceOrTab).getD false
      let joined :=
        if folded && lead == ['\n'] && !blankBefore && !blank then
          if trail.isEmpty then [' '] else trail
        else lead ++ trail
      let (line, c) := c.span (!isBreak ·)
      let lead := c.rest.take 1
      let (trail, _, c) ← emptyLines? (some indent) (c.rest.length + 1) 0 (c.skip 1)
      let (more, lead, trail, c) ← blockLines? folded indent fuel blank lead trail c
      return (joined ++ line ++ more, lead, trail, c)

/-- A block from after its mark on, in a collection of the given indentation. -/
def blockScalar? (folded : Bool) (parent : Option Nat) (c : Cursor) :
    Option (List Char × Cursor) := do
  let (chomp, width, c) ← blockHeader? c
  let given := width.map (· + parent.getD 0)
  let (trail, widest, c) ← emptyLines? given (c.rest.length + 1) 0 c
  let least := (parent.map (· + 1)).getD 0
  let indent := given.getD (max (max widest least) 1)
  let (text, lead, trail, c) ←
    blockLines? folded indent (c.rest.length + 1) false [] trail c
  let text := if chomp = .strip then text else text ++ lead
  return (if chomp = .keep then text ++ trail else text, c)

end Scaffold.Yaml
