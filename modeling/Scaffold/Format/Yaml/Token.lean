import Scaffold.Format.Yaml.ScalarText

/-!
# Tokens of a document

A document as a list of tokens.  Indentation becomes tokens as well: the beginning of a block
collection at the column that opens it, and its end before the first token left of that column.

A key before a colon is known as one only when the colon is reached.  Until then its place among
the tokens is kept, one for each flow collection that is open, and the tokens that announce the
key are put in there.
-/

namespace Scaffold.Yaml

open Scaffold.Text

/-- A token of a document. -/
inductive Token where
  /-- A line that says which version the document has. -/
  | version (major minor : Nat)
  /-- A line that gives tags a shorthand. -/
  | shorthand (handle : String) (meaning : Tag)
  | documentStart
  | documentEnd
  | blockSequence
  | blockMapping
  | blockEnd
  | flowSequence
  | flowSequenceEnd
  | flowMapping
  | flowMappingEnd
  /-- The dash before an item. -/
  | item
  /-- The comma between items. -/
  | comma
  | key
  | value
  | alias (name : String)
  | anchor (name : String)
  | tag (handle : String) (suffix : Tag)
  | scalar (text : String) (form : Form)
deriving Repr, DecidableEq

/-- A place where a key may have begun. -/
structure KeyPlace where
  /-- Whether nothing else can stand there. -/
  required : Bool
  /-- The number of tokens before it. -/
  count : Nat
  /-- Where it is. -/
  start : Cursor

/-- How far a document has been read. -/
structure Scan where
  /-- What is left. -/
  cursor : Cursor
  /-- The tokens so far. -/
  tokens : Array Token := #[]
  /-- The columns of the open block collections, the innermost first. -/
  columns : List Nat := []
  /-- Where a key may have begun in each open flow collection, the innermost first, and in the
  block around them. -/
  keys : List (Option KeyPlace) := [none]
  /-- Whether a key can begin here. -/
  keyAllowed : Bool := true

namespace Scan

/-! ## Steps -/

/-- Decide whether a flow collection is open. -/
def inFlow (s : Scan) : Bool := 1 < s.keys.length

/-- Add a token. -/
def push (t : Token) (s : Scan) : Scan := { s with tokens := s.tokens.push t }

/-- Go on after so many characters. -/
def advance (n : Nat) (s : Scan) : Scan := { s with cursor := s.cursor.skip n }

/-- Say whether a key can begin here. -/
def allowKey (allowed : Bool) (s : Scan) : Scan := { s with keyAllowed := allowed }

/-- The place of the key that may have begun last. -/
def keyPlace (s : Scan) : Option KeyPlace := s.keys.head?.join

/-- Set the place of the key that may have begun last. -/
def setKeyPlace (k : Option KeyPlace) (s : Scan) : Scan := { s with keys := k :: s.keys.drop 1 }

/-- Give up the key that may have begun last. -/
def dropKey? (s : Scan) : Option Scan :=
  match s.keyPlace with
  | some k => if k.required then none else some (s.setKeyPlace none)
  | none => some s

/-- Keep the place of what may be a key. -/
def saveKey? (s : Scan) : Option Scan := do
  if !s.keyAllowed then return s
  let required := !s.inFlow && s.columns.head? == some s.cursor.column
  return (← s.dropKey?).setKeyPlace (some ⟨required, s.tokens.size, s.cursor⟩)

/-- Decide whether a key that began at a place would have its colon too late here. -/
def isStale (here : Cursor) (k : KeyPlace) : Bool :=
  k.start.line < here.line || k.start.octets + 1024 < here.octets

/-- Give up all keys that cannot have their colon any more. -/
def dropStale? (s : Scan) : Option Scan := do
  let keys ← s.keys.mapM fun k =>
    match k with
    | none => some none
    | some k =>
        if isStale s.cursor k then (if k.required then none else some none) else some (some k)
  return { s with keys }

/-- Open a block collection at a column, before the token of the given number. -/
def openBlock (column count : Nat) (t : Token) (s : Scan) : Scan :=
  if s.inFlow then s
  else if (s.columns.head?.map fun c => decide (c < column)).getD true then
    { s with columns := column :: s.columns, tokens := s.tokens.insertIdxIfInBounds count t }
  else s

/-- Close the block collections that lie right of a column; all of them if there is none. -/
def closeBlocks (column : Option Nat) (s : Scan) : Scan :=
  if s.inFlow then s
  else
    let closed := s.columns.takeWhile fun c => (column.map fun n => decide (n < c)).getD true
    { s with
      columns := s.columns.drop closed.length
      tokens := s.tokens ++ (closed.map fun _ => Token.blockEnd).toArray }

/-! ## Between tokens -/

/-- Skip blanks, comments and line breaks.  A tab can stand where no key can begin, and a byte
order mark at the beginning of a line. -/
def toNextToken : Nat → Scan → Scan
  | 0, s => s
  | fuel + 1, s =>
      let blank (c : Char) := c == ' ' || (c == '\t' && (s.inFlow || !s.keyAllowed))
      let cursor := s.cursor
      let cursor := if cursor.column == 0 && cursor.at? '\ufeff' then cursor.next else cursor
      let cursor := cursor.skipWhile blank
      let cursor := if cursor.at? '#' then cursor.toLineEnd else cursor
      if (cursor.peek.map isBreak).getD false then
        toNextToken fuel { s with cursor := cursor.next, keyAllowed := s.keyAllowed || !s.inFlow }
      else { s with cursor }

/-! ## Names and tags -/

/-- The characters of names. -/
def isNameChar (c : Char) : Bool := c.isAlphanum || c == '_' || c == '-'

/-- The characters of tags; those of the second kind only between angle brackets. -/
def isTagChar (verbatim : Bool) (c : Char) : Bool :=
  isNameChar c || ";/?:@&=+$.%!~*'()".toList.contains c || (verbatim && ",[]".toList.contains c)

/-- The number of octets that follow the first one of a character. -/
def trailing? (first : Nat) : Option Nat :=
  if first < 0x80 then some 0
  else if first / 0x20 == 0x6 then some 1
  else if first / 0x10 == 0xE then some 2
  else if first / 0x8 == 0x1E then some 3
  else none

/-- The octets of a tag with its escapes decoded.  The escapes of one character follow each other,
and the octet zero ends the tag. -/
def tagOctets? (cs : List Char) : Option Tag := do return (← go 0 cs).takeWhile (· != 0)
where
  /-- All the octets, after a character of which so many are still to come. -/
  go (owed : Nat) : List Char → Option (List UInt8)
    | [] => if owed == 0 then some [] else none
    | '%' :: a :: b :: rest => do
        let n ← hexNumber? [a, b]
        let owed ← if owed == 0 then trailing? n else if n / 0x40 == 2 then some (owed - 1) else none
        return UInt8.ofNat n :: (← go owed rest)
    | c :: rest =>
        if c == '%' || owed != 0 then none else (go 0 rest).map (c.toString.toUTF8.toList ++ ·)

example : tagOctets? "a%C3%A9%00b".toList = some [0x61, 0xC3, 0xA9] ∧ tagOctets? "%A9".toList = none
    ∧ tagOctets? "%C3a".toList = none := by decide +kernel

/-- A name after its mark: it is not empty, and a blank or a mark follows it. -/
def name? (s : Scan) : Option (String × Scan) :=
  let (name, cursor) := s.cursor.next.span isNameChar
  let ended := match cursor.peek with
    | none => true
    | some c => isGap c || "?:,]\x7d%@".toList.contains c || c == '\x60'
  if name.isEmpty || !ended then none else some (String.ofList name, { s with cursor })

/-- The handle of a tag: an exclamation mark, and a name between two of them. -/
def handle (c : Cursor) : List Char × Cursor :=
  let (name, after) := c.next.span isNameChar
  if after.at? '!' then ('!' :: name ++ ['!'], after.next) else ('!' :: name, after)

/-- A tag between angle brackets. -/
def verbatimTag? (c : Cursor) : Option (Token × Cursor) := do
  let (uri, c) := (c.skip 2).span (isTagChar true)
  if uri.isEmpty || !c.at? '>' then none
  return (.tag "" (← tagOctets? uri), c.next)

/-- A tag after a handle, or one that begins with a single exclamation mark. -/
def shortTag? (c : Cursor) : Option (Token × Cursor) := do
  let (head, c) := handle c
  let (uri, c) := c.span (isTagChar false)
  if 1 < head.length && head.getLast? == some '!' then
    if uri.isEmpty then none
    return (.tag (String.ofList head) (← tagOctets? uri), c)
  else
    let suffix ← tagOctets? (head.drop 1 ++ uri)
    return (if suffix.isEmpty then .tag "" "!".toUTF8.toList else .tag "!" suffix, c)

/-- A tag from its exclamation mark on. -/
def tag? (s : Scan) : Option Scan := do
  let (t, c) ←
    if s.cursor.peekSecond == some '<' then verbatimTag? s.cursor else shortTag? s.cursor
  let ended := match c.peek with
    | none => true
    | some ch => isGap ch || (s.inFlow && ch == ',')
  if ended then some { s.push t with cursor := c } else none

/-! ## Directives -/

/-- A number of a version. -/
def versionNumber? (c : Cursor) : Option (Nat × Cursor) :=
  let (digits, c) := c.span Char.isDigit
  if digits.isEmpty || 9 < digits.length then none else some (numberOf digits, c)

/-- The version after the name of its directive. -/
def version? (c : Cursor) : Option (Token × Cursor) := do
  let (major, c) ← versionNumber? (c.skipWhile isSpaceOrTab)
  if !c.at? '.' then none
  let (minor, c) ← versionNumber? c.next
  return (.version major minor, c)

/-- The shorthand after the name of its directive. -/
def shorthand? (c : Cursor) : Option (Token × Cursor) := do
  let c := c.skipWhile isSpaceOrTab
  if !c.at? '!' then none
  let (head, c) := handle c
  if head.getLast? ≠ some '!' then none
  if !(c.peek.map isSpaceOrTab).getD false then none
  let (uri, c) := (c.skipWhile isSpaceOrTab).span (isTagChar true)
  if uri.isEmpty || !endsPlain c.peek then none
  return (.shorthand (String.ofList head) (← tagOctets? uri), c)

/-- A directive from its percent sign on. -/
def directive? (s : Scan) : Option Scan := do
  let s ← (s.closeBlocks none).dropKey?
  let (name, c) := s.cursor.next.span isNameChar
  if !endsPlain c.peek then none
  let (t, c) ← match String.ofList name with
    | "YAML" => version? c
    | "TAG" => shorthand? c
    | _ => none
  return { (s.push t).allowKey false with cursor := ← c.endLine? }

/-! ## Tokens -/

/-- The line that begins or ends a document. -/
def documentMark? (t : Token) (s : Scan) : Option Scan := do
  return ((← (s.closeBlocks none).dropKey?).allowKey false |>.push t).advance 3

/-- The bracket that opens a flow collection. -/
def openFlow? (t : Token) (s : Scan) : Option Scan := do
  let s := (← s.saveKey?).push t |>.advance 1 |>.allowKey true
  return { s with keys := none :: s.keys }

/-- The bracket that closes a flow collection. -/
def closeFlow? (t : Token) (s : Scan) : Option Scan := do
  let s := (← s.dropKey?).push t |>.advance 1 |>.allowKey false
  return if s.inFlow then { s with keys := s.keys.drop 1 } else s

/-- The comma of a flow collection. -/
def comma? (s : Scan) : Option Scan := do
  return ((← s.dropKey?).allowKey true |>.push .comma).advance 1

/-- A mark that begins an item or a key, in a block where a key could begin. -/
def blockMark? (opened t : Token) (keyAfter : Bool) (s : Scan) : Option Scan := do
  if !s.inFlow && !s.keyAllowed then none
  let s ← (s.openBlock s.cursor.column s.tokens.size opened).dropKey?
  return (s.allowKey keyAfter |>.push t).advance 1

/-- The colon before a value. -/
def value? (s : Scan) : Option Scan := do
  match s.keyPlace with
  | some k =>
      let s := { s with tokens := s.tokens.insertIdxIfInBounds k.count .key }
      let s := (s.openBlock k.start.column k.count .blockMapping).setKeyPlace none
      return (s.allowKey false |>.push .value).advance 1
  | none =>
      if !s.inFlow && !s.keyAllowed then none
      let s := s.openBlock s.cursor.column s.tokens.size .blockMapping
      return (s.allowKey (!s.inFlow) |>.push .value).advance 1

/-- A token after which no key can begin, where it began itself. -/
def keyLike? (read : Scan → Option Scan) (s : Scan) : Option Scan := do
  read ((← s.saveKey?).allowKey false)

/-- An alias or an anchor. -/
def named? (t : String → Token) (s : Scan) : Option Scan := do
  let (name, s) ← s.name?
  return s.push (t name)

/-- A text as a block. -/
def block? (folded : Bool) (s : Scan) : Option Scan := do
  let s := (← s.dropKey?).allowKey true
  let (text, cursor) ← blockScalar? folded s.columns.head? s.cursor.next
  return { s.push (.scalar (String.ofList text) (if folded then .text else .literal)) with cursor }

/-- A text in quotes. -/
def quoted? (single : Bool) (s : Scan) : Option Scan := do
  let (text, cursor) ← quotedFrom? single (s.cursor.rest.length + 1) s.cursor.next
  return { s.push (.scalar (String.ofList text) .text) with cursor }

/-- A text without quotes. -/
def plain? (s : Scan) : Option Scan := do
  let indent := (s.columns.head?.map (· + 1)).getD 0
  let (text, broken, cursor) ← plainFrom? s.inFlow indent (s.cursor.rest.length + 1) s.cursor
  return { s.push (.scalar (String.ofList text) .plain) with
    cursor, keyAllowed := s.keyAllowed || broken }

/-- Decide whether a text without quotes begins here. -/
def beginsPlain (s : Scan) (c : Char) : Bool :=
  let second := s.cursor.peekSecond
  !(isGap c || "-?:,[]\x7b\x7d#&*!|>'\"%@".toList.contains c || c == '\x60')
    || (c == '-' && !(second.map isSpaceOrTab).getD false)
    || (!s.inFlow && (c == '?' || c == ':') && !endsPlain second)

/-- The token that begins with a character. -/
def token? (c : Char) (s : Scan) : Option Scan :=
  let isMark := endsPlain s.cursor.peekSecond
  if s.cursor.column == 0 && c == '%' then s.directive?
  else if s.cursor.atMark "---" then s.documentMark? .documentStart
  else if s.cursor.atMark "..." then s.documentMark? .documentEnd
  else if c == '[' then s.openFlow? .flowSequence
  else if c == '\x7b' then s.openFlow? .flowMapping
  else if c == ']' then s.closeFlow? .flowSequenceEnd
  else if c == '\x7d' then s.closeFlow? .flowMappingEnd
  else if c == ',' then s.comma?
  else if c == '-' && isMark then s.blockMark? .blockSequence .item true
  else if c == '?' && (s.inFlow || isMark) then s.blockMark? .blockMapping .key (!s.inFlow)
  else if c == ':' && (s.inFlow || isMark) then s.value?
  else if c == '*' then s.keyLike? (named? .alias)
  else if c == '&' then s.keyLike? (named? .anchor)
  else if c == '!' then s.keyLike? tag?
  else if c == '|' && !s.inFlow then s.block? false
  else if c == '>' && !s.inFlow then s.block? true
  else if c == '\'' then s.keyLike? (quoted? true)
  else if c == '"' then s.keyLike? (quoted? false)
  else if s.beginsPlain c then s.keyLike? plain?
  else none

/-- Read to the end of a document, at most `fuel` tokens. -/
def run? : Nat → Scan → Option Scan
  | 0, _ => none
  | fuel + 1, s => do
      let s ← (toNextToken (s.cursor.rest.length + 1) s).dropStale?
      let s := s.closeBlocks (some s.cursor.column)
      match s.cursor.peek with
      | none => (s.closeBlocks none).dropKey?
      | some c => run? fuel (← s.token? c)

end Scan

/-- The tokens of a document. -/
def tokens? (s : String) : Option (List Token) := do
  let cs ← normalized? s
  return (← Scan.run? (cs.length + 1) { cursor := { rest := cs } }).tokens.toList

example : tokens? "a: [b]" = some [.blockMapping, .key, .scalar "a" .plain, .value, .flowSequence,
    .scalar "b" .plain, .flowSequenceEnd, .blockEnd] := by decide +kernel
example : tokens? "a: b: c" = none := by decide +kernel

end Scaffold.Yaml
