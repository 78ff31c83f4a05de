import Scaffold.LineEdit
import Scaffold.Text.WordTable

/-!
# Manifests

A manifest is a project file whose package and project references are merged line by line.
An entry is found by its identity.  With no entry of that identity one is put in, one entry
is left where it is, and of several the first stays and the others go.  A version that is
given is set on the entry that stays.

`Manifest.merge?` answers with the line edits to make, so it can be carried out on plain
lines and on an artifact alike; there is nothing to change exactly when there are no edits.
It answers nothing if an edit would fall outside the lines.
-/

namespace Scaffold.Manifest

open Scaffold.Text

/-! ## Finding tags and attributes -/

/-- Decide whether a character belongs to a word. -/
def isWordChar (c : Char) : Bool :=
  if c.toNat < 128 then c.isAlphanum || c == '_' else inSpans wordSpans c.toNat

/-- A piece of text cut around a value: what comes before it, the value, what comes after. -/
structure Cut where
  /-- The text before the value. -/
  before : List Char
  /-- The value. -/
  value : List Char
  /-- The text after the value. -/
  after : List Char

/-- Put text in front of a cut. -/
def Cut.prepend (front : List Char) (cut : Cut) : Cut := { cut with before := front ++ cut.before }

/-- Cut at the value of `name="value"` at the beginning of a text. -/
def valueOf? (name cs : List Char) : Option Cut :=
  match dropStart? (name ++ ['=', '"']) cs with
  | none => none
  | some rest =>
      match rest.dropWhile (· != '"') with
      | [] => none
      | after => some ⟨name ++ ['=', '"'], rest.takeWhile (· != '"'), after⟩

/-- Cut at the value of the first attribute `name` that starts a word and whose value is
accepted.  `previous` is the character before the text; with `inTag` the search ends at the
end of the tag. -/
def attributeFrom? (name : List Char) (accept : List Char → Bool) (inTag : Bool)
    (previous : Option Char) : List Char → Option Cut
  | [] => none
  | c :: cs =>
      let here :=
        if previous.any isWordChar then none
        else (valueOf? name (c :: cs)).filter fun cut => accept cut.value
      match here with
      | some cut => some cut
      | none =>
          if inTag && c == '>' then none
          else (attributeFrom? name accept inTag (some c) cs).map (Cut.prepend [c])

/-- Cut at the identity of a tag that starts a text: its `Include` attribute, not empty. -/
def includeOf? (tag cs : List Char) : Option Cut :=
  match dropStart? tag cs with
  | none => none
  | some rest =>
      if rest.head?.any isWordChar then none
      else (attributeFrom? "Include".toList (!·.isEmpty) true tag.getLast? rest).map (Cut.prepend tag)

/-- Cut at the identity of the first tag of a text that has one. -/
def findInclude? (tag : List Char) : List Char → Option Cut
  | [] => none
  | c :: cs =>
      match includeOf? tag (c :: cs) with
      | some cut => some cut
      | none => (findInclude? tag cs).map (Cut.prepend [c])

/-! ## Kinds of entry -/

/-- What an entry refers to. -/
inductive EntryKind where
  /-- A package, by name and version. -/
  | package
  /-- Another project, by the path of its manifest. -/
  | reference
deriving Repr, DecidableEq

namespace EntryKind

/-- The name of the element. -/
def element : EntryKind → String
  | .package => "PackageReference"
  | .reference => "ProjectReference"

/-- The start of an entry. -/
def openTag (k : EntryKind) : String := "<" ++ k.element

/-- The end of an entry that is not closed on its first line. -/
def closeTag (k : EntryKind) : String := "</" ++ k.element ++ ">"

/-- The cut at the identity of the first entry on a line. -/
def cut? (k : EntryKind) (line : String) : Option Cut :=
  findInclude? k.openTag.toList line.toList

/-- The identity of the first entry on a line. -/
def identity? (k : EntryKind) (line : String) : Option String :=
  (k.cut? line).map fun cut => String.ofList cut.value

/-- Package names are compared without ASCII case, paths without the kind of slash. -/
def sameIdentity (k : EntryKind) (a b : String) : Bool :=
  let key (s : String) : List Char := match k with
    | .package => s.toList.map Char.toLower
    | .reference => s.toList.map fun c => if c == '\\' then '/' else c
  key a == key b

end EntryKind

/-- The last line of the entry that starts at `start`: that line itself when the entry is
closed on it or nowhere, else the line with the closing tag. -/
def entryEnd (k : EntryKind) (lines : List String) (start : Nat) : Nat :=
  let opening := lines[start]?.getD ""
  if contains opening "/>" || contains opening k.closeTag then start
  else match (lines.drop (start + 1)).findIdx? (contains · k.closeTag) with
    | some offset => start + 1 + offset
    | none => start

/-- The first and last lines of the entries with an identity. -/
def entries (k : EntryKind) (identity : String) (lines : List String) : List (Nat × Nat) :=
  (List.range lines.length).filterMap fun i =>
    if ((lines[i]?).bind k.identity?).any (k.sameIdentity · identity) then
      some (i, entryEnd k lines i)
    else none

/-! ## Replacement texts

A version is put into an existing attribute or element as a replacement text, in which `$$`
stands for a dollar, `$0` for what is replaced and `$name` for nothing. -/

/-- The characters a reference is named with when it stands without braces. -/
def isReferenceChar (c : Char) : Bool := c.isAlphanum || c == '_'

/-- Decide whether a name is the number zero. -/
def isZero (name : List Char) : Bool :=
  let digits := match name with
    | '+' :: rest => rest
    | all => all
  !digits.isEmpty && digits.all (· == '0')

/-- Read the reference after a dollar: whether it means what is replaced, and its length. -/
def reference? (cs : List Char) : Option (Bool × Nat) :=
  match cs with
  | [] => none
  | '\x7b' :: rest =>
      let name := rest.takeWhile (· != '\x7d')
      if name.length < rest.length then some (isZero name, name.length + 2) else none
  | _ =>
      let name := cs.takeWhile isReferenceChar
      if name.isEmpty then none else some (isZero name, name.length)

/-- Expand a replacement text for what is replaced.  `skip` counts the characters of a
reference that is already expanded. -/
def expandFrom (matched : List Char) (skip : Nat) : List Char → List Char
  | [] => []
  | c :: cs =>
      match skip with
      | k + 1 => expandFrom matched k cs
      | 0 =>
          if c != '$' then c :: expandFrom matched 0 cs
          else if cs.head? == some '$' then '$' :: expandFrom matched 1 cs
          else match reference? cs with
            | some (isMatched, length) =>
                (if isMatched then matched else []) ++ expandFrom matched length cs
            | none => '$' :: expandFrom matched 0 cs

/-- Expand a replacement text for what is replaced. -/
def expand (matched replacement : List Char) : List Char := expandFrom matched 0 replacement

/-! ## Versions -/

/-- The attribute that holds a version. -/
def versionAttribute (version : String) : String := "Version=\"" ++ version ++ "\""

/-- The element that holds a version. -/
def versionElement (version : String) : String := "<Version>" ++ version ++ "</Version>"

/-- A line with a new value in its version attribute, if it has one. -/
def setAttribute? (version line : String) : Option String :=
  (attributeFrom? "Version".toList (fun _ => true) false none line.toList).map fun cut =>
    let name := "Version=\"".toList
    let front := cut.before.take (cut.before.length - name.length)
    let matched := name ++ cut.value ++ ['"']
    String.ofList (front ++ expand matched (versionAttribute version).toList ++ cut.after.drop 1)

/-- The text before, in and after the first version element of a text. -/
def findElement? : List Char → Option (List Char × List Char × List Char)
  | [] => none
  | c :: cs =>
      let here := (dropStart? "<Version>".toList (c :: cs)).bind fun rest =>
        let value := rest.takeWhile (· != '<')
        (dropStart? "</Version>".toList (rest.drop value.length)).map fun after => (value, after)
      match here with
      | some (value, after) => some ([], value, after)
      | none => (findElement? cs).map fun (before, value, after) => (c :: before, value, after)

/-- A line with a new value in its version element, if it has one. -/
def setElement? (version line : String) : Option String :=
  (findElement? line.toList).map fun (before, value, after) =>
    let matched := (versionElement (String.ofList value)).toList
    String.ofList (before ++ expand matched (versionElement version).toList ++ after)

/-- A line with a version attribute added after the identity of its package, if it has one. -/
def addAttribute? (version line : String) : Option String :=
  (EntryKind.package.cut? line).map fun cut =>
    String.ofList (cut.before ++ cut.value ++ ['"', ' '] ++ (versionAttribute version).toList
      ++ cut.after.drop 1)

/-- Change a line, unless it stays the same. -/
def replaceEdit (index : Nat) (line updated : String) : List LineEdit :=
  if line == updated then [] else [.replace index updated]

/-- Set the version in the first of `count` lines from `index` on that has a version element.
Answers nothing when a line to look at is out of range, and `some none` when none has one. -/
def setChild? (version : String) (lines : List String) (index : Nat) :
    (count : Nat) → Option (Option (List LineEdit))
  | 0 => some none
  | count + 1 =>
      match lines[index]? with
      | none => none
      | some line =>
          match setElement? version line with
          | some updated => some (some (replaceEdit index line updated))
          | none => setChild? version lines (index + 1) count

/-- Set the version of the entry from line `first` to line `last`: its attribute, else its
element, else a new attribute. -/
def setVersion? (version : String) (lines : List String) (first last : Nat) :
    Option (List LineEdit) :=
  match lines[first]? with
  | none => none
  | some line =>
      match setAttribute? version line with
      | some updated => some (replaceEdit first line updated)
      | none =>
          match setChild? version lines (first + 1) (last - first) with
          | none => none
          | some (some edits) => some edits
          | some none =>
              match addAttribute? version line with
              | some updated => some (replaceEdit first line updated)
              | none => some []

/-! ## New entries -/

/-- Put an entry in: at the end of the group that holds the first entry of its kind, else in
a group of its own before the end of the project. -/
def insertEntry (k : EntryKind) (entry : String) (lines : List String) : List LineEdit :=
  match lines.findIdx? (fun l => (k.cut? l).isSome) with
  | some first =>
      let indent := leadingBlanks (lines[first]?.getD "")
      let index := match (lines.drop first).findIdx? (fun l => trim l == "</ItemGroup>") with
        | some offset => first + offset
        | none => first + 1
      [.insert index (indent ++ entry)]
  | none =>
      let close := lastIndex? (fun l => trim l == "</Project>") lines
      let outer := (close.map fun i => leadingBlanks (lines[i]?.getD "")).getD ""
      let index := close.getD lines.length
      let gap := match index with
        | 0 => []
        | i + 1 => if isBlankText (lines[i]?.getD "") then [] else [""]
      let block := gap ++ [outer ++ "  <ItemGroup>", outer ++ "    " ++ entry, outer ++ "  </ItemGroup>"]
      block.zipIdx.map fun (text, offset) => .insert (index + offset) text

/-! ## Merging -/

/-- Take out the lines from `first` to `last`, the last one first. -/
def removeSpan (first last : Nat) : List LineEdit :=
  ((List.range' first (last + 1 - first)).reverse).map .remove

/-- The edits that merge an entry, or nothing when one of them would be out of range. -/
def merge? (k : EntryKind) (identity entry : String) (version : Option String)
    (lines : List String) : Option (List LineEdit) :=
  match entries k identity lines with
  | [] => some (insertEntry k entry lines)
  | (first, last) :: others =>
      let removals := others.reverse.flatMap fun (start, stop) => removeSpan start stop
      match LineEdit.carryOut? lines removals with
      | none => none
      | some rest =>
          match version with
          | none => some removals
          | some v => (setVersion? v rest first last).map (removals ++ ·)

/-- The edits that make a manifest depend on a package. -/
def mergeDependency? (identity : String) (version : Option String) (lines : List String) :
    Option (List LineEdit) :=
  let setting := match version with
    | some v => " " ++ versionAttribute v
    | none => ""
  merge? .package identity ("<PackageReference Include=\"" ++ identity ++ "\"" ++ setting ++ " />")
    version lines

/-- The edits that make a manifest refer to another. -/
def mergeReference? (identity : String) (lines : List String) : Option (List LineEdit) :=
  merge? .reference identity ("<ProjectReference Include=\"" ++ identity ++ "\" />") none lines

example : mergeDependency? "A" (some "2") ["<PackageReference Include=\"a\" Version=\"1\" />"]
    = some [.replace 0 "<PackageReference Include=\"a\" Version=\"2\" />"] := by decide

end Scaffold.Manifest
