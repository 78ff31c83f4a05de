import Scaffold.System.Shell.Pattern
import Scaffold.System.Machine
import Scaffold.Text.Octets

/-!
# Fields

What a word expands to is a row of cells, and the cells are cut into fields: at the separators
in what came from the value of a parameter or the output of a command, and between the
parameters that are given one by one.  A field that is a pattern stands for the files it matches.
-/

namespace Scaffold.Shell

open Scaffold.Text

/-- A piece of what a word expands to. -/
inductive Cell where
  /-- A character.  One that is split can separate fields. -/
  | char (c : Char) (quoted split : Bool)
  /-- A sign that there is a field, even an empty one. -/
  | mark
  /-- An end of a field. -/
  | cut
deriving Repr, DecidableEq

/-- The cells of a text. -/
def cellsOf (s : String) (quoted split : Bool) : List Cell :=
  s.toList.map fun c => .char c quoted split

/-- The characters of cells that make one field. -/
def plainOf (cells : List Cell) : List Marked :=
  cells.filterMap fun c => match c with
    | .char c quoted _ => some (c, quoted)
    | .mark => none
    | .cut => some (' ', true)

/-- The text of characters. -/
def textOf (cs : List Marked) : String := String.ofList (cs.map (·.1))

/-- How far cells are cut into fields. -/
structure Cutting where
  /-- The fields that are complete, the last first. -/
  fields : List (List Marked) := []
  /-- The characters of the field that is open, the last first. -/
  current : Option (List Marked) := none
  /-- Whether the last field ended at blanks, so that a separator can still belong to its end. -/
  ended : Bool := false

/-- End the field that is open. -/
def Cutting.close (k : Cutting) (ended : Bool) : Cutting :=
  match k.current with
  | some f => ⟨f.reverse :: k.fields, none, ended⟩
  | none => k

/-- Take one more cell. -/
def Cutting.add (separators : String) (k : Cutting) : Cell → Cutting
  | .mark => { k with current := some (k.current.getD []), ended := false }
  | .cut => { k.close false with ended := false }
  | .char c quoted split =>
      if split && separators.toList.contains c then
        if c == ' ' || c == '\t' || c == '\n' then k.close true
        else if k.current.isNone && !k.ended then { k with fields := [] :: k.fields }
        else { k.close false with ended := false }
      else { k with current := some ((c, quoted) :: k.current.getD []), ended := false }

/-- The fields of cells. -/
def fieldsOf (separators : String) (cells : List Cell) : List (List Marked) :=
  ((cells.foldl (Cutting.add separators) {}).close false).fields.reverse

/-! ## File names -/

/-- The names in a directory that a pattern matches.  A name that begins with a dot needs a
pattern that does. -/
def namesMatching (disk : Disk) (directory : Place) (path : String) (p : List Marked) :
    List String :=
  let dotted := p.head?.map (·.1) == some '.'
  match disk.list directory (ofOctets path) with
  | .error _ => []
  | .ok entries =>
      let names := entries.map fun (name, _) => octets name
      let names := if dotted then "." :: ".." :: names else names
      names.filter fun name =>
        (dotted || name.toList.head? != some '.') && matchesAll (Pattern.ofMarked p) name.toList

/-- The paths that begin with a path and go on with names that patterns match, one after
another. -/
def pathsMatching (disk : Disk) (directory : Place) (path : String) :
    List (List Marked) → List String
  | [] => []
  | [p] =>
      if isPattern p then
        (namesMatching disk directory (if path.isEmpty then "." else path) p).map (path ++ ·)
      else
        let whole := path ++ textOf p
        if (disk.find directory (ofOctets whole)).isOk then [whole] else []
  | p :: rest =>
      let deeper (name : String) : List String :=
        let whole := path ++ name ++ "/"
        if name.isEmpty || (disk.list directory (ofOctets whole)).isOk then
          pathsMatching disk directory whole rest
        else []
      if isPattern p then
        (namesMatching disk directory (if path.isEmpty then "." else path) p).flatMap deeper
      else deeper (textOf p)

/-- Characters between slashes. -/
def partsOf (cs : List Marked) : List (List Marked) :=
  cs.foldr (fun c parts => match c, parts with
    | ('/', _), parts => [] :: parts
    | c, part :: rest => (c :: part) :: rest
    | c, [] => [[c]]) [[]]

/-- The files that a field stands for, or else the field itself. -/
def filesOf (disk : Disk) (directory : Place) (f : List Marked) : List String :=
  if isPattern f then
    match pathsMatching disk directory "" (partsOf f) with
    | [] => [textOf f]
    | paths => paths.mergeSort fun a b => a ≤ b
  else [textOf f]

end Scaffold.Shell
