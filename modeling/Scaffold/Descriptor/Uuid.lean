import Scaffold.Descriptor
import Scaffold.Text.Digits
import Scaffold.Text.Search

/-!
# Spellings of identifiers

An identifier is written as 32 hexadecimal digits in five groups.  It is read in that
spelling, without the hyphens, in braces, or as a name of the `urn:uuid` space, in either
case of letters.
-/

namespace Scaffold.Uuid

open Scaffold.Text

/-- The lengths of the groups of digits. -/
def groups : List Nat := [8, 4, 4, 4, 12]

/-- Cut a list into pieces of the given lengths. -/
def cut : List Nat → List Char → List (List Char)
  | [], _ => []
  | n :: rest, cs => cs.take n :: cut rest (cs.drop n)

/-- The canonical spelling. -/
def text (u : Uuid) : String :=
  joinWith "-" ((cut groups (hexText 32 u.value)).map String.ofList)

/-- Read 32 digits without hyphens. -/
def simple? (cs : List Char) : Option Uuid :=
  if cs.length = 32 then (hexNumber? cs).map Uuid.mk else none

/-- Read 32 digits in groups with hyphens between them. -/
def hyphenated? (cs : List Char) : Option Uuid :=
  let pieces := piecesBy (· == '-') cs
  if pieces.map List.length = groups then simple? pieces.flatten else none

/-- Read an identifier in any of its spellings. -/
def parse? (s : String) : Option Uuid :=
  let cs := s.toList
  let inner := match cs with
    | '\x7b' :: rest => if rest.getLast? = some '\x7d' then some rest.dropLast else none
    | _ => dropStart? "urn:uuid:".toList cs
  match inner with
  | some cs => hyphenated? cs
  | none => (simple? cs).or (hyphenated? cs)

example : (parse? "6F1C0000-0000-4000-8000-00000000ABCD").map text
    = some "6f1c0000-0000-4000-8000-00000000abcd" := by decide +kernel
example : parse? "urn:uuid:6f1c0000-0000-4000-8000-00000000abcd"
    = parse? "6f1c000000004000800000000000abcd" := by decide +kernel

end Scaffold.Uuid
