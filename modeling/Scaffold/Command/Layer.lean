import Scaffold.Format.Toml.Basic
import Scaffold.Text.Digits

/-!
# Layers of settings

Settings come in layers, and a layer put over a table replaces the keys it has and leaves the
others alone.  A key of a layer is a path: `build.skip_build` is the key `skip_build` in the table
`build`, and `zone[1]` the second place of the list `zone`.  What is missing on the way is made,
what is of another kind is replaced, and a list grows as far as a place in it asks for.  A key that
is not a path is the key it is.
-/

namespace Scaffold.Layer

open Scaffold.Text

/-- A table of settings. -/
abbrev Table := List (String × Toml)

/-! ## Paths -/

/-- One step of a path. -/
inductive Step where
  /-- Into a table. -/
  | key (name : String)
  /-- Into a list; a negative place counts from its end. -/
  | place (n : Int)
deriving Repr, DecidableEq

/-- Decide whether characters are the name of a step. -/
def isName (cs : List Char) : Bool :=
  !cs.isEmpty && cs.all fun c => c.isAlphanum || c == '_' || c == '-'

/-- Drop the blanks before and after some characters. -/
def unpadded (cs : List Char) : List Char :=
  let isPad (c : Char) : Bool := c == ' ' || c == '\t'
  ((cs.dropWhile isPad).reverse.dropWhile isPad).reverse

/-- A place in a list, from after its opening bracket to its closing one.  It is a whole number of
64 bits. -/
def place? (cs : List Char) : Option Step := do
  if cs.getLast? ≠ some ']' then none
  let (negative, digits) := match unpadded cs.dropLast with
    | '-' :: r => (true, r)
    | r => (false, r)
  if digits.isEmpty || !digits.all Char.isDigit then none
  let n := if negative then -Int.ofNat (numberOf digits) else Int.ofNat (numberOf digits)
  if -9223372036854775808 ≤ n ∧ n ≤ 9223372036854775807 then some (.place n) else none

/-- A key with the places behind it. -/
def part? (cs : List Char) : Option (List Step) :=
  match piecesBy (· == '[') cs with
  | name :: places =>
      if isName name then (places.mapM place?).map (.key (String.ofList name) :: ·) else none
  | [] => none

/-- The steps of a key. -/
def steps (key : String) : List Step :=
  (((piecesBy (· == '.') key.toList).mapM part?).map List.flatten).getD [.key key]

example : steps "build.x[ -1 ]" = [.key "build", .key "x", .place (-1)]
    ∧ steps "zone[0][1]" = [.key "zone", .place 0, .place 1]
    ∧ steps "zone[" = [.key "zone["] ∧ steps "[0]" = [.key "[0]"] := by decide +kernel

/-! ## Putting values -/

/-- The entries of a value, of which only a table has any. -/
def entriesOf : Option Toml → Table
  | some (.table entries) => entries
  | _ => []

/-- The items of a value, of which only a list has any. -/
def itemsOf : Option Toml → List Toml
  | some (.list items) => items
  | _ => []

mutual

/-- A value put over an old one.  A table keeps the entries of the old one that it does not have
itself. -/
def merged (old : Option Toml) : Toml → Toml
  | .table entries => .table (mergedEntries (entriesOf old) entries)
  | v => v

/-- Entries put over a table. -/
def mergedEntries (t : Table) : List (String × Toml) → Table
  | [] => t
  | (key, v) :: rest => mergedEntries (Toml.put key (merged (t.lookup key) v) t) rest

end

/-- A list that has a place, and where that is from its beginning.  A place after the end makes it
grow there, one before the beginning makes it grow at the beginning. -/
def reaching (n : Int) (items : List Toml) : List Toml × Nat :=
  let gaps (k : Nat) : List Toml := List.replicate k .gap
  if 0 ≤ n then (items ++ gaps (n.toNat + 1 - items.length), n.toNat)
  else (gaps ((-n).toNat - items.length) ++ items, items.length - (-n).toNat)

/-- A value put over an old one at the end of a path. -/
def mergedAt : List Step → Toml → Option Toml → Toml
  | [], v, old => merged old v
  | .key name :: path, v, old =>
      let t := entriesOf old
      .table (Toml.put name (mergedAt path v (t.lookup name)) t)
  | .place n :: path, v, old =>
      let (items, k) := reaching n (itemsOf old)
      .list (items.set k (mergedAt path v items[k]?))

/-- Put a layer over a table. -/
def overlay (t layer : Table) : Table :=
  layer.foldl (fun t (key, v) => entriesOf (some (mergedAt (steps key) v (some (.table t))))) t

end Scaffold.Layer
