import Scaffold.Format.Toml.Scalar

/-!
# Reading TOML

A document is read in two steps: the characters become statements, and the statements fill a
table.  A table under construction remembers how it came about, because that decides who may
still add to it: a table of a header is defined once, a table of a dotted key only by more
dotted keys.

A key has at most 80 parts, and lists and tables in braces stand at most 80 deep in each other.
-/

namespace Scaffold.Toml

/-! ## Keys and values -/

/-- The most parts of a key, and the most lists and tables in braces around a value. -/
def deepest : Nat := 80

/-- Drop the blanks of a line. -/
def skipSpaces (cs : List Char) : List Char := cs.dropWhile isSpaceOrTab

/-- One part of a key, bare or in quotes. -/
def keyPart? (cs : List Char) : Option (String × List Char) :=
  match text?.oneLine cs with
  | some (s, r) => some (String.ofList s, r)
  | none =>
      let bare := cs.takeWhile isKeyChar
      if bare.isEmpty then none else some (String.ofList bare, cs.drop bare.length)

/-- A key of up to so many parts, with points between them. -/
def key? : Nat → List Char → Option (List String × List Char)
  | 0, _ => none
  | fuel + 1, cs => do
      let (part, r) ← keyPart? (skipSpaces cs)
      match skipSpaces r with
      | '.' :: r =>
          let (parts, r) ← key? fuel r
          return (part :: parts, r)
      | r => return ([part], r)

/-- Drop a comment, if one begins here. -/
def skipComment? : List Char → Option (List Char)
  | '#' :: r =>
      let r := r.dropWhile isInline
      if r.isEmpty || (lineBreak? r).isSome then some r else none
  | r => some r

/-- Drop blanks, line breaks and comments. -/
def skipLines? : Nat → List Char → Option (List Char)
  | 0, _ => none
  | fuel + 1, cs =>
      match skipBlank cs with
      | '#' :: r => (skipComment? ('#' :: r)).bind (skipLines? fuel)
      | r => some r

/-- What follows a line that says nothing more. -/
def lineEnd? (cs : List Char) : Option (List Char) := do
  let r ← skipComment? (skipSpaces cs)
  if r.isEmpty then some [] else lineBreak? r

/-! ## Tables under construction -/

/-- How a table came about. -/
inductive Origin where
  /-- As the parent of a header's table. -/
  | implied
  /-- By a header. -/
  | header
  /-- By a dotted key. -/
  | dotted
deriving Repr, DecidableEq

/-- A value that may still grow. -/
inductive Growing where
  | closed (v : Toml)
  | table (origin : Origin) (entries : List (String × Growing))
  /-- The tables of a repeated header, the last one first. -/
  | tables (items : List (List (String × Growing)))

namespace Growing

/-- The entries of a table under construction. -/
abbrev Entries := List (String × Growing)

/-- Put a value under a key, in place of the one that is there. -/
def put (key : String) (v : Growing) : Entries → Entries
  | [] => [(key, v)]
  | (k, old) :: rest => if k = key then (k, v) :: rest else (k, old) :: put key v rest

mutual

/-- The finished value. -/
def finished : Growing → Toml
  | closed v => v
  | table _ entries => .table (finishedEntries entries)
  | tables items => .list (finishedTables items).reverse

/-- The finished entries. -/
def finishedEntries : List (String × Growing) → List (String × Toml)
  | [] => []
  | (k, v) :: rest => (k, finished v) :: finishedEntries rest

/-- The finished tables of a repeated header. -/
def finishedTables : List (List (String × Growing)) → List Toml
  | [] => []
  | entries :: rest => .table (finishedEntries entries) :: finishedTables rest

end

/-- Change the table a path leads to.  Tables on the way that are missing are made, and a dotted
path does not enter the table of a header. -/
def within? (dotted : Bool) (change : Origin → Entries → Option Entries) :
    List String → Origin → Entries → Option Entries
  | [], origin, entries => change origin entries
  | key :: path, _, entries =>
      match entries.lookup key with
      | none => do
          let origin := if dotted then .dotted else .implied
          return put key (.table origin (← within? dotted change path origin [])) entries
      | some (.table origin inner) => do
          if dotted ∧ origin = .header then none
          return put key (.table origin (← within? dotted change path origin inner)) entries
      | some (.tables (last :: items)) => do
          return put key (.tables ((← within? dotted change path .header last) :: items)) entries
      | some _ => none

/-- Add a value under a key of a table. -/
def assign? (key : List String) (v : Toml) (entries : Entries) : Option Entries := do
  let last ← key.getLast?
  let path := key.dropLast
  let add (origin : Origin) (es : Entries) : Option Entries :=
    if (es.lookup last).isSome || (!path.isEmpty && origin == .header) then none
    else some (put last (.closed v) es)
  within? true add path .header entries

/-- Open the table of a header. -/
def open? (key : List String) (entries : Entries) : Option Entries := do
  let last ← key.getLast?
  let add (_ : Origin) (es : Entries) : Option Entries :=
    match es.lookup last with
    | none => some (put last (.table .header []) es)
    | some (.table .implied inner) => some (put last (.table .header inner) es)
    | some _ => none
  within? false add key.dropLast .header entries

/-- Open one more table of a repeated header. -/
def append? (key : List String) (entries : Entries) : Option Entries := do
  let last ← key.getLast?
  let add (_ : Origin) (es : Entries) : Option Entries :=
    match es.lookup last with
    | none => some (put last (.tables [[]]) es)
    | some (.tables items) => some (put last (.tables ([] :: items)) es)
    | some _ => none
  within? false add key.dropLast .header entries

end Growing

/-! ## Values -/

mutual

/-- A value with up to so many lists and tables in each other, and what follows. -/
def value? : Nat → Nat → List Char → Option (Toml × List Char)
  | 0, _, _ => none
  | fuel + 1, room, cs =>
      match cs, room with
      | '[' :: r, room + 1 => (items? fuel room r).map fun (vs, r) => (.list vs, r)
      | '\x7b' :: r, room + 1 =>
          (entries? fuel room [] r).map fun (es, r) => (.table (Growing.finishedEntries es), r)
      | c :: _, _ =>
          if c = '"' ∨ c = '\'' then (text? cs).map fun (s, r) => (.text (String.ofList s), r)
          else (ofWord? (word cs)).map fun v => (v, cs.drop (word cs).length)
      | [], _ => none

/-- The items of a list up to its closing bracket. -/
def items? : Nat → Nat → List Char → Option (List Toml × List Char)
  | 0, _, _ => none
  | fuel + 1, room, cs => do
      match ← skipLines? (cs.length + 1) cs with
      | ']' :: r => return ([], r)
      | r =>
          let (v, r) ← value? fuel room r
          match ← skipLines? (r.length + 1) r with
          | ',' :: r =>
              let (vs, r) ← items? fuel room r
              return (v :: vs, r)
          | ']' :: r => return ([v], r)
          | _ => none

/-- The entries of a table in braces, added to the ones before them, up to its closing brace. -/
def entries? : Nat → Nat → Growing.Entries → List Char → Option (Growing.Entries × List Char)
  | 0, _, _, _ => none
  | fuel + 1, room, es, cs => do
      match ← skipLines? (cs.length + 1) cs with
      | '\x7d' :: r => return (es, r)
      | r =>
          match ← key? deepest r with
          | (key, '=' :: r) =>
              let (v, r) ← value? fuel room (skipSpaces r)
              let es ← Growing.assign? key v es
              match ← skipLines? (r.length + 1) r with
              | ',' :: r => entries? fuel room es r
              | '\x7d' :: r => return (es, r)
              | _ => none
          | _ => none

end

/-! ## Documents -/

/-- One statement of a document. -/
inductive Statement where
  | assign (key : List String) (v : Toml)
  | header (key : List String)
  | repeated (key : List String)
deriving Repr

/-- The statement at the beginning, and what follows its line. -/
def statement? (cs : List Char) : Option (Statement × List Char) := do
  match cs with
  | '[' :: '[' :: r =>
      match ← key? deepest r with
      | (key, ']' :: ']' :: r) => return (.repeated key, ← lineEnd? r)
      | _ => none
  | '[' :: r =>
      match ← key? deepest r with
      | (key, ']' :: r) => return (.header key, ← lineEnd? r)
      | _ => none
  | r =>
      match ← key? deepest r with
      | (key, '=' :: r) =>
          let (v, r) ← value? (2 * cs.length + 2) deepest (skipSpaces r)
          return (.assign key v, ← lineEnd? r)
      | _ => none

/-- The statements of a document. -/
def statements? : Nat → List Char → Option (List Statement)
  | 0, _ => none
  | fuel + 1, cs => do
      let r ← skipLines? (cs.length + 1) cs
      if r.isEmpty then return []
      let (s, r) ← statement? r
      return s :: (← statements? fuel r)

/-- Carry out statements in the table of the header they stand under. -/
def fill? (under : List String) : List Statement → Growing.Entries → Option Growing.Entries
  | [], es => some es
  | .assign key v :: rest, es =>
      (Growing.within? false (fun _ => Growing.assign? key v) under .header es).bind (fill? under rest)
  | .header key :: rest, es => (Growing.open? key es).bind (fill? key rest)
  | .repeated key :: rest, es => (Growing.append? key es).bind (fill? key rest)

/-- The table a document stands for, or nothing if it is not one.  A byte order mark may come
first. -/
def parse? (s : String) : Option (List (String × Toml)) := do
  let cs := match s.toList with
    | '\uFEFF' :: r => r
    | cs => cs
  let es ← fill? [] (← statements? (cs.length + 1) cs) []
  return Growing.finishedEntries es

end Scaffold.Toml
