import Scaffold.Format.Yaml.Token

/-!
# Reading YAML

The value of a document from its tokens.

Values can be given names, and an alias stands for the value of a name.  Names have numbers: a name
gets as many as there are names before it, and a name that is given again gets a new number in the
same way, which a later name can get too.  An alias keeps the number its name has where it stands,
and stands for the last value in the whole document that got this number, which can come later or
be around it.
-/

namespace Scaffold.Yaml

open Scaffold.Text

/-- A document. -/
structure Document where
  /-- Its value. -/
  root : Yaml
  /-- The values that aliases stand for, by their numbers. -/
  targets : List (Nat × Yaml)

/-- A value itself, where an alias stands for it. -/
def Document.resolved (d : Document) : Yaml → Yaml
  | .alias n => (d.targets.lookup n).getD (.alias n)
  | v => v

/-- What is left of the tokens, and what the names in them stand for. -/
structure Reading where
  /-- The tokens. -/
  tokens : List Token
  /-- The numbers of the names. -/
  names : List (String × Nat) := []
  /-- The numbers that were given to values, the last one first. -/
  given : List Nat := []
  /-- The values for numbers, the last one first. -/
  targets : List (Nat × Yaml) := []
  /-- The shorthands of tags. -/
  shorthands : List (String × Tag) := []

namespace Reading

/-- Leave out the next tokens. -/
def drop (n : Nat) (r : Reading) : Reading := { r with tokens := r.tokens.drop n }

/-- Decide whether the next token is one of the given ones. -/
def isAt (ts : List Token) (r : Reading) : Bool := (r.tokens.head?.map ts.contains).getD false

/-- Give a name to a value that begins. -/
def nameFrom (anchor : String) (r : Reading) : Reading :=
  let number := r.names.length
  { r with
    names := (r.names.filter (·.1 != anchor)) ++ [(anchor, number)]
    given := number :: r.given }

/-- Keep a value whose number was the given one of those that were given to values, unless another
value got the same number since. -/
def settle (place : Nat) (v : Yaml) (r : Reading) : Reading :=
  match r.given.drop (r.given.length - 1 - place) with
  | number :: _ =>
      if (r.given.take (r.given.length - 1 - place)).contains number then r
      else { r with targets := (number, v) :: r.targets }
  | [] => r

/-- The whole of a tag. -/
def tagOf? (handle : String) (suffix : Tag) (r : Reading) : Option Tag :=
  if handle.isEmpty then some suffix
  else (r.shorthands.lookup handle).map (· ++ suffix)

/-- The anchor and the tag before a value, in either order. -/
def properties? (r : Reading) : Option (Option String × Option Tag × Reading) := do
  match r.tokens with
  | .anchor a :: .tag h s :: _ => return (some a, some (← r.tagOf? h s), r.drop 2)
  | .tag h s :: .anchor a :: _ => return (some a, some (← r.tagOf? h s), r.drop 2)
  | .anchor a :: _ => return (some a, none, r.drop 1)
  | .tag h s :: _ => return (none, some (← r.tagOf? h s), r.drop 1)
  | _ => return (none, none, r)

mutual

/-- A value.  In a block it can be a block collection, and where the flag says so a sequence
that is not indented. -/
def value? (inBlock indentless : Bool) : Nat → Reading → Option (Yaml × Reading)
  | 0, _ => none
  | fuel + 1, r => do
      match r.tokens with
      | .alias a :: _ => return (.alias (← r.names.lookup a), r.drop 1)
      | _ => do
          let (anchor, tag, r) ← r.properties?
          let place := r.given.length
          let r := (anchor.map fun a => r.nameFrom a).getD r
          let (v, r) ←
            match r.tokens with
            | .item :: _ =>
                if indentless then (indentlessItems? fuel r).map fun (xs, r) => (sequence xs, r)
                else if anchor.isSome || tag.isSome then some (scalar "" .plain tag, r)
                else none
            | .scalar s form :: _ => some (scalar s form tag, r.drop 1)
            | .flowSequence :: _ =>
                (flowItems? true fuel (r.drop 1)).map fun (xs, r) => (sequence xs, r)
            | .flowMapping :: _ =>
                (flowEntries? true fuel (r.drop 1)).map fun (es, r) => (mapping es, r)
            | t :: _ =>
                if inBlock && t == .blockSequence then
                  (blockItems? fuel (r.drop 1)).map fun (xs, r) => (sequence xs, r)
                else if inBlock && t == .blockMapping then
                  (blockEntries? fuel (r.drop 1)).map fun (es, r) => (mapping es, r)
                else if anchor.isSome || tag.isSome then some (scalar "" .plain tag, r)
                else none
            | [] => if anchor.isSome || tag.isSome then some (scalar "" .plain tag, r) else none
          return (v, if anchor.isSome then r.settle place v else r)

/-- A value, or nothing before the given tokens. -/
def valueBefore? (ends : List Token) (inBlock indentless : Bool) :
    Nat → Reading → Option (Yaml × Reading)
  | 0, _ => none
  | fuel + 1, r =>
      if r.isAt ends then some (empty, r) else value? inBlock indentless fuel r

/-- The items of a block up to its end. -/
def blockItems? : Nat → Reading → Option (List Yaml × Reading)
  | 0, _ => none
  | fuel + 1, r => do
      if r.isAt [.blockEnd] then return ([], r.drop 1)
      if !r.isAt [.item] then none
      let (x, r) ← valueBefore? [.item, .blockEnd] true false fuel (r.drop 1)
      let (xs, r) ← blockItems? fuel r
      return (x :: xs, r)

/-- The items that stand at the column of the key before them. -/
def indentlessItems? : Nat → Reading → Option (List Yaml × Reading)
  | 0, _ => none
  | fuel + 1, r => do
      if !r.isAt [.item] then return ([], r)
      let (x, r) ← valueBefore? [.item, .key, .value, .blockEnd] true false fuel (r.drop 1)
      let (xs, r) ← indentlessItems? fuel r
      return (x :: xs, r)

/-- The entries of a block up to its end. -/
def blockEntries? : Nat → Reading → Option (List (Yaml × Yaml) × Reading)
  | 0, _ => none
  | fuel + 1, r => do
      if r.isAt [.blockEnd] then return ([], r.drop 1)
      if !r.isAt [.key] then none
      let ends := [Token.key, .value, .blockEnd]
      let (k, r) ← valueBefore? ends true true fuel (r.drop 1)
      let (v, r) ←
        if r.isAt [.value] then valueBefore? ends true true fuel (r.drop 1) else some (empty, r)
      let (es, r) ← blockEntries? fuel r
      return ((k, v) :: es, r)

/-- The items between brackets.  A key among them is an entry of a mapping by itself. -/
def flowItems? (first : Bool) : Nat → Reading → Option (List Yaml × Reading)
  | 0, _ => none
  | fuel + 1, r => do
      if r.isAt [.flowSequenceEnd] then return ([], r.drop 1)
      if !first && !r.isAt [.comma] then none
      let r := if first then r else r.drop 1
      if r.isAt [.flowSequenceEnd] then return ([], r.drop 1)
      let (x, r) ←
        if r.isAt [.key] then flowPair? fuel (r.drop 1) else value? false false fuel r
      let (xs, r) ← flowItems? false fuel r
      return (x :: xs, r)

/-- One key and its value among the items between brackets.  The token that stands in the place
of the key is left out. -/
def flowPair? : Nat → Reading → Option (Yaml × Reading)
  | 0, _ => none
  | fuel + 1, r => do
      let ends := [Token.comma, .flowSequenceEnd]
      let (k, r) ←
        if r.isAt (.value :: ends) then some (empty, r.drop 1) else value? false false fuel r
      let (v, r) ←
        if r.isAt [.value] then valueBefore? ends false false fuel (r.drop 1)
        else some (empty, r)
      return (mapping [(k, v)], r)

/-- The entries between braces. -/
def flowEntries? (first : Bool) : Nat → Reading → Option (List (Yaml × Yaml) × Reading)
  | 0, _ => none
  | fuel + 1, r => do
      if r.isAt [.flowMappingEnd] then return ([], r.drop 1)
      if !first && !r.isAt [.comma] then none
      let r := if first then r else r.drop 1
      if r.isAt [.flowMappingEnd] then return ([], r.drop 1)
      let ends := [Token.comma, .flowMappingEnd]
      if r.isAt [.key] then
        let (k, r) ← valueBefore? (.value :: ends) false false fuel (r.drop 1)
        let (v, r) ←
          if r.isAt [.value] then valueBefore? ends false false fuel (r.drop 1)
          else some (empty, r)
        let (es, r) ← flowEntries? false fuel r
        return ((k, v) :: es, r)
      else
        let (k, r) ← value? false false fuel r
        let (es, r) ← flowEntries? false fuel r
        return ((k, empty) :: es, r)

end

/-! ## Documents -/

/-- The directives before a document: whether there is one, and what is known after them. -/
def directives? (versioned : Bool) : List Token → List (String × Tag) →
    Option (Bool × List Token × List (String × Tag))
  | .version major minor :: rest, known =>
      if versioned || major ≠ 1 || (minor ≠ 1 && minor ≠ 2) then none
      else (directives? true rest known).map fun (_, r) => (true, r)
  | .shorthand handle meaning :: rest, known =>
      if (known.lookup handle).isSome then none
      else (directives? versioned rest (known ++ [(handle, meaning)])).map fun (_, r) => (true, r)
  | tokens, known => some (false, tokens, known)

/-- The shorthands that are known without a directive. -/
def knownShorthands : List (String × Tag) :=
  [("!", "!".toUTF8.toList), ("!!", "tag:yaml.org,2002:".toUTF8.toList)]

/-- The value of a document that begins with its mark. -/
def afterMark? (r : Reading) : Option (Yaml × Reading) :=
  if r.tokens.isEmpty || r.isAt [.documentStart, .documentEnd] then some (empty, r)
  else match r.tokens with
    | .version .. :: _ | .shorthand .. :: _ => some (empty, r)
    | _ => value? true false (3 * r.tokens.length + 3) r

/-- The only document. -/
def document? (tokens : List Token) : Option Document := do
  let (given, tokens, shorthands) ← directives? false tokens []
  let r : Reading := { tokens, shorthands := shorthands ++ knownShorthands }
  let (v, r) ←
    if r.isAt [.documentStart] then afterMark? (r.drop 1)
    else if given then none
    else value? true false (3 * tokens.length + 3) r
  if (r.tokens.dropWhile (· == .documentEnd)).isEmpty then some ⟨v, r.targets⟩ else none

end Reading

/-- Read a text that holds one document. -/
def parse? (s : String) : Option Document := do Reading.document? (← tokens? s)

end Scaffold.Yaml
