/-!
# Patterns

Patterns over octets: a star for any text, a question mark for any character, and brackets for a
set of characters.  A quoted character of a pattern stands for itself.
-/

namespace Scaffold.Shell

/-- A character of a pattern, and whether it was quoted. -/
abbrev Marked := Char × Bool

/-- What a set in a pattern is made of. -/
inductive SetItem where
  | range (first last : Char)
  | kind (p : Char → Bool)

/-- A part of a pattern. -/
inductive Element where
  /-- Any text. -/
  | many
  /-- Any character. -/
  | any
  | one (c : Char)
  | set (negated : Bool) (items : List SetItem)

/-- Decide whether a character belongs to an item of a set. -/
def SetItem.contains (c : Char) : SetItem → Bool
  | range first last => first ≤ c && c ≤ last
  | kind p => p c

/-- The kinds of characters that a set can name. -/
def kinds : List (String × (Char → Bool)) :=
  [("alpha", Char.isAlpha), ("digit", Char.isDigit), ("alnum", Char.isAlphanum),
   ("upper", Char.isUpper), ("lower", Char.isLower),
   ("space", fun c => c == ' ' || ('\t' ≤ c && c ≤ '\r')),
   ("blank", fun c => c == ' ' || c == '\t'),
   ("punct", fun c => '!' ≤ c && c ≤ '~' && !c.isAlphanum),
   ("print", fun c => ' ' ≤ c && c ≤ '~'),
   ("graph", fun c => '!' ≤ c && c ≤ '~'), ("cntrl", fun c => c < ' ' || c == '\x7f'),
   ("xdigit", fun c => c.isDigit || ('a' ≤ c && c ≤ 'f') || ('A' ≤ c && c ≤ 'F'))]

/-- The kind of characters whose name comes next, with the colons around it, and what follows. -/
def readKind (cs : List Marked) : Option (SetItem × List Marked) := do
  match cs with
  | ('[', false) :: (':', false) :: rest =>
      let name := (rest.takeWhile fun (c, _) => c.isAlpha).map (·.1)
      let p ← kinds.lookup (String.ofList name)
      match rest.drop name.length with
      | (':', _) :: (']', _) :: rest => return (.kind p, rest)
      | _ => none
  | _ => none

/-- The items of a set up to its closing bracket, and what follows it. -/
def readItems : Nat → Bool → List Marked → Option (List SetItem × List Marked)
  | 0, _, _ => none
  | n + 1, first, cs =>
      match readKind cs with
      | some (item, rest) => (readItems n false rest).map fun (items, r) => (item :: items, r)
      | none =>
          match cs with
          | [] => none
          | (']', false) :: rest =>
              if first then
                (readItems n false rest).map fun (items, r) => (.range ']' ']' :: items, r)
              else some ([], rest)
          | (a, _) :: ('-', false) :: (b, q) :: rest =>
              if b == ']' && !q then
                (readItems n false (('-', true) :: (b, q) :: rest)).map fun (items, r) =>
                  (.range a a :: items, r)
              else (readItems n false rest).map fun (items, r) => (.range a b :: items, r)
          | (a, _) :: rest =>
              (readItems n false rest).map fun (items, r) => (.range a a :: items, r)

/-- The set after an opening bracket, and what follows it. -/
def readSet (cs : List Marked) : Option (Element × List Marked) :=
  let (negated, cs) := match cs with
    | ('!', false) :: rest => (true, rest)
    | cs => (false, cs)
  (readItems (cs.length + 1) true cs).map fun (items, rest) => (.set negated items, rest)

/-- The parts of a pattern, in at most as many steps as it has characters. -/
def readElements : Nat → List Marked → List Element
  | 0, _ => []
  | _, [] => []
  | n + 1, ('*', false) :: rest => .many :: readElements n rest
  | n + 1, ('?', false) :: rest => .any :: readElements n rest
  | n + 1, (c, quoted) :: rest =>
      match if c == '[' && !quoted then readSet rest else none with
      | some (e, rest) => e :: readElements n rest
      | none => .one c :: readElements n rest

/-- A pattern. -/
def Pattern.ofMarked (cs : List Marked) : List Element := readElements cs.length cs

/-- Decide whether a part of a pattern stands for a character. -/
def Element.accepts (c : Char) : Element → Bool
  | many | any => true
  | one d => c == d
  | set negated items => items.any (·.contains c) != negated

/-- Decide whether a pattern matches all of a text. -/
def matchesAll : List Element → List Char → Bool
  | [], cs => cs.isEmpty
  | .many :: es, [] => matchesAll es []
  | .many :: es, c :: cs => matchesAll es (c :: cs) || matchesAll (.many :: es) cs
  | _ :: _, [] => false
  | e :: es, c :: cs => e.accepts c && matchesAll es cs
termination_by es cs => es.length + cs.length

/-- Decide whether a pattern has a part that stands for more than itself. -/
def isPattern (cs : List Marked) : Bool :=
  (Pattern.ofMarked cs).any fun e => match e with
    | .one _ => false
    | _ => true

/-- The text without the shortest, or longest, beginning that a pattern matches. -/
def withoutStart (longest : Bool) (es : List Element) (cs : List Char) : List Char :=
  let lengths := List.range (cs.length + 1)
  let lengths := if longest then lengths.reverse else lengths
  match lengths.find? fun n => matchesAll es (cs.take n) with
  | some n => cs.drop n
  | none => cs

/-- The text without the shortest, or longest, end that a pattern matches. -/
def withoutEnd (longest : Bool) (es : List Element) (cs : List Char) : List Char :=
  let lengths := List.range (cs.length + 1)
  let lengths := if longest then lengths else lengths.reverse
  match lengths.find? fun n => matchesAll es (cs.drop n) with
  | some n => cs.take n
  | none => cs

end Scaffold.Shell
