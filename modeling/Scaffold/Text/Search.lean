/-!
# Searching and replacing

Containment of one text in another, replacement of every occurrence, and the lines of a
text.  Each is a recursion over the characters.
-/

namespace Scaffold.Text

/-! ## Occurrences -/

/-- Decide whether `needle` occurs in a list of characters as a contiguous part. -/
def occursIn (needle : List Char) : List Char → Bool
  | [] => needle.isEmpty
  | c :: cs => needle.isPrefixOf (c :: cs) || occursIn needle cs

theorem occursIn_iff {needle cs : List Char} : occursIn needle cs = true ↔ needle <:+: cs := by
  induction cs with
  | nil => simp [occursIn, List.isEmpty_iff, List.infix_nil]
  | cons c cs ih => simp [occursIn, ih, List.isPrefixOf_iff_prefix, List.infix_cons_iff]

/-- Decide whether `text` contains `needle`. -/
def contains (text needle : String) : Bool := occursIn needle.toList text.toList

/-- Decide whether `text` begins with `start`. -/
def beginsWith (text start : String) : Bool := start.toList.isPrefixOf text.toList

/-- Decide whether `text` ends with `tail`. -/
def endsWith (text tail : String) : Bool := tail.toList.isSuffixOf text.toList

/-- What follows `start` in the characters, if they begin with it. -/
def dropStart? : (start cs : List Char) → Option (List Char)
  | [], cs => some cs
  | _ :: _, [] => none
  | p :: ps, c :: cs => if p == c then dropStart? ps cs else none

/-- What comes before `tail` in the characters, if they end with it. -/
def dropTail? (tail cs : List Char) : Option (List Char) :=
  (dropStart? tail.reverse cs.reverse).map List.reverse

/-- The parts of a text before and after the first occurrence of `needle`. -/
def cutAt? (needle : List Char) : List Char → Option (List Char × List Char)
  | [] => if needle.isEmpty then some ([], []) else none
  | c :: cs =>
      match dropStart? needle (c :: cs) with
      | some after => some ([], after)
      | none => (cutAt? needle cs).map fun (before, after) => (c :: before, after)

/-! ## Replacement -/

/-- Replace every occurrence of `needle`, left to right.  `skip` counts the characters of
an occurrence that is already replaced. -/
def replaceFrom (needle value : List Char) (skip : Nat) : List Char → List Char
  | [] => []
  | c :: cs =>
      match skip with
      | k + 1 => replaceFrom needle value k cs
      | 0 =>
          if needle.isPrefixOf (c :: cs) then value ++ replaceFrom needle value (needle.length - 1) cs
          else c :: replaceFrom needle value 0 cs

/-- A text with every occurrence of a non-empty `needle` replaced by `value`. -/
def replaceAll (text needle value : String) : String :=
  String.ofList (replaceFrom needle.toList value.toList 0 text.toList)

/-! ## Pieces -/

/-- The pieces of a text between the characters that satisfy `p`; always at least one. -/
def piecesBy (p : Char → Bool) : List Char → List (List Char)
  | [] => [[]]
  | c :: cs =>
      if p c then [] :: piecesBy p cs
      else match piecesBy p cs with
        | [] => [[c]]
        | piece :: rest => (c :: piece) :: rest

/-- The pieces of a text between the occurrences of one character. -/
def splitOnChar (sep : Char) (s : String) : List String :=
  (piecesBy (· == sep) s.toList).map String.ofList

/-- Drop one carriage return at the end of a line. -/
def dropReturn (line : List Char) : List Char :=
  match line.reverse with
  | '\r' :: rest => rest.reverse
  | _ => line

/-- The lines of a text: pieces between line feeds, each without the carriage return
before its line feed, and no empty piece after the last line feed. -/
def lines (s : String) : List String :=
  let pieces := piecesBy (· == '\n') s.toList
  match pieces.getLast? with
  | none => []
  | some last =>
      (pieces.dropLast.map dropReturn ++ (if last.isEmpty then [] else [last])).map String.ofList

/-- Texts put together with `sep` between neighbours. -/
def joinWith (sep : String) : List String → String
  | [] => ""
  | [s] => s
  | s :: t :: rest => s ++ sep ++ joinWith sep (t :: rest)

example : replaceAll "{{A}}-{{A}}" "{{A}}" "x" = "x-x" := by decide
example : lines "a\r\n\nb\r" = ["a", "", "b\r"] := by decide

end Scaffold.Text
