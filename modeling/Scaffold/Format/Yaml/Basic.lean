import Scaffold.Text.Digits
import Scaffold.Text.Search

/-!
# YAML values

The values of a document, and the plain words that mean something other than a text: nulls,
flags and numbers.  A text that is spelled like one of these has to be quoted.
-/

namespace Scaffold

/-- How a scalar is written, as far as its meaning depends on that. -/
inductive Yaml.Form where
  /-- Without quotes: it can be anything. -/
  | plain
  /-- As a block that keeps its line breaks: a tag can make it a flag. -/
  | literal
  /-- In quotes or as a folded block: it is a text. -/
  | text
deriving Repr, DecidableEq

/-- The octets of a tag. -/
abbrev Yaml.Tag := List UInt8

/-- A value of a document. -/
inductive Yaml where
  | scalar (text : String) (form : Yaml.Form) (tag : Option Yaml.Tag)
  | sequence (items : List Yaml)
  | mapping (entries : List (Yaml × Yaml))
  /-- What stands for another value of the document, by its number. -/
  | alias (number : Nat)
deriving Repr

instance : Inhabited Yaml := ⟨.scalar "" .plain none⟩

namespace Yaml

open Scaffold.Text

/-- The value that nothing is written for. -/
def empty : Yaml := .scalar "" .plain none

/-! ## Characters -/

/-- Decide whether a character ends a line.  The carriage return and the next-line character
do so as well; a document is read after they are replaced. -/
def isBreak (c : Char) : Bool :=
  c == '\n' || c == '\r' || c == '\u0085' || c == '\u2028' || c == '\u2029'

/-- Decide whether a character is a blank inside a line. -/
def isSpaceOrTab (c : Char) : Bool := c == ' ' || c == '\t'

/-- Decide whether a character can stand in a document as itself. -/
def isAllowed (c : Char) : Bool :=
  let n := c.toNat
  n == 0x09 || n == 0x0A || n == 0x0D || (0x20 ≤ n && n ≤ 0x7E) || n == 0x85
    || (0xA0 ≤ n && n ≤ 0xD7FF) || (0xE000 ≤ n && n ≤ 0xFFFD) || 0x10000 ≤ n

/-- Decide whether the character that follows ends a word: a blank, a line break or the end. -/
def endsPlain : Option Char → Bool
  | none => true
  | some c => isSpaceOrTab c || isBreak c

/-! ## Words -/

/-- Decide whether a plain word is a null. -/
def isNullWord (s : String) : Bool := ["null", "Null", "NULL", "~"].contains s

/-- The flag a plain word stands for. -/
def flagWord? (s : String) : Option Bool :=
  if ["true", "True", "TRUE"].contains s then some true
  else if ["false", "False", "FALSE"].contains s then some false
  else none

/-- The digits after an optional sign. -/
def unsigned (cs : List Char) : List Char :=
  match cs with
  | '+' :: rest | '-' :: rest => rest
  | cs => cs

/-- Decide whether all characters are digits of a base, and there is one. -/
def allDigits (base : Nat) (cs : List Char) : Bool :=
  !cs.isEmpty && cs.all fun c => match hexDigit? c with
    | some d => d < base
    | none => false

/-- Decide whether a number of a base is within 128 bits, of which a negative one gives up
one for its sign. -/
def fits (negative : Bool) (base : Nat) (cs : List Char) : Bool :=
  let n := cs.foldl (fun n c => n * base + (hexDigit? c).getD 0) 0
  if negative then n ≤ Nat.pow 2 127 else n < Nat.pow 2 128

/-- Decide whether a word is a whole number: decimal, or of another base after its mark.
Digits after a needless zero count as one, though they read as a text. -/
def isWhole (cs : List Char) : Bool :=
  let negative := cs.head? == some '-'
  match unsigned cs with
  | '0' :: 'x' :: rest => allDigits 16 rest && fits negative 16 rest
  | '0' :: 'o' :: rest => allDigits 8 rest && fits negative 8 rest
  | '0' :: 'b' :: rest => allDigits 2 rest && fits negative 2 rest
  | '0' :: rest => rest.all Char.isDigit
  | rest => allDigits 10 rest && fits negative 10 rest

/-- The mantissa of a decimal fraction as a number and the count of its digits after the
point; at least one digit is there. -/
def mantissa? (cs : List Char) : Option (Nat × Nat) :=
  let whole := cs.takeWhile Char.isDigit
  match cs.dropWhile Char.isDigit with
  | [] => if whole.isEmpty then none else some (numberOf whole, 0)
  | '.' :: fraction =>
      if fraction.all Char.isDigit && !(whole.isEmpty && fraction.isEmpty) then
        some (numberOf (whole ++ fraction), fraction.length)
      else none
  | _ => none

/-- The exponent after its letter. -/
def exponent? (cs : List Char) : Option Int :=
  match cs with
  | '-' :: rest => if allDigits 10 rest then some (-Int.ofNat (numberOf rest)) else none
  | '+' :: rest => if allDigits 10 rest then some (Int.ofNat (numberOf rest)) else none
  | rest => if allDigits 10 rest then some (Int.ofNat (numberOf rest)) else none

/-- Decide whether `m * 10 ^ e` rounds to a number of double precision and not to infinity,
that is, whether it is below the middle between the largest number and the next power. -/
def isFinite (m : Nat) (e : Int) : Bool :=
  let bound := Nat.pow 2 1024 - Nat.pow 2 970
  if m = 0 ∨ e + Int.ofNat (Nat.toDigits 10 m).length < 300 then true
  else if 400 < e + Int.ofNat (Nat.toDigits 10 m).length then false
  else if 0 ≤ e then m * Nat.pow 10 e.toNat < bound else m < bound * Nat.pow 10 (-e).toNat

/-- Decide whether a word is a decimal fraction within double precision. -/
def isFraction (cs : List Char) : Bool :=
  let body := unsigned cs
  let base := body.takeWhile fun c => c != 'e' && c != 'E'
  match mantissa? base with
  | none => false
  | some (m, places) =>
      match body.drop base.length with
      | [] => isFinite m (-Int.ofNat places)
      | _ :: e => ((exponent? e).map fun e => isFinite m (e - Int.ofNat places)).getD false

/-- Decide whether a word names an infinity or no number. -/
def isSpecialNumber (s : String) : Bool :=
  [".inf", ".Inf", ".INF", "+.inf", "+.Inf", "+.INF", "-.inf", "-.Inf", "-.INF", ".nan",
   ".NaN", ".NAN"].contains s

/-- Decide whether a text would not read as itself without quotes: it is empty, a null, a
flag, or spelled like a number. -/
def isTaken (s : String) : Bool :=
  let cs := s.toList
  s.isEmpty || isNullWord s || (flagWord? s).isSome || isWhole cs || isFraction cs
    || isSpecialNumber s

example : ["0x1F", "-.5", "1e3", "017", "~"].all isTaken = true := by decide +kernel
example : ["1e", ".", "yes", "1_000", "2026-10-19", "1e999"].any isTaken = false := by
  decide +kernel

end Yaml

end Scaffold
