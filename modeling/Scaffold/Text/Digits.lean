/-!
# Digits

Reading and writing numbers as runs of digits.
-/

namespace Scaffold.Text

/-- The number a list of decimal digits stands for. -/
def numberOf (digits : List Char) : Nat := digits.foldl (fun n c => n * 10 + (c.toNat - 48)) 0

/-- The number at the beginning of a text, of at least one digit and at most `most`, and what
follows. -/
def leadingNumber? (most : Nat) (cs : List Char) : Option (Nat × List Char) :=
  let digits := (cs.take most).takeWhile Char.isDigit
  if digits.isEmpty then none else some (numberOf digits, cs.drop digits.length)

/-- A number in at least so many digits. -/
def padded (width n : Nat) : String :=
  let digits := toString n
  String.ofList (List.replicate (width - digits.length) '0') ++ digits

/-- The value of a hexadecimal digit. -/
def hexDigit? (c : Char) : Option Nat :=
  if c.isDigit then some (c.toNat - 48)
  else if 'a' ≤ c ∧ c ≤ 'f' then some (c.toNat - 87)
  else if 'A' ≤ c ∧ c ≤ 'F' then some (c.toNat - 55)
  else none

/-- The number a list of hexadecimal digits stands for. -/
def hexNumber? (digits : List Char) : Option Nat :=
  digits.foldlM (fun n c => (hexDigit? c).map (n * 16 + ·)) 0

/-- The last hexadecimal digits of a number, so many of them, in lower case. -/
def hexText (width n : Nat) : List Char :=
  (List.range width).map fun i => Nat.digitChar (n / Nat.pow 16 (width - 1 - i) % 16)

example : leadingNumber? 2 "123".toList = some (12, ['3']) := by decide
example : padded 4 33 = "0033" := by decide
example : hexNumber? "1f".toList = some 31 ∧ hexText 4 31 = ['0', '0', '1', 'f'] := by decide

end Scaffold.Text
