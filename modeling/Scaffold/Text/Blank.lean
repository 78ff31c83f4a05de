/-!
# Blank characters and trimming

A character is blank when the Unicode database gives it the White_Space property.  Trimming
removes blanks from the ends of a text and nothing else.
-/

namespace Scaffold.Text

/-- Decide whether a character is white space. -/
def isBlank (c : Char) : Bool :=
  let n := c.toNat
  (9 ≤ n && n ≤ 13) || n == 0x20 || n == 0x85 || n == 0xA0 || n == 0x1680
    || (0x2000 ≤ n && n ≤ 0x200A) || n == 0x2028 || n == 0x2029 || n == 0x202F
    || n == 0x205F || n == 0x3000

/-- The characters left after the blanks at both ends are removed. -/
def trimChars (cs : List Char) : List Char :=
  ((cs.dropWhile isBlank).reverse.dropWhile isBlank).reverse

/-- A text without the blanks at its ends. -/
def trim (s : String) : String := String.ofList (trimChars s.toList)

/-- A text without the blanks at its beginning. -/
def trimStart (s : String) : String := String.ofList (s.toList.dropWhile isBlank)

/-- A text without the blanks at its end. -/
def trimEnd (s : String) : String :=
  String.ofList (s.toList.reverse.dropWhile isBlank).reverse

/-- The blanks a text begins with. -/
def leadingBlanks (s : String) : String := String.ofList (s.toList.takeWhile isBlank)

/-- Decide whether a text is empty or blank throughout. -/
def isBlankText (s : String) : Bool := s.toList.all isBlank

example : trim " \t a b\u3000" = "a b" := by decide
example : leadingBlanks "\t x " = "\t " := by decide

end Scaffold.Text
