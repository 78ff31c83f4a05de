import Scaffold.Text.Blank
import Scaffold.Text.Case

/-!
# Words and word cases

A text falls into words at separators (`_`, `-`, blanks), between a small letter or digit
and a capital (`aB`), and before the last capital of a run that a small letter follows
(`HTTPRequest`).  Words are in lower case.  Kebab, Pascal and camel case are three ways to
put them together again.
-/

namespace Scaffold.Text

/-- Decide whether a character only separates words. -/
def isSeparator (c : Char) : Bool := c == '_' || c == '-' || isBlank c

/-- Decide whether a word ends after `c` because of the letters that follow it. -/
def endsWord (c : Char) : List Char → Bool
  | [] => false
  | n :: after =>
      ((isLowercase c || c.isDigit) && isUppercase n)
        || (isUppercase c && isUppercase n && after.head?.any isLowercase)

/-- The word collected so far, unless it is empty. -/
def closeWord (current : List Char) : List (List Char) :=
  if current.isEmpty then [] else [current]

/-- The words of a text, as written, of which `current` has been read. -/
def wordsFrom (current : List Char) : List Char → List (List Char)
  | [] => closeWord current
  | c :: rest =>
      if isSeparator c then closeWord current ++ wordsFrom [] rest
      else if endsWord c rest then (current ++ [c]) :: wordsFrom [] rest
      else wordsFrom (current ++ [c]) rest

/-- The words of a text in lower case. -/
def words (cs : List Char) : List (List Char) := (wordsFrom [] cs).map lowercase

/-- Words joined by hyphens: `order-lines`. -/
def kebabCase (s : String) : String :=
  String.ofList (['-'].intercalate (words s.toList))

/-- Capitalised words run together: `OrderLines`. -/
def pascalCase (s : String) : String :=
  String.ofList ((words s.toList).flatMap capitalize)

/-- Pascal case with a small first word: `orderLines`. -/
def camelCase (s : String) : String :=
  match words s.toList with
  | [] => ""
  | first :: rest => String.ofList (first ++ rest.flatMap capitalize)

example : kebabCase "OrderLines" = "order-lines" := by decide
example : pascalCase "HTTPRequest" = "HttpRequest" := by decide
example : camelCase "order_line" = "orderLine" := by decide

end Scaffold.Text
