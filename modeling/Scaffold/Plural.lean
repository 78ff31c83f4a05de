import Scaffold.Text.Case
import Scaffold.Text.Search

/-!
# English plurals

The plural of an entity's name: irregular words from a table, then rules by ending.  Of a
compound name only the last word changes, and it starts at the last capital.
-/

namespace Scaffold.Plural

open Scaffold.Text

/-! ## Tables -/

/-- Words with a plural of their own. -/
def irregular : List (String × String) :=
  [("person", "people"), ("child", "children"), ("man", "men"), ("woman", "women"),
   ("mouse", "mice"), ("goose", "geese"), ("tooth", "teeth"), ("foot", "feet"), ("ox", "oxen"),
   ("criterion", "criteria"), ("analysis", "analyses"), ("index", "indices"),
   ("matrix", "matrices"), ("vertex", "vertices"), ("status", "statuses"), ("quiz", "quizzes")]

/-- Words that are their own plural. -/
def uncountable : List String :=
  ["data", "equipment", "feedback", "fish", "information", "metadata", "news", "series", "sheep",
   "species"]

/-- Words in `-f` whose plural is in `-ves`. -/
def fToVes : List String := ["calf", "half", "leaf", "loaf", "self", "shelf", "thief", "wolf"]

/-- Words in `-o` whose plural is in `-oes`. -/
def oToOes : List String := ["echo", "hero", "potato", "tomato", "veto"]

/-! ## Rules -/

/-- Decide whether a character is a small vowel. -/
def isVowel (c : Char) : Bool := "aeiou".toList.contains c

/-- The plural of a regular word, whose lower case is `lower`. -/
def regular (word lower : String) : String :=
  let stem (drop : Nat) : String := String.ofList (word.toList.take (word.length - drop))
  if ["s", "x", "z", "ch", "sh"].any (endsWith lower) then word ++ "es"
  else if endsWith lower "y" && !(lower.toList.reverse.drop 1).head?.any isVowel then stem 1 ++ "ies"
  else if endsWith lower "fe" then stem 2 ++ "ves"
  else if fToVes.contains lower then stem 1 ++ "ves"
  else if oToOes.contains lower then word ++ "es"
  else word ++ "s"

/-- A text with a capital first letter if `like` has one. -/
def matchCapital (like text : String) : String :=
  if like.toList.head?.any isUppercase then String.ofList (capitalize text.toList) else text

/-- The plural of one word. -/
def ofWord (word : String) : String :=
  let lower := String.ofList (lowercase word.toList)
  if uncountable.contains lower then word
  else match irregular.lookup lower with
    | some plural => matchCapital word plural
    | none => regular word lower

/-- How many characters come before the last word of a compound name. -/
def lastWordStart (cs : List Char) : Nat :=
  match (cs.drop 1).reverse.findIdx? isUppercase with
  | some i => cs.length - 1 - i
  | none => 0

/-- The plural of a name. -/
def english (name : String) : String :=
  let cs := name.toList
  if cs.isEmpty then ""
  else
    let start := lastWordStart cs
    String.ofList (cs.take start) ++ ofWord (String.ofList (cs.drop start))

example : english "SalesPerson" = "SalesPeople" := by decide
example : english "Category" = "Categories" := by decide

end Scaffold.Plural
