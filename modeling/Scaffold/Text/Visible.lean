import Scaffold.Text.HiddenTable

/-!
# Texts that show

A text in quotes in which every character can be seen: what has no shape of its own, or would end
the quotes, is written as an escape.
-/

namespace Scaffold.Text

/-- Decide whether a character does not show by itself. -/
def isHidden (c : Char) : Bool :=
  if c.toNat < 128 then c.toNat < 0x20 || c == '\x7f' else inSpans hiddenSpans c.toNat

/-- A character as it is shown in quotes.  Both kinds of quotes are escaped. -/
def visibleChar (c : Char) : List Char :=
  match c with
  | '\x00' => ['\\', '0']
  | '\t' => ['\\', 't']
  | '\n' => ['\\', 'n']
  | '\r' => ['\\', 'r']
  | '"' => ['\\', '"']
  | '\'' => ['\\', '\'']
  | '\\' => ['\\', '\\']
  | c => if isHidden c then "\\u\x7b".toList ++ Nat.toDigits 16 c.toNat ++ ['\x7d'] else [c]

/-- A text in double quotes, as it is shown. -/
def visible (s : String) : String :=
  "\"" ++ String.ofList (s.toList.flatMap visibleChar) ++ "\""

example : visible "a\t'é\u0301" = "\"a\\t\\'é\\u\x7b301\x7d\"" := by decide +kernel

end Scaffold.Text
