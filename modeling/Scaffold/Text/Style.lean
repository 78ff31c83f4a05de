/-!
# Styled text

The control sequences a terminal reads as colour and weight.  A style is opened before its
text and closed after it, so styles nest.
-/

namespace Scaffold.Text

/-- The colours of the output. -/
inductive Colour where
  | red | green | yellow | blue | cyan
deriving Repr, DecidableEq

/-- The number a terminal knows a colour by. -/
def Colour.code : Colour → String
  | .red => "31"
  | .green => "32"
  | .yellow => "33"
  | .blue => "34"
  | .cyan => "36"

/-- A text between two control sequences. -/
def styled (opening closing s : String) : String :=
  "\x1b[" ++ opening ++ "m" ++ s ++ "\x1b[" ++ closing ++ "m"

/-- A text in a colour. -/
def painted (c : Colour) : String → String := styled c.code "39"

/-- A bold text. -/
def bold : String → String := styled "1" "0"

/-- A faint text. -/
def dimmed : String → String := styled "2" "0"

/-- A bold text in a colour. -/
def emphasised (c : Colour) (s : String) : String := bold (painted c s)

end Scaffold.Text
