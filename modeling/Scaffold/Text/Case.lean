import Scaffold.Text.CaseTables

/-!
# Letter case

Lower and upper case of characters and texts, with the full Unicode conversions: one
character may become several, and a capital sigma at the end of a word becomes the final
small sigma.  ASCII is answered without the tables.
-/

namespace Scaffold.Text

/-! ## Classes -/

/-- Decide the ASCII range, which every table leaves out. -/
def isAscii (c : Char) : Bool := c.toNat < 128

/-- Decide whether a character is lowercase. -/
def isLowercase (c : Char) : Bool :=
  if isAscii c then c.isLower else inSpans lowercaseSpans c.toNat

/-- Decide whether a character is uppercase. -/
def isUppercase (c : Char) : Bool :=
  if isAscii c then c.isUpper else inSpans uppercaseSpans c.toNat

/-- Decide whether a character has a case at all. -/
def isCased (c : Char) : Bool :=
  isLowercase c || isUppercase c || inSpans titlecaseSpans c.toNat

/-- Decide whether a character is passed over when a sigma looks for its neighbours. -/
def isCaseIgnorable (c : Char) : Bool :=
  if isAscii c then c == '\'' || c == '.' || c == ':' || c == '^' || c == '`'
  else inSpans caseIgnorableSpans c.toNat

/-! ## Characters -/

/-- The lower case of one character, taken alone. -/
def lowerChars (c : Char) : List Char :=
  if isAscii c then [c.toLower]
  else if c == 'İ' then ['i', '\u0307']
  else [((shiftOf lowercaseShifts c.toNat).map Char.ofNat).getD c]

/-- The upper case of one character. -/
def upperChars (c : Char) : List Char :=
  if isAscii c then [c.toUpper]
  else match uppercaseExpansions.lookup c.toNat with
    | some codes => codes.map Char.ofNat
    | none => [((shiftOf uppercaseShifts c.toNat).map Char.ofNat).getD c]

/-! ## Texts -/

/-- Decide whether the next character that is not ignorable has a case. -/
def nextIsCased (cs : List Char) : Bool :=
  match cs.dropWhile isCaseIgnorable with
  | [] => false
  | c :: _ => isCased c

/-- Lower case of a text whose part before `cs`, read backwards, is `before`.  A capital
sigma is final when a cased character comes before it and none after. -/
def lowerFrom (before : List Char) : List Char → List Char
  | [] => []
  | c :: cs =>
      (if c == 'Σ' && nextIsCased before && !nextIsCased cs then ['ς'] else lowerChars c)
        ++ lowerFrom (c :: before) cs

/-- The characters of a text in lower case. -/
def lowercase (cs : List Char) : List Char := lowerFrom [] cs

/-- The first character in upper case, the rest as it is. -/
def capitalize : List Char → List Char
  | [] => []
  | c :: cs => upperChars c ++ cs

/-- A text with its ASCII letters in lower case. -/
def asciiLower (s : String) : String := String.ofList (s.toList.map Char.toLower)

/-- A text with its ASCII letters in upper case. -/
def asciiUpper (s : String) : String := String.ofList (s.toList.map Char.toUpper)

end Scaffold.Text
