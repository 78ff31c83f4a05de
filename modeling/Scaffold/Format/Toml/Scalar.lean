import Scaffold.Calendar
import Scaffold.Decimal
import Scaffold.Format.Toml.Basic

/-!
# Scalars of TOML

Texts in their four kinds of quotes, and the words that are not texts: flags, numbers, dates
and times.
-/

namespace Scaffold.Toml

open Scaffold.Text

/-! ## Characters -/

/-- Decide whether a character is a blank inside a line. -/
def isSpaceOrTab (c : Char) : Bool := c == ' ' || c == '\t'

/-- Decide whether a character can stand in a comment or a text on one line. -/
def isInline (c : Char) : Bool := c == '\t' || (0x20 ≤ c.toNat && c != '\x7f')

/-- The characters of a key without quotes. -/
def isKeyChar (c : Char) : Bool := c.isAlphanum || c == '_' || c == '-'

/-- What follows a line break, if one comes next. -/
def lineBreak? : List Char → Option (List Char)
  | '\n' :: rest => some rest
  | '\r' :: '\n' :: rest => some rest
  | _ => none

/-! ## Texts -/

/-- The character an escape stands for, and what follows. -/
def escape? : List Char → Option (Char × List Char)
  | 'b' :: r => some ('\x08', r)
  | 't' :: r => some ('\t', r)
  | 'n' :: r => some ('\n', r)
  | 'f' :: r => some ('\x0c', r)
  | 'r' :: r => some ('\r', r)
  | 'e' :: r => some ('\x1b', r)
  | '"' :: r => some ('"', r)
  | '\\' :: r => some ('\\', r)
  | 'x' :: r => byNumber 2 r
  | 'u' :: r => byNumber 4 r
  | 'U' :: r => byNumber 8 r
  | _ => none
where
  /-- The character with a number of so many digits. -/
  byNumber (width : Nat) (r : List Char) : Option (Char × List Char) := do
    let digits := r.take width
    let n ← hexNumber? digits
    if digits.length = width ∧ n.isValidChar then some (Char.ofNat n, r.drop width) else none

/-- Skip blanks and line breaks. -/
def skipBlank : List Char → List Char
  | '\r' :: '\n' :: r => skipBlank r
  | c :: r => if isSpaceOrTab c || c == '\n' then skipBlank r else c :: r
  | [] => []

/-- A text on one line, from after its opening quote to after its closing one. -/
def lineText? (quote : Char) : Nat → List Char → Option (List Char × List Char)
  | 0, _ => none
  | _, [] => none
  | fuel + 1, c :: r => do
      if c = quote then return ([], r)
      let (c, r) ← if c = '\\' ∧ quote = '"' then escape? r else if isInline c then some (c, r) else none
      let (more, r) ← lineText? quote fuel r
      return (c :: more, r)

/-- What is left of a line after a backslash at its end, and of the blank lines below it. -/
def continued? (r : List Char) : Option (List Char) := do
  let r ← lineBreak? (r.dropWhile isSpaceOrTab)
  return skipBlank r

/-- A text over several lines, up to three quotes.  Up to two quotes can stand before those.  The
line breaks stay as they are written. -/
def blockText? (quote : Char) : Nat → List Char → Option (List Char × List Char)
  | 0, _ => none
  | _, [] => none
  | fuel + 1, c :: r => do
      let quotes := (c :: r).takeWhile (· == quote)
      if 3 ≤ quotes.length then
        let inside := min (quotes.length - 3) 2
        return (List.replicate inside quote, (c :: r).drop (inside + 3))
      if c = '\\' ∧ quote = '"' then
        match continued? r with
        | some r => blockText? quote fuel r
        | none =>
            let (c, r) ← escape? r
            let (more, r) ← blockText? quote fuel r
            return (c :: more, r)
      else
        if !isInline c && (lineBreak? (c :: r)).isNone then none
        let (more, r) ← blockText? quote fuel r
        return (c :: more, r)

/-- A text from its first quote on. -/
def text? (cs : List Char) : Option (List Char × List Char) :=
  match cs with
  | a :: b :: c :: r =>
      if a = b ∧ b = c ∧ (a = '"' ∨ a = '\'') then
        blockText? a (r.length + 1) ((lineBreak? r).getD r)
      else oneLine cs
  | cs => oneLine cs
where
  /-- A text on one line from its quote on. -/
  oneLine : List Char → Option (List Char × List Char)
    | q :: r => if q = '"' ∨ q = '\'' then lineText? q (r.length + 1) r else none
    | [] => none

/-! ## Numbers -/

/-- Digits without the underscores between them. -/
def joined? (isDigit : Char → Bool) (cs : List Char) : Option (List Char) :=
  let groups := piecesBy (· == '_') cs
  if groups.all fun g => !g.isEmpty && g.all isDigit then some groups.flatten else none

/-- A word without its sign, and whether that was a minus. -/
def signed (cs : List Char) : Bool × List Char :=
  match cs with
  | '-' :: r => (true, r)
  | '+' :: r => (false, r)
  | r => (false, r)

/-- Decide whether digits begin with a needless zero. -/
def hasLeadingZero : List Char → Bool
  | '0' :: _ :: _ => true
  | _ => false

/-- A whole number within 64 bits. -/
def within? (n : Int) : Option Toml :=
  if -9223372036854775808 ≤ n ∧ n ≤ 9223372036854775807 then some (.integer n) else none

/-- A whole number of another base after its mark. -/
def based? (base : Nat) (cs : List Char) : Option Toml := do
  let isDigit (c : Char) : Bool := ((hexDigit? c).map fun d => decide (d < base)).getD false
  let digits ← joined? isDigit cs
  within? (digits.foldl (fun n c => n * base + Int.ofNat ((hexDigit? c).getD 0)) 0)

/-- A fraction: digits, then a point and digits, an exponent, or both.  One that is too large is
none. -/
def fraction? (cs : List Char) : Option Toml := do
  let (negative, body) := signed cs
  if body = "inf".toList then return .fraction (if negative then "-inf" else "inf")
  if body = "nan".toList then return .fraction "NaN"
  let base := body.takeWhile fun c => c != 'e' && c != 'E'
  let whole ← joined? Char.isDigit (base.takeWhile (· != '.'))
  if hasLeadingZero whole then none
  let places ← match base.dropWhile (· != '.') with
    | [] => some []
    | _ :: r => joined? Char.isDigit r
  let exponent ← match body.drop base.length with
    | [] => some (0 : Int)
    | _ :: r =>
        let (negative, digits) := signed r
        (joined? Char.isDigit digits).map fun ds =>
          if negative then -Int.ofNat (numberOf ds) else Int.ofNat (numberOf ds)
  if places.isEmpty && body.length = base.length then none
  let value := doubleText negative (numberOf (whole ++ places)) (exponent - Int.ofNat places.length)
  if endsWith value "inf" then none else some (.fraction value)

/-- A number. -/
def number? (cs : List Char) : Option Toml :=
  match cs with
  | '0' :: 'x' :: r => based? 16 r
  | '0' :: 'o' :: r => based? 8 r
  | '0' :: 'b' :: r => based? 2 r
  | cs =>
      let (negative, body) := signed cs
      match joined? Char.isDigit body with
      | some digits =>
          if hasLeadingZero digits then none
          else within? (if negative then -Int.ofNat (numberOf digits) else Int.ofNat (numberOf digits))
      | none => fraction? cs

/-! ## Dates and times -/

/-- A number of two digits up to a bound. -/
def twoDigits? (least most : Nat) : List Char → Option (List Char)
  | a :: b :: r =>
      if a.isDigit && b.isDigit && least ≤ numberOf [a, b] && numberOf [a, b] ≤ most then some r
      else none
  | _ => none

/-- What follows a given character. -/
def after? (ch : Char) : List Char → Option (List Char)
  | c :: r => if c = ch then some r else none
  | [] => none

/-- What follows a date of the calendar. -/
def date? (cs : List Char) : Option (List Char) := do
  let year := cs.take 4
  if year.length ≠ 4 || !year.all Char.isDigit then none
  let r ← twoDigits? 1 12 (← after? '-' (cs.drop 4))
  let r ← twoDigits? 1 31 (← after? '-' r)
  let date : Date := ⟨numberOf year, numberOf ((cs.drop 5).take 2), numberOf ((cs.drop 8).take 2)⟩
  if date.isValid then some r else none

/-- A time: its text without needless zeros, and what follows.  Seconds can be left out. -/
def time? (cs : List Char) : Option (List Char × List Char) := do
  let r ← twoDigits? 0 59 (← after? ':' (← twoDigits? 0 23 cs))
  match r with
  | ':' :: r =>
      match ← twoDigits? 0 60 r with
      | '.' :: r =>
          let digits := r.takeWhile Char.isDigit
          if digits.isEmpty then none
          let kept := ((digits.take 9).reverse.dropWhile (· == '0')).reverse
          let whole := cs.take 8
          return (whole ++ '.' :: (if kept.isEmpty then ['0'] else kept), r.drop digits.length)
      | r => return (cs.take 8, r)
  | r => return (cs.take 5, r)

/-- What follows a time: nothing, or an offset from universal time, which is positive if it is
zero. -/
def offset? (cs : List Char) : Option (List Char) :=
  match cs with
  | [] => some []
  | ['Z'] | ['z'] => some ['Z']
  | s :: r => do
      if s ≠ '+' ∧ s ≠ '-' then none
      let r ← twoDigits? 0 59 (← after? ':' (← twoDigits? 0 23 r))
      if !r.isEmpty then none
      return if cs = "-00:00".toList then "+00:00".toList else cs

/-- A date, a time, or both. -/
def moment? (cs : List Char) : Option Toml :=
  let whole := match date? cs with
    | some [] => some cs
    | some (t :: r) =>
        if t = 'T' ∨ t = 't' ∨ t = ' ' then do
          let (time, r) ← time? r
          return cs.take 10 ++ 'T' :: (time ++ (← offset? r))
        else none
    | none => do
        let (time, r) ← time? cs
        if r.isEmpty then some time else none
  whole.map fun cs => .moment (String.ofList cs)

/-- Decide whether a character can belong to a word that is not a text. -/
def isWordChar (c : Char) : Bool := c.isAlphanum || "+-_.:".toList.contains c

/-- The word at the beginning; a date goes on after a space if a time follows. -/
def word (cs : List Char) : List Char :=
  let first := cs.takeWhile isWordChar
  match cs.drop first.length with
  | ' ' :: c :: r =>
      if date? first = some [] && c.isDigit then first ++ ' ' :: (c :: r).takeWhile isWordChar
      else first
  | _ => first

/-- A word that is not a text. -/
def ofWord? (cs : List Char) : Option Toml :=
  if cs = "true".toList then some (.flag true)
  else if cs = "false".toList then some (.flag false)
  else if (date? cs).isSome || (time? cs).isSome then moment? cs
  else number? cs

example : (text? "\"a\\tb\" x".toList) = some (['a', '\t', 'b'], " x".toList) := by decide +kernel

end Scaffold.Toml
