import Scaffold.Calendar
import Scaffold.Text.Blank
import Scaffold.Text.Digits
import Scaffold.Text.Search

/-!
# Timestamps

A moment is written as date and time in universal time, with no fraction of a second or with
three, six or nine digits of it.  It is read in the same form with any offset; blanks are
allowed between the parts, and the separator between date and time is a letter or a blank.
-/

namespace Scaffold.Instant

open Scaffold.Text

/-! ## Writing -/

/-- A thousand million. -/
def billion : Nat := 1000000000

/-- A year; outside of four digits it has a sign. -/
def yearText (year : Int) : String :=
  if 0 ≤ year ∧ year ≤ 9999 then padded 4 year.toNat
  else (if year < 0 then "-" else "+") ++ padded 4 year.natAbs

/-- The fraction of a second, in the fewest groups of three digits. -/
def fractionText (nanos : Nat) : String :=
  if nanos = 0 then ""
  else if nanos % 1000000 = 0 then "." ++ padded 3 (nanos / 1000000)
  else if nanos % 1000 = 0 then "." ++ padded 6 (nanos / 1000)
  else "." ++ padded 9 nanos

/-- A moment with the given name for universal time.  The second of a leap second is 60. -/
def text (zone : String) (t : Instant) : String :=
  let d := t.date
  let second := (t.seconds % daySeconds).toNat
  let leap := if billion ≤ t.nanos then 1 else 0
  let date := yearText d.year ++ "-" ++ padded 2 d.month ++ "-" ++ padded 2 d.day
  let time := padded 2 (second / 3600) ++ ":" ++ padded 2 (second / 60 % 60) ++ ":" ++
    padded 2 (second % 60 + leap)
  date ++ "T" ++ time ++ fractionText (t.nanos % billion) ++ zone

/-! ## Reading -/

/-- Skip blanks. -/
def skipBlanks (cs : List Char) : List Char := cs.dropWhile isBlank

/-- Skip blanks and then a character that has to be there. -/
def expect (c : Char) (cs : List Char) : Option (List Char) :=
  match skipBlanks cs with
  | d :: rest => if d = c then some rest else none
  | [] => none

/-- Read a number of at most two digits within bounds, after blanks. -/
def bounded (low high : Nat) (cs : List Char) : Option (Nat × List Char) := do
  let (n, rest) ← leadingNumber? 2 (skipBlanks cs)
  if low ≤ n ∧ n ≤ high then some (n, rest) else none

/-- Read a year: of at most four digits, or of any number after a sign. -/
def readYear (cs : List Char) : Option (Int × List Char) := do
  match skipBlanks cs with
  | '+' :: rest =>
      let (n, rest) ← leadingNumber? rest.length rest
      return (Int.ofNat n, rest)
  | '-' :: rest =>
      let (n, rest) ← leadingNumber? rest.length rest
      return (-Int.ofNat n, rest)
  | cs =>
      let (n, rest) ← leadingNumber? 4 cs
      return (Int.ofNat n, rest)

/-- Read a fraction of a second, if there is one; digits after the ninth count for nothing. -/
def readFraction : List Char → Option (Nat × List Char)
  | '.' :: rest => do
      let digits := (rest.take 9).takeWhile Char.isDigit
      if digits.isEmpty then none
      else some (numberOf digits * Nat.pow 10 (9 - digits.length), rest.dropWhile Char.isDigit)
  | cs => some (0, cs)

/-- The number of two digits. -/
def twoDigits? : Char → Char → Option Nat
  | a, b => if a.isDigit ∧ b.isDigit then some (numberOf [a, b]) else none

/-- Read the minutes of an offset, which may be missing. -/
def readOffsetMinutes : List Char → Option (Nat × List Char)
  | [] => some (0, [])
  | [_] => none
  | a :: b :: rest => do
      let minutes ← twoDigits? a b
      if minutes < 60 then some (minutes, rest) else none

/-- Read an offset from universal time, in seconds. -/
def readOffset (cs : List Char) : Option (Int × List Char) := do
  match cs with
  | 'Z' :: rest | 'z' :: rest => return (0, rest)
  | u :: t :: c :: rest =>
      if [u, t, c].map Char.toUpper = ['U', 'T', 'C'] then return (0, rest)
      let sign ← if u = '+' then some 1 else if u = '-' ∨ u = '−' then some (-1) else none
      let hours ← twoDigits? t c
      let (minutes, rest) ← readOffsetMinutes (rest.dropWhile fun c => c == ':' || isBlank c)
      return (sign * (Int.ofNat hours * 3600 + Int.ofNat minutes * 60), rest)
  | _ => none

/-- The years that can be told. -/
def isTellable (year : Int) : Bool := -262143 ≤ year && year ≤ 262142

/-- Read a moment. -/
def parse? (s : String) : Option Instant := do
  let (year, cs) ← readYear s.toList
  let (month, cs) ← bounded 1 12 (← expect '-' cs)
  let (day, cs) ← bounded 1 31 (← expect '-' cs)
  let cs ← match cs with
    | 't' :: rest | 'T' :: rest | ' ' :: rest => some rest
    | _ => none
  let (hour, cs) ← bounded 0 23 cs
  let (minute, cs) ← bounded 0 59 (← expect ':' cs)
  let (second, cs) ← bounded 0 60 (← expect ':' cs)
  let (nanos, cs) ← readFraction cs
  let (offset, cs) ← readOffset (skipBlanks cs)
  let date : Date := ⟨year, month, day⟩
  if !(skipBlanks cs).isEmpty || !isTellable year || !date.isValid
      || daySeconds ≤ Int.ofNat offset.natAbs then none
  else
    let leap := second = 60
    let seconds := date.toDays * daySeconds + Int.ofNat (hour * 3600 + minute * 60) +
      Int.ofNat (if leap then 59 else second) - offset
    let moment : Instant := ⟨seconds, if leap then nanos + billion else nanos⟩
    if isTellable moment.date.year then some moment else none

example : (parse? "2026-10-19T14:00:00.12+02:00").map (text "Z")
    = some "2026-10-19T12:00:00.120Z" := by decide +kernel
example : (parse? " +12026 - 1-2 23 :59: 60 utc ").map (text "Z")
    = some "+12026-01-02T23:59:60Z" := by decide +kernel
example : parse? "2026-10-19T14:00:00" = none := by decide +kernel

end Scaffold.Instant
