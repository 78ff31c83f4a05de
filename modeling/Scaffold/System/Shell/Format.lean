import Scaffold.Decimal
import Scaffold.Text.Search
import Scaffold.System.Shell.Arithmetic

/-!
# Formats

How texts and numbers are written by a format: escapes, and directives that each take an
argument.  A format is used again as long as there are arguments that it takes.
-/

namespace Scaffold.Shell

/-! ## Escapes -/

/-- The octet of an escape after its backslash, and what follows.  A backslash that begins no
escape stands for itself. -/
def escapeAfter (cs : List Char) : Char × List Char :=
  match cs with
  | 'n' :: rest => ('\n', rest)
  | 't' :: rest => ('\t', rest)
  | 'r' :: rest => ('\r', rest)
  | 'a' :: rest => ('\x07', rest)
  | 'b' :: rest => ('\x08', rest)
  | 'e' :: rest => ('\x1b', rest)
  | 'f' :: rest => ('\x0c', rest)
  | 'v' :: rest => ('\x0b', rest)
  | '\\' :: rest => ('\\', rest)
  | cs =>
      let digits := (cs.take 3).takeWhile fun c => '0' ≤ c && c ≤ '7'
      if digits.isEmpty then ('\\', cs)
      else (Char.ofNat (digitsValue 8 digits % 256), cs.drop digits.length)

/-- A text with its escapes replaced, and whether one of them ends all output.  An escape by
number can begin with one more zero. -/
def unescaped : Nat → List Char → List Char × Bool
  | 0, cs => (cs, false)
  | _, [] => ([], false)
  | _, '\\' :: 'c' :: _ => ([], true)
  | n + 1, '\\' :: rest =>
      let rest := match rest with
        | '0' :: d :: more => if '0' ≤ d && d ≤ '7' then d :: more else rest
        | rest => rest
      let (c, rest) := escapeAfter rest
      let (cs, stopped) := unescaped n rest
      (c :: cs, stopped)
  | n + 1, c :: rest =>
      let (cs, stopped) := unescaped n rest
      (c :: cs, stopped)

/-- What is written of some arguments: they are set apart by blanks, and a line break follows. -/
def echoed (arguments : List String) : String :=
  let (plain, arguments) := match arguments with
    | "-n" :: rest => (true, rest)
    | arguments => (false, arguments)
  let line := Text.joinWith " " arguments
  let (cs, stopped) := unescaped (line.length + 1) line.toList
  String.ofList cs ++ (if plain || stopped then "" else "\n")

/-! ## Numbers -/

/-- The digits of a number in a base. -/
def digitsText (base n : Nat) : String := String.ofList (Nat.toDigits base n)

/-- A fraction in so many places. -/
def fixedText (places p q : Nat) : String :=
  let n := Binary.roundHalfEven (p * Nat.pow 10 places) q
  let text := Text.padded (places + 1) n
  let whole := text.length - places
  if places = 0 then text
  else String.ofList (text.toList.take whole) ++ "." ++ String.ofList (text.toList.drop whole)

/-- A fraction as one digit, so many places, and an exponent: the digits and the exponent. -/
def scientific (places p q : Nat) : Nat × Int :=
  if p = 0 then (0, 0)
  else
    let e := Binary.decade p q
    let at' (e : Int) : Nat :=
      let k := Int.ofNat places - e
      if 0 ≤ k then Binary.roundHalfEven (p * Nat.pow 10 k.toNat) q
      else Binary.roundHalfEven p (q * Nat.pow 10 (-k).toNat)
    let n := at' e
    if n < Nat.pow 10 (places + 1) then (n, e) else (at' (e + 1), e + 1)

/-- A fraction with an exponent. -/
def scientificText (places p q : Nat) : String :=
  let (n, e) := scientific places p q
  let digits := (Text.padded (places + 1) n).toList
  let mantissa := String.ofList (digits.take 1) ++
    (if places = 0 then "" else "." ++ String.ofList (digits.drop 1))
  mantissa ++ (if e < 0 then "e-" else "e+") ++ Text.padded 2 e.natAbs

/-- A text of digits without the zeros at the end of its fraction. -/
def withoutZeros (s : String) : String :=
  if !s.toList.contains '.' then s
  else
    let cs := s.toList.takeWhile (· != 'e')
    let cs' := (cs.reverse.dropWhile (· == '0')).reverse
    let cs' := if cs'.getLast? == some '.' then cs'.dropLast else cs'
    String.ofList (cs' ++ s.toList.drop cs.length)

/-- A fraction in the shorter of both forms, with so many digits. -/
def generalText (digits p q : Nat) (full : Bool) : String :=
  let digits := max digits 1
  let (_, e) := scientific (digits - 1) p q
  let s := if e < -4 || Int.ofNat digits ≤ e then scientificText (digits - 1) p q
    else fixedText (Int.ofNat digits - 1 - e).toNat p q
  if full then s else withoutZeros s

/-- A decimal fraction at the beginning of a text, as digits and a power of ten, and what
follows. -/
def readDecimal (cs : List Char) : Option (Nat × Int × List Char) :=
  let whole := cs.takeWhile Char.isDigit
  let rest := cs.drop whole.length
  let (fraction, rest) := match rest with
    | '.' :: more =>
        let fraction := more.takeWhile Char.isDigit
        if whole.isEmpty && fraction.isEmpty then ([], rest)
        else (fraction, more.drop fraction.length)
    | rest => ([], rest)
  if whole.isEmpty && fraction.isEmpty then none
  else
    let (exponent, rest) : Int × List Char := match rest with
      | e :: more =>
          let (negative, ds) := match more with
            | '-' :: ds => (true, ds)
            | '+' :: ds => (false, ds)
            | ds => (false, ds)
          let digits := ds.takeWhile Char.isDigit
          if (e == 'e' || e == 'E') && !digits.isEmpty then
            let n := Int.ofNat (digitsValue 10 digits)
            (if negative then -n else n, ds.drop digits.length)
          else (0, rest)
      | [] => (0, rest)
    some (digitsValue 10 (whole ++ fraction), exponent - Int.ofNat fraction.length, rest)

/-! ## Directives -/

/-- How an argument is written. -/
structure Directive where
  /-- The text of the directive. -/
  source : String
  flags : String
  width : Nat
  precision : Option Nat
  kind : Char

/-- Decide whether a directive has a flag. -/
def Directive.has (d : Directive) (c : Char) : Bool := d.flags.toList.contains c

/-- A text in the width of a directive. -/
def Directive.pad (d : Directive) (s : String) : String :=
  let blanks := String.ofList (List.replicate (d.width - s.length) ' ')
  if d.has '-' then s ++ blanks else blanks ++ s

/-- Digits with what comes before them, in the width of a directive. -/
def Directive.padNumber (d : Directive) (zeros : Bool) (sign digits : String) : String :=
  if zeros && d.has '0' && !d.has '-' then
    sign ++ String.ofList (List.replicate (d.width - sign.length - digits.length) '0') ++ digits
  else d.pad (sign ++ digits)

/-- The sign of a number. -/
def Directive.sign (d : Directive) (negative : Bool) : String :=
  if negative then "-" else if d.has '+' then "+" else if d.has ' ' then " " else ""

/-- A whole number as a directive says. -/
def Directive.number (d : Directive) (n : Int) : String :=
  let digits (base : Nat) (k : Nat) : String :=
    let s := if k = 0 && d.precision == some 0 then "" else digitsText base k
    String.ofList (List.replicate (d.precision.getD 0 - s.length) '0') ++ s
  let zeros := d.precision.isNone
  let natural := (n % Int.ofNat (Nat.pow 2 64)).toNat
  match d.kind with
  | 'o' =>
      let s := digits 8 natural
      d.padNumber zeros "" (if d.has '#' && s.toList.head? != some '0' then "0" ++ s else s)
  | 'x' => d.padNumber zeros (if d.has '#' && natural != 0 then "0x" else "") (digits 16 natural)
  | 'X' =>
      d.padNumber zeros (if d.has '#' && natural != 0 then "0X" else "")
        (String.ofList ((digits 16 natural).toList.map Char.toUpper))
  | 'u' => d.padNumber zeros "" (digits 10 natural)
  | _ => d.padNumber zeros (d.sign (n < 0)) (digits 10 n.natAbs)

/-- A fraction as a directive says: digits times a power of ten, in double precision. -/
def Directive.fraction (d : Directive) (negative : Bool) (n : Nat) (k : Int) : String :=
  let size := Int.ofNat (toString n).length + k
  let b := if n = 0 ∨ size < -400 then some ⟨0, 0⟩
    else if 400 < size then none
    else
      let (p, q) := Binary.tens n k
      Binary.nearest? p q
  let text := match b with
    | none => "inf"
    | some b =>
        let (p, q) := b.fraction
        let places := d.precision.getD 6
        match d.kind.toLower with
        | 'e' => scientificText places p q
        | 'g' => generalText places p q (d.has '#')
        | _ => fixedText places p q
  let text := if d.kind.isUpper then String.ofList (text.toList.map Char.toUpper) else text
  d.padNumber b.isSome (d.sign negative) text

/-! ## Writing by a format -/

/-- How far a format has been used. -/
structure Printing where
  /-- What is written, the last octet first. -/
  written : List Char := []
  /-- The messages about arguments. -/
  messages : List String := []
  status : Nat := 0
  /-- The arguments that are left. -/
  arguments : List String
  /-- Whether nothing more is written. -/
  stopped : Bool := false

/-- Write a text. -/
def Printing.write (s : String) (r : Printing) : Printing :=
  { r with written := s.toList.reverse ++ r.written }

/-- The next argument. -/
def Printing.take (r : Printing) : Option String × Printing :=
  (r.arguments.head?, { r with arguments := r.arguments.drop 1 })

/-- Add a message, which makes a failure. -/
def Printing.complain (message : String) (status : Nat) (r : Printing) : Printing :=
  { r with messages := r.messages ++ [message], status := status }

/-- The number of an argument by a reader of numbers.  A quote before a character makes its code
the number. -/
def Printing.read {α : Type} (zero : α) (code : Nat → α)
    (reader : List Char → Option (α × List Char)) (r : Printing) : α × Printing :=
  let (argument, r) := r.take
  match (argument.getD "").toList with
  | [] => (zero, r)
  | c :: rest =>
      if c == '"' || c == '\'' then (code ((rest.head?.map Char.toNat).getD 0), r)
      else
        let text := argument.getD ""
        match reader (c :: rest) with
        | none => (zero, r.complain (text ++ ": expected numeric value") 1)
        | some (x, []) => (x, r)
        | some (x, _) => (x, r.complain (text ++ ": not completely converted") 1)

/-- The whole number of an argument. -/
def Printing.readInt (r : Printing) : Int × Printing :=
  let (n, s) := r.read 0 Int.ofNat readSigned
  if n < Int64.minValue.toInt || Int64.maxValue.toInt < n then
    let text := (r.arguments.head?).getD ""
    ((clamp n).toInt, s.complain (text ++ ": Numerical result out of range") 1)
  else (n, s)

/-- The fraction of an argument: whether it is negative, its digits, and a power of ten. -/
def Printing.readFraction (r : Printing) : (Bool × Nat × Int) × Printing :=
  r.read (false, 0, 0) (fun n => (false, n, 0)) fun cs =>
    let cs := cs.dropWhile fun c => c == ' ' || ('\t' ≤ c && c ≤ '\r')
    let (negative, cs) := match cs with
      | '-' :: rest => (true, rest)
      | '+' :: rest => (false, rest)
      | cs => (false, cs)
    (readDecimal cs).map fun (n, k, rest) => ((negative, n, k), rest)

/-- Write an argument as a directive says. -/
def Printing.apply (d : Directive) (r : Printing) : Printing :=
  let cut (s : String) : String := match d.precision with
    | some n => String.ofList (s.toList.take n)
    | none => s
  match d.kind with
  | 's' =>
      let (s, r) := r.take
      r.write (d.pad (cut (s.getD "")))
  | 'b' =>
      let (s, r) := r.take
      let (cs, stopped) := unescaped ((s.getD "").length + 1) (s.getD "").toList
      { r.write (d.pad (cut (String.ofList cs))) with stopped }
  | 'c' =>
      let (s, r) := r.take
      r.write (d.pad (((s.getD "").toList.head?).getD '\x00').toString)
  | k =>
      if ['d', 'i', 'o', 'u', 'x', 'X'].contains k then
        let (n, r) := r.readInt
        r.write (d.number n)
      else if ['e', 'E', 'f', 'F', 'g', 'G'].contains k then
        let ((negative, n, e), r) := r.readFraction
        r.write (d.fraction negative n e)
      else { r.complain (d.source ++ ": invalid directive") 2 with stopped := true }

/-- A number in a directive, or the argument that a star takes. -/
def Printing.size (r : Printing) (cs : List Char) : Int × List Char × Printing :=
  match cs with
  | '*' :: rest =>
      let (n, r) := r.readInt
      (n, rest, r)
  | cs =>
      let digits := cs.takeWhile Char.isDigit
      (Int.ofNat (digitsValue 10 digits), cs.drop digits.length, r)

/-- Use a format once, in at most as many steps as it has characters. -/
def Printing.once : Nat → List Char → Printing → Printing
  | 0, _, r => r
  | _, [], r => r
  | n + 1, '\\' :: rest, r =>
      let (c, rest) := escapeAfter rest
      Printing.once n rest (r.write c.toString)
  | n + 1, '%' :: '%' :: rest, r => Printing.once n rest (r.write "%")
  | n + 1, '%' :: cs, r =>
      let flags := cs.takeWhile "#-+ 0".toList.contains
      let (width, rest, r) := r.size (cs.drop flags.length)
      let (precision, rest, r) : Option Nat × List Char × Printing := match rest with
        | '.' :: rest =>
            let (p, rest, r) := r.size rest
            (if p < 0 then none else some p.toNat, rest, r)
        | rest => (none, rest, r)
      match rest with
      | [] => { r.complain "missing format character" 2 with stopped := true }
      | k :: rest =>
          let source := "%" ++ String.ofList (cs.take (cs.length - rest.length))
          let flags := if width < 0 then '-' :: flags else flags
          let r := r.apply ⟨source, String.ofList flags, width.natAbs, precision, k⟩
          if r.stopped then r else Printing.once n rest r
  | n + 1, c :: rest, r => Printing.once n rest (r.write c.toString)

/-- Use a format until the arguments are used up, at most so many times. -/
def Printing.all : Nat → List Char → Printing → Printing
  | 0, _, r => r
  | n + 1, cs, r =>
      let s := Printing.once cs.length cs r
      if s.stopped || s.arguments.isEmpty || s.arguments.length == r.arguments.length then s
      else Printing.all n cs s

/-- What a format makes of arguments. -/
def printed (format : String) (arguments : List String) : Printing :=
  Printing.all (arguments.length + 1) format.toList { arguments }

end Scaffold.Shell
