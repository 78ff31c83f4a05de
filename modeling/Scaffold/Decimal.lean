import Scaffold.Text.Digits

/-!
# Decimal fractions in double precision

A decimal fraction read in double precision and written again with as few digits as read back
as the same number.  All of it is exact arithmetic on whole numbers: a number of double
precision is a whole number of at most 53 bits times a power of two, and the fractions that
round to it lie between the middles to its neighbours.
-/

namespace Scaffold

open Scaffold.Text

/-- A number of double precision, without its sign. -/
structure Binary where
  /-- The whole number. -/
  significand : Nat
  /-- The power of two it is multiplied with. -/
  exponent : Int
deriving Repr, DecidableEq

namespace Binary

/-- The number as a fraction. -/
def fraction (b : Binary) : Nat × Nat :=
  if 0 ≤ b.exponent then (b.significand * Nat.pow 2 b.exponent.toNat, 1)
  else (b.significand, Nat.pow 2 (-b.exponent).toNat)

/-- A fraction rounded to a whole number; a half goes to the even neighbour. -/
def roundHalfEven (p q : Nat) : Nat :=
  let n := p / q
  let twice := 2 * (p % q)
  if twice < q ∨ (twice = q ∧ n % 2 = 0) then n else n + 1

/-- The number nearest to a fraction with a given power of two. -/
def withExponent (p q : Nat) (e : Int) : Nat :=
  if 0 ≤ e then roundHalfEven p (q * Nat.pow 2 e.toNat)
  else roundHalfEven (p * Nat.pow 2 (-e).toNat) q

/-- The least power of two. -/
def leastExponent : Int := -1074

/-- The number nearest to a fraction, or `none` where that is infinite. -/
def nearest? (p q : Nat) : Option Binary :=
  if p = 0 then some ⟨0, 0⟩
  else
    let e := max leastExponent (Int.ofNat (Nat.log2 p) - Int.ofNat (Nat.log2 q) - 53)
    let m := withExponent p q e
    let b : Binary :=
      if m < Nat.pow 2 53 then ⟨m, e⟩
      else
        let m' := withExponent p q (e + 1)
        if m' < Nat.pow 2 53 then ⟨m', e + 1⟩ else ⟨withExponent p q (e + 2), e + 2⟩
    if 971 < b.exponent then none else some b

/-- Decide whether a fraction rounds to a number, that is, lies between the middles to its
neighbours.  The middles themselves do when the number is even. -/
def roundsFrom (b : Binary) (p q : Nat) : Bool :=
  let closer := b.significand = Nat.pow 2 52 && leastExponent < b.exponent
  let low := 4 * b.significand - (if closer then 1 else 2)
  let high := 4 * b.significand + 2
  let e := b.exponent - 2
  let scaled (n : Nat) : Nat × Nat :=
    if 0 ≤ e then (n * Nat.pow 2 e.toNat * q, p) else (n * q, p * Nat.pow 2 (-e).toNat)
  let (lowSide, middleOfLow) := scaled low
  let (highSide, middleOfHigh) := scaled high
  if b.significand % 2 = 0 then lowSide ≤ middleOfLow && middleOfHigh ≤ highSide
  else lowSide < middleOfLow && middleOfHigh < highSide

/-- The power of ten a fraction that is not zero is at least, and not ten times. -/
def decade (p q : Nat) : Int :=
  if q ≤ p then Int.ofNat ((toString (p / q)).length - 1)
  else -(Int.ofNat (go (Nat.log2 q + 1) 1))
where
  /-- The least number of places to move by that makes the fraction one or more. -/
  go : Nat → Nat → Nat
    | 0, n => n
    | fuel + 1, n => if q ≤ p * Nat.pow 10 n then n else go fuel (n + 1)

/-- The fraction `n * 10 ^ k`. -/
def tens (n : Nat) (k : Int) : Nat × Nat :=
  if 0 ≤ k then (n * Nat.pow 10 k.toNat, 1) else (n, Nat.pow 10 (-k).toNat)

/-- The decimal with so many digits that is nearest to the number, if it reads back. -/
def digits? (b : Binary) (count : Nat) : Option (Nat × Int) :=
  let (p, q) := b.fraction
  let k := decade p q + 1 - Int.ofNat count
  let (p', q') := if 0 ≤ k then (p, q * Nat.pow 10 k.toNat) else (p * Nat.pow 10 (-k).toNat, q)
  let n := roundHalfEven p' q'
  let other := if n * q' ≤ p' then n + 1 else n - 1
  let reads (n : Nat) : Bool :=
    let (x, y) := tens n k
    0 < n && b.roundsFrom x y
  if reads n then some (n, k) else if reads other then some (other, k) else none

/-- The decimal with the fewest digits that reads back as the number: digits and the power of
ten they are multiplied with. -/
def shortest (b : Binary) : Nat × Int :=
  if b.significand = 0 then (0, 0)
  else ((List.range 17).findSome? fun i => b.digits? (i + 1)).getD (0, 0)

end Binary

/-- Digits times a power of ten, without an exponent. -/
def positional (digits : Nat) (k : Int) : String :=
  let text := toString digits
  if 0 ≤ k then text ++ String.ofList (List.replicate (if digits = 0 then 0 else k.toNat) '0')
  else
    let places := (-k).toNat
    let text := padded (places + 1) digits
    let whole := text.toList.take (text.length - places)
    let fraction := text.toList.drop (text.length - places)
    let fraction := (fraction.reverse.dropWhile (· == '0')).reverse
    String.ofList (if fraction.isEmpty then whole else whole ++ '.' :: fraction)

/-- The text of `n * 10 ^ k` in double precision. -/
def doubleText (negative : Bool) (n : Nat) (k : Int) : String :=
  let size := Int.ofNat (toString n).length + k
  let b := if n = 0 ∨ size < -400 then some ⟨0, 0⟩
    else if 400 < size then none
    else
      let (p, q) := Binary.tens n k
      Binary.nearest? p q
  let text := match b with
    | none => "inf"
    | some b =>
        let (digits, k) := b.shortest
        positional digits k
  if negative then "-" ++ text else text

/-- Read a decimal fraction after its sign: digits with a point somewhere, and an exponent. -/
def decimal? (cs : List Char) : Option (Nat × Int) := do
  let whole := cs.takeWhile Char.isDigit
  let rest := cs.dropWhile Char.isDigit
  let (fraction, rest) := match rest with
    | '.' :: rest => (rest.takeWhile Char.isDigit, rest.dropWhile Char.isDigit)
    | rest => ([], rest)
  if whole.isEmpty && fraction.isEmpty then none
  let exponent ← match rest with
    | [] => some (0 : Int)
    | e :: rest =>
        if e ≠ 'e' ∧ e ≠ 'E' then none
        else
          let (negative, digits) := match rest with
            | '-' :: rest => (true, rest)
            | '+' :: rest => (false, rest)
            | rest => (false, rest)
          if digits.isEmpty || !digits.all Char.isDigit then none
          else some (if negative then -Int.ofNat (numberOf digits) else Int.ofNat (numberOf digits))
  return (numberOf (whole ++ fraction), exponent - Int.ofNat fraction.length)

example : doubleText false 150 (-2) = "1.5" ∧ doubleText false 1 21 = "1000000000000000000000"
    ∧ doubleText true 1 (-3) = "-0.001" ∧ doubleText false 3 (-1) = "0.3" := by decide +kernel
example : doubleText false 30000000000000004 (-17) = "0.30000000000000004"
    ∧ doubleText false 9007199254740993 0 = "9007199254740992" := by decide +kernel
example : decimal? "5.e1".toList = some (5, 1) ∧ decimal? ".".toList = none := by decide

end Scaffold
