/-!
# Bytes as text

Bytes that need not be text, read as text all the same.  What is text reads as itself.
-/

namespace Scaffold.Text

/-- How many bytes of a character are still owed after a first byte, and the range of the
second one. -/
def leadByte (b : UInt8) : Option (Nat × UInt8 × UInt8) :=
  if b < 0x80 then some (0, 0x80, 0xBF)
  else if 0xC2 ≤ b ∧ b ≤ 0xDF then some (1, 0x80, 0xBF)
  else if b = 0xE0 then some (2, 0xA0, 0xBF)
  else if b = 0xED then some (2, 0x80, 0x9F)
  else if 0xE1 ≤ b ∧ b ≤ 0xEF then some (2, 0x80, 0xBF)
  else if b = 0xF0 then some (3, 0x90, 0xBF)
  else if 0xF1 ≤ b ∧ b ≤ 0xF3 then some (3, 0x80, 0xBF)
  else if b = 0xF4 then some (3, 0x80, 0x8F)
  else none

/-- The bytes that continue a character, at most `owed` of them, and what follows. -/
def continuation : Nat → UInt8 → UInt8 → List UInt8 → List UInt8 × List UInt8
  | owed + 1, low, high, b :: rest =>
      if low ≤ b ∧ b ≤ high then
        let (more, rest) := continuation owed 0x80 0xBF rest
        (b :: more, rest)
      else ([], b :: rest)
  | _, _, _, rest => ([], rest)

/-- The character of a first byte and the bytes that continue it. -/
def decodeChar (first : UInt8) (more : List UInt8) : Char :=
  let lead := match more.length with
    | 0 => first.toNat
    | 1 => first.toNat % 32
    | 2 => first.toNat % 16
    | _ => first.toNat % 8
  Char.ofNat (more.foldl (fun n b => n * 64 + b.toNat % 64) lead)

/-- Read bytes as characters.  Each longest beginning of a character that is not one reads as
the replacement character. -/
def lossyChars : Nat → List UInt8 → List Char
  | n + 1, b :: rest =>
      match leadByte b with
      | none => '\uFFFD' :: lossyChars n rest
      | some (owed, low, high) =>
          let (more, rest) := continuation owed low high rest
          (if more.length = owed then decodeChar b more else '\uFFFD') :: lossyChars n rest
  | _, _ => []

/-- The text of bytes that may not be one. -/
def lossyText (bytes : ByteArray) : String :=
  match String.fromUTF8? bytes with
  | some text => text
  | none => String.ofList (lossyChars bytes.size bytes.toList)

example : lossyText ⟨#[0x61, 0xFF, 0x78]⟩ = "a\uFFFDx" := by decide +kernel
example : lossyText ⟨#[0xE2, 0x82, 0x41, 0xC3, 0xA9]⟩ = "\uFFFDAé" := by decide +kernel

end Scaffold.Text
