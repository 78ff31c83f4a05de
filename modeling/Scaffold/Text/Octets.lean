import Scaffold.Text.Utf8

/-!
# Octets as characters

A text of octets: every character of it is below 256 and stands for one octet.  What works on
octets one by one can so be written for texts.
-/

namespace Scaffold.Text

/-- Bytes as a text of octets. -/
def ofBytes (bytes : List UInt8) : String :=
  String.ofList (bytes.map fun b => Char.ofNat b.toNat)

/-- The octets of a text. -/
def octets (s : String) : String := ofBytes s.toUTF8.toList

/-- The bytes of a text of octets. -/
def toBytes (s : String) : List UInt8 := s.toList.map fun c => UInt8.ofNat c.toNat

/-- The text that octets encode. -/
def ofOctets (s : String) : String := lossyText ⟨(toBytes s).toArray⟩

example : octets "é" = "\u00c3\u00a9" ∧ ofOctets (octets "é") = "é" := by decide +kernel

end Scaffold.Text
