import RichText.Text

/-!
# Text/Numeral — numbers as text

Decimal and hexadecimal spellings.  `padded 6 n` is the six-digit field of an RTF code-point escape:
shorter numbers are filled with zeros and longer ones are written in full.
-/

namespace RichText.Text

/-- The most decimal digits an integer is read from or written with. -/
def digitLimit : Nat := 4300

/-- The decimal digits of a number, without leading zeros. -/
def ofNat (n : Nat) : Text := ofChars (Nat.toDigits 10 n)

/-- An integer in decimal, with a minus sign when it is negative. -/
def ofInt (i : Int) : Text :=
  if i < 0 then .char '-' :: ofNat i.natAbs else ofNat i.natAbs

/-- The text filled with zeros on the left up to a width. -/
def zeroFilled (width : Nat) (t : Text) : Text :=
  List.replicate (width - t.length) (.char '0') ++ t

/-- A number in decimal with at least `width` digits. -/
def padded (width n : Nat) : Text := zeroFilled width (ofNat n)

/-- An integer in decimal in a field of at least `width`, the sign before the filling. -/
def paddedInt (width : Nat) (i : Int) : Text :=
  if i < 0 then .char '-' :: zeroFilled (width - 1) (ofNat i.natAbs)
  else padded width i.natAbs

/-- A number in lower-case hexadecimal with at least `width` digits. -/
def paddedHex (width n : Nat) : Text := zeroFilled width (ofChars (Nat.toDigits 16 n))

/-- Two lower-case hexadecimal digits for every byte. -/
def ofBytes (bytes : List UInt8) : Text :=
  bytes.flatMap fun b => paddedHex 2 b.toNat

/-- The number a run of ASCII digits spells; other code points count as zero. -/
def toNat (digits : Text) : Nat :=
  digits.foldl (fun n c => n * 10 + (c.code - 48)) 0

/-- The number a nonempty run of ASCII digits spells. -/
def toNat? (t : Text) : Option Nat :=
  if !t.isEmpty && t.all (·.isDigit) then some (toNat t) else none

end RichText.Text
