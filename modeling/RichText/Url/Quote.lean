import RichText.Text.Numeral
import RichText.Text.Utf8

/-!
# Url/Quote — URLs as field arguments

Every byte that could end a quoted field argument or be read as markup is written as a percent sign
and two upper-case hexadecimal digits.  Percent signs stay, so escapes a URL already has are kept.
-/

namespace RichText.Url

/-- The marks that stay as they are. -/
def safeMarks : List Char := "_.-~/:?#[]@!$&'()*+,;=%".toList

/-- A byte that stays as it is. -/
def isSafe (b : UInt8) : Bool :=
  let c := Char.ofNat b.toNat
  b.toNat < 0x80 && (c.isAlphanum || safeMarks.contains c)

/-- The upper-case hexadecimal digit of a number below sixteen. -/
def hexDigit (n : Nat) : Char := (Nat.digitChar n).toUpper

/-- A byte as a percent escape. -/
def percentEscape (b : UInt8) : Text :=
  [.char '%', .char (hexDigit (b.toNat / 16)), .char (hexDigit (b.toNat % 16))]

/-- A byte in a field argument. -/
def quoteByte (b : UInt8) : Text :=
  if isSafe b then [.char (Char.ofNat b.toNat)] else percentEscape b

/-- Bytes in a field argument. -/
def quoteBytes (bytes : List UInt8) : Text := bytes.flatMap quoteByte

/-- Bytes as a field argument between quotation marks. -/
def fieldArgument (bytes : List UInt8) : Text := "\"" ++ quoteBytes bytes ++ "\""

end RichText.Url
