import RichText.Text.Numeral

/-!
# Json/Error — why a text is no JSON document

A fault with the place it was met at.  Lines and columns count from one, offsets from zero.
-/

namespace RichText.Json

/-- What was wrong with a JSON text. -/
inductive Fault
  | byteOrderMark
  | expectedValue
  | expectedName
  | expectedColon
  | expectedComma
  | extraData
  | unterminatedText
  | controlCharacter
  | unknownEscape
  | badUnicodeEscape
  deriving DecidableEq

/-- A fault and its offset. -/
structure Error where
  fault : Fault
  line : Nat
  column : Nat
  offset : Nat
  deriving DecidableEq

namespace Fault

/-- The wording of a fault. -/
def wording : Fault → Text
  | byteOrderMark => "Unexpected UTF-8 BOM (decode using utf-8-sig)"
  | expectedValue => "Expecting value"
  | expectedName => "Expecting property name enclosed in double quotes"
  | expectedColon => "Expecting ':' delimiter"
  | expectedComma => "Expecting ',' delimiter"
  | extraData => "Extra data"
  | unterminatedText => "Unterminated string starting at"
  | controlCharacter => "Invalid control character at"
  | unknownEscape => "Invalid \\escape"
  | badUnicodeEscape => "Invalid \\uXXXX escape"

end Fault

namespace Error

/-- The error of a fault at an offset of a text. -/
def ofOffset (source : Text) (fault : Fault) (offset : Nat) : Error :=
  let before := source.take offset
  let line := before.count (.char '\n')
  let column := (before.reverse.takeWhile (· ≠ .char '\n')).length
  ⟨fault, line + 1, column + 1, offset⟩

/-- The wording of a fault with its place. -/
def message (e : Error) : Text :=
  e.fault.wording ++ ": line " ++ Text.ofNat e.line ++ " column " ++ Text.ofNat e.column
    ++ " (char " ++ Text.ofNat e.offset ++ ")"

end Error

end RichText.Json
