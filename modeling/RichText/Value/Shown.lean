import RichText.Value

/-!
# Value/Shown — values in messages

`Value.shown` is a value on its own, with text as it stands; `Value.quoted` is a value inside another
one, with text between quotation marks.
-/

namespace RichText

namespace Text

/-- Texts joined with a separator between them. -/
def joinWith (separator : Text) : List Text → Text
  | [] => []
  | [t] => t
  | t :: rest => t ++ separator ++ joinWith separator rest

/-- Texts between brackets, separated by commas. -/
def bracketed (opening closing : Text) (items : List Text) : Text :=
  opening ++ joinWith ", " items ++ closing

end Text

/-- A byte inside quoted bytes. -/
def quotedByte (mark : Char) (b : UInt8) : Text :=
  if 0x20 ≤ b.toNat ∧ b.toNat < 0x7F ∨ b.toNat = 9 ∨ b.toNat = 10 ∨ b.toNat = 13 then
    (CodePoint.ofCode b.toNat).quoted mark
  else "\\x" ++ Text.paddedHex 2 b.toNat

/-- Bytes between quotation marks, those of visible ASCII as characters. -/
def quotedBytes (bytes : List UInt8) : Text :=
  let mark := if bytes.contains 0x27 && !bytes.contains 0x22 then '"' else '\''
  "b" ++ [CodePoint.char mark] ++ bytes.flatMap (quotedByte mark) ++ [CodePoint.char mark]

namespace Date

/-- A date inside another value. -/
def quoted (d : Date) : Text :=
  Text.bracketed "datetime.date(" ")" [Text.ofNat d.year, Text.ofNat d.month, Text.ofNat d.day]

end Date

namespace Value

/-- A value that is no list, set or mapping, inside another value. -/
def quotedScalar : Value → Text
  | null => "None"
  | bool b => if b then "True" else "False"
  | int i => Text.ofInt i
  | float x => x.text
  | text t => t.quoted
  | bytes b => quotedBytes b
  | date d => d.quoted
  | moment m => m.textWith " "
  | around isMapping => if isMapping then "\x7b...\x7d" else "[...]"
  | _ => []

mutual

/-- A value inside another value. -/
def quoted : Value → Text
  | list items => Text.bracketed "[" "]" (quotedItems items)
  | dict entries => Text.bracketed "\x7b" "\x7d" (quotedEntries entries)
  | set items => if items.isEmpty then "set()" else Text.bracketed "\x7b" "\x7d" (quotedItems items)
  | v => v.quotedScalar

/-- The items of a list. -/
def quotedItems : List Value → List Text
  | [] => []
  | v :: rest => quoted v :: quotedItems rest

/-- The entries of a mapping. -/
def quotedEntries : List (Value × Value) → List Text
  | [] => []
  | (k, v) :: rest => (quoted k ++ ": " ++ quoted v) :: quotedEntries rest

end

/-- A value on its own in a message. -/
def shown : Value → Text
  | text t => t
  | date d => d.text
  | v => v.quoted

end Value

end RichText
