import RichText.Text.Class
import RichText.Text.Numeral

/-!
# Text/Quoted — text between quotation marks

How messages show a text: between single quotes, or double ones when it holds a single quote and no
double one, with code points that show nothing spelled by number.
-/

namespace RichText

namespace CodePoint

/-- A code point inside a text quoted with `mark`. -/
def quoted (mark : Char) (c : CodePoint) : Text :=
  match c with
  | char '\\' => "\\\\"
  | char '\n' => "\\n"
  | char '\r' => "\\r"
  | char '\t' => "\\t"
  | c =>
    if c = char mark then [char '\\', c]
    else if !c.isHidden then [c]
    else if c.code < 0x100 then "\\x" ++ Text.paddedHex 2 c.code
    else if c.code < 0x10000 then "\\u" ++ Text.paddedHex 4 c.code
    else "\\U" ++ Text.paddedHex 8 c.code

end CodePoint

namespace Text

/-- The quotation mark a text is shown with. -/
def quoteMark (t : Text) : Char :=
  if t.contains (.char '\'') && !t.contains (.char '"') then '"' else '\''

/-- A text between quotation marks. -/
def quoted (t : Text) : Text :=
  [.char t.quoteMark] ++ t.flatMap (·.quoted t.quoteMark) ++ [.char t.quoteMark]

end Text

end RichText
