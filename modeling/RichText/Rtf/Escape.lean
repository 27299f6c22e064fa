import RichText.Text.Surrogate
import RichText.Text.Numeral

/-!
# Rtf/Escape — text inside markup

Text goes into RTF as ASCII: backslashes and braces get a backslash in front, code points above
`U+007F` become a decimal escape in a group of their own, and a tab becomes a control word.  The four
replacements run one after the other over the whole text.
-/

namespace RichText.Rtf

/-- How characters above `U+FFFF` are written: as two surrogate units or as one code point. -/
inductive UnicodeMode
  | utf16
  | codepoint
  deriving DecidableEq, Inhabited

/-- The group of one decimal escape. -/
def escapeGroup (n : Nat) : Text := "\\ud\x7b\\uc6\\u" ++ Text.padded 6 n ++ "\x7d"

/-- The escape of a code point above `U+007F`. -/
def escapeCode (mode : UnicodeMode) (c : CodePoint) : Text :=
  match mode with
  | .utf16 => c.units16.flatMap escapeGroup
  | .codepoint => escapeGroup c.code

/-- A text with a code point replaced by a text. -/
def replace (c : CodePoint) (image t : Text) : Text :=
  t.flatMap fun d => if d = c then image else [d]

/-- A text with every code point above `U+007F` escaped. -/
def escapeBeyondAscii (mode : UnicodeMode) (t : Text) : Text :=
  t.flatMap fun c => if c.isAscii then [c] else escapeCode mode c

/-- **Text as RTF.** -/
def escape (mode : UnicodeMode) (t : Text) : Text :=
  replace (.char '\t') "\\tab" <|
    escapeBeyondAscii mode <|
      replace (.char '}') "\\\x7d" <| replace (.char '{') "\\\x7b" <| replace (.char '\\') "\\\\" t

/-- The RTF of one code point. -/
def escapedImage (mode : UnicodeMode) (c : CodePoint) : Text :=
  match c with
  | .char '\\' => "\\\\"
  | .char '{' => "\\\x7b"
  | .char '}' => "\\\x7d"
  | .char '\t' => "\\tab"
  | c => if c.isAscii then [c] else escapeCode mode c

end RichText.Rtf
