import RichText.Text.Class
import RichText.Text.Line

/-!
# Markdown/Line — lines and their indentation

A document is read line by line.  Indentation is counted in columns, and a tab leads to the next
column that is a multiple of four, so that a tab can be indentation in part: `Line.owed` columns of it
are then left.
-/

namespace RichText.Markdown

/-- Lines of a text without their ends, which are line feeds, carriage returns or both. -/
def splitLines : Text → List Text
  | [] => []
  | .char '\r' :: .char '\n' :: rest => [] :: splitLines rest
  | .char '\r' :: rest => [] :: splitLines rest
  | .char '\n' :: rest => [] :: splitLines rest
  | c :: rest => Text.consLine c (splitLines rest)

/-- A space or a tab. -/
def isGap (c : CodePoint) : Bool := c.is ' ' || c.is '\t'

/-- A space, a tab or a line end. -/
def isWhite (c : CodePoint) : Bool := isGap c || c.is '\n' || c.is '\r' || c.is '\x0b' || c.is '\x0c'

/-- **What is left of a line**: its text, the column it is read from, and how many columns of a tab
come before the text. -/
structure Line where
  text : Text
  column : Nat := 0
  owed : Nat := 0

/-- The columns of the white space at the start of a text that begins in a column. -/
def gapWidth (column : Nat) : Text → Nat
  | .char ' ' :: rest => 1 + gapWidth (column + 1) rest
  | .char '\t' :: rest =>
    let width := 4 - column % 4
    width + gapWidth (column + width) rest
  | _ => 0

/-- The line behind at most `n` columns of white space at the start of a text. -/
def dropGap (n column : Nat) (t : Text) : Line :=
  match t with
  | .char ' ' :: rest => if n = 0 then ⟨t, column, 0⟩ else dropGap (n - 1) (column + 1) rest
  | .char '\t' :: rest =>
    let width := 4 - column % 4
    if n = 0 then ⟨t, column, 0⟩
    else if n < width then ⟨rest, column + n, width - n⟩
    else dropGap (n - width) (column + width) rest
  | t => ⟨t, column, 0⟩

namespace Line

/-- The columns of white space at the start of a line. -/
def indent (l : Line) : Nat := l.owed + gapWidth (l.column + l.owed) l.text

/-- Nothing but white space is left. -/
def isBlank (l : Line) : Bool := l.text.all isGap

/-- The line behind at most `n` columns of white space. -/
def dropColumns (n : Nat) (l : Line) : Line :=
  if n ≤ l.owed then ⟨l.text, l.column + n, l.owed - n⟩
  else dropGap (n - l.owed) (l.column + l.owed) l.text

/-- The text behind the white space at the start of a line. -/
def inked (l : Line) : Text := l.text.dropWhile isGap

/-- The line behind its white space and `n` code points. -/
def dropInked (n : Nat) (l : Line) : Line := ⟨l.inked.drop n, l.column + l.indent + n, 0⟩

/-- The text of a line, with spaces for the columns of a tab. -/
def content (l : Line) : Text := List.replicate l.owed (.char ' ') ++ l.text

/-- Four columns or more of white space. -/
def isIndented (l : Line) : Bool := 4 ≤ l.indent

end Line

end RichText.Markdown
