import RichText.Failure

/-!
# Yaml/Cursor — a place in a YAML text

A cursor holds the characters still to be read and where they begin: how many characters come
before, on which line, and in which column.  The end of the text reads as `Cursor.ending`, which no
text holds, since a text is read only when all of its characters are printable.
-/

namespace RichText.Yaml

/-! ## Characters -/

/-- A character YAML texts may hold. -/
def isPrintable (c : CodePoint) : Bool :=
  let n := c.code
  n == 0x9 || n == 0xA || n == 0xD || (0x20 ≤ n && n ≤ 0x7E) || n == 0x85
    || (0xA0 ≤ n && n ≤ 0xD7FF) || (0xE000 ≤ n && n ≤ 0xFFFD) || 0x10000 ≤ n

/-- The characters of a text that holds only printable ones. -/
def characters? (t : Text) : Option (List Char) :=
  t.mapM fun c => match c with
    | .char x => if isPrintable c then some x else none
    | _ => none

/-- What the end of the text reads as. -/
def ending : Char := '\x00'

def isBreak (c : Char) : Bool :=
  c == '\n' || c == '\r' || c == '\x85' || c == '\u2028' || c == '\u2029'

/-- A line break or the end of the text. -/
def endsLine (c : Char) : Bool := isBreak c || c == ending

/-- A space, a line break or the end of the text. -/
def endsField (c : Char) : Bool := c == ' ' || endsLine c

/-- White space or the end of the text. -/
def endsWord (c : Char) : Bool := c == '\t' || endsField c

/-- A character of names: an ASCII letter or digit, a hyphen or an underscore. -/
def isNameChar (c : Char) : Bool := c.isAlphanum || c == '-' || c == '_'

/-- A bracket or comma of the flow style. -/
def isFlowMark (c : Char) : Bool := c == ',' || c == '[' || c == ']' || c == '\x7b' || c == '\x7d'

/-! ## Cursors -/

/-- **A place in a text**, with what follows it. -/
structure Cursor where
  rest : List Char
  index : Nat := 0
  line : Nat := 0
  column : Nat := 0

namespace Cursor

/-- The character at the cursor. -/
def head (c : Cursor) : Char := c.rest.headD ending

/-- The character `n` places after the cursor. -/
def ahead (c : Cursor) (n : Nat) : Char := c.rest.getD n ending

/-- The cursor behind one character.  A carriage return before a line feed does not end its line. -/
def next (c : Cursor) : Cursor :=
  match c.rest with
  | [] => c
  | x :: rest =>
    let index := c.index + 1
    if isBreak x && !(x == '\r' && rest.head? == some '\n') then ⟨rest, index, c.line + 1, 0⟩
    else if x == '\uFEFF' then ⟨rest, index, c.line, c.column⟩
    else ⟨rest, index, c.line, c.column + 1⟩

/-- The cursor behind `n` characters. -/
def skip (n : Nat) (c : Cursor) : Cursor := n.repeat next c

/-- The characters of a class at the cursor, and the cursor behind them. -/
def span (p : Char → Bool) (c : Cursor) : List Char × Cursor :=
  let found := c.rest.takeWhile p
  (found, c.skip found.length)

/-- The cursor behind the characters of a class. -/
def skipWhile (p : Char → Bool) (c : Cursor) : Cursor := (c.span p).2

def skipSpaces (c : Cursor) : Cursor := c.skipWhile (· == ' ')

/-- The line break at the cursor, and the cursor behind it.  All breaks but the separators of
Unicode count as line feeds. -/
def break? (c : Cursor) : Option (Char × Cursor) :=
  match c.rest with
  | '\r' :: '\n' :: _ => some ('\n', c.skip 2)
  | x :: _ =>
    if x == '\u2028' || x == '\u2029' then some (x, c.next)
    else if isBreak x then some ('\n', c.next)
    else none
  | [] => none

/-- The cursor behind a line break, if there is one. -/
def skipBreak (c : Cursor) : Cursor :=
  match c.break? with
  | some (_, c) => c
  | none => c

/-- The cursor at the end of its line, if only spaces and a comment come before. -/
def blankLine? (c : Cursor) : Option Cursor :=
  let c := c.skipSpaces
  let c := if c.head == '#' then c.skipWhile (!isBreak ·) else c
  if endsLine c.head then some c.skipBreak else none

/-- Whether the cursor stands before three times a character and white space. -/
def isAtMark (mark : Char) (c : Cursor) : Bool :=
  c.rest.take 3 == [mark, mark, mark] && endsWord (c.ahead 3)

/-- Whether the cursor stands before a mark that separates documents. -/
def isAtSeparator (c : Cursor) : Bool := c.isAtMark '-' || c.isAtMark '.'

end Cursor

end RichText.Yaml
