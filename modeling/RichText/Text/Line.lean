import RichText.Text

/-!
# Text/Line — lines

A line ends after any of the line boundaries of Unicode; a carriage return and a line feed together
are one boundary.  `Text.lines` keeps the boundaries, so the lines of a text concatenate to it.
-/

namespace RichText

namespace CodePoint

/-- A code point that ends a line. -/
def isLineEnd (c : CodePoint) : Bool :=
  let n := c.code
  (0xA ≤ n && n ≤ 0xD) || (0x1C ≤ n && n ≤ 0x1E) || n == 0x85 || n == 0x2028 || n == 0x2029

end CodePoint

namespace Text

/-- Put a code point in front of the first line. -/
def consLine (c : CodePoint) : List Text → List Text
  | [] => [[c]]
  | line :: lines => (c :: line) :: lines

/-- The lines of a text, boundaries included. -/
def lines : Text → List Text
  | [] => []
  | .char '\r' :: .char '\n' :: rest => [.char '\r', .char '\n'] :: lines rest
  | c :: rest => if c.isLineEnd then [c] :: lines rest else consLine c (lines rest)

@[simp] theorem flatten_consLine (c : CodePoint) (ls : List Text) :
    (consLine c ls).flatten = c :: ls.flatten := by
  cases ls <;> simp [consLine]

/-- **The lines of a text concatenate to it.** -/
theorem flatten_lines (t : Text) : t.lines.flatten = t := by
  fun_induction lines t <;> simp_all

end Text

end RichText
