import RichText.Text
import RichText.Table.Hidden
import RichText.Table.Punctuation

/-!
# Text/Class — classes of code points

White space, decimal digits, punctuation and code points without a glyph, over tables of Unicode 14.
ASCII is decided without a table.
-/

namespace RichText

namespace Table

/-- Ranges of white space of all scripts: the separators together with the control characters that are
bidirectionally white. -/
def blank : List (Nat × Nat) :=
  [(0x9, 0xD), (0x1C, 0x20), (0x85, 0x85), (0xA0, 0xA0), (0x1680, 0x1680), (0x2000, 0x200A),
   (0x2028, 0x2029), (0x202F, 0x202F), (0x205F, 0x205F), (0x3000, 0x3000)]

/-- The zeros of all scripts with decimal digits.  Every script writes its ten digits in one run. -/
def decimalZeros : List Nat :=
  [0x30, 0x660, 0x6F0, 0x7C0, 0x966, 0x9E6, 0xA66, 0xAE6, 0xB66, 0xBE6,
   0xC66, 0xCE6, 0xD66, 0xDE6, 0xE50, 0xED0, 0xF20, 0x1040, 0x1090, 0x17E0,
   0x1810, 0x1946, 0x19D0, 0x1A80, 0x1A90, 0x1B50, 0x1BB0, 0x1C40, 0x1C50, 0xA620,
   0xA8D0, 0xA900, 0xA9D0, 0xA9F0, 0xAA50, 0xABF0, 0xFF10, 0x104A0, 0x10D30, 0x11066,
   0x110F0, 0x11136, 0x111D0, 0x112F0, 0x11450, 0x114D0, 0x11650, 0x116C0, 0x11730, 0x118E0,
   0x11950, 0x11C50, 0x11D50, 0x11DA0, 0x16A60, 0x16AC0, 0x16B50, 0x1D7CE, 0x1D7D8, 0x1D7E2,
   0x1D7EC, 0x1D7F6, 0x1E140, 0x1E2F0, 0x1E950, 0x1FBF0]

end Table

/-- Whether a number lies in one of a list of closed ranges. -/
def inRanges (ranges : List (Nat × Nat)) (n : Nat) : Bool :=
  ranges.any fun r => r.1 ≤ n && n ≤ r.2

namespace CodePoint

/-- White space in any script. -/
def isBlank (c : CodePoint) : Bool :=
  inRanges Table.blank c.code

/-- The value of a decimal digit of any script. -/
def decimalValue? (c : CodePoint) : Option Nat :=
  if c.isAscii then (if c.isDigit then some (c.code - 48) else none)
  else (Table.decimalZeros.find? fun z => z ≤ c.code && c.code < z + 10).map (c.code - ·)

/-- Punctuation or a symbol in any script. -/
def isPunctuation (c : CodePoint) : Bool :=
  inRanges Table.punctuation c.code

/-- A code point that shows nothing of itself, so that a quoted text spells it by number. -/
def isHidden (c : CodePoint) : Bool :=
  if c.isAscii then c.code < 0x20 || c.code == 0x7F else inRanges Table.hidden c.code

theorem code_of_isDigit {c : CodePoint} (h : c.isDigit = true) : 48 ≤ c.code ∧ c.code ≤ 57 := by
  cases c with
  | char c =>
    simp only [isDigit, Char.isDigit, Bool.and_eq_true, decide_eq_true_eq, ge_iff_le,
      UInt32.le_iff_toNat_le] at h
    exact h
  | high _ => simp [isDigit] at h
  | low _ => simp [isDigit] at h

theorem code_of_isLetter {c : CodePoint} (h : c.isLetter = true) :
    65 ≤ c.code ∧ c.code ≤ 90 ∨ 97 ≤ c.code ∧ c.code ≤ 122 := by
  cases c with
  | char c =>
    have h : (decide (65 ≤ c.val ∧ c.val ≤ 90)
        || decide (97 ≤ c.val) && decide (c.val ≤ 122)) = true := h
    simp only [Bool.or_eq_true, Bool.and_eq_true, decide_eq_true_eq, UInt32.le_iff_toNat_le] at h
    exact h
  | high _ => simp [isLetter] at h
  | low _ => simp [isLetter] at h

end CodePoint

namespace Text

/-- The text without white space at its two ends. -/
def trim (t : Text) : Text :=
  ((t.dropWhile (·.isBlank)).reverse.dropWhile (·.isBlank)).reverse

/-- The text without the code points of a class at its end. -/
def trimEnd (p : CodePoint → Bool) (t : Text) : Text :=
  (t.reverse.dropWhile p).reverse

/-- The text without the code points of a class at either end. -/
def trimOf (p : CodePoint → Bool) (t : Text) : Text :=
  trimEnd p (t.dropWhile p)

end Text

end RichText
