import RichText.Text

/-!
# Text/Surrogate — UTF-16 surrogate pairs

A character above `U+FFFF` is written in UTF-16 as a leading and a trailing half.  `Text.joinPairs`
puts every adjacent pair together and leaves lone halves alone.
-/

namespace RichText

namespace CodePoint

/-- Above the range of a single UTF-16 unit. -/
def isAstral (c : CodePoint) : Bool := c.code > 0xFFFF

/-- The UTF-16 units of a code point, as numbers. -/
def units16 (c : CodePoint) : List Nat :=
  if c.isAstral then
    let n := c.code - 0x10000
    [0xD800 + n / 0x400, 0xDC00 + n % 0x400]
  else [c.code]

end CodePoint

namespace Text

/-- The text with every leading half followed by a trailing half joined into one character. -/
def joinPairs : Text → Text
  | .high h :: .low l :: rest => CodePoint.joined h l :: joinPairs rest
  | c :: rest => c :: joinPairs rest
  | [] => []

/-- Whether the text holds half of a surrogate pair. -/
def hasSurrogate (t : Text) : Bool :=
  t.any fun | .char _ => false | _ => true

end Text

end RichText
