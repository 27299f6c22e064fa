import RichText.Text

/-!
# Text/WellFormed — which bytes are UTF-8

The bytes of a character, by the range that each of them is in, and bytes that are those of characters
one after another.  The narrower ranges behind `E0` and `F0` leave out forms longer than needed, the one
behind `ED` leaves out halves of surrogate pairs, and the one behind `F4` numbers from `0x110000` on.
-/

namespace RichText

namespace CodePoint

/-- A byte behind the first one of a character. -/
def IsContinuation (b : UInt8) : Prop := 0x80 ≤ b.toNat ∧ b.toNat ≤ 0xBF

/-- **The UTF-8 bytes of one character.** -/
inductive IsUtf8 : List UInt8 → Prop
  | one {a : UInt8} (ha : a.toNat ≤ 0x7F) : IsUtf8 [a]
  | two {a b : UInt8} (ha : 0xC2 ≤ a.toNat ∧ a.toNat ≤ 0xDF) (hb : IsContinuation b) : IsUtf8 [a, b]
  | three {a b c : UInt8} (ha : 0xE0 ≤ a.toNat ∧ a.toNat ≤ 0xEF) (hb : IsContinuation b)
    (hc : IsContinuation c) (hlong : a.toNat = 0xE0 → 0xA0 ≤ b.toNat)
    (hhalf : a.toNat = 0xED → b.toNat ≤ 0x9F) : IsUtf8 [a, b, c]
  | four {a b c d : UInt8} (ha : 0xF0 ≤ a.toNat ∧ a.toNat ≤ 0xF4) (hb : IsContinuation b)
    (hc : IsContinuation c) (hd : IsContinuation d) (hlong : a.toNat = 0xF0 → 0x90 ≤ b.toNat)
    (hlarge : a.toNat = 0xF4 → b.toNat ≤ 0x8F) : IsUtf8 [a, b, c, d]

end CodePoint

namespace Text

/-- **Well-formed UTF-8**: the bytes of characters one after another. -/
inductive IsUtf8 : List UInt8 → Prop
  | nil : IsUtf8 []
  | append {s rest : List UInt8} (hs : CodePoint.IsUtf8 s) (hrest : IsUtf8 rest) : IsUtf8 (s ++ rest)

end Text

end RichText
