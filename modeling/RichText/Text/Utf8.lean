import RichText.Text

/-!
# Text/Utf8 — UTF-8

The bytes of a text, and the text of well-formed bytes.  Surrogate halves have no bytes; overlong
forms, surrogates, numbers from `0x110000` on and truncated sequences are no text.
-/

namespace RichText

namespace CodePoint

/-- The UTF-8 bytes of a number below `0x110000`. -/
def utf8OfCode (n : Nat) : List UInt8 :=
  if n < 0x80 then [.ofNat n]
  else if n < 0x800 then [.ofNat (0xC0 + n / 0x40), .ofNat (0x80 + n % 0x40)]
  else if n < 0x10000 then
    [.ofNat (0xE0 + n / 0x1000), .ofNat (0x80 + n / 0x40 % 0x40), .ofNat (0x80 + n % 0x40)]
  else
    [.ofNat (0xF0 + n / 0x40000), .ofNat (0x80 + n / 0x1000 % 0x40),
      .ofNat (0x80 + n / 0x40 % 0x40), .ofNat (0x80 + n % 0x40)]

/-- The UTF-8 bytes of a code point; half of a surrogate pair has none. -/
def utf8? (c : CodePoint) : Option (List UInt8) :=
  match c with
  | char x => some (utf8OfCode x.toNat)
  | _ => none

end CodePoint

namespace Text

/-- The UTF-8 bytes of a text, if no code point is half of a surrogate pair. -/
def utf8? : Text → Option (List UInt8)
  | [] => some []
  | c :: rest => do return (← c.utf8?) ++ (← utf8? rest)

/-- The six payload bits of a continuation byte. -/
def continuation? (b : UInt8) : Option Nat :=
  if 0x80 ≤ b.toNat ∧ b.toNat < 0xC0 then some (b.toNat - 0x80) else none

/-- The character of a number in the range that a byte sequence of its length has to reach. -/
def charFrom? (least n : Nat) : Option CodePoint :=
  if h : n.isValidChar then
    if least ≤ n then some (.char (Char.ofNatAux n h)) else none
  else none

/-- The text of well-formed UTF-8. -/
def ofUtf8? : List UInt8 → Option Text
  | [] => some []
  | a :: rest =>
    if a.toNat < 0x80 then do return (← charFrom? 0 a.toNat) :: (← ofUtf8? rest)
    else if a.toNat < 0xC0 then none
    else if a.toNat < 0xE0 then
      match rest with
      | b :: rest => do
        let c ← charFrom? 0x80 ((a.toNat - 0xC0) * 0x40 + (← continuation? b))
        return c :: (← ofUtf8? rest)
      | _ => none
    else if a.toNat < 0xF0 then
      match rest with
      | b :: c :: rest => do
        let n := ((a.toNat - 0xE0) * 0x40 + (← continuation? b)) * 0x40 + (← continuation? c)
        return (← charFrom? 0x800 n) :: (← ofUtf8? rest)
      | _ => none
    else if a.toNat < 0xF8 then
      match rest with
      | b :: c :: d :: rest => do
        let n := (((a.toNat - 0xF0) * 0x40 + (← continuation? b)) * 0x40 + (← continuation? c)) * 0x40
          + (← continuation? d)
        return (← charFrom? 0x10000 n) :: (← ofUtf8? rest)
      | _ => none
    else none

end Text

end RichText
