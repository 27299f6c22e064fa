/-!
# Text — text as a list of code points

A code point is a character or one half of a surrogate pair that stands alone, so a `Text` can hold
everything that decoded JSON escapes and decimal RTF escapes can name.  A literal string is a text
through the coercion `Text.ofString`.
-/

namespace RichText

/-- **One code point**: a character, or a leading or trailing half of a surrogate pair. -/
inductive CodePoint
  | char (c : Char)
  | high (h : Fin 1024)
  | low (l : Fin 1024)
  deriving DecidableEq, Inhabited

namespace CodePoint

/-- The number of a code point, below `0x110000`. -/
def code : CodePoint → Nat
  | char c => c.toNat
  | high h => 0xD800 + h.val
  | low l => 0xDC00 + l.val

/-- The code point of a number; there is none from `0x110000` on. -/
def ofCode? (n : Nat) : Option CodePoint :=
  if h : n.isValidChar then some (char (Char.ofNatAux n h))
  else if n < 0xDC00 then some (high (Fin.ofNat 1024 (n - 0xD800)))
  else if n < 0xE000 then some (low (Fin.ofNat 1024 (n - 0xDC00)))
  else none

/-- The code point of a number, or the replacement character where there is none. -/
def ofCode (n : Nat) : CodePoint := (ofCode? n).getD (char (Char.ofNat 0xFFFD))

/-- The character a leading and a trailing half stand for. -/
def joined (h l : Fin 1024) : CodePoint :=
  ofCode (0x10000 + h.val * 0x400 + l.val)

/-- Whether a code point is a character. -/
def is (x : Char) (c : CodePoint) : Bool := c == char x

def isAscii (c : CodePoint) : Bool := c.code < 0x80

/-- An ASCII letter. -/
def isLetter : CodePoint → Bool
  | char c => c.isAlpha
  | _ => false

/-- An ASCII digit. -/
def isDigit : CodePoint → Bool
  | char c => c.isDigit
  | _ => false

/-- An ASCII letter or digit. -/
def isAlphanum (c : CodePoint) : Bool := c.isLetter || c.isDigit

/-- The value of an ASCII hexadecimal digit. -/
def hexValue? : CodePoint → Option Nat
  | char c =>
    if '0' ≤ c ∧ c ≤ '9' then some (c.toNat - 48)
    else if 'a' ≤ c ∧ c ≤ 'f' then some (c.toNat - 87)
    else if 'A' ≤ c ∧ c ≤ 'F' then some (c.toNat - 55)
    else none
  | _ => none

def isHexDigit (c : CodePoint) : Bool := c.hexValue?.isSome

theorem code_lt (c : CodePoint) : c.code < 0x110000 := by
  cases c with
  | char c =>
    have h := c.valid
    simp only [UInt32.isValidChar, Nat.isValidChar] at h
    show c.val.toNat < _
    omega
  | high h => simp only [code]; omega
  | low l => simp only [code]; omega

/-- **A code point is determined by its number.** -/
@[simp] theorem ofCode?_code (c : CodePoint) : ofCode? c.code = some c := by
  cases c with
  | char c =>
    have h : c.toNat.isValidChar := c.valid
    rw [ofCode?, code, dif_pos h]
    rfl
  | high h =>
    have hv : ¬ (0xD800 + h.val).isValidChar := by simp only [Nat.isValidChar]; omega
    have h1 : 0xD800 + h.val < 0xDC00 := by omega
    rw [ofCode?, code, dif_neg hv, if_pos h1, Nat.add_sub_cancel_left, Fin.ofNat_val_eq_self]
  | low l =>
    have hv : ¬ (0xDC00 + l.val).isValidChar := by simp only [Nat.isValidChar]; omega
    have h1 : ¬ 0xDC00 + l.val < 0xDC00 := by omega
    have h2 : 0xDC00 + l.val < 0xE000 := by omega
    rw [ofCode?, code, dif_neg hv, if_neg h1, if_pos h2, Nat.add_sub_cancel_left,
      Fin.ofNat_val_eq_self]

theorem code_injective {c d : CodePoint} (h : c.code = d.code) : c = d := by
  have := congrArg ofCode? h
  simpa using this

end CodePoint

instance : Coe Char CodePoint := ⟨CodePoint.char⟩

/-- **Text** is a list of code points. -/
abbrev Text := List CodePoint

namespace Text

def ofChars (cs : List Char) : Text := cs.map .char

/-- The text a string spells. -/
def ofString (s : String) : Text := ofChars s.toList

instance : Coe String Text := ⟨ofString⟩


end Text

end RichText
