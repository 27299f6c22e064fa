import RichText.Failure
import RichText.Text.Case

/-!
# Number/Spelled — numbers read from text

Integers in a base and decimal fractions, between optional blanks and after an optional sign, with
the decimal digits of any script.  A base of two, eight or sixteen may be named by a prefix.  An
integer in any other base is refused beyond `Text.digitLimit` digits.
-/

namespace RichText.Number

/-- A blank of ASCII. -/
def isBlank (c : CodePoint) : Bool := c.code == 0x20 || (9 ≤ c.code && c.code ≤ 13)

/-- A code point beyond ASCII as the blank or the digit it counts as. -/
def plain (c : CodePoint) : CodePoint :=
  if c.isAscii then c
  else if c.isBlank then .char ' '
  else match c.decimalValue? with
    | some d => .ofCode (48 + d)
    | none => c

/-- A text as numbers are read from it: digits and blanks of ASCII, with no blank at either end. -/
def bare (t : Text) : Text := Text.trimOf isBlank (t.map plain)

/-- A text without its sign, and whether that was a minus. -/
def unsigned : Text → Bool × Text
  | .char '-' :: rest => (true, rest)
  | .char '+' :: rest => (false, rest)
  | t => (false, t)

/-- The value of a digit below thirty-six. -/
def digit? : CodePoint → Option Nat
  | .char c =>
    if '0' ≤ c ∧ c ≤ '9' then some (c.toNat - 48)
    else if 'a' ≤ c ∧ c ≤ 'z' then some (c.toNat - 87)
    else if 'A' ≤ c ∧ c ≤ 'Z' then some (c.toNat - 55)
    else none
  | _ => none

/-- Whether a code point is a digit in a base. -/
def isDigitIn (base : Nat) (c : CodePoint) : Bool := (digit? c).any (· < base)

/-- The letter that names a base after a zero. -/
def baseLetter? : Nat → Option Char
  | 2 => some 'b'
  | 8 => some 'o'
  | 16 => some 'x'
  | _ => none

/-- A text without the two code points that name its base. -/
def withoutPrefix (base : Nat) (t : Text) : Text :=
  match t with
  | .char '0' :: .char c :: rest => if baseLetter? base = some c.toLower then rest else t
  | t => t

/-- Whether a base is a power of two, in which integers of any length are read. -/
def isBinaryBase (base : Nat) : Bool := base == 2 || base == 8 || base == 16

/-- **The integer a text spells in a base.** -/
def readInt (base : Nat) (t : Text) : Except Failure Int :=
  let (negative, s) := unsigned (bare t)
  let s := withoutPrefix base s
  let digits := s.takeWhile (isDigitIn base)
  if digits.length > Text.digitLimit && !isBinaryBase base then
    .error (.invalid (.digitsRead digits.length))
  else if s.isEmpty || digits.length < s.length then .error (.invalid (.integerText t base))
  else
    let n := digits.foldl (fun n c => n * base + (digit? c).getD 0) 0
    .ok (if negative then -(n : Int) else n)

/-- The exponent a text begins with, if it is one as a whole. -/
def exponent? (s : Text) : Option Int :=
  match s with
  | [] => some 0
  | .char c :: rest =>
    if c == 'e' || c == 'E' then
      let (negative, digits) := unsigned rest
      (Text.toNat? digits).map fun n => if negative then -(n : Int) else n
    else none
  | _ => none

/-- The number an unsigned text spells. -/
def fractional? (negative : Bool) (s : Text) : Option Binary64 :=
  let word := s.lower
  if word == "inf" || word == "infinity" then some (.infinity negative)
  else if word == "nan" then some .nan
  else
    let whole := s.takeWhile (·.isDigit)
    let rest := s.drop whole.length
    let (fraction, rest) := match rest with
      | .char '.' :: rest => (rest.takeWhile CodePoint.isDigit, rest.dropWhile CodePoint.isDigit)
      | rest => ([], rest)
    if whole.isEmpty && fraction.isEmpty then none
    else (exponent? rest).map fun e =>
      .ofDecimal negative (Text.toNat (whole ++ fraction)) (e - fraction.length)

/-- **The number a decimal text spells.** -/
def readFloat (t : Text) : Except Failure Binary64 :=
  let (negative, s) := unsigned (bare t)
  match fractional? negative s with
  | some x => .ok x
  | none => .error (.invalid (.floatText t))

end RichText.Number
