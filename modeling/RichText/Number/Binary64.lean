/-!
# Number/Binary64 — double-precision numbers

A `Binary64` is a 64-bit word read as IEEE 754 does: a sign, eleven exponent bits and 52 fraction
bits.  Every operation takes the exact rational value of its operands and rounds once, to the
nearest number and to the even one of two that are equally near.
-/

namespace RichText

/-- **A double-precision number**, as its word. -/
structure Binary64 where
  word : UInt64
  deriving DecidableEq, Inhabited

namespace Binary64

/-! ## Reading a word -/

/-- The sign bit. -/
def negative (x : Binary64) : Bool := 0x8000000000000000 ≤ x.word.toNat

/-- How many fractions there are: two to the power of 52. -/
def fractionCount : Nat := 0x10000000000000

/-- The eleven exponent bits. -/
def exponentField (x : Binary64) : Nat := x.word.toNat / fractionCount % 2048

/-- The 52 fraction bits. -/
def fraction (x : Binary64) : Nat := x.word.toNat % fractionCount

def isFinite (x : Binary64) : Bool := x.exponentField != 2047

def isNaN (x : Binary64) : Bool := x.exponentField == 2047 && x.fraction != 0

def isInfinite (x : Binary64) : Bool := x.exponentField == 2047 && x.fraction == 0

/-- Two to an integer power. -/
def twoPow (e : Int) : Rat :=
  if e < 0 then mkRat 1 (Nat.pow 2 e.natAbs) else (Nat.pow 2 e.natAbs : Rat)

/-- Ten to an integer power. -/
def tenPow (e : Int) : Rat :=
  if e < 0 then mkRat 1 (Nat.pow 10 e.natAbs) else (Nat.pow 10 e.natAbs : Rat)

/-- The size of a finite number. -/
def magnitude (x : Binary64) : Rat :=
  if x.exponentField == 0 then (x.fraction : Rat) * twoPow (-1074)
  else ((fractionCount + x.fraction : Nat) : Rat) * twoPow ((x.exponentField : Int) - 1075)

/-- The exact value of a finite number. -/
def value (x : Binary64) : Rat := if x.negative then -x.magnitude else x.magnitude

/-! ## Rounding -/

/-- The integer nearest to a rational, an even one where two are equally near. -/
def roundHalfEven (q : Rat) : Int :=
  let below := q.floor
  let rest := q - below
  if rest < mkRat 1 2 then below
  else if mkRat 1 2 < rest then below + 1
  else if below % 2 == 0 then below else below + 1

/-- The largest exponent whose power of two is at most a positive rational. -/
def binaryExponent (q : Rat) : Int :=
  let e := (Nat.log2 q.num.natAbs : Int) - Nat.log2 q.den
  if q < twoPow e then e - 1 else e

/-- The number of a sign and of the 63 bits below it. -/
def ofParts (negative : Bool) (rest : Nat) : Binary64 :=
  ⟨.ofNat (if negative then 0x8000000000000000 + rest else rest)⟩

def infinity (negative : Bool) : Binary64 := ofParts negative (2047 * fractionCount)

def nan : Binary64 := ofParts false (2047 * fractionCount + fractionCount / 2)

def zero (negative : Bool) : Binary64 := ofParts negative 0

/-- The number nearest to a size with a sign; infinity where the size is out of range. -/
def round (negative : Bool) (size : Rat) : Binary64 :=
  if size ≤ 0 then zero negative
  else
    let e := max (binaryExponent size - 52) (-1074)
    let rest := (e + 1074) * fractionCount + roundHalfEven (size * twoPow (-e))
    if rest < 2047 * fractionCount then ofParts negative rest.toNat else infinity negative

/-- The number nearest to a rational. -/
def ofRat (q : Rat) : Binary64 := if q < 0 then round true (-q) else round false q

/-- The number nearest to `digits · 10 ^ exponent`.  Sizes far out of range need no arithmetic. -/
def ofDecimal (negative : Bool) (digits : Nat) (exponent : Int) : Binary64 :=
  let top := (Nat.toDigits 10 digits).length + exponent
  if digits == 0 || top < -400 then zero negative
  else if top > 400 then infinity negative
  else round negative (digits * tenPow exponent)

/-! ## Arithmetic -/

/-- Sum. -/
def add (x y : Binary64) : Binary64 :=
  if x.isNaN || y.isNaN then nan
  else if x.isInfinite then (if y.isInfinite && x.negative != y.negative then nan else x)
  else if y.isInfinite then y
  else
    let sum := x.value + y.value
    if sum == 0 then zero (x.negative && y.negative) else ofRat sum

/-- Negation. -/
def neg (x : Binary64) : Binary64 := ⟨x.word ^^^ 0x8000000000000000⟩

/-- Difference. -/
def sub (x y : Binary64) : Binary64 := x.add y.neg

/-- Product. -/
def mul (x y : Binary64) : Binary64 :=
  let negative := x.negative != y.negative
  if x.isNaN || y.isNaN then nan
  else if x.isInfinite || y.isInfinite then
    if (x.isFinite && x.magnitude == 0) || (y.isFinite && y.magnitude == 0) then nan
    else infinity negative
  else round negative (x.magnitude * y.magnitude)

/-- Quotient by a number other than zero. -/
def div (x y : Binary64) : Binary64 :=
  let negative := x.negative != y.negative
  if x.isNaN || y.isNaN || (x.isInfinite && y.isInfinite) then nan
  else if x.isInfinite then infinity negative
  else if y.isInfinite then zero negative
  else round negative (x.magnitude / y.magnitude)

/-- The remainder of division toward zero, with the sign of the dividend. -/
def rem (x y : Binary64) : Binary64 :=
  if x.isNaN || y.isNaN || x.isInfinite then nan
  else if y.isInfinite then x
  else
    let q := (x.magnitude / y.magnitude).floor
    round x.negative (x.magnitude - q * y.magnitude)

/-- Equal to zero, of either sign. -/
def isZero (x : Binary64) : Bool := x.isFinite && x.magnitude == 0

/-- Below zero. -/
def isNegative (x : Binary64) : Bool := x.negative && !x.isNaN && !x.isZero

/-- The largest whole number not above a number. -/
def floor (x : Binary64) : Binary64 :=
  if !x.isFinite then x
  else
    let below := x.value.floor
    if below == 0 then zero x.negative else ofRat below

/-- The quotient by a number other than zero, rounded down to a whole number. -/
def floorDiv (x y : Binary64) : Binary64 :=
  let m := x.rem y
  let d := (x.sub m).div y
  let d := if !m.isZero && y.isNegative != m.isNegative then d.sub (ofRat 1) else d
  if d.isZero then zero (x.negative != y.negative)
  else
    let f := d.floor
    if f.isFinite && d.isFinite && mkRat 1 2 < d.value - f.value then f.add (ofRat 1) else f

/-! ## Comparison -/

/-- Numeric equality: the two zeros are equal and a NaN differs from itself. -/
def numEq (x y : Binary64) : Bool :=
  if x.isNaN || y.isNaN then false
  else x == y || (x.isZero && y.isZero)

/-- Whether a number equals an integer. -/
def eqInt (x : Binary64) (i : Int) : Bool := x.isFinite && x.value == i

/-- Whether an integer is at most a number. -/
def intLe (i : Int) (x : Binary64) : Bool :=
  if x.isFinite then (i : Rat) ≤ x.value else x.isInfinite && !x.negative

/-- Whether a number is at most an integer. -/
def leInt (x : Binary64) (i : Int) : Bool :=
  if x.isFinite then x.value ≤ (i : Rat) else x.isInfinite && x.negative

/-- The whole part of a finite number. -/
def truncate (x : Binary64) : Int :=
  if x.negative then -x.magnitude.floor else x.magnitude.floor

end Binary64

end RichText
