import RichText.Number.Binary64
import RichText.Text.Numeral

/-!
# Number/Shortest — the shortest decimal that reads back

A finite number is written with the fewest significant digits that round to it again, and with the
nearest such decimal where several are equally short, an even one of two.  Exponents from `-4` to
`15` are written positionally, the others with a power of ten of at least two digits; a whole number
keeps `.0`.
-/

namespace RichText.Binary64

/-- The exponent of the leading decimal digit of a positive rational. -/
def decimalExponent (q : Rat) : Int :=
  let e := ((Nat.toDigits 10 q.num.natAbs).length : Int) - (Nat.toDigits 10 q.den).length
  if q < tenPow e then e - 1 else e

/-- Whether a rational is nearer to the integer below it than to the next one; where both are equally
near, whether the one below is even. -/
def leansDown (q : Rat) (below : Nat) : Bool :=
  let rest := q - below
  rest < mkRat 1 2 || (rest == mkRat 1 2 && below % 2 == 0)

/-- The decimal with `n` significant digits that rounds to `x` and is nearest to it: its digits and
the exponent of its last digit.  `top` is the exponent of the leading digit of `x`. -/
def decimalOfLength? (x : Binary64) (top : Int) (n : Nat) : Option (Nat × Int) :=
  let unit := top + 1 - n
  let scaled := x.magnitude * tenPow (-unit)
  let below := scaled.floor.toNat
  let readsBack (digits : Nat) : Bool := round x.negative (digits * tenPow unit) == x
  match readsBack below, readsBack (below + 1) with
  | true, true =>
    some (if leansDown scaled below then (below, unit) else (below + 1, unit))
  | true, false => some (below, unit)
  | false, true => some (below + 1, unit)
  | false, false => none

/-- The shortest decimal that rounds to a finite number other than zero. -/
def shortestDecimal (x : Binary64) : Nat × Int :=
  let top := decimalExponent x.magnitude
  ((List.range' 1 17).findSome? (decimalOfLength? x top)).getD (0, 0)

/-- The digits of a decimal without the zeros at its end, and the exponent of the leading one. -/
def significant (d : Nat × Int) : List Char × Int :=
  let digits := Nat.toDigits 10 d.1
  let kept := (digits.reverse.dropWhile (· == '0')).reverse
  (kept, d.2 + digits.length - 1)

/-- Digits with the leading one at exponent `top`, written positionally. -/
def positional (digits : List Char) (top : Int) : List Char :=
  if top < 0 then
    '0' :: '.' :: List.replicate (top.natAbs - 1) '0' ++ digits
  else
    let whole := top.toNat + 1
    let filled := digits ++ List.replicate (whole - digits.length) '0'
    filled.take whole ++ '.' :: (if digits.length ≤ whole then ['0'] else digits.drop whole)

/-- Digits with the leading one at exponent `top`, written with a power of ten. -/
def scientific (digits : List Char) (top : Int) : List Char :=
  let mantissa := match digits with
    | [] => []
    | [d] => [d]
    | d :: rest => d :: '.' :: rest
  let size := Nat.toDigits 10 top.natAbs
  mantissa ++ ['e', if top < 0 then '-' else '+']
    ++ List.replicate (2 - size.length) '0' ++ size

/-- A number as text. -/
def text (x : Binary64) : Text :=
  if x.isNaN then "nan"
  else
    let sign : Text := if x.negative then "-" else ""
    if x.isInfinite then sign ++ "inf"
    else if x.isZero then sign ++ "0.0"
    else
      let (digits, top) := significant x.shortestDecimal
      sign ++ Text.ofChars
        (if -4 ≤ top ∧ top < 16 then positional digits top else scientific digits top)

end RichText.Binary64
