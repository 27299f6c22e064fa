import RichText.Url.Quote

/-!
# Url/Percent — bytes behind percent escapes

A percent sign and two hexadecimal digits of either case stand for one byte; every other byte, and a
percent sign without two digits behind it, stands for itself.  `parts` cuts bytes into the escapes and
the bytes between them, and `percentDecode` gives what they stand for.
-/

namespace RichText.Url

/-- The value of a byte that is an ASCII hexadecimal digit. -/
def hexValue? (b : UInt8) : Option Nat := CodePoint.hexValue? (.char (Char.ofNat b.toNat))

/-- The byte of an escape; the bytes begin behind the percent sign. -/
def escapedByte? : List UInt8 → Option UInt8
  | a :: b :: _ => do return .ofNat ((← hexValue? a) * 16 + (← hexValue? b))
  | _ => none

/-- **The bytes that bytes with escapes stand for**; the first `skip` bytes belong to an escape
before. -/
def percentDecodeFrom : Nat → List UInt8 → List UInt8
  | _, [] => []
  | skip + 1, _ :: rest => percentDecodeFrom skip rest
  | 0, b :: rest =>
    match if b == 0x25 then escapedByte? rest else none with
    | some x => x :: percentDecodeFrom 2 rest
    | none => b :: percentDecodeFrom 0 rest

/-- The bytes that bytes with escapes stand for. -/
def percentDecode (bytes : List UInt8) : List UInt8 := percentDecodeFrom 0 bytes

/-! ## Escapes one by one -/

/-- **A part of bytes with escapes**: an escape with its two digits, or a byte that stands for
itself. -/
inductive Part
  | escape (high low : UInt8)
  | byte (b : UInt8)
  deriving DecidableEq

/-- The byte that a part stands for. -/
def Part.value : Part → UInt8
  | escape high low => (escapedByte? [high, low]).getD 0
  | byte b => b

/-- Whether three bytes are an escape. -/
def isEscape (mark high low : UInt8) : Bool :=
  mark == 0x25 && (escapedByte? [high, low]).isSome

/-- **The parts of bytes with escapes**, from left to right. -/
def parts : List UInt8 → List Part
  | mark :: high :: low :: rest =>
    if isEscape mark high low then .escape high low :: parts rest
    else .byte mark :: parts (high :: low :: rest)
  | b :: rest => .byte b :: parts rest
  | [] => []

/-- A part in a field argument: an escape as it is, and a byte as it is or as an escape. -/
def Part.quoted : Part → List Part
  | escape high low => [escape high low]
  | byte b =>
    if isSafe b then [byte b]
    else [escape (.ofNat (hexDigit (b.toNat / 16)).toNat) (.ofNat (hexDigit (b.toNat % 16)).toNat)]

end RichText.Url
