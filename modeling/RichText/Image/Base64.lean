import RichText.Text.Numeral

/-!
# Image/Base64 — bytes spelled with sixty-four characters

Decoding is strict: only characters of the alphabet count, padding stands at the end alone, and
nothing follows the padding that completes a group.  Bits beyond the last whole byte are dropped.
-/

namespace RichText.Base64

/-- Why a text spells no bytes. -/
inductive Fault
  | notAscii
  | leadingPadding
  | excessData
  | foreignCharacter
  | brokenPadding
  | oddCharacter (count : Nat)
  | incompletePadding
  deriving DecidableEq

/-- The wording of a fault. -/
def Fault.message : Fault → Text
  | notAscii => "ValueError: string argument should contain only ASCII characters"
  | leadingPadding => "Error: Leading padding not allowed"
  | excessData => "Error: Excess data after padding"
  | foreignCharacter => "Error: Only base64 data is allowed"
  | brokenPadding => "Error: Discontinuous padding not allowed"
  | oddCharacter count =>
    "Error: Invalid base64-encoded string: number of data characters (" ++ Text.ofNat count
      ++ ") cannot be 1 more than a multiple of 4"
  | incompletePadding => "Error: Incorrect padding"

/-- The six bits of a character of the alphabet. -/
def sextet? : CodePoint → Option Nat
  | .char c =>
    if 'A' ≤ c ∧ c ≤ 'Z' then some (c.toNat - 65)
    else if 'a' ≤ c ∧ c ≤ 'z' then some (c.toNat - 71)
    else if '0' ≤ c ∧ c ≤ '9' then some (c.toNat + 4)
    else if c = '+' then some 62
    else if c = '/' then some 63
    else none
  | _ => none

/-- The character of six bits. -/
def sextetChar (n : Nat) : Char :=
  if n < 26 then Char.ofNat (n + 65)
  else if n < 52 then Char.ofNat (n + 71)
  else if n < 62 then Char.ofNat (n - 4)
  else if n = 62 then '+'
  else '/'

/-- The sextets and the padding of a text.  `done` sextets have been read and `pads` padding marks
since the last of them; `padded` says that there was padding at all. -/
def sextets (done pads : Nat) (padded : Bool) : Text → Except Fault (List Nat)
  | [] =>
    match done % 4 with
    | 0 => .ok []
    | 1 => .error (.oddCharacter done)
    | _ => .error .incompletePadding
  | c :: rest =>
    if c = .char '=' then
      if 2 ≤ done % 4 then
        if 4 ≤ done % 4 + (pads + 1) then
          if rest.isEmpty then .ok [] else .error .excessData
        else sextets done (pads + 1) true rest
      else sextets done pads true rest
    else match sextet? c with
      | none => .error .foreignCharacter
      | some n =>
        if padded then .error .brokenPadding
        else match sextets (done + 1) 0 false rest with
          | .ok ns => .ok (n :: ns)
          | .error e => .error e

/-- The whole bytes in groups of four sextets. -/
def bytesOf : List Nat → List UInt8
  | a :: b :: c :: d :: rest =>
    .ofNat (a * 4 + b / 16) :: .ofNat (b % 16 * 16 + c / 4) :: .ofNat (c % 4 * 64 + d)
      :: bytesOf rest
  | [a, b, c] => [.ofNat (a * 4 + b / 16), .ofNat (b % 16 * 16 + c / 4)]
  | [a, b] => [.ofNat (a * 4 + b / 16)]
  | _ => []

/-- **The bytes a text spells.** -/
def decode (t : Text) : Except Fault (List UInt8) :=
  if t.any fun c => !c.isAscii then .error .notAscii
  else if t.head? = some (.char '=') then .error .leadingPadding
  else (sextets 0 0 false t).map bytesOf

/-- The text that spells bytes, with padding. -/
def encode : List UInt8 → Text
  | a :: b :: c :: rest =>
    .char (sextetChar (a.toNat / 4)) :: .char (sextetChar (a.toNat % 4 * 16 + b.toNat / 16))
      :: .char (sextetChar (b.toNat % 16 * 4 + c.toNat / 64)) :: .char (sextetChar (c.toNat % 64))
      :: encode rest
  | [a, b] =>
    [.char (sextetChar (a.toNat / 4)), .char (sextetChar (a.toNat % 4 * 16 + b.toNat / 16)),
      .char (sextetChar (b.toNat % 16 * 4)), .char '=']
  | [a] =>
    [.char (sextetChar (a.toNat / 4)), .char (sextetChar (a.toNat % 4 * 16)), .char '=', .char '=']
  | [] => []

end RichText.Base64
