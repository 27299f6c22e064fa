import RichText.Image.Base64
import RichText.Number.Spelled
import RichText.Yaml.Cursor
import RichText.Yaml.Implicit

/-!
# Yaml/Scalar — the values of scalars

The value a text has as a scalar of a type.  A text that does not fit its type has none.
-/

namespace RichText.Yaml.Scalar

/-! ## Numbers -/

def withoutMarks (t : Text) : Text := t.filter (· != .char '_')

/-- A text without its sign, and whether that was a minus; an empty text has no place for one. -/
def signed (t : Text) : Except Failure (Bool × Text) :=
  if t.isEmpty then .error .noPlace else .ok (Number.unsigned t)

def negateIf (negative : Bool) (i : Int) : Int := if negative then -i else i

/-- The number that parts from the highest to the lowest count in sixtieths of the one before. -/
def sixtieths (parts : List Int) : Int := parts.foldl (fun n part => n * 60 + part) 0

/-- The integer of a text. -/
def int (t : Text) : Except Failure Int := do
  let (negative, s) ← signed (withoutMarks t)
  let i ← match s with
    | [] => .error .noPlace
    | .char '0' :: .char 'b' :: digits => Number.readInt 2 digits
    | .char '0' :: .char 'x' :: digits => Number.readInt 16 digits
    | .char '0' :: _ => if s == "0" then pure 0 else Number.readInt 8 s
    | s =>
      if s.contains (.char ':') then
        ((s.splitOn (.char ':')).mapM (Number.readInt 10)).map sixtieths
      else Number.readInt 10 s
  return negateIf negative i

/-- The sum of numbers, the lowest first, of which each counts sixty times as much as the one
before. -/
def floatSixtieths (sum : Binary64) (base : Nat) : List Binary64 → Except Failure Binary64
  | [] => .ok sum
  | x :: rest =>
    let scale := Binary64.ofRat base
    if scale.isInfinite then .error .overflow
    else floatSixtieths (sum.add (x.mul scale)) (base * 60) rest

/-- The number of a text. -/
def float (t : Text) : Except Failure Binary64 := do
  let (negative, s) ← signed (withoutMarks t).lower
  if s == ".nan" then return .nan
  let x ←
    if s == ".inf" then pure (.infinity false)
    else if s.contains (.char ':') then do
      let parts ← (s.splitOn (.char ':')).mapM Number.readFloat
      floatSixtieths (.zero false) 1 parts.reverse
    else Number.readFloat s
  return (if negative then x.neg else x)

/-! ## Moments -/

/-- The date of three numbers. -/
def date (year month day : Nat) : Except Failure Date :=
  if year < 1 then .error (.invalid (.yearRange year))
  else if month < 1 || 12 < month then .error (.invalid .monthRange)
  else if day < 1 || Date.daysInMonth year month < day then .error (.invalid .dayRange)
  else .ok ⟨year, month, day⟩

/-- The distance of a zone in seconds; it is less than a day. -/
def offset : Implicit.Zone → Except Failure (Option Int)
  | .unnamed => .ok none
  | .universal => .ok (some 0)
  | .distance minutes =>
    if minutes.natAbs < 24 * 60 then .ok (some (minutes * 60))
    else .error (.invalid (.offsetRange minutes))

/-- The millionths that the first six digits of a fraction stand for. -/
def millionths (fraction : List Char) : Nat :=
  let digits := fraction.take 6
  Text.toNat (Text.ofChars (digits ++ List.replicate (6 - digits.length) '0'))

/-- The value of a stamp. -/
def stamp (s : Implicit.Stamp) : Except Failure Value :=
  match s.time with
  | none => (date s.year s.month s.day).map .date
  | some time => do
    let distance ← offset time.zone
    let day ← date s.year s.month s.day
    if 23 < time.hour then throw (.invalid .hourRange)
    if 59 < time.minute then throw (.invalid .minuteRange)
    if 59 < time.second then throw (.invalid .secondRange)
    return .moment ⟨day, time.hour, time.minute, time.second, millionths time.fraction, distance⟩

/-- The date or the moment of a text. -/
def timestamp (t : Text) : Except Failure Value :=
  match (Implicit.chars? t).bind fun s => Implicit.stamp? (Implicit.chomp s) with
  | some s => stamp s
  | none => .error .noPart

/-! ## Truth values and bytes -/

/-- The truth value of a word in any case. -/
def bool (t : Text) : Except Failure Bool :=
  let word := t.lower
  if word == "yes" || word == "true" || word == "on" then .ok true
  else if word == "no" || word == "false" || word == "off" then .ok false
  else .error .noName

/-- The sextets of a text up to its padding, other characters left out; `done` have been read and
`pads` padding marks since the last of them. -/
def sextets (done pads : Nat) : Text → Option (List Nat)
  | [] => if done % 4 == 0 then some [] else none
  | c :: rest =>
    if c == .char '=' then
      if 2 ≤ done % 4 then
        if 4 ≤ done % 4 + (pads + 1) then some [] else sextets done (pads + 1) rest
      else sextets done pads rest
    else match Base64.sextet? c with
      | some n => (sextets (done + 1) 0 rest).map (n :: ·)
      | none => sextets done pads rest

/-- The bytes a text of ASCII spells in base 64. -/
def binary (t : Text) : Except Fault (List UInt8) :=
  if t.any fun c => !c.isAscii then .error .malformed
  else match sextets 0 0 t with
    | some ns => .ok (Base64.bytesOf ns)
    | none => .error .malformed

/-! ## Values -/

/-- The value of a text of its own accord, or why it has none. -/
def lift {α : Type} : Except Failure α → Except Fault α
  | .ok a => .ok a
  | .error f => .error (.failed f)

/-- **The value of a text as a scalar of a type.**  Types that are none of scalars have no value. -/
def value (tag : Tag) (t : Text) : Except Fault Value :=
  match tag with
  | .null => .ok .null
  | .bool => (lift (bool t)).map .bool
  | .int => (lift (int t)).map .int
  | .float => (lift (float t)).map .float
  | .binary => (binary t).map .bytes
  | .timestamp => lift (timestamp t)
  | .str => .ok (.text t)
  | _ => .error .malformed

/-- Whether a type is one of scalars. -/
def isScalar : Tag → Bool
  | .null | .bool | .int | .float | .binary | .timestamp | .str => true
  | _ => false

end RichText.Yaml.Scalar
