import RichText.Value
import RichText.Json.Error

/-!
# Json/Reader — values of JSON documents

The reader takes the document from left to right and stops at the first fault.  Besides the grammar
of JSON it accepts `NaN`, `Infinity` and `-Infinity` and escapes of lone surrogate halves.  A name
that occurs twice in an object keeps its first place and its last value.  Numbers with a point or an
exponent are floats, all others integers of any size up to `Text.digitLimit` digits.
-/

namespace RichText.Json

/-- Why a document was not read. -/
inductive ReadError
  | malformed (error : Error)
  | tooManyDigits (count : Nat)
  deriving DecidableEq

/-- Why reading stopped; a fault is kept with the text that begins at its place. -/
inductive Stop
  | fault (fault : Fault) (rest : Text)
  | tooManyDigits (count : Nat)

/-- The blanks JSON allows between its tokens. -/
def isBlank : CodePoint → Bool
  | .char c => c == ' ' || c == '\t' || c == '\n' || c == '\r'
  | _ => false

def skipBlank (s : Text) : Text := s.dropWhile isBlank

/-! ## Texts -/

/-- The number four hexadecimal digits spell. -/
def hex4? (a b c d : CodePoint) : Option Nat := do
  return (((← a.hexValue?) * 16 + (← b.hexValue?)) * 16 + (← c.hexValue?)) * 16 + (← d.hexValue?)

/-- The character of a one-letter escape. -/
def letterEscape? : CodePoint → Option CodePoint
  | .char '"' => some (.char '"')
  | .char '\\' => some (.char '\\')
  | .char '/' => some (.char '/')
  | .char 'b' => some (.char '\x08')
  | .char 'f' => some (.char '\x0c')
  | .char 'n' => some (.char '\n')
  | .char 'r' => some (.char '\r')
  | .char 't' => some (.char '\t')
  | _ => none

/-- The code point of a Unicode escape from its `u` on, and the number of code points it takes with
its backslash.  An escape of a leading surrogate half joins with the escape of a trailing half right
behind it.  The text has to go on behind the four digits. -/
def unicodeEscape : Text → Except Stop (CodePoint × Nat)
  | .char 'u' :: a :: b :: c :: d :: rest =>
    match hex4? a b c d, rest with
    | some n, next :: more =>
      match CodePoint.ofCode n, next :: more with
      | .high h, .char '\\' :: .char 'u' :: a' :: b' :: c' :: d' :: _ :: _ =>
        match (hex4? a' b' c' d').map CodePoint.ofCode with
        | none => .error (.fault .badUnicodeEscape more)
        | some (.low l) => .ok (.joined h l, 12)
        | some _ => .ok (.high h, 6)
      | x, _ => .ok (x, 6)
    | _, _ => .error (.fault .badUnicodeEscape (.char 'u' :: a :: b :: c :: d :: rest))
  | s => .error (.fault .badUnicodeEscape s)

/-- The code point a text inside quotation marks begins with and the length of its spelling, or none
at the closing mark.  `start` begins with the opening mark. -/
def element (start : Text) : Text → Except Stop (Option (CodePoint × Nat))
  | [] => .error (.fault .unterminatedText start)
  | .char '"' :: _ => .ok none
  | [.char '\\'] => .error (.fault .unterminatedText start)
  | .char '\\' :: .char 'u' :: rest => (unicodeEscape (.char 'u' :: rest)).map some
  | .char '\\' :: x :: rest =>
    match letterEscape? x with
    | some c => .ok (some (c, 2))
    | none => .error (.fault .unknownEscape (.char '\\' :: x :: rest))
  | c :: rest =>
    if c.code < 0x20 then .error (.fault .controlCharacter (c :: rest)) else .ok (some (c, 1))

/-- A text after its opening quotation mark, and what follows its closing one.  The first `skip` code
points belong to the element before. -/
def textBody (start : Text) : Nat → Text → Except Stop (Text × Text)
  | _, [] => .error (.fault .unterminatedText start)
  | skip + 1, _ :: rest => textBody start skip rest
  | 0, c :: rest =>
    match element start (c :: rest) with
    | .error stop => .error stop
    | .ok none => .ok ([], rest)
    | .ok (some (x, length)) =>
      match textBody start (length - 1) rest with
      | .error stop => .error stop
      | .ok (t, rest) => .ok (x :: t, rest)

/-! ## Numbers -/

/-- The parts of a number as written. -/
structure Numeral where
  negative : Bool
  whole : Text
  fraction : Text
  exponent : Int
  isFloat : Bool

/-- The whole digits: a zero on its own, or digits that do not start with one. -/
def wholeDigits : Text → Text × Text
  | .char '0' :: rest => ([.char '0'], rest)
  | s => s.span (·.isDigit)

/-- The digits behind a decimal point, if there are any. -/
def fractionDigits : Text → Text × Text
  | .char '.' :: d :: rest =>
    if d.isDigit then (d :: rest).span (·.isDigit) else ([], .char '.' :: d :: rest)
  | s => ([], s)

/-- A sign and the digits behind it, if there are any. -/
def signedDigits? (s : Text) : Option (Int × Text) :=
  let (negative, s) := match s with
    | .char '-' :: rest => (true, rest)
    | .char '+' :: rest => (false, rest)
    | s => (false, s)
  match s.span (·.isDigit) with
  | ([], _) => none
  | (digits, rest) =>
    let n : Int := Text.toNat digits
    some (if negative then -n else n, rest)

/-- The exponent of a number, if it has one. -/
def exponentPart? : Text → Option (Int × Text)
  | .char 'e' :: rest => signedDigits? rest
  | .char 'E' :: rest => signedDigits? rest
  | _ => none

/-- A number at the start of a text. -/
def numeral? (s : Text) : Option (Numeral × Text) :=
  let (negative, s) := match s with
    | .char '-' :: rest => (true, rest)
    | s => (false, s)
  match wholeDigits s with
  | ([], _) => none
  | (whole, rest) =>
    let (fraction, rest) := fractionDigits rest
    match exponentPart? rest with
    | some (exponent, rest) => some (⟨negative, whole, fraction, exponent, true⟩, rest)
    | none => some (⟨negative, whole, fraction, 0, !fraction.isEmpty⟩, rest)

/-- The value of a number. -/
def Numeral.value (n : Numeral) : Except Stop Value :=
  if n.isFloat then
    .ok (.float (.ofDecimal n.negative (Text.toNat (n.whole ++ n.fraction))
      (n.exponent - n.fraction.length)))
  else if n.whole.length > Text.digitLimit then .error (.tooManyDigits n.whole.length)
  else
    let i : Int := Text.toNat n.whole
    .ok (.int (if n.negative then -i else i))

/-! ## Values -/

/-- Words that stand for a value. -/
def word? : Text → Option (Value × Text)
  | .char 'n' :: .char 'u' :: .char 'l' :: .char 'l' :: rest => some (.null, rest)
  | .char 't' :: .char 'r' :: .char 'u' :: .char 'e' :: rest => some (.bool true, rest)
  | .char 'f' :: .char 'a' :: .char 'l' :: .char 's' :: .char 'e' :: rest => some (.bool false, rest)
  | .char 'N' :: .char 'a' :: .char 'N' :: rest => some (.float .nan, rest)
  | .char 'I' :: .char 'n' :: .char 'f' :: .char 'i' :: .char 'n' :: .char 'i' :: .char 't'
      :: .char 'y' :: rest => some (.float (.infinity false), rest)
  | .char '-' :: .char 'I' :: .char 'n' :: .char 'f' :: .char 'i' :: .char 'n' :: .char 'i'
      :: .char 't' :: .char 'y' :: rest => some (.float (.infinity true), rest)
  | _ => none

/-- A word or a number at the start of a text. -/
def scalar (s : Text) : Except Stop (Value × Text) :=
  match word? s with
  | some found => .ok found
  | none =>
    match numeral? s with
    | some (n, rest) => do return (← n.value, rest)
    | none => .error (.fault .expectedValue s)

/-- The mapping of the entries of an object in the order they were written. -/
def dictOf (entries : List (Value × Value)) : List (Value × Value) :=
  entries.foldl (fun d e => Value.insert e.1 e.2 d) []

mutual

/-- A value at the start of a text and what follows it.  Every call takes at least one code point,
so fuel beyond the length of the text is never used up. -/
def value (fuel : Nat) (s : Text) : Except Stop (Value × Text) :=
  match fuel, s with
  | 0, s => .error (.fault .expectedValue s)
  | _ + 1, .char '"' :: rest => do
    let (t, rest) ← textBody (.char '"' :: rest) 0 rest
    return (.text t, rest)
  | fuel + 1, .char '{' :: rest =>
    match skipBlank rest with
    | .char '}' :: rest => .ok (.dict [], rest)
    | rest => do
      let (entries, rest) ← objectEntries fuel rest
      return (.dict (dictOf entries), rest)
  | fuel + 1, .char '[' :: rest =>
    match skipBlank rest with
    | .char ']' :: rest => .ok (.list [], rest)
    | rest => do
      let (items, rest) ← arrayItems fuel rest
      return (.list items, rest)
  | _ + 1, s => scalar s

/-- The entries of an object from a name on, through its closing brace. -/
def objectEntries (fuel : Nat) (s : Text) : Except Stop (List (Value × Value) × Text) :=
  match fuel, s with
  | fuel + 1, .char '"' :: rest => do
    let (name, rest) ← textBody (.char '"' :: rest) 0 rest
    match skipBlank rest with
    | .char ':' :: rest =>
      let (v, rest) ← value fuel (skipBlank rest)
      match skipBlank rest with
      | .char '}' :: rest => return ([(.text name, v)], rest)
      | .char ',' :: rest =>
        let (entries, rest) ← objectEntries fuel (skipBlank rest)
        return ((.text name, v) :: entries, rest)
      | rest => .error (.fault .expectedComma rest)
    | rest => .error (.fault .expectedColon rest)
  | _, s => .error (.fault .expectedName s)

/-- The items of an array from a value on, through its closing bracket. -/
def arrayItems (fuel : Nat) (s : Text) : Except Stop (List Value × Text) :=
  match fuel with
  | 0 => .error (.fault .expectedValue s)
  | fuel + 1 => do
    let (v, rest) ← value fuel s
    match skipBlank rest with
    | .char ']' :: rest => return ([v], rest)
    | .char ',' :: rest =>
      let (items, rest) ← arrayItems fuel (skipBlank rest)
      return (v :: items, rest)
    | rest => .error (.fault .expectedComma rest)

end

/-- The value of a text that has nothing behind it. -/
def document (s : Text) : Except Stop Value := do
  match s with
  | .char '\uFEFF' :: _ => .error (.fault .byteOrderMark s)
  | _ =>
    let (v, rest) ← value (2 * s.length + 2) (skipBlank s)
    match skipBlank rest with
    | [] => return v
    | rest => .error (.fault .extraData rest)

/-- **The value of a JSON document.** -/
def read (s : Text) : Except ReadError Value :=
  match document s with
  | .ok v => .ok v
  | .error (.fault fault rest) => .error (.malformed (.ofOffset s fault (s.length - rest.length)))
  | .error (.tooManyDigits count) => .error (.tooManyDigits count)

end RichText.Json
