import RichText.Text.Numeral
import RichText.Yaml.Graph

/-!
# Yaml/Implicit — the types of scalars that name none

A plain scalar is null, a truth value, an integer, a number, a moment, the key of a merge or a
default value when it is spelled like one, and a text otherwise.
-/

namespace RichText.Yaml.Implicit

/-! ## Spellings -/

def isDigitMark (c : Char) : Bool := c.isDigit || c == '_'

/-- The characters behind an optional sign. -/
def unsigned : List Char → List Char
  | '+' :: rest => rest
  | '-' :: rest => rest
  | s => s

/-- Parts of a text between colons. -/
def colonParts (s : List Char) : List (List Char) := s.splitOn ':'

/-- A number below sixty in one or two digits. -/
def isSixtieth : List Char → Bool
  | [a] => a.isDigit
  | [a, b] => '0' ≤ a && a ≤ '5' && b.isDigit
  | _ => false

/-- A number above zero, with underscores between its digits. -/
def isCount : List Char → Bool
  | c :: rest => '1' ≤ c && c ≤ '9' && rest.all isDigitMark
  | [] => false

/-- An integer: binary, octal, decimal, hexadecimal or with parts that count sixtieths. -/
def isInt (s : List Char) : Bool :=
  match unsigned s with
  | '0' :: 'b' :: rest => !rest.isEmpty && rest.all fun c => c == '0' || c == '1' || c == '_'
  | '0' :: 'x' :: rest =>
    !rest.isEmpty && rest.all fun c => (CodePoint.char c).isHexDigit || c == '_'
  | '0' :: rest => rest.all fun c => ('0' ≤ c && c ≤ '7') || c == '_'
  | s => match colonParts s with
    | first :: others => isCount first && others.all isSixtieth
    | [] => false

/-- A power of ten at the end of a number, if there is one. -/
def isExponent : List Char → Bool
  | [] => true
  | e :: sign :: digits =>
    (e == 'e' || e == 'E') && (sign == '+' || sign == '-') && !digits.isEmpty
      && digits.all Char.isDigit
  | _ => false

/-- A digit and further digits and underscores. -/
def isDigits : List Char → Bool
  | c :: rest => c.isDigit && rest.all isDigitMark
  | [] => false

/-- A number with a point: its digits, one part that counts sixtieths or several, and a fraction. -/
def isPointed (s : List Char) : Bool :=
  let whole := s.takeWhile (· != '.')
  match s.drop whole.length with
  | '.' :: fraction =>
    match colonParts whole with
    | [digits] => isDigits digits && isExponent (fraction.dropWhile isDigitMark)
    | first :: others =>
      isDigits first && others.all isSixtieth && fraction.all isDigitMark
    | [] => false
  | _ => false

/-- A number: with a point, infinite or none. -/
def isFloat (s : List Char) : Bool :=
  match s with
  | '.' :: rest =>
    let digits := rest.takeWhile isDigitMark
    (isDigits digits && isExponent (rest.drop digits.length))
      || [".inf", ".Inf", ".INF", ".nan", ".NaN", ".NAN"].any (·.toList == s)
  | s => isPointed (unsigned s) || [".inf", ".Inf", ".INF"].any (·.toList == unsigned s)

def isNull (s : List Char) : Bool := ["", "~", "null", "Null", "NULL"].any (·.toList == s)

def isBool (s : List Char) : Bool :=
  ["yes", "Yes", "YES", "no", "No", "NO", "true", "True", "TRUE", "false", "False", "FALSE", "on",
    "On", "ON", "off", "Off", "OFF"].any (·.toList == s)

/-! ## Moments -/

/-- The digits at the start of a text, if there are at least `least` and at most `most`. -/
def digits? (least most : Nat) (s : List Char) : Option (Nat × List Char) :=
  let found := (s.take most).takeWhile Char.isDigit
  if found.length < least then none
  else some (Text.toNat (Text.ofChars found), s.drop found.length)

/-- What follows a character, if a text begins with it. -/
def after? (mark : Char) : List Char → Option (List Char)
  | c :: rest => if c == mark then some rest else none
  | [] => none

def isGap (c : Char) : Bool := c == ' ' || c == '\t'

/-- The distance of a moment from universal time. -/
inductive Zone
  | unnamed
  | universal
  | distance (minutes : Int)

/-- A time of day with the digits of its fraction. -/
structure DayTime where
  hour : Nat
  minute : Nat
  second : Nat
  fraction : List Char
  zone : Zone

/-- **A date, with a time of day or without**, as a text spells it. -/
structure Stamp where
  year : Nat
  month : Nat
  day : Nat
  time : Option DayTime

/-- A distance from universal time that is the whole text. -/
def zone? (s : List Char) : Option Zone :=
  match s.dropWhile isGap with
  | [] => if s.isEmpty then some .unnamed else none
  | ['Z'] => some .universal
  | c :: rest =>
    if c == '+' || c == '-' then do
      let (hours, rest) ← digits? 1 2 rest
      let minutes ← match rest with
        | [] => some 0
        | rest => do
          let (minutes, rest) ← digits? 2 2 (← after? ':' rest)
          if rest.isEmpty then some minutes else none
      let distance : Int := hours * 60 + minutes
      return .distance (if c == '-' then -distance else distance)
    else none

/-- A time of day that is the whole text. -/
def dayTime? (s : List Char) : Option DayTime := do
  let (hour, s) ← digits? 1 2 s
  let (minute, s) ← digits? 2 2 (← after? ':' s)
  let (second, s) ← digits? 2 2 (← after? ':' s)
  let (fraction, s) := match s with
    | '.' :: rest => (rest.takeWhile Char.isDigit, rest.dropWhile Char.isDigit)
    | s => ([], s)
  return ⟨hour, minute, second, fraction, ← zone? s⟩

/-- The time of day behind a date, if the text goes on with one. -/
def timePart? : List Char → Option (Option DayTime)
  | [] => some none
  | c :: rest =>
    if c == 'T' || c == 't' then (dayTime? rest).map some
    else if isGap c then (dayTime? (rest.dropWhile isGap)).map some
    else none

/-- The stamp a text spells. -/
def stamp? (s : List Char) : Option Stamp := do
  let (year, s) ← digits? 4 4 s
  let (month, s) ← digits? 1 2 (← after? '-' s)
  let (day, s) ← digits? 1 2 (← after? '-' s)
  return ⟨year, month, day, ← timePart? s⟩

/-- A stamp that needs no tag: a date alone has two digits for its month and its day. -/
def isStamp (s : List Char) : Bool :=
  match stamp? s with
  | some stamp => stamp.time.isSome || s.length == 10
  | none => false

/-! ## Types -/

/-- A text without one line feed at its end. -/
def chomp (s : List Char) : List Char :=
  if s.getLast? == some '\n' then s.dropLast else s

/-- The type of a spelling. -/
def tagOfSpelling (s : List Char) : Tag :=
  if isNull s then .null
  else if isBool s then .bool
  else if isFloat s then .float
  else if isInt s then .int
  else if s == "<<".toList then .merge
  else if isStamp s then .timestamp
  else if s == ['='] then .value
  else if s == ['!'] || s == ['&'] || s == ['*'] then .unknown
  else .str

/-- The characters of a text without surrogate halves. -/
def chars? (t : Text) : Option (List Char) :=
  t.mapM fun c => match c with
    | .char x => some x
    | _ => none

/-- **The type of a scalar that names none.**  A line feed at its end does not count. -/
def tag (t : Text) : Tag :=
  match chars? t with
  | some [] => .null
  | some s => if (chomp s).isEmpty then .str else tagOfSpelling (chomp s)
  | none => .str

end RichText.Yaml.Implicit
