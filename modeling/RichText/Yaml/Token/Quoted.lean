import RichText.Yaml.Token

/-!
# Yaml/Token/Quoted — scalars between quotation marks

Between single marks a doubled mark stands for one.  Between double marks a backslash begins an
escape, also of a line break, which then counts for nothing.  Line breaks are folded as in plain
scalars.
-/

namespace RichText.Yaml.Quoted

/-- The code point a character after a backslash stands for. -/
def escape? (c : Char) : Option Nat :=
  match c with
  | '0' => some 0
  | 'a' => some 7
  | 'b' => some 8
  | 't' => some 9
  | '\t' => some 9
  | 'n' => some 10
  | 'v' => some 11
  | 'f' => some 12
  | 'r' => some 13
  | 'e' => some 27
  | ' ' => some 32
  | '"' => some 34
  | '\\' => some 92
  | '/' => some 47
  | 'N' => some 0x85
  | '_' => some 0xA0
  | 'L' => some 0x2028
  | 'P' => some 0x2029
  | _ => none

/-- The number of hexadecimal digits a letter after a backslash asks for. -/
def digitCount? (c : Char) : Option Nat :=
  match c with
  | 'x' => some 2
  | 'u' => some 4
  | 'U' => some 8
  | _ => none

/-- The number hexadecimal digits spell, if there are as many as asked for. -/
def hex? (count : Nat) (digits : List Char) : Option Nat :=
  if digits.length < count then none
  else digits.foldlM (fun n c => ((CodePoint.char c).hexValue?).map (n * 16 + ·)) 0

/-- The code point of a number that an escape names. -/
def codePoint (n : Nat) : Except Fault CodePoint :=
  match CodePoint.ofCode? n with
  | some c => .ok c
  | none => .error (.failed (if n < 0x80000000 then .invalid .codePointRange else .overflow))

/-- The line breaks at the cursor, with the white space around them left out. -/
def breaks (fuel : Nat) (c : Cursor) : Except Fault (List Char × Cursor) :=
  match fuel with
  | 0 => .ok ([], c)
  | fuel + 1 =>
    if c.isAtSeparator then .error .malformed
    else
      let c := c.skipWhile fun x => x == ' ' || x == '\t'
      match c.break? with
      | some (b, c) => do
        let (found, c) ← breaks fuel c
        return (b :: found, c)
      | none => .ok ([], c)

/-- What an escape stands for; the cursor is behind the backslash. -/
def escaped (c : Cursor) : Except Fault (Text × Cursor) :=
  match escape? c.head with
  | some n => .ok ([.ofCode n], c.next)
  | none =>
    match digitCount? c.head with
    | some count => do
      let c := c.next
      match hex? count (c.rest.take count) with
      | some n => return ([← codePoint n], c.skip count)
      | none => .error .malformed
    | none =>
      match c.break? with
      | some (_, c) => do
        let (found, c) ← breaks (c.rest.length + 1) c
        return (Text.ofChars found, c)
      | none => .error .malformed

/-- What a run of white space stands for. -/
def gap (c : Cursor) : Except Fault (Text × Cursor) := do
  let (spaces, c) := c.span fun x => x == ' ' || x == '\t'
  match c.break? with
  | some (first, c) =>
    let (others, c) ← breaks (c.rest.length + 1) c
    let kept :=
      if first != '\n' then first :: others
      else if others.isEmpty then [' ']
      else others
    return (Text.ofChars kept, c)
  | none => if c.head == ending then .error .malformed else return (Text.ofChars spaces, c)

/-- The text up to the closing mark, and the cursor behind it. -/
def body (double : Bool) (fuel : Nat) (c : Cursor) : Except Fault (Text × Cursor) :=
  match fuel with
  | 0 => .error .malformed
  | fuel + 1 =>
    let goOn (found : Text) (c : Cursor) : Except Fault (Text × Cursor) := do
      let (rest, c) ← body double fuel c
      return (found ++ rest, c)
    if c.head == '\'' && !double then
      if c.ahead 1 == '\'' then goOn "'" (c.skip 2) else .ok ([], c.next)
    else if c.head == '"' && double then .ok ([], c.next)
    else if c.head == '\\' && double then do
      let (found, c) ← escaped c.next
      goOn found c
    else if endsWord c.head then do
      let (found, c) ← gap c
      goOn found c
    else goOn [.char c.head] c.next

/-- **The quoted scalar at the cursor**, which stands at its opening mark. -/
def scan (double : Bool) (c : Cursor) : Except Fault (Token × Cursor) := do
  let (text, c) ← body double (c.rest.length + 1) c.next
  return (.scalar text false, c)

end RichText.Yaml.Quoted
