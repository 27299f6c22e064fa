import RichText.Text.Utf8
import RichText.Yaml.Token

/-!
# Yaml/Token/Name — anchors, tags and directives

Names of nodes and of their types, and the lines that declare what the names of types stand for.
-/

namespace RichText.Yaml.Name

/-- What may stand behind the name of an anchor. -/
def endsAnchor (c : Char) : Bool :=
  endsWord c || c == '?' || c == ':' || c == ',' || c == ']' || c == '\x7d' || c == '%' || c == '@'
    || c.toNat == 0x60

/-- The name of an anchor or of an alias; the cursor stands at its mark. -/
def anchor (c : Cursor) : Except Fault (List Char × Cursor) :=
  let (name, c) := c.next.span isNameChar
  if name.isEmpty || !endsAnchor c.head then .error .malformed else .ok (name, c)

/-! ## Tags -/

/-- A character of a tag other than one escaped by its bytes. -/
def isTagChar (c : Char) : Bool :=
  isNameChar c || "-;/?:@&=+$,_.!~*'()[]".toList.contains c

/-- The bytes that escapes at the start of a text spell, and what follows them. -/
def escapedBytes (fuel : Nat) (s : List Char) : Except Fault (List UInt8 × List Char) :=
  match fuel, s with
  | fuel + 1, '%' :: a :: b :: rest =>
    match (CodePoint.char a).hexValue?, (CodePoint.char b).hexValue? with
    | some x, some y => do
      let (bytes, rest) ← escapedBytes fuel rest
      return (.ofNat (x * 16 + y) :: bytes, rest)
    | _, _ => .error .malformed
  | _, '%' :: _ => .error .malformed
  | _, s => .ok ([], s)

/-- The text of a tag at the start of a text, and what follows it. -/
def tagText (fuel : Nat) (s : List Char) : Except Fault (List Char × List Char) :=
  match fuel, s with
  | fuel + 1, '%' :: rest => do
    let (bytes, rest) ← escapedBytes rest.length.succ ('%' :: rest)
    match (Text.ofUtf8? bytes).bind (·.mapM fun c => match c with
        | .char x => some x
        | _ => none) with
    | some found =>
      let (more, rest) ← tagText fuel rest
      return (found ++ more, rest)
    | none => .error .malformed
  | fuel + 1, c :: rest =>
    if isTagChar c then do
      let (more, rest) ← tagText fuel rest
      return (c :: more, rest)
    else .ok ([], c :: rest)
  | _, s => .ok ([], s)

/-- The text of a tag at the cursor, which is not empty. -/
def uri (c : Cursor) : Except Fault (List Char × Cursor) := do
  let (text, rest) ← tagText (c.rest.length + 1) c.rest
  let taken := c.rest.length - rest.length
  if taken == 0 then .error .malformed else return (text, c.skip taken)

/-- The handle of a tag: an exclamation mark alone, or a name between two. -/
def handle (c : Cursor) : Except Fault (List Char × Cursor) :=
  if c.head != '!' then .error .malformed
  else
    let name := (c.rest.drop 1).takeWhile isNameChar
    if c.ahead (name.length + 1) == '!' then
      .ok ('!' :: name ++ ['!'], c.skip (name.length + 2))
    else if c.ahead 1 == ' ' then .ok (['!'], c.next)
    else .error .malformed

/-- **The tag at the cursor.** -/
def tag (c : Cursor) : Except Fault (Token × Cursor) := do
  let (token, c) ←
    if c.ahead 1 == '<' then do
      let (text, c) ← uri (c.skip 2)
      if c.head == '>' then pure (Token.tag none text, c.next) else .error .malformed
    else if endsWord (c.ahead 1) then pure (Token.tag none ['!'], c.next)
    else do
      let field := (c.rest.drop 1).takeWhile (!endsField ·)
      let (name, c) ← if field.contains '!' then handle c else pure (['!'], c.next)
      let (text, c) ← uri c
      pure (Token.tag (some name) text, c)
  if endsField c.head then return (token, c) else .error .malformed

/-! ## Directives -/

/-- The number at the cursor. -/
def number (c : Cursor) : Except Fault (Nat × Cursor) :=
  let (digits, c) := c.span Char.isDigit
  if digits.isEmpty then .error .malformed
  else if digits.length > Text.digitLimit then
    .error (.failed (.invalid (.digitsRead digits.length)))
  else .ok (Text.toNat (Text.ofChars digits), c)

/-- The version a directive declares. -/
def version (c : Cursor) : Except Fault (Directive × Cursor) := do
  let (major, c) ← number c.skipSpaces
  if c.head != '.' then throw .malformed
  let (_, c) ← number c.next
  if endsField c.head then return (.version major, c) else .error .malformed

/-- The handle a directive declares and what it stands for. -/
def tagMeaning (c : Cursor) : Except Fault (Directive × Cursor) := do
  let (name, c) ← handle c.skipSpaces
  if c.head != ' ' then throw .malformed
  let (text, c) ← uri c.skipSpaces
  if endsField c.head then return (.tag name text, c) else .error .malformed

/-- **The directive at the cursor.**  Directives of unknown names say nothing. -/
def directive (c : Cursor) : Except Fault (Token × Cursor) := do
  let (name, c) := c.next.span isNameChar
  if name.isEmpty || !endsField c.head then throw .malformed
  let (d, c) ←
    if name == "YAML".toList then version c
    else if name == "TAG".toList then tagMeaning c
    else pure (.reserved, c.skipWhile (!isBreak ·))
  match c.blankLine? with
  | some c => return (.directive d, c)
  | none => .error .malformed

end RichText.Yaml.Name
