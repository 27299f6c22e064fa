import RichText.Failure
import RichText.Markdown.Entity
import RichText.Markdown.Line
import RichText.Text.Case
import RichText.Url.Quote

/-!
# Markdown/Target — what links and images lead to

A target is a URL with an optional title.  It stands in parentheses behind a link or is defined once
for a label, and a link refers to it by that label.
-/

namespace RichText.Markdown

/-- **What a link or an image leads to**, as it is written. -/
structure Target where
  url : Text
  title : Option Text

/-- A target and the label it is defined for. -/
structure Definition where
  label : Text
  target : Target

/-- An ASCII mark, which a backslash before it leaves as it is. -/
def isMark (c : CodePoint) : Bool :=
  c.isAscii && 0x20 < c.code && c.code != 0x7F && !c.isAlphanum

/-- A text without the backslashes before marks. -/
def unescape : Text → Text
  | .char '\\' :: c :: rest => if isMark c then c :: unescape rest else '\\' :: unescape (c :: rest)
  | c :: rest => c :: unescape rest
  | [] => []

/-! ## URLs -/

namespace Target

/-- The text of a URL: backslashes before marks are left out and references are replaced. -/
def plainUrl (fuel : Nat) (t : Text) : Text :=
  match fuel, t with
  | fuel + 1, .char '\\' :: c :: rest =>
    if isMark c then c :: plainUrl fuel rest else '\\' :: plainUrl fuel (c :: rest)
  | fuel + 1, .char '&' :: rest =>
    match Entity.reference? rest with
    | some (found, rest) => found ++ plainUrl fuel rest
    | none => '&' :: plainUrl fuel rest
  | fuel + 1, c :: rest => c :: plainUrl fuel rest
  | _, t => t

/-- A byte that stays as it is in a URL. -/
def isSafe (b : UInt8) : Bool :=
  let c := Char.ofNat b.toNat
  b.toNat < 0x80 && (c.isAlphanum || "_.-~:/?#@!$&()*+,;=%".toList.contains c)

/-- Bytes as a URL: all but letters, digits and some marks are written as percent escapes. -/
def encode (bytes : List UInt8) : Text :=
  bytes.flatMap fun b => if isSafe b then [.char (Char.ofNat b.toNat)] else Url.percentEscape b

/-- The target of an address in which a backslash stands for itself. -/
def ofAddress (address : Text) : Target :=
  ⟨address.flatMap fun c => if c.is '\\' then [c, c] else [c], none⟩

/-- **The URL of a target.** -/
def href (t : Target) : Except Failure Text := do
  return encode (← (plainUrl t.url.length t.url).toUtf8)

end Target

/-! ## Syntax -/

/-- What follows white space with at most one line end in it. -/
def skipWhite (t : Text) : Text :=
  let rest := t.dropWhile isGap
  match rest with
  | .char '\n' :: rest => rest.dropWhile isGap
  | rest => rest

/-- A URL between angle brackets, and what follows it; the text begins behind the first one. -/
def angleUrl? : Text → Option (Text × Text)
  | .char '>' :: rest => some ([], rest)
  | .char '<' :: _ => none
  | .char '\n' :: _ => none
  | .char '\\' :: .char '\n' :: _ => none
  | .char '\\' :: c :: rest => (angleUrl? rest).map fun (u, rest) => (.char '\\' :: c :: u, rest)
  | c :: rest => (angleUrl? rest).map fun (u, rest) => (c :: u, rest)
  | [] => none

/-- A URL without brackets: it ends before white space or control characters and before a closing
parenthesis that it has not opened; `depth` parentheses are open. -/
def bareUrl (depth : Nat) : Text → Option (Text × Text)
  | [] => if depth = 0 then some ([], []) else none
  | .char '\\' :: c :: rest =>
    if isMark c then (bareUrl depth rest).map fun (u, rest) => (.char '\\' :: c :: u, rest)
    else (bareUrl depth (c :: rest)).map fun (u, rest) => (.char '\\' :: u, rest)
  | .char '(' :: rest => (bareUrl (depth + 1) rest).map fun (u, rest) => (.char '(' :: u, rest)
  | .char ')' :: rest =>
    if depth = 0 then some ([], .char ')' :: rest)
    else (bareUrl (depth - 1) rest).map fun (u, rest) => (.char ')' :: u, rest)
  | c :: rest =>
    if c.code ≤ 0x20 || c.code == 0x7F then
      if depth = 0 then some ([], c :: rest) else none
    else (bareUrl depth rest).map fun (u, rest) => (c :: u, rest)

/-- A URL at the start of a text, and what follows it. -/
def url? : Text → Option (Text × Text)
  | .char '<' :: rest => angleUrl? rest
  | t => match bareUrl 0 t with
    | some ([], .char ')' :: rest) => some ([], .char ')' :: rest)
    | some ([], _) => none
    | found => found

/-- A title up to its closing mark, and what follows it. -/
def titleBody? (mark : CodePoint) : Text → Option (Text × Text)
  | [] => none
  | .char '\\' :: c :: rest =>
    (titleBody? mark rest).map fun (t, rest) => (.char '\\' :: c :: t, rest)
  | c :: rest =>
    if c == mark then some ([], rest)
    else if mark == ')' && c.is '(' then none
    else (titleBody? mark rest).map fun (t, rest) => (c :: t, rest)

/-- A title at the start of a text, and what follows it. -/
def title? : Text → Option (Text × Text)
  | .char '"' :: rest => titleBody? '"' rest
  | .char '\'' :: rest => titleBody? '\'' rest
  | .char '(' :: rest => titleBody? ')' rest
  | _ => none

/-- The title behind white space, if one begins there, and what follows it. -/
def spacedTitle? (t : Text) : Option (Text × Text) :=
  let behind := skipWhite t
  if behind.length < t.length then title? behind else none

/-- The target in parentheses at the start of a text, and what follows it. -/
def inlineTarget? : Text → Option (Target × Text)
  | .char '(' :: rest => do
    let (url, rest) ← url? (skipWhite rest)
    let (title, rest) := match spacedTitle? rest with
      | some (title, rest) => (some title, rest)
      | none => (none, rest)
    match skipWhite rest with
    | .char ')' :: rest => some (⟨url, title⟩, rest)
    | _ => none
  | _ => none

/-! ## Labels -/

/-- A label without white space at its ends, with one space for each run of it, and with the case of
its letters left out. -/
def normalized (label : Text) : Text :=
  let words := (label.splitOnP (·.isBlank)).filter (!·.isEmpty)
  Text.upper (Text.lower (words.intersperse (Text.ofString " ")).flatten)

/-- The text up to a bracket that is not behind a backslash, and what follows the bracket if it is a
closing one. -/
def labelBody? : Text → Option (Text × Text)
  | [] => none
  | .char ']' :: rest => some ([], rest)
  | .char '[' :: _ => none
  | .char '\\' :: c :: rest => (labelBody? rest).map fun (l, rest) => (.char '\\' :: c :: l, rest)
  | c :: rest => (labelBody? rest).map fun (l, rest) => (c :: l, rest)

/-- A label in brackets at the start of a text, and what follows it. -/
def label? : Text → Option (Text × Text)
  | .char '[' :: rest => match labelBody? rest with
    | some (label, rest) => if label.length < 1000 then some (label, rest) else none
    | none => none
  | _ => none

/-- The target that a label is defined for; the first definition counts. -/
def Definition.find? (definitions : List Definition) (label : Text) : Option Target :=
  let name := normalized label
  if name.isEmpty then none else (definitions.find? (·.label == name)).map (·.target)

/-! ## Definitions -/

/-- What follows the line end at the start of a text that goes on with nothing else on its line. -/
def lineEnd? (t : Text) : Option Text :=
  match t.dropWhile isGap with
  | [] => some []
  | .char '\n' :: rest => some rest
  | _ => none

/-- A definition at the start of a text, and the lines that follow it. -/
def definition? (t : Text) : Option (Definition × Text) := do
  let (label, rest) ← label? t
  let name := normalized label
  if name.isEmpty then none
  match rest with
  | .char ':' :: rest =>
    let (url, rest) ← url? (skipWhite rest)
    let titled : Option (Text × Text) := do
      let (title, after) ← spacedTitle? rest
      return (title, ← lineEnd? after)
    match titled with
    | some (title, rest) => some (⟨name, ⟨url, some title⟩⟩, rest)
    | none => (lineEnd? rest).map fun rest => (⟨name, ⟨url, none⟩⟩, rest)
  | _ => none

/-- The definitions at the start of a text, and what follows them. -/
def leadingDefinitions (fuel : Nat) (t : Text) : List Definition × Text :=
  match fuel, definition? t with
  | fuel + 1, some (d, rest) =>
    let (ds, rest) := leadingDefinitions fuel rest
    (d :: ds, rest)
  | _, _ => ([], t)

end RichText.Markdown
