import RichText.Yaml.Token

/-!
# Yaml/Token/Plain — scalars without quotation marks

A plain scalar ends before a comment, before a colon that has white space behind it, in the flow
style also before brackets, commas and question marks, and in the block style where a line is
indented too little.  A single line break between two of its lines counts as a space, and of several
breaks all but the first stay.
-/

namespace RichText.Yaml.Plain

/-- Whether a plain scalar ends before a character; `following` is the one behind it. -/
def stopsAt (flow : Bool) (c following : Char) : Bool :=
  endsWord c || (c == ':' && (endsWord following || (flow && isFlowMark following)))
    || (flow && (isFlowMark c || c == '?'))

/-- The characters up to the end of a run of a plain scalar. -/
def run (flow : Bool) : List Char → List Char
  | [] => []
  | c :: rest => if stopsAt flow c (rest.headD ending) then [] else c :: run flow rest

/-- The line breaks at the cursor, spaces between them left out, and the cursor behind them; nothing
where a mark that separates documents comes next. -/
def breaks? (fuel : Nat) (c : Cursor) : Option (List Char) × Cursor :=
  match fuel with
  | 0 => (some [], c)
  | fuel + 1 =>
    if c.isAtSeparator then (none, c)
    else
      let c := c.skipSpaces
      match c.break? with
      | some (b, c) =>
        let (found, c) := breaks? fuel c
        (found.map (b :: ·), c)
      | none => (some [], c)

/-- The line breaks that stay of a first break and the ones after it. -/
def folded (first : Char) (others : List Char) : List Char :=
  if first != '\n' then first :: others
  else if others.isEmpty then [' ']
  else others

/-- What lies between a run and the next one, and the cursor behind it.  The second part says whether
a line has ended. -/
def gap (c : Cursor) : List Char × Bool × Cursor :=
  let (spaces, c) := c.span (· == ' ')
  match c.break? with
  | none => (spaces, false, c)
  | some (first, c) =>
    match breaks? (c.rest.length + 1) c with
    | (none, c) => ([], true, c)
    | (some others, c) => (folded first others, true, c)

/-- The runs of a scalar after what lies before them.  `least` is the least column of its further
lines in the block style; the second part of the result says whether the gap at the end of the
scalar has ended a line. -/
def runs (flow : Bool) (least : Nat) (fuel : Nat) (before : List Char) (lineEnded : Bool)
    (c : Cursor) : List Char × Bool × Cursor :=
  let text := if c.head == '#' then [] else run flow c.rest
  match fuel, text with
  | 0, _ => ([], lineEnded, c)
  | _, [] => ([], lineEnded, c)
  | fuel + 1, text =>
    let (blank, lineEnded, c) := gap (c.skip text.length)
    let stops := blank.isEmpty || c.head == '#' || (!flow && c.column < least)
    if stops then (before ++ text, lineEnded, c)
    else
      let (rest, lineEnded, c) := runs flow least fuel blank lineEnded c
      (before ++ text ++ rest, lineEnded, c)

/-- **The plain scalar at the cursor**, whether a line ended behind it, and the cursor there. -/
def scan (flow : Bool) (least : Nat) (c : Cursor) : Token × Bool × Cursor :=
  let (text, lineEnded, c) := runs flow least (c.rest.length + 1) [] false c
  (.scalar (Text.ofChars text) true, lineEnded, c)

end RichText.Yaml.Plain
