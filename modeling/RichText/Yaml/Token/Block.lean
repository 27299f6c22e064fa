import RichText.Yaml.Token

/-!
# Yaml/Token/Block — scalars that are blocks of lines

A block scalar begins with a header: a bar keeps the line breaks of the block and an angle bracket
folds them.  A digit in the header gives the indentation of the block and a sign says what becomes of
the line breaks at its end: none stays after a minus, all stay after a plus, and otherwise one.
-/

namespace RichText.Yaml.Block

/-- What becomes of the line breaks at the end of a block. -/
inductive Chomping
  | strip
  | clip
  | keep
  deriving DecidableEq

/-- The chomping a sign asks for, if there is one. -/
def chomping? (c : Cursor) : Option (Chomping × Cursor) :=
  if c.head == '+' then some (.keep, c.next)
  else if c.head == '-' then some (.strip, c.next)
  else none

/-- The indentation a digit asks for, if there is one; zero is none that can be asked for. -/
def increment? (c : Cursor) : Except Fault (Option Nat × Cursor) :=
  if c.head.isDigit then
    if c.head == '0' then .error .malformed else .ok (some (c.head.toNat - 48), c.next)
  else .ok (none, c)

/-- The sign and the digit of a header, in either order. -/
def header (c : Cursor) : Except Fault (Chomping × Option Nat × Cursor) :=
  match chomping? c with
  | some (chomping, c) => do
    let (increment, c) ← increment? c
    return (chomping, increment, c)
  | none => do
    let (increment, c) ← increment? c
    match increment, chomping? c with
    | some _, some (chomping, c) => return (chomping, increment, c)
    | _, _ => return (.clip, increment, c)

/-- The line breaks at the cursor, the deepest column of the spaces between them, and the cursor
behind them. -/
def leadingBreaks (fuel deepest : Nat) (c : Cursor) : List Char × Nat × Cursor :=
  match fuel with
  | 0 => ([], deepest, c)
  | fuel + 1 =>
    let c := c.skipSpaces
    let deepest := max deepest c.column
    match c.break? with
    | some (b, c) =>
      let (found, deepest, c) := leadingBreaks fuel deepest c
      (b :: found, deepest, c)
    | none => ([], deepest, c)

/-- The cursor behind spaces, no further than a column. -/
def indentTo (column : Nat) (c : Cursor) : Cursor :=
  c.skip (min (column - c.column) (c.rest.takeWhile (· == ' ')).length)

/-- The line breaks at the cursor, with the indentation of their lines left out. -/
def breaks (indent fuel : Nat) (c : Cursor) : List Char × Cursor :=
  let c := indentTo indent c
  match fuel, c.break? with
  | fuel + 1, some (b, c) =>
    let (found, c) := breaks indent fuel c
    (b :: found, c)
  | _, _ => ([], c)

/-- The lines of a block after the breaks before them, and its tail: the break that ends the last
line and the breaks after it. -/
def lines (foldsBreaks : Bool) (indent fuel : Nat) (before : List Char) (c : Cursor) :
    List Char × List Char × List Char × Cursor :=
  match fuel with
  | 0 => ([], [], before, c)
  | fuel + 1 =>
    let startsInked := c.head != ' ' && c.head != '\t'
    let (line, c) := c.span (!isBreak ·)
    let (ended, c) := match c.break? with
      | some (b, c) => ([b], c)
      | none => ([], c)
    let (after, c) := breaks indent (c.rest.length + 1) c
    if c.column == indent && c.head != ending then
      let joint :=
        if foldsBreaks && ended == ['\n'] && startsInked && c.head != ' ' && c.head != '\t' then
          if after.isEmpty then [' '] else []
        else ended
      let (rest, tail) := lines foldsBreaks indent fuel after c
      (before ++ line ++ joint ++ rest, tail)
    else (before ++ line, ended, after, c)

/-- **The block scalar at the cursor.**  `least` is the least indentation it can have. -/
def scan (foldsBreaks : Bool) (least : Nat) (c : Cursor) : Except Fault (Token × Cursor) := do
  let (chomping, increment, c) ← header c.next
  if !endsField c.head then throw .malformed
  match c.blankLine? with
  | none => .error .malformed
  | some c =>
    let (indent, before, c) := match increment with
      | some n =>
        let (before, c) := breaks (least + n - 1) (c.rest.length + 1) c
        (least + n - 1, before, c)
      | none =>
        let (before, deepest, c) := leadingBreaks (c.rest.length + 1) 0 c
        (max least deepest, before, c)
    let (text, ended, after, c) :=
      if c.column == indent && c.head != ending then
        lines foldsBreaks indent (c.rest.length + 1) before c
      else ([], [], before, c)
    let tail := match chomping with
      | .strip => []
      | .clip => ended
      | .keep => ended ++ after
    return (.scalar (Text.ofChars (text ++ tail)) false, c)

end RichText.Yaml.Block
