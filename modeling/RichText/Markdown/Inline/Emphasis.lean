import RichText.Markdown.Inline

/-!
# Markdown/Inline/Emphasis — runs of marks that begin and end emphasis

A run of stars or underscores may open emphasis, close it or both, which depends on the code points
around it.  A run that may close goes with the nearest one before it that may open, and whatever runs
are left between them are text.  Two tildes do the same for text that is struck out.
-/

namespace RichText.Markdown

/-- **A run of marks**: how many there were, how many are left, and what they may do. -/
structure Run where
  mark : Char
  length : Nat
  count : Nat
  opens : Bool
  closes : Bool

/-- A part of a line, or a run of marks that is still to be matched. -/
inductive Piece
  | inline (i : Inline)
  | run (r : Run)

namespace Run

/-- The run of a mark between two code points. -/
def between (mark : Char) (length : Nat) (before after : CodePoint) : Run :=
  let leans (here there : CodePoint) : Bool :=
    !here.isBlank && (!here.isPunctuation || there.isBlank || there.isPunctuation)
  let left := leans after before
  let right := leans before after
  if mark == '_' then
    ⟨mark, length, length, left && (!right || before.isPunctuation),
      right && (!left || after.isPunctuation)⟩
  else ⟨mark, length, length, left, right⟩

/-- The marks that are left, as text. -/
def text (r : Run) : Inline := .text (List.replicate r.count (.char r.mark))

/-- Whether a run can be closed by a later one.  When one of the two may both open and close, their
lengths must not add up to a multiple of three, unless both are multiples of three. -/
def fits (opener closer : Run) : Bool :=
  opener.opens && opener.mark == closer.mark
    && (opener.mark != '~' || opener.length == closer.length)
    && !((opener.closes || closer.opens) && (opener.length + closer.length) % 3 == 0
      && !(opener.length % 3 == 0 && closer.length % 3 == 0))

/-- How many marks of two runs that match go with one another. -/
def used (opener closer : Run) : Nat := if 2 ≤ opener.count && 2 ≤ closer.count then 2 else 1

/-- What marks make of the pieces between them. -/
def enclose (mark : Char) (n : Nat) (children : List Inline) : Inline :=
  if mark == '~' then .strikethrough children
  else if n == 2 then .strong children
  else .emphasis children

end Run

namespace Piece

/-- A part of a line; a run that was not matched is text. -/
def settled : Piece → Inline
  | inline i => i
  | run r => r.text

/-- The parts of a line that was passed, whose last piece comes first. -/
def settleAll (passed : List Piece) : List Inline :=
  Inline.joinAll (passed.reverse.map settled)

/-- The nearest run that a later one closes, what was passed before it and what after it. -/
def opener? (closer : Run) : List Piece → Option (Run × List Piece × List Piece)
  | [] => none
  | run r :: rest =>
    if r.fits closer then some (r, rest, [])
    else (opener? closer rest).map fun (o, before, after) => (o, before, run r :: after)
  | inline i :: rest =>
    (opener? closer rest).map fun (o, before, after) => (o, before, inline i :: after)

/-- A run in front of what was passed, if marks are left. -/
def pushRun (r : Run) (passed : List Piece) : List Piece :=
  if r.count = 0 then passed
  else if r.opens then run r :: passed
  else inline r.text :: passed

/-- What was passed with a run matched as far as it closes.  Every match uses a mark, so fuel of the
number of marks is enough. -/
def close (fuel : Nat) (passed : List Piece) (closer : Run) : List Piece :=
  match fuel, opener? closer passed with
  | fuel + 1, some (o, before, after) =>
    let n := Run.used o closer
    let node := inline (Run.enclose o.mark n (settleAll after))
    let before := if o.count = n then before else run { o with count := o.count - n } :: before
    let closer := { closer with count := closer.count - n }
    if closer.count = 0 then node :: before else close fuel (node :: before) closer
  | _, _ => pushRun closer passed

/-- What was passed with one more piece. -/
def pass (passed : List Piece) : Piece → List Piece
  | inline i => inline i :: passed
  | run r => if r.closes then close r.count passed r else pushRun r passed

/-- **The parts of a line of pieces**, with their runs of marks matched. -/
def resolve (pieces : List Piece) : List Inline := settleAll (pieces.foldl pass [])

end Piece

end RichText.Markdown
