import RichText.Markdown.Target

/-!
# Markdown/Block/Start — how blocks begin

What a line looks like that begins a heading, a block of code, a thematic break or a list item.
-/

namespace RichText.Markdown

/-! ## Headings and breaks -/

/-- A text without the hashes that close a heading. -/
def withoutClosing (t : Text) : Text :=
  let t := Text.trimEnd isGap t
  let rest := Text.trimEnd (·.is '#') t
  if rest.isEmpty then []
  else if rest.length < t.length && rest.getLast?.any isGap then Text.trimEnd isGap rest
  else t

/-- The level and the text of a heading that begins with hashes. -/
def heading? (t : Text) : Option (Nat × Text) :=
  let level := (t.takeWhile (·.is '#')).length
  let rest := t.drop level
  if 1 ≤ level && level ≤ 6 && rest.head?.all isGap then
    some (level, withoutClosing (rest.dropWhile isGap))
  else none

/-- The level of the heading that a line below it makes of a paragraph. -/
def underlineLevel? (t : Text) : Option Nat :=
  let t := Text.trimEnd isGap t
  if t.isEmpty then none
  else if t.all (·.is '=') then some 1
  else if t.all (·.is '-') then some 2
  else none

/-- Three stars, hyphens or underscores or more, and white space. -/
def isThematicBreak (t : Text) : Bool :=
  let marks := t.filter fun c => !isGap c
  3 ≤ marks.length
    && (marks.all (·.is '*') || marks.all (·.is '-') || marks.all (·.is '_'))

/-! ## Code -/

/-- What begins a block of code: a run of a mark, the indentation of the run and the text behind
it. -/
structure Fence where
  mark : CodePoint
  length : Nat
  indent : Nat
  info : Text

/-- The fence that begins a text. -/
def fence? (indent : Nat) (t : Text) : Option Fence :=
  match t with
  | mark :: _ =>
    let length := (t.takeWhile (· == mark)).length
    let info := t.drop length
    let isTicks := mark.is '\x60'
    if (isTicks || mark.is '~') && 3 ≤ length && !(isTicks && info.any (·.is '\x60')) then
      some ⟨mark, length, indent, unescape (Text.trim info)⟩
    else none
  | [] => none

/-- Whether a text ends a block of code. -/
def Fence.isClosedBy (f : Fence) (t : Text) : Bool :=
  let length := (t.takeWhile (· == f.mark)).length
  f.length ≤ length && (t.drop length).all isGap

/-! ## Lists -/

/-- What the items of a list begin with. -/
inductive ListMark
  | bullet (mark : CodePoint)
  | number (start : Nat) (delimiter : CodePoint)

namespace ListMark

/-- Whether items belong to one list. -/
def goesWith : ListMark → ListMark → Bool
  | bullet m, bullet n => m == n
  | number _ d, number _ e => d == e
  | _, _ => false

/-- The number of the first item, if items are numbered. -/
def start? : ListMark → Option Nat
  | bullet _ => none
  | number start _ => some start

/-- The mark at the start of a text, and how long it is. -/
def ofText? (t : Text) : Option (ListMark × Nat) :=
  match t with
  | [] => none
  | c :: _ =>
    if c.is '-' || c.is '+' || c.is '*' then some (bullet c, 1)
    else
      let digits := t.takeWhile (·.isDigit)
      match t.drop digits.length with
      | d :: _ =>
        if 1 ≤ digits.length && digits.length ≤ 9 && (d.is '.' || d.is ')') then
          some (number (Text.toNat digits) d, digits.length + 1)
        else none
      | [] => none

/-- Whether a mark may begin a list in a paragraph. -/
def interrupts : ListMark → Bool
  | bullet _ => true
  | number start _ => start == 1

end ListMark

/-- The mark of a list item, the columns its content is indented by, and the line behind it.  An item
that interrupts a paragraph is not empty. -/
def itemStart? (inParagraph : Bool) (l : Line) : Option (ListMark × Nat × Line) := do
  let (mark, length) ← ListMark.ofText? l.inked
  let rest := l.dropInked length
  if !(rest.text.head?.all isGap) || (inParagraph && (!mark.interrupts || rest.isBlank)) then none
  else
    let width := if rest.isBlank || 5 ≤ rest.indent then 1 else rest.indent
    some (mark, l.indent + length + width, rest.dropColumns width)

end RichText.Markdown
