import RichText.Markdown.Block.Start
import RichText.Markdown.Html
import RichText.Markdown.Table

/-!
# Markdown/Block/Reader — the blocks of lines

Blocks stand one below the other.  Quotations and list items hold blocks; headings, paragraphs and the
cells of tables hold text whose parts are found later, since a link may refer to a definition that
comes after it.

Lines are read one after the other.  A line first goes into the open containers that it continues,
from the outermost on, then opens new ones, and what is left of it goes into the innermost block.  A
line of text goes on with a paragraph even if it does not continue the containers around it.  Two
lines of a paragraph may begin a table, which a line with another number of cells turns back.  Every
block keeps its first and its last line, which tell a list whether blank lines separate its parts.
-/

namespace RichText.Markdown

/-- **A block of a document.** -/
inductive Block
  | heading (level : Nat) (text : Text)
  | paragraph (text : Text)
  | code (info : Text) (text : Text)
  | html (text : Text)
  | thematicBreak
  | quote (children : List Block)
  /-- A list with the number it starts with, if its items are numbered.  In a tight one no blank line
  separates items or what they hold. -/
  | list (start : Option Nat) (isTight : Bool) (items : List (List Block))
  | table (t : Table)

/-- A block with its first and its last line. -/
structure Placed where
  first : Nat
  last : Nat
  block : Block

/-- A list item with its first and its last line. -/
structure Item where
  first : Nat
  last : Nat
  children : List Placed

/-- **An open container** with its first line and what it holds, last one first. -/
inductive Frame
  | quote (first : Nat) (children : List Placed)
  | list (first : Nat) (mark : ListMark) (items : List Item)
  | item (first offset : Nat) (children : List Placed)

/-- **An open block of text** with its lines, last one first. -/
inductive Leaf
  | paragraph (lines : List Text)
  | fenced (fence : Fence) (lines : List Text)
  | indented (lines : List Text)
  | html (ending : Html.Ending) (lines : List Text)
  /-- A table with its lines, and the lines of the paragraph before it. -/
  | table (before : List Text) (t : Table) (lines : List Text)

/-- The blocks that are open and those that are complete. -/
structure BlockReader where
  tables : Bool
  /-- The number of the current line. -/
  line : Nat := 0
  /-- The open containers, innermost first. -/
  frames : List Frame := []
  /-- The open block of text and its first line. -/
  leaf : Option (Nat × Leaf) := none
  /-- The complete blocks outside of every container, last one first. -/
  children : List Placed := []
  definitions : List Definition := []

/-! ## Lines put together -/

/-- Lines with line feeds between them. -/
def joinLines (lines : List Text) : Text := (lines.intersperse (Text.ofString "\n")).flatten

/-- Lines with line feeds behind them. -/
def endLines (lines : List Text) : Text := lines.flatMap (· ++ Text.ofString "\n")

/-- Whether a blank line separates some of the blocks of a list, last one first. -/
def hasGap : List Placed → Bool
  | later :: earlier :: rest => earlier.last + 1 != later.first || hasGap (earlier :: rest)
  | _ => false

/-- Whether a blank line separates some of the items of a list, last one first. -/
def hasItemGap : List Item → Bool
  | later :: earlier :: rest => earlier.last + 1 != later.first || hasItemGap (earlier :: rest)
  | _ => false

/-- The blocks in the order of their lines. -/
def blocksOf (children : List Placed) : List Block := children.reverse.map (·.block)

namespace BlockReader

/-! ## Completing blocks -/

/-- Put a complete block into the innermost container. -/
def add (r : BlockReader) (p : Placed) : BlockReader :=
  match r.frames with
  | .quote first children :: outer => { r with frames := .quote first (p :: children) :: outer }
  | .item first offset children :: outer =>
    { r with frames := .item first offset (p :: children) :: outer }
  | .list _ _ _ :: _ => r
  | [] => { r with children := p :: r.children }

/-- The reader with the definitions at the start of a paragraph taken out of it, and what is left of
its text. -/
def define (r : BlockReader) (lines : List Text) : BlockReader × Text :=
  let text := joinLines lines.reverse
  let (found, rest) := leadingDefinitions text.length text
  ({ r with definitions := r.definitions ++ found }, rest)

/-- A paragraph is complete; there may be nothing left of it but definitions. -/
def addParagraph (first last : Nat) (lines : List Text) (r : BlockReader) : BlockReader :=
  let (r, text) := r.define lines
  if (splitLines text).all (·.all isGap) then r else r.add ⟨first, last, .paragraph text⟩

/-- A block of text is complete; its last line is `last`. -/
def closeLeaf (last : Nat) (r : BlockReader) : BlockReader :=
  match r.leaf with
  | none => r
  | some (first, leaf) =>
    let r := { r with leaf := none }
    match leaf with
    | .paragraph lines => r.addParagraph first last lines
    | .fenced fence lines => r.add ⟨first, last, .code fence.info (endLines lines.reverse)⟩
    | .indented lines =>
      let lines := (lines.dropWhile (·.all isGap)).reverse
      r.add ⟨first, first + lines.length - 1, .code [] (joinLines lines)⟩
    | .html _ lines => r.add ⟨first, last, .html (endLines lines.reverse)⟩
    | .table before t _ =>
      let start := first + before.length
      (r.addParagraph first (start - 1) before).add ⟨start, last, .table t⟩

/-- The innermost container is complete; its last line is `last` unless what it holds says so. -/
def closeFrame (last : Nat) (r : BlockReader) : BlockReader :=
  match r.frames with
  | .quote first children :: outer =>
    ({ r with frames := outer } : BlockReader).add ⟨first, last, .quote (blocksOf children)⟩
  | .item first _ children :: .list start mark items :: outer =>
    let item : Item := ⟨first, (children.head?.map (·.last)).getD first, children⟩
    { r with frames := .list start mark (item :: items) :: outer }
  | .list first mark items :: outer =>
    let tight := !hasItemGap items && !items.any fun i => hasGap i.children
    let block := .list mark.start? tight (items.reverse.map fun i => blocksOf i.children)
    ({ r with frames := outer } : BlockReader).add
      ⟨first, (items.head?.map (·.last)).getD first, block⟩
  | _ => { r with frames := r.frames.drop 1 }

/-- All but the outermost containers are complete, and so is the block of text; the line before the
current one was their last. -/
def settle (kept : Nat) (r : BlockReader) : BlockReader :=
  let r := r.closeLeaf (r.line - 1)
  (r.frames.length - kept).repeat (closeFrame (r.line - 1)) r

/-- A list is complete before anything but another item of it. -/
def leaveList (r : BlockReader) : BlockReader :=
  match r.frames with
  | .list _ _ _ :: _ => r.closeFrame (r.line - 1)
  | _ => r

/-! ## Containers that go on -/

/-- The number of containers that a line continues, outermost first, and what is left of the line.  A
line with nothing in it does not continue an item that begins with such a line. -/
def continued (r : BlockReader) (l : Line) : List Frame → Nat × Line
  | [] => (0, l)
  | .quote _ _ :: inner =>
    if !l.isIndented && l.inked.head?.any (·.is '>') then
      let (n, l) := continued r ((l.dropInked 1).dropColumns 1) inner
      (n + 1, l)
    else (0, l)
  | .list _ _ _ :: inner =>
    let (n, l) := continued r l inner
    (n + 1, l)
  | .item _ offset children :: inner =>
    if l.isBlank then
      if children.isEmpty && inner.isEmpty && r.leaf.isNone then (0, l)
      else
        let (n, l) := continued r (l.dropInked 0) inner
        (n + 1, l)
    else if offset ≤ l.indent then
      let (n, l) := continued r (l.dropColumns offset) inner
      (n + 1, l)
    else (0, l)

/-- The reader with one more line in its block of text. -/
def withLeaf (r : BlockReader) (first : Nat) (leaf : Leaf) : BlockReader :=
  { r with leaf := some (first, leaf) }

/-- The reader with a block of HTML, which a line with its ending completes. -/
def withHtml (r : BlockReader) (first : Nat) (ending : Html.Ending) (lines : List Text)
    (line : Text) : BlockReader :=
  let r := r.withLeaf first (.html ending (line :: lines))
  if ending.isIn line then r.closeLeaf r.line else r

/-- The reader with a paragraph, whose last two lines may begin a table. -/
def withParagraph (r : BlockReader) (first : Nat) (lines : List Text) : BlockReader :=
  let table : Option Leaf := match lines with
    | align :: head :: before =>
      if r.tables then
        (Table.start? head align).map fun t => .table before t [align, head]
      else none
    | _ => none
  r.withLeaf first (table.getD (.paragraph lines))

/-- The reader with a line in its table, if it is a row.  A row with another number of cells makes a
paragraph of the table. -/
def withRow? (r : BlockReader) (first : Nat) (before : List Text) (t : Table) (lines : List Text)
    (line : Text) : Option BlockReader := do
  let row ← t.row? line
  match t.addRow? row with
  | some t => some (r.withLeaf first (.table before t (line :: lines)))
  | none => some (r.withLeaf first (.paragraph (line :: lines ++ before)))

/-- The reader with a line in its block of code, HTML or table, if that goes on with it. -/
def literal? (r : BlockReader) (l : Line) : Option BlockReader :=
  match r.leaf with
  | some (first, .fenced fence lines) =>
    if !l.isIndented && fence.isClosedBy l.inked then some (r.closeLeaf r.line)
    else some (r.withLeaf first (.fenced fence ((l.dropColumns fence.indent).content :: lines)))
  | some (first, .indented lines) =>
    if l.isIndented then
      some (r.withLeaf first (.indented ((l.dropColumns 4).content :: lines)))
    else if l.isBlank then some (r.withLeaf first (.indented ([] :: lines)))
    else none
  | some (first, .html ending lines) =>
    match ending, l.isBlank with
    | .blank, true => none
    | ending, _ => some (r.withHtml first ending lines l.content)
  | some (first, .table before t lines) =>
    if l.isIndented then none else r.withRow? first before t lines l.inked
  | _ => none

/-! ## Blocks that begin -/

/-- What a line has opened so far: the reader, how many containers go on, and what is left of the
line; `isDone` says that nothing is. -/
structure Opening where
  reader : BlockReader
  kept : Nat
  rest : Line
  isDone : Bool := false

namespace Opening

/-- The paragraph that is open, if there is one. -/
def paragraph? (o : Opening) : Option (List Text) :=
  match o.reader.leaf with
  | some (_, .paragraph lines) => some lines
  | _ => none

/-- Whether the line stands in the open paragraph. -/
def inParagraph (o : Opening) : Bool := o.paragraph?.isSome && o.kept == o.reader.frames.length

/-- The reader with everything complete that the line does not continue. -/
def settled (o : Opening) : BlockReader := o.reader.settle o.kept

/-- The opening with a reader that has taken the whole line. -/
def done (o : Opening) (r : BlockReader) : Opening := { o with reader := r, isDone := true }

/-- The opening with a complete block of one line. -/
def withBlock (o : Opening) (b : Block) : Opening :=
  let r := o.settled.leaveList
  o.done (r.add ⟨r.line, r.line, b⟩)

/-- The opening with a quotation. -/
def withQuote (o : Opening) : Opening :=
  let r := o.settled.leaveList
  let r := { r with frames := .quote r.line [] :: r.frames }
  ⟨r, r.frames.length, (o.rest.dropInked 1).dropColumns 1, false⟩

/-- The opening with a list item, and with a list around it unless it belongs to the open one. -/
def withItem (o : Opening) (mark : ListMark) (offset : Nat) (rest : Line) : Opening :=
  let r := o.settled
  let fresh (r : BlockReader) : BlockReader :=
    { r with frames := .list r.line mark [] :: r.frames }
  let r := match r.frames with
    | .list _ m _ :: _ => if m.goesWith mark then r else fresh r.leaveList
    | _ => fresh r
  let r := { r with frames := .item r.line offset [] :: r.frames }
  ⟨r, r.frames.length, rest, false⟩

/-- The heading that the line makes of the paragraph it stands in.  Definitions are no part of it, and
if there is nothing else the line makes no heading. -/
def underlined? (o : Opening) : Option Opening := do
  if !o.inParagraph then none
  let lines ← o.paragraph?
  let level ← underlineLevel? o.rest.inked
  let (r, text) := o.reader.define lines
  if text.all isGap then none
  let first := (r.leaf.map (·.1)).getD r.line
  some (o.done (({ r with leaf := none } : BlockReader).add ⟨first, r.line, .heading level text⟩))

/-- The opening with the next block that begins, if one does. -/
def next? (o : Opening) : Option Opening :=
  let l := o.rest
  let t := l.inked
  if l.isIndented then
    if o.paragraph?.isSome || l.isBlank then none
    else
      let r := o.settled.leaveList
      some (o.done (r.withLeaf r.line (.indented [(l.dropColumns 4).content])))
  else if t.head?.any (·.is '>') then some o.withQuote
  else match heading? t, fence? l.indent t, Html.ending? o.paragraph?.isSome t with
    | some (level, text), _, _ => some (o.withBlock (.heading level text))
    | _, some fence, _ =>
      let r := o.settled.leaveList
      some (o.done (r.withLeaf r.line (.fenced fence [])))
    | _, _, some ending =>
      let r := o.settled.leaveList
      some (o.done (r.withHtml r.line ending [] l.content))
    | none, none, none =>
      match o.underlined? with
      | some o => some o
      | none =>
        if isThematicBreak t then some (o.withBlock .thematicBreak)
        else (itemStart? o.inParagraph l).map fun (mark, offset, rest) => o.withItem mark offset rest

/-- The opening with all blocks that begin.  Each of them takes a part of the line. -/
def all (fuel : Nat) (o : Opening) : Opening :=
  match fuel, if o.isDone then none else o.next? with
  | fuel + 1, some o => all fuel o
  | _, _ => o

/-- The reader with what is left of the line in it. -/
def finish (o : Opening) : BlockReader :=
  if o.isDone then o.reader
  else match o.reader.leaf, o.rest.isBlank with
    | some (first, .paragraph lines), false =>
      let lines := o.rest.inked :: lines
      if o.inParagraph && !o.rest.isIndented then o.reader.withParagraph first lines
      else o.reader.withLeaf first (.paragraph lines)
    | _, true => o.settled
    | _, false =>
      let r := o.settled.leaveList
      r.withLeaf r.line (.paragraph [o.rest.inked])

end Opening

/-! ## Lines -/

/-- **The reader behind one more line.** -/
def readLine (r : BlockReader) (t : Text) : BlockReader :=
  let r := { r with line := r.line + 1 }
  let (kept, l) := r.continued ⟨t, 0, 0⟩ r.frames.reverse
  match if kept == r.frames.length then r.literal? l else none with
  | some r => r
  | none => (Opening.all (t.length + 1) ⟨r, kept, l, false⟩).finish

/-- The reader with everything complete. -/
def close (r : BlockReader) : BlockReader := ({ r with line := r.line + 1 } : BlockReader).settle 0

end BlockReader

namespace Block

/-- **The blocks and the definitions of a text.** -/
def ofText (tables : Bool) (t : Text) : List Block × List Definition :=
  let r := ((splitLines t).foldl BlockReader.readLine { tables := tables }).close
  (blocksOf r.children, r.definitions)

end Block

end RichText.Markdown
