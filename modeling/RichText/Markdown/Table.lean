import RichText.Markdown.Line

/-!
# Markdown/Table — tables

A table has a line of headings, a line of hyphens that aligns its columns, and rows.  Its lines begin
and end with a bar, or have bars only between their cells.  A line with another number of cells makes
no table of all of them.
-/

namespace RichText.Markdown

/-- Where the cells of a column stand. -/
inductive Alignment
  | left
  | right
  | center

/-- **A table**: whether its lines begin and end with a bar, the alignments of its columns, its
headings and its rows. -/
structure Table where
  hasEdges : Bool
  alignments : List (Option Alignment)
  head : List Text
  rows : List (List Text)

namespace Table

/-- The text between the bars at the two ends of a line. -/
def inner? (line : Text) : Option Text :=
  match line.dropWhile (·.is ' ') with
  | .char '|' :: rest =>
    let inner := Text.trimEnd isGap rest
    if 1 < inner.length && inner.getLast? == some (.char '|') then some inner.dropLast else none
  | _ => none

/-- Put a code point in front of the first cell. -/
def consCell (c : CodePoint) : List Text → List Text
  | [] => [[c]]
  | cell :: cells => (c :: cell) :: cells

/-- A text cut at its bars; a bar behind a backslash is none. -/
def cut : Text → List Text
  | [] => [[]]
  | .char '\\' :: .char '|' :: rest => consCell (.char '\\') (consCell (.char '|') (cut rest))
  | .char '|' :: rest => [] :: cut rest
  | c :: rest => consCell c (cut rest)

/-- The cells of a text. -/
def cells (t : Text) : List Text := (cut t).map Text.trim

/-- Whether a text aligns columns: hyphens and colons with bars and spaces between them. -/
def aligns (t : Text) : Bool :=
  let t := t.dropWhile (·.is ' ')
  (t.head?.any fun c => c.is '-' || c.is ':')
    && t.all fun c => c.is '-' || c.is ':' || c.is '|' || c.is ' '

/-- The alignment a cell of hyphens and colons asks for. -/
def alignment (cell : Text) : Option Alignment :=
  let left := cell.head? == some (.char ':')
  let right := 1 < cell.length && cell.getLast? == some (.char ':')
  let hyphens := if left then cell.drop 1 else cell
  let hyphens := if right then hyphens.dropLast else hyphens
  if hyphens.isEmpty || !hyphens.all (·.is '-') then none
  else match left, right with
    | true, true => some .center
    | true, false => some .left
    | false, true => some .right
    | false, false => none

/-- Whether the second text aligns the cells of the first, and the table of the two: a text of the
headings and one of hyphens and colons, both without the bars at their ends. -/
def ofHeadings? (hasEdges : Bool) (head align : Text) : Option Table :=
  let headings := cells head.trim
  let columns := cells align.trim
  if headings.length == columns.length then
    some ⟨hasEdges, columns.map alignment, headings, []⟩
  else none

/-- Whether a text has a bar. -/
def hasBar (t : Text) : Bool := t.any (·.is '|')

/-- Whether hyphens and colons with a bar behind them begin a text. -/
def alignsFirst (t : Text) : Bool :=
  let rest := t.dropWhile fun c => c.is '-' || c.is ':'
  rest.length < t.length && (rest.dropWhile (·.is ' ')).head? == some (.char '|')

/-- The table that a line of headings and the line below it begin. -/
def start? (head align : Text) : Option Table :=
  match inner? head, inner? align with
  | some inHead, some inAlign =>
    if aligns inAlign then ofHeadings? true inHead inAlign else none
  | _, _ =>
    if hasBar (head.drop 1) && aligns align && alignsFirst align then ofHeadings? false head align
    else none

/-- The cells of a line below a table, if it is a row. -/
def row? (t : Table) (line : Text) : Option (List Text) :=
  if t.hasEdges then (inner? line).map cells
  else if hasBar line then some (cells line.trim)
  else none

/-- The table with one more row, which has a cell for each column. -/
def addRow? (t : Table) (row : List Text) : Option Table :=
  if row.length == t.alignments.length then some { t with rows := t.rows ++ [row] } else none

end Table

end RichText.Markdown
