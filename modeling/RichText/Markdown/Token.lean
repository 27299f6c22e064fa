import RichText.Markdown.Block.Reader
import RichText.Markdown.Inline.Reader
import RichText.Tree.Dict

/-!
# Markdown/Token — the tokens of a document

A document is handed on as a stream of tokens: mappings that name the type of a construct and hold its
text, its attributes or the tokens in it.  Here the text of paragraphs, headings and cells is read,
since only now all definitions are known.
-/

namespace RichText.Markdown

/-- A token of a type. -/
def token (type : Text) (parts : List (Value × Value)) : Value :=
  .dict (entry "type" (.text type) :: parts)

/-- A token with tokens in it. -/
def parentToken (type : Text) (children : List Value) : Value :=
  token type [entry "children" (.list children)]

/-- A token with tokens in it and attributes. -/
def markedToken (type : Text) (children : List Value) (attributes : List (Value × Value)) : Value :=
  token type [entry "children" (.list children), entry "attrs" (.dict attributes)]

/-- A token with text. -/
def rawToken (type raw : Text) : Value := token type [entry "raw" (.text raw)]

/-! ## Parts of a text -/

namespace Target

/-- The title of a target, if it is not empty. -/
def titleEntries (t : Target) : List (Value × Value) :=
  match (t.title.map unescape).getD [] with
  | [] => []
  | title => [entry "title" (.text title)]

/-- The attributes of a link or an image. -/
def attributes (t : Target) : Except Failure (List (Value × Value)) := do
  return entry "url" (.text (← t.href)) :: t.titleEntries

end Target

mutual

/-- The token of a part of a text. -/
def Inline.toToken : Inline → Except Failure Value
  | .text t => .ok (rawToken "text" t)
  | .code t => .ok (rawToken "codespan" t)
  | .html t => .ok (rawToken "inline_html" t)
  | .softBreak => .ok (token "softbreak" [])
  | .hardBreak => .ok (token "linebreak" [])
  | .emphasis children => do return parentToken "emphasis" (← Inline.toTokens children)
  | .strong children => do return parentToken "strong" (← Inline.toTokens children)
  | .strikethrough children => do return parentToken "strikethrough" (← Inline.toTokens children)
  | .link target children => do
    return markedToken "link" (← Inline.toTokens children) (← target.attributes)
  | .image target children => do
    return markedToken "image" (← Inline.toTokens children) (← target.attributes)

/-- The tokens of the parts of a text. -/
def Inline.toTokens : List Inline → Except Failure (List Value)
  | [] => .ok []
  | i :: rest => do return (← Inline.toToken i) :: (← Inline.toTokens rest)

end

/-- White space that does not belong to the text of a block. -/
def isOuter (c : CodePoint) : Bool := isGap c || c.is '\n' || c.is '\r' || c.is '\x0c'

/-- The tokens of the text of a block; an empty text is one token. -/
def textTokens (s : InlineReader.Setting) (t : Text) : Except Failure (List Value) :=
  match Text.trimEnd isOuter (t.dropWhile isOuter) with
  | [] => .ok [rawToken "text" []]
  | t => Inline.toTokens (Inline.ofText s t)

/-! ## Tables -/

/-- The name of an alignment. -/
def Alignment.name : Alignment → Text
  | left => "left"
  | right => "right"
  | center => "center"

/-- The token of a cell. -/
def cellToken (s : InlineReader.Setting) (isHead : Bool) (alignment : Option Alignment) (t : Text) :
    Except Failure Value := do
  let align : Value := match alignment with
    | some a => .text a.name
    | none => .null
  return markedToken "table_cell" (← textTokens s t)
    [entry "align" align, entry "head" (.bool isHead)]

/-- The tokens of the cells of a row. -/
def rowTokens (s : InlineReader.Setting) (isHead : Bool) :
    List (Option Alignment) → List Text → Except Failure (List Value)
  | a :: alignments, t :: cells => do
    return (← cellToken s isHead a t) :: (← rowTokens s isHead alignments cells)
  | _, _ => .ok []

/-- The token of a table. -/
def Table.toToken (s : InlineReader.Setting) (t : Table) : Except Failure Value := do
  let head ← rowTokens s true t.alignments t.head
  let rows ← t.rows.mapM (rowTokens s false t.alignments)
  return parentToken "table"
    [parentToken "table_head" head, parentToken "table_body" (rows.map (parentToken "table_row"))]

/-! ## Blocks -/

/-- The attributes of a list; the number it starts with is left out where it is one. -/
def listAttributes : Option Nat → List (Value × Value)
  | none => [entry "ordered" (.bool false)]
  | some 1 => [entry "ordered" (.bool true)]
  | some n => [entry "ordered" (.bool true), entry "start" (.int n)]

/-- The token of a block of code. -/
def codeToken (info t : Text) : Value :=
  if info.isEmpty then rawToken "block_code" t
  else token "block_code" [entry "raw" (.text t), entry "attrs" (.dict [entry "info" (.text info)])]

mutual

/-- The token of a block.  A paragraph in an item of a tight list is nothing but its text. -/
def Block.toToken (s : InlineReader.Setting) (inTight : Bool) : Block → Except Failure Value
  | .heading level t => do
    return markedToken "heading" (← textTokens s t) [entry "level" (.int level)]
  | .paragraph t => do
    return parentToken (if inTight then "block_text" else "paragraph") (← textTokens s t)
  | .code info t => .ok (codeToken info t)
  | .html t => .ok (rawToken "block_html" t)
  | .thematicBreak => .ok (token "thematic_break" [])
  | .quote children => do return parentToken "block_quote" (← Block.toTokens s false children)
  | .list start isTight items => do
    return markedToken "list" (← Block.itemTokens s isTight items) (listAttributes start)
  | .table t => t.toToken s

/-- The tokens of blocks. -/
def Block.toTokens (s : InlineReader.Setting) (inTight : Bool) :
    List Block → Except Failure (List Value)
  | [] => .ok []
  | b :: rest => do return (← Block.toToken s inTight b) :: (← Block.toTokens s inTight rest)

/-- The tokens of the items of a list. -/
def Block.itemTokens (s : InlineReader.Setting) (isTight : Bool) :
    List (List Block) → Except Failure (List Value)
  | [] => .ok []
  | item :: rest => do
    return parentToken "list_item" (← Block.toTokens s isTight item)
      :: (← Block.itemTokens s isTight rest)

end

end RichText.Markdown
