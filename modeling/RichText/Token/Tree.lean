import RichText.Token.PlainText
import RichText.Tree.Dict

/-!
# Token/Tree — the tree of a stream of tokens

Headings, paragraphs, bullet lists, emphasis, code spans, links and images have nodes of their own.
The content of a tight list item takes the place of the token that holds it, blank lines give
nothing, and every other token becomes an element with its type as the tag.
-/

namespace RichText.Token

/-- The attributes of a token, none where they are no mapping. -/
def attributes (entries : List (Value × Value)) : List (Value × Value) :=
  match Value.field? "attrs" entries with
  | some (.dict attributes) => attributes
  | _ => []

/-- A field of a token, or a default where it is missing. -/
def fieldOr (name : Text) (default : Value) (entries : List (Value × Value)) : Value :=
  (Value.field? name entries).getD default

/-- The level of a heading: the one given, if it is an integer from one to six, or one. -/
def headingLevel (attributes : List (Value × Value)) : Value :=
  let level := fieldOr "level" (.int 1) attributes
  match level.int? with
  | some n => if 1 ≤ n && n ≤ 6 then level else .int 1
  | none => .int 1

/-- A text node without metadata. -/
def textNode (content : Value) : Node := .leaf (.text content (.dict []))

/-- The node of a list with its items. -/
def listNode (attributes : List (Value × Value)) (items : List Node) : Node :=
  if (fieldOr "ordered" (.bool false) attributes).truthy then
    let start := fieldOr "start" (.int 1) attributes
    .branch (.element (.text "ordered_list") (.dict [entry "start" start])) items (.dict [])
  else .branch .bulletList items (.dict [])

/-- What becomes of a token. -/
inductive Role
  | nothing
  | leaf (n : Node)
  | image (attributes : List (Value × Value)) (children : Value)
  | branch (b : Branch)
  | list (attributes : List (Value × Value))
  | inlined
  | other (type : Value)

/-- The role of a token of a type that is a text. -/
def roleOfName? (name : Text) (entries : List (Value × Value)) : Option Role :=
  let attributes := attributes entries
  let raw := fieldOr "raw" (.text []) entries
  if name == "blank_line" then some .nothing
  else if name == "heading" then some (.branch (.heading (headingLevel attributes)))
  else if name == "paragraph" then some (.branch .paragraph)
  else if name == "block_text" then some .inlined
  else if name == "list" then some (.list attributes)
  else if name == "list_item" then some (.branch .listItem)
  else if name == "text" then some (.leaf (textNode raw))
  else if name == "strong" then some (.branch .strong)
  else if name == "emphasis" then some (.branch .emphasis)
  else if name == "codespan" then
    some (.leaf (.branch .inlineCode [textNode raw] (.dict [])))
  else if name == "link" then
    some (.branch (.link (fieldOr "url" (.text []) attributes) (fieldOr "title" .null attributes)))
  else if name == "image" then some (.image attributes (fieldOr "children" (.list []) entries))
  else if name == "softbreak" then some (.leaf (textNode (.text " ")))
  else none

/-- The role of a token. -/
def role (entries : List (Value × Value)) : Except Failure Role :=
  let type := fieldOr "type" (.text []) entries
  if !type.isKey then .error .misuse
  else .ok (((type.text?).bind (roleOfName? · entries)).getD (.other type))

/-- The node of an image. -/
def imageNode (attributes : List (Value × Value)) (children : Value) : Except Failure Node := do
  let alt ← plainText children
  return .leaf (.image (fieldOr "url" (.text []) attributes) (.text alt)
    (fieldOr "title" .null attributes) .null .null (.dict []))

/-- The children of an element whose token has none: its raw text, if there is some. -/
def rawChildren (entries : List (Value × Value)) : List Node :=
  match Value.field? "raw" entries with
  | some raw => if raw.truthy then [textNode raw] else []
  | none => []

/-- The element of a token of a type without a node of its own. -/
def elementNode (type : Value) (entries : List (Value × Value)) (children : List Node) : Node :=
  .branch (.element type (.dict (attributes entries))) children (.dict [])

end RichText.Token

namespace RichText.Node

open Token

/-- A branch without metadata. -/
def plain (b : Branch) (children : List Node) : Node := branch b children (.dict [])

mutual

/-- The nodes of a token. -/
def ofToken (token : Value) : Outcome (List Node) :=
  match token with
  | .dict entries => do
    match ← Outcome.ofExcept (role entries) with
    | .nothing => return []
    | .leaf n => return [n]
    | .image attributes children => return [← Outcome.ofExcept (imageNode attributes children)]
    | .branch b => return [plain b (← ofChildTokens entries)]
    | .list attributes => return [listNode attributes (← ofChildTokens entries)]
    | .inlined => ofChildTokens entries
    | .other type =>
      let children ←
        if (Value.field? "children" entries).isSome then ofChildTokens entries
        else pure (rawChildren entries)
      Outcome.note (.genericToken type)
      return [elementNode type entries children]
  | _ => Outcome.fail .noPart
termination_by (sizeOf token, 0)

/-- The nodes of the children of a token; what is no list gives none. -/
def ofChildTokens (entries : List (Value × Value)) : Outcome (List Node) :=
  match h : Value.field? "children" entries with
  | some (.list items) =>
    have : sizeOf items < sizeOf entries := by
      have := Value.sizeOf_field? h
      simp only [Value.list.sizeOf_spec] at this
      omega
    ofTokens items
  | _ => return []
termination_by (sizeOf entries, 1)

/-- **The nodes of a list of tokens.** -/
def ofTokens (tokens : List Value) : Outcome (List Node) :=
  match tokens with
  | [] => return []
  | t :: rest => do
    let first ← ofToken t
    return first ++ (← ofTokens rest)
termination_by (sizeOf tokens, 0)

end

end RichText.Node
