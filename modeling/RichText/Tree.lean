import RichText.Value.Entries

/-!
# Tree — document trees

A tree has leaves and branches.  A branch has a list of children; a branch whose place for children
holds something else is kept as it is, and so is a value that stands where a node should.  Fields
hold values of any shape: what they have to be is found out where they are used.
-/

namespace RichText

/-- **The kinds of branch**, with the fields they have besides children and metadata. -/
inductive Branch
  | document
  | heading (level : Value)
  | paragraph
  | bulletList
  | listItem
  | strong
  | emphasis
  | inlineCode
  | link (url title : Value)
  | element (tag attributes : Value)
  deriving Inhabited

/-- **The kinds of leaf**: text, an image, a node of a kind defined elsewhere, and a value that is no
node. -/
inductive Leaf
  | text (content metadata : Value)
  | image (url alt title width height metadata : Value)
  | foreign (className : Text)
  | stray (value : Value)
  deriving Inhabited

/-- **A document tree.** -/
inductive Node
  | leaf (l : Leaf)
  | branch (b : Branch) (children : List Node) (metadata : Value)
  | misfilled (b : Branch) (children metadata : Value)
  deriving Inhabited

namespace Branch

/-- The name of a branch's class. -/
def className : Branch → Text
  | document => "Document"
  | heading _ => "Heading"
  | paragraph => "Paragraph"
  | bulletList => "BulletList"
  | listItem => "ListItem"
  | strong => "Strong"
  | emphasis => "Emphasis"
  | inlineCode => "InlineCode"
  | link _ _ => "Link"
  | element _ _ => "Element"

/-- The kind of a branch; elements have none of their own. -/
def kind? : Branch → Option Text
  | document => some "document"
  | heading _ => some "heading"
  | paragraph => some "paragraph"
  | bulletList => some "bullet_list"
  | listItem => some "list_item"
  | strong => some "strong"
  | emphasis => some "emphasis"
  | inlineCode => some "inline_code"
  | link _ _ => some "link"
  | element _ _ => none

/-- The name of a branch's kind; for an element this is its tag, whatever that is. -/
def kindName : Branch → Value
  | element tag _ => tag
  | b => .text (b.kind?.getD [])

/-- The name of the field that holds the children. -/
def childField : Branch → Text
  | document => "children"
  | bulletList => "items"
  | listItem => "children"
  | element _ _ => "children"
  | _ => "content"

end Branch

namespace Node

/-- The value `null` where a node should stand. -/
def isNull : Node → Bool
  | leaf (.stray .null) => true
  | _ => false

/-- The children of a node; none where the place for children holds nothing to go through. -/
def children? : Node → Option (List Node)
  | leaf _ => some []
  | branch _ children _ => some children
  | misfilled _ value _ => value.items?.map (·.map fun v => leaf (.stray v))

/-- The name of a node's class. -/
def className : Node → Text
  | leaf (.text _ _) => "Text"
  | leaf (.image _ _ _ _ _ _) => "Image"
  | leaf (.foreign name) => name
  | leaf (.stray v) => v.typeName
  | branch b _ _ => b.className
  | misfilled b _ _ => b.className

end Node

end RichText
