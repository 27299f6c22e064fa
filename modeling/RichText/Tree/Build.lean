import RichText.Fields
import RichText.Tree

/-!
# Tree/Build — nodes from named fields

Every type of node takes fields of certain names, some of which it cannot do without.  A heading has
a level from one to six or none at all; nothing else is checked.
-/

namespace RichText

/-! ## The one check -/

namespace Branch

/-- Refuse a heading level out of range. -/
def checkLevel (level : Value) : Except Failure Unit :=
  let inRange : Except Failure Bool := match level with
    | .null => .ok true
    | .float x => .ok (x.intLe 1 && x.leInt 6)
    | v => match v.int? with
      | some n => .ok (1 ≤ n && n ≤ 6)
      | none => .error .misuse
  match inRange with
  | .error e => .error e
  | .ok true => .ok ()
  | .ok false => .error (.invalid (.headingLevel level))

/-- Refuse a branch that cannot be built. -/
def check : Branch → Except Failure Unit
  | heading level => checkLevel level
  | _ => .ok ()

end Branch

/-! ## Outlines -/

/-- **A node without its children.** -/
inductive Outline
  | leaf (l : Leaf)
  | branch (b : Branch) (metadata : Value)

/-- What a node is given in the place for its children. -/
inductive Filling (α : Type)
  | children (nodes : List α)
  | value (v : Value)

namespace Outline

/-- The field of a type of node that holds its children. -/
def childField? (type : Text) : Option Text :=
  if type == "document" || type == "list_item" || type == "element" then some "children"
  else if type == "bullet_list" then some "items"
  else if type == "text" || type == "image" then none
  else some "content"

/-- The fields a type of node cannot do without, and those it may have, its children left out. -/
def fieldNames? (type : Text) : Option (List Text × List Text) :=
  if type == "heading" then some (["level"], ["metadata"])
  else if type == "text" then some (["content"], ["metadata"])
  else if type == "link" then some (["url"], ["title", "metadata"])
  else if type == "image" then
    some (["url"], ["alt_text", "title", "width", "height", "metadata"])
  else if type == "element" then some (["tag"], ["attributes", "metadata"])
  else if type == "document" || type == "paragraph" || type == "bullet_list" || type == "list_item"
      || type == "strong" || type == "emphasis" || type == "inline_code" then
    some ([], ["metadata"])
  else none

/-- Whether fields are those of a type of node. -/
def accepts (required optional : List Text) (given : Fields) : Bool :=
  given.all (fun f => required.contains f.1 || optional.contains f.1)
    && required.all fun name => (given.get? name).isSome

/-- The outline of a type of node with fields that it accepts. -/
def make (type : Text) (given : Fields) : Outline :=
  let metadata := given.getD "metadata" (.dict [])
  if type == "text" then leaf (.text (given.getD "content" .null) metadata)
  else if type == "image" then
    leaf (.image (given.getD "url" .null) (given.getD "alt_text" (.text []))
      (given.getD "title" .null) (given.getD "width" .null) (given.getD "height" .null) metadata)
  else
    let b : Branch :=
      if type == "document" then .document
      else if type == "heading" then .heading (given.getD "level" .null)
      else if type == "bullet_list" then .bulletList
      else if type == "list_item" then .listItem
      else if type == "strong" then .strong
      else if type == "emphasis" then .emphasis
      else if type == "inline_code" then .inlineCode
      else if type == "link" then .link (given.getD "url" .null) (given.getD "title" .null)
      else if type == "element" then
        .element (given.getD "tag" .null) (given.getD "attributes" (.dict []))
      else .paragraph
    branch b metadata

/-- Refuse an outline that cannot be built. -/
def check : Outline → Except Failure Outline
  | leaf l => .ok (leaf l)
  | branch b metadata => b.check.map fun _ => branch b metadata

/-- **The outline of a type of node with named fields.** -/
def ofFields (type : Text) (given : Fields) : Except Failure Outline :=
  match fieldNames? type with
  | none => .error .noName
  | some (required, optional) =>
    if accepts required optional given then (make type given).check else .error .misuse

/-- The node of an outline. -/
def toNode : Outline → Filling Node → Node
  | leaf l, _ => .leaf l
  | branch b metadata, .children nodes => .branch b nodes metadata
  | branch b metadata, .value v => .misfilled b v metadata

end Outline

end RichText
