import RichText.Tree.Build

/-!
# Tree/Description — trees from descriptions

A description names the type of every node and its fields; building goes through it from the leaves
up.  Names of nodes that exist already only mean something where there are some.
-/

namespace RichText

/-- **A description of a tree.** -/
inductive Description
  | value (v : Value)
  | foreign (className : Text)
  | known (name : Text)
  | node (type : Text) (given : Fields) (children : List Description)
  | misfilled (type : Text) (given : Fields) (children : Value)
  deriving Inhabited

namespace Node

mutual

/-- **The tree of a description.** -/
def ofDescription : Description → Except Failure Node
  | .value v => .ok (leaf (.stray v))
  | .foreign className => .ok (leaf (.foreign className))
  | .known _ => .error .noName
  | .node type given children => do
    let nodes ← ofDescriptions children
    return (← Outline.ofFields type given).toNode (.children nodes)
  | .misfilled type given v => do return (← Outline.ofFields type given).toNode (.value v)

/-- The trees of a list of descriptions. -/
def ofDescriptions : List Description → Except Failure (List Node)
  | [] => .ok []
  | d :: rest => do
    let first ← ofDescription d
    return first :: (← ofDescriptions rest)

end

end Node

end RichText
