import RichText.Text.Case
import RichText.Tree

/-!
# Tree/Visit — which handler a node is given to

A visitor has a handler for every kind of node.  For elements it may have one, and for nodes of any
kind that has none a general one.  `Node.listing` goes through a tree, parents before their children.
-/

namespace RichText

/-- **What a visitor handles** besides the kinds of node. -/
structure Visitor where
  element : Bool
  generic : Bool

namespace Visitor

/-- The handler of everything that has none of its own. -/
def genericHandler? (v : Visitor) : Option Text := if v.generic then some "generic" else none

/-- The handler of elements. -/
def elementHandler? (v : Visitor) : Option Text :=
  if v.element then some "element" else v.genericHandler?

end Visitor

namespace Node

/-- The kind of a node, if it is one of those with a rule of its own. -/
def kind? : Node → Option Text
  | leaf (.text _ _) => some "text"
  | leaf (.image _ _ _ _ _ _) => some "image"
  | leaf _ => none
  | branch b _ _ => b.kind?
  | misfilled b _ _ => b.kind?

/-- The name of a node's kind; values that are no nodes have none. -/
def kindName? : Node → Option Value
  | leaf (.foreign className) => some (.text className.lower)
  | leaf (.stray _) => none
  | leaf l => (leaf l).kind?.map .text
  | branch b _ _ => some b.kindName
  | misfilled b _ _ => some b.kindName

/-- **The handler a visitor has for a node**, by its name. -/
def handler? (v : Visitor) (n : Node) : Option Text :=
  match n.kind? with
  | some kind => some kind
  | none => match n with
    | leaf _ => v.genericHandler?
    | _ => v.elementHandler?

/-- A line of a listing. -/
structure Line where
  depth : Nat
  className : Text
  kind : Option Text
  kindName : Value
  childCount : Nat
  handler : Option Text

/-- The line of a node at a depth. -/
def line (v : Visitor) (depth childCount : Nat) (n : Node) : Except Failure Line :=
  match n.kindName? with
  | none => .error .noPart
  | some kindName => .ok ⟨depth, n.className, n.kind?, kindName, childCount, n.handler? v⟩

mutual

/-- **The lines of a tree**, parents before their children. -/
def listing (v : Visitor) (depth : Nat) : Node → Except Failure (List Line)
  | leaf l => do return [← line v depth 0 (leaf l)]
  | branch b children metadata => do
    let own ← line v depth children.length (branch b children metadata)
    return own :: (← listings v (depth + 1) children)
  | misfilled b value metadata =>
    match value.items? with
    | none => .error .misuse
    | some [] => do return [← line v depth 0 (misfilled b value metadata)]
    | some (_ :: _) => .error .noPart

/-- The lines of a list of trees. -/
def listings (v : Visitor) (depth : Nat) : List Node → Except Failure (List Line)
  | [] => .ok []
  | n :: rest => do
    let first ← listing v depth n
    return first ++ (← listings v depth rest)

end

end Node

end RichText
