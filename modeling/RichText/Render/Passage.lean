import RichText.Render.Attribute
import RichText.Render.Walk

/-!
# Render/Passage — where the nodes of a tree stand in its RTF

Every node of a tree has a place in the RTF of the tree: behind what comes before it, and within the
branches around it.
-/

namespace RichText

/-- **A branch around a place**, with those of its children that come before the place, last one
first. -/
structure Ancestor where
  branch : Branch
  earlier : List Node

/-- **A node in RTF**: its ancestors, innermost first, the RTF before it and its own. -/
structure Passage where
  node : Node
  ancestors : List Ancestor
  before : Text
  own : Text

namespace Ancestor

/-- Whether one of the children before a place switches an attribute off. -/
def takesBack (x : Ancestor) (a : Rtf.Attribute) : Bool := x.earlier.any (Node.takesBack a)

/-- **Whether an attribute is on at a place**, found from the tree alone. -/
def isOn (a : Rtf.Attribute) : List Ancestor → Bool
  | [] => false
  | x :: above => !x.takesBack a && (x.branch.shows a || isOn a above)

end Ancestor

/-- The RTF that an outcome holds. -/
def Outcome.rtf (o : Outcome Rendered) : Text :=
  match o.result with
  | .ok (.text t) => t
  | _ => []

/-- What stands around the children of a branch that can be rendered. -/
def Branch.enclosure? (context : RenderContext) (b : Branch) : Option Enclosure :=
  match (b.enclosure context).result with
  | .ok e => some e
  | .error _ => none

namespace Node

mutual

/-- **The passages of a tree** that has ancestors and stands behind RTF: its own one first, and then
those of its children. -/
def passages (fs : FileSystem) (context : RenderContext) (ancestors : List Ancestor)
    (before : Text) : Node → List Passage
  | leaf l => [⟨leaf l, ancestors, before, (render fs context (leaf l)).rtf⟩]
  | branch b children metadata =>
    ⟨branch b children metadata, ancestors, before,
        (render fs context (branch b children metadata)).rtf⟩ ::
      match b.enclosure? context with
      | some e => allPassages fs context b ancestors [] (before ++ e.before) children
      | none => []
  | misfilled b value metadata =>
    [⟨misfilled b value metadata, ancestors, before,
      (render fs context (misfilled b value metadata)).rtf⟩]

/-- The passages of the children of a branch, up to the first null; `earlier` are those that have been
passed. -/
def allPassages (fs : FileSystem) (context : RenderContext) (b : Branch) (above : List Ancestor)
    (earlier : List Node) (before : Text) : List Node → List Passage
  | [] => []
  | n :: rest =>
    if n.isNull then []
    else passages fs context (⟨b, earlier⟩ :: above) before n
      ++ allPassages fs context b above (n :: earlier) (before ++ (render fs context n).rtf) rest

end

mutual

/-- The nodes of a tree that are rendered, each one before its children. -/
def shownNodes : Node → List Node
  | leaf l => [leaf l]
  | branch b children metadata => branch b children metadata :: allShownNodes children
  | misfilled b value metadata => [misfilled b value metadata]

/-- The nodes of trees that are rendered, up to the first null. -/
def allShownNodes : List Node → List Node
  | [] => []
  | n :: rest => if n.isNull then [] else shownNodes n ++ allShownNodes rest

end

end Node

end RichText
