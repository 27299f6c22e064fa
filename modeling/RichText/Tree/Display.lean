import RichText.Tree

/-!
# Tree/Display — what of a tree is shown

Metadata, the attributes of elements and the titles of links and images go with a tree and are not
shown.  `Node.displayed` leaves them out.  The size of an image belongs to its picture and is not shown
where no picture is; `Node.unsized` leaves it out.
-/

namespace RichText

/-- A leaf without what is not shown. -/
def Leaf.displayed : Leaf → Leaf
  | text content _ => text content (.dict [])
  | image url alt _ width height _ => image url alt .null width height (.dict [])
  | l => l

/-- A leaf without its size. -/
def Leaf.unsized : Leaf → Leaf
  | image url alt title _ _ metadata => image url alt title .null .null metadata
  | l => l

/-- A branch without what is not shown. -/
def Branch.displayed : Branch → Branch
  | link url _ => link url .null
  | element tag _ => element tag (.dict [])
  | b => b

namespace Node

mutual

/-- **A tree without what is not shown.** -/
def displayed : Node → Node
  | leaf l => leaf l.displayed
  | branch b children _ => branch b.displayed (allDisplayed children) (.dict [])
  | misfilled b value _ => misfilled b.displayed value (.dict [])

/-- Trees without what is not shown. -/
def allDisplayed : List Node → List Node
  | [] => []
  | n :: rest => displayed n :: allDisplayed rest

end

mutual

/-- A tree with its leaves, the kinds of its branches and its metadata replaced. -/
def map (onLeaf : Leaf → Leaf) (onBranch : Branch → Branch) (onMetadata : Value → Value) :
    Node → Node
  | leaf l => leaf (onLeaf l)
  | branch b children metadata =>
    branch (onBranch b) (mapAll onLeaf onBranch onMetadata children) (onMetadata metadata)
  | misfilled b value metadata => misfilled (onBranch b) value (onMetadata metadata)

/-- Trees with the same parts replaced. -/
def mapAll (onLeaf : Leaf → Leaf) (onBranch : Branch → Branch) (onMetadata : Value → Value) :
    List Node → List Node
  | [] => []
  | n :: rest => map onLeaf onBranch onMetadata n :: mapAll onLeaf onBranch onMetadata rest

end

mutual

theorem displayed_eq_map (n : Node) :
    n.displayed = n.map Leaf.displayed Branch.displayed fun _ => .dict [] := by
  match n with
  | leaf l => rfl
  | branch b children metadata => rw [displayed, map, allDisplayed_eq_mapAll children]
  | misfilled b value metadata => rfl

theorem allDisplayed_eq_mapAll (ns : List Node) :
    allDisplayed ns = mapAll Leaf.displayed Branch.displayed (fun _ => .dict []) ns := by
  match ns with
  | [] => rfl
  | n :: rest => rw [allDisplayed, mapAll, displayed_eq_map n, allDisplayed_eq_mapAll rest]

end

/-- **A tree without the sizes of its images.** -/
def unsized (n : Node) : Node := n.map Leaf.unsized id id

end Node

end RichText
