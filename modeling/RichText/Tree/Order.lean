import RichText.Tree.Missing

/-!
# Tree/Order — the nodes of a tree in a row

`Node.postOrder` lists a tree with every node after its children, `Node.preOrder` with every node in
front of them; children stand from left to right.  What a tree lacks first is what the first node in
post-order lacks (`Node.missing?_eq_findSome?`).
-/

namespace RichText

namespace Node

/-! ## The two orders -/

mutual

/-- **The nodes of a tree**, children before their parents. -/
def postOrder : Node → List Node
  | branch b children metadata => allPostOrder children ++ [branch b children metadata]
  | n => [n]

/-- The nodes of some trees, children before their parents. -/
def allPostOrder : List Node → List Node
  | [] => []
  | n :: rest => postOrder n ++ allPostOrder rest

end

mutual

/-- **The nodes of a tree**, parents before their children. -/
def preOrder : Node → List Node
  | branch b children metadata => branch b children metadata :: allPreOrder children
  | n => [n]

/-- The nodes of some trees, parents before their children. -/
def allPreOrder : List Node → List Node
  | [] => []
  | n :: rest => preOrder n ++ allPreOrder rest

end

mutual

/-- Both orders list the same nodes. -/
theorem mem_preOrder (m n : Node) : m ∈ n.preOrder ↔ m ∈ n.postOrder := by
  match n with
  | leaf l => rw [preOrder, postOrder] <;> exact fun _ _ _ h => nomatch h
  | misfilled b value metadata =>
    rw [preOrder, postOrder] <;> exact fun _ _ _ h => nomatch h
  | branch b children metadata =>
    rw [preOrder, postOrder, List.mem_cons, List.mem_append, List.mem_singleton,
      mem_allPreOrder m children, or_comm]

theorem mem_allPreOrder (m : Node) (ns : List Node) : m ∈ allPreOrder ns ↔ m ∈ allPostOrder ns := by
  match ns with
  | [] => exact Iff.rfl
  | n :: rest =>
    rw [allPreOrder, allPostOrder, List.mem_append, List.mem_append, mem_preOrder m n,
      mem_allPreOrder m rest]

end

theorem mem_postOrder_leaf {m : Node} {l : Leaf} : m ∈ (leaf l).postOrder ↔ m = leaf l := by
  simp [postOrder]

theorem mem_postOrder_branch {m : Node} {b : Branch} {children : List Node} {metadata : Value} :
    m ∈ (branch b children metadata).postOrder
      ↔ m ∈ allPostOrder children ∨ m = branch b children metadata := by
  simp [postOrder]

/-- The nodes of some trees are those of one of them. -/
theorem mem_allPostOrder {m : Node} {ns : List Node} :
    m ∈ allPostOrder ns ↔ ∃ n ∈ ns, m ∈ n.postOrder := by
  induction ns with
  | nil => simp [allPostOrder]
  | cons n rest ih => simp [allPostOrder, ih]

/-! ## What a node itself has -/

/-- What a node itself lacks. -/
def gap? : Node → Option Gap
  | leaf l => l.missing?
  | branch b _ _ => b.missing?
  | misfilled b _ _ => b.missing?

/-- The address a node itself leads to: that of a link or an image. -/
def address? : Node → Option Value
  | leaf (.image url _ _ _ _ _) => some url
  | branch (.link url _) _ _ => some url
  | misfilled (.link url _) _ _ => some url
  | _ => none

mutual

/-- **What a tree lacks first** is what the first of its nodes in post-order lacks. -/
theorem missing?_eq_findSome? (n : Node) : n.missing? = n.postOrder.findSome? gap? := by
  match n with
  | leaf l => simp [missing?, postOrder, gap?]
  | misfilled b value metadata => simp [missing?, postOrder, gap?]
  | branch b children metadata =>
    rw [missing?, postOrder, List.findSome?_append, firstMissing?_eq_findSome? children]
    simp [gap?]

theorem firstMissing?_eq_findSome? (ns : List Node) :
    firstMissing? ns = (allPostOrder ns).findSome? gap? := by
  match ns with
  | [] => rfl
  | n :: rest =>
    rw [firstMissing?, allPostOrder, List.findSome?_append, missing?_eq_findSome? n,
      firstMissing?_eq_findSome? rest]
    exact Option.orElse_eq_or ..

end

end Node

/-- The failure that reports a gap. -/
def Gap.failure (g : Gap) : Failure := .missing g.kind g.wanted

end RichText
