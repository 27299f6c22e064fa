import RichText.Tree

/-!
# Tree/Content — what a tree says

The contents of the texts of a tree and the alternative texts of its images, from left to right.
-/

namespace RichText

/-- What a leaf says. -/
def Leaf.contents : Leaf → List Value
  | text content _ => [content]
  | image _ alt _ _ _ _ => [alt]
  | _ => []

namespace Node

mutual

/-- **What a tree says.** -/
def contents : Node → List Value
  | leaf l => l.contents
  | branch _ children _ => allContents children
  | misfilled _ _ _ => []

/-- What some trees say. -/
def allContents : List Node → List Value
  | [] => []
  | n :: rest => contents n ++ allContents rest

end

theorem allContents_append (ms ns : List Node) :
    allContents (ms ++ ns) = allContents ms ++ allContents ns := by
  induction ms with
  | nil => simp [allContents]
  | cons m rest ih => simp [allContents, ih]

end Node

end RichText
