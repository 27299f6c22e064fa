import RichText.Tree

/-!
# Tree/Missing — attributes a tree lacks

Headings need a level, links and images a URL, and texts a content.  `Node.missing?` finds the first
of these that is missing when every node comes after its children.
-/

namespace RichText

/-- **An attribute that is missing**: the kind of its node and its name. -/
structure Gap where
  kind : Text
  wanted : Text
  deriving DecidableEq

/-- The gap where a value should be. -/
def Gap.ofValue? (kind wanted : Text) (v : Value) : Option Gap :=
  if v.isNull then some ⟨kind, wanted⟩ else none

/-- What a leaf lacks. -/
def Leaf.missing? : Leaf → Option Gap
  | text content _ => Gap.ofValue? "text" "content" content
  | image url _ _ _ _ _ => Gap.ofValue? "image" "url" url
  | _ => none

/-- What a branch itself lacks. -/
def Branch.missing? : Branch → Option Gap
  | heading level => Gap.ofValue? "heading" "level" level
  | link url _ => Gap.ofValue? "link" "url" url
  | _ => none

namespace Node

mutual

/-- **The first attribute that a tree lacks**, children before their parent. -/
def missing? : Node → Option Gap
  | leaf l => l.missing?
  | branch b children _ => (firstMissing? children) <|> b.missing?
  | misfilled b _ _ => b.missing?

/-- The first attribute that some trees lack. -/
def firstMissing? : List Node → Option Gap
  | [] => none
  | n :: rest => (missing? n) <|> (firstMissing? rest)

end

end Node

end RichText
