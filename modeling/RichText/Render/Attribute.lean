import RichText.Rtf.Style
import RichText.Tree

/-!
# Render/Attribute — what branches do to the style of text

Some kinds of branch switch attributes on for their children and off behind them.  Others put their
children into a group of RTF, behind which the style is what it was before.
-/

namespace RichText

namespace Branch

/-- Whether a kind of branch shows its children with an attribute. -/
def shows (b : Branch) (a : Rtf.Attribute) : Bool :=
  match b, a with
  | heading _, .bold => true
  | strong, .bold => true
  | emphasis, .italic => true
  | inlineCode, .italic => true
  | inlineCode, .underline => true
  | _, _ => false

/-- Whether the children of a branch stand in a group. -/
def isGroup : Branch → Bool
  | document => true
  | heading _ => true
  | bulletList => true
  | link _ _ => true
  | _ => false

end Branch

namespace Node

/-- Whether a node shows its children with an attribute. -/
def shows (n : Node) (a : Rtf.Attribute) : Bool :=
  match n with
  | leaf _ => false
  | branch b _ _ => b.shows a
  | misfilled b _ _ => b.shows a

mutual

/-- **Whether an attribute is off behind a node**, even where it is on before it: a branch that shows
it ends there, outside of every group. -/
def takesBack (a : Rtf.Attribute) : Node → Bool
  | leaf _ => false
  | branch b children _ => !b.isGroup && (b.shows a || anyTakesBack a children)
  | misfilled b _ _ => !b.isGroup && b.shows a

/-- Whether an attribute is off behind trees, of which those from the first null on do not count. -/
def anyTakesBack (a : Rtf.Attribute) : List Node → Bool
  | [] => false
  | n :: rest => !n.isNull && (takesBack a n || anyTakesBack a rest)

end

end Node

end RichText
