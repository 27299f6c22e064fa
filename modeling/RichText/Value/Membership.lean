import RichText.Failure

/-!
# Value/Membership — what occurs in a value

Whether a text is part of a text, an item of a list or set, or a key of a mapping.
-/

namespace RichText

/-- Whether a text occurs in another one. -/
def Text.hasInfix (part : Text) : Text → Bool
  | [] => part.isEmpty
  | c :: rest => part.isPrefixOf (c :: rest) || hasInfix part rest

/-- Whether a text occurs in a value; scalars other than text are not gone through. -/
def Value.containsText (part : Text) : Value → Except Failure Bool
  | .text t => .ok (Text.hasInfix part t)
  | .list items => .ok (items.any (same (.text part)))
  | .set items => .ok (items.any (same (.text part)))
  | .dict entries => .ok (entries.any fun e => same (.text part) e.1)
  | _ => .error .misuse

end RichText
