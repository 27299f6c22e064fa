import RichText.Token.PlainText

/-!
# Token/Content — what tokens say

Texts and code spans say what they hold, a line that goes on says a blank, an image says the plain
text of its children, a blank line says nothing.  Any other token says what its children say or, if it
has none, what it holds.
-/

namespace RichText.Token

/-- What a token says by itself, if it does not leave that to its children. -/
def ownContents? (entries : List (Value × Value)) : Option (List Value) :=
  let type := ((Value.field? "type" entries).bind Value.text?).getD []
  let raw := (Value.field? "raw" entries).getD (.text [])
  let children := (Value.field? "children" entries).getD (.list [])
  if type == "text" || type == "codespan" then some [raw]
  else if type == "softbreak" then some [.text " "]
  else if type == "blank_line" then some []
  else if type == "image" then
    some (match plainText children with
      | .ok t => [.text t]
      | .error _ => [])
  else if (Value.field? "children" entries).isNone then some (if raw.truthy then [raw] else [])
  else none

mutual

/-- What the children of a token say; what is no list of them says nothing. -/
def childContents (entries : List (Value × Value)) : List Value :=
  match h : Value.field? "children" entries with
  | some (.list items) =>
    have : sizeOf items < sizeOf entries := by
      have := Value.sizeOf_field? h
      simp only [Value.list.sizeOf_spec] at this
      omega
    contents items
  | _ => []
termination_by sizeOf entries

/-- **What tokens say**, from left to right. -/
def contents (tokens : List Value) : List Value :=
  match tokens with
  | [] => []
  | .dict entries :: rest =>
    (match ownContents? entries with
      | some own => own
      | none => childContents entries) ++ contents rest
  | _ :: rest => contents rest
termination_by sizeOf tokens
decreasing_by
  all_goals simp only [List.cons.sizeOf_spec, Value.dict.sizeOf_spec]; omega

end

end RichText.Token
