import RichText.Options
import RichText.Text.Line

/-!
# FrontMatter — a mapping in front of a document

A document may begin with a block of lines between two lines of three hyphens.  The block is in a
language of its own, which a reader is given for; a mapping goes with the document, and anything else
is left out.
-/

namespace RichText

/-- **A text and the mapping in front of it.** -/
structure FrontMatter where
  content : Text
  metadata : List (Value × Value)

namespace FrontMatter

/-- Whether a text begins with the line that opens a block. -/
def opens (t : Text) : Bool :=
  (Text.ofString "---\n").isPrefixOf t || (Text.ofString "---\r\n").isPrefixOf t

/-- A line that closes a block. -/
def closes (line : Text) : Bool := line.trim == "---"

/-- The block in front of a text and what comes behind it, if there is one. -/
def split? (t : Text) : Option (Text × Text) :=
  if !opens t then none
  else
    let lines := t.lines.drop 1
    let block := lines.takeWhile fun line => !closes line
    match lines.drop block.length with
    | _ :: rest => some (block.flatten, rest.flatten)
    | [] => none

/-- The mapping that the value of a block is; a block that holds none is noted and left out. -/
def metadataOf (loaded : Except Fault Value) : Outcome (List (Value × Value)) :=
  match loaded with
  | .ok (.dict entries) => return entries
  | .ok v => do
    Outcome.note (.frontMatterType v.typeName)
    return []
  | .error .malformed => do
    Outcome.note .badFrontMatter
    return []
  | .error (.failed f) => Outcome.fail f

/-- **The front matter of a text** whose block is read by `read`, if the options ask for it. -/
def extractWith (read : Text → Except Fault Value) (o : MarkdownOptions) (t : Text) :
    Outcome FrontMatter := do
  if !o.parseFrontMatter.truthy then return ⟨t, []⟩
  match split? t with
  | none => return ⟨t, []⟩
  | some (block, rest) => return ⟨rest, ← metadataOf (read block)⟩

end FrontMatter

end RichText
