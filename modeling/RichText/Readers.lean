import RichText.Conversion
import RichText.Markdown.Token
import RichText.Yaml.Graph.OfTokens
import RichText.Yaml.Graph.Value
import RichText.Yaml.Token.Stream

/-!
# Readers — readers of YAML and of Markdown

Conversions take whatever readers they are given.  These are the ones to give where there are no others.
A text in YAML that is one document has the value of that document, and one without a document is null.
Markdown is read in two passes: the first finds the blocks and the definitions in them, the second the
parts of their text, which may refer to definitions that come later.
-/

namespace RichText

/-- **The value of a text in YAML.** -/
def Yaml.read (t : Text) : Except Fault Value :=
  match characters? t with
  | none => .error .malformed
  | some s =>
    let stream := TokenStream.ofChars s
    match Graph.ofTokens stream.tokens with
    | .ok (g, some root) => g.value root
    | .ok (_, none) => .ok .null
    | .error .disorder => .error .malformed
    | .error .starved => .error (stream.fault.getD .malformed)

namespace Markdown

/-- Go through definitions, and fail at the first one whose URL cannot be written. -/
def checkDefinitions : List Definition → Except Failure Unit
  | [] => .ok ()
  | d :: rest => do
    let _ ← d.target.href
    checkDefinitions rest

/-- **The tokens of a text in Markdown**, with extensions. -/
def tokens (extensions : List Text) (t : Text) : Except Failure Value := do
  let (blocks, definitions) := Block.ofText (extensions.contains "table") t
  checkDefinitions definitions
  return .list (← Block.toTokens ⟨definitions, extensions.contains "strikethrough"⟩ false blocks)

end Markdown

/-- **Readers of YAML and of Markdown.** -/
def Readers.standard : Readers := ⟨Yaml.read, Markdown.tokens⟩

end RichText
