import RichText.Markdown.Target

/-!
# Markdown/Inline — what stands in a line of text

Text with emphasis, code, links, images, breaks and HTML in it.
-/

namespace RichText.Markdown

/-- **A part of a line of text.** -/
inductive Inline
  | text (t : Text)
  | code (t : Text)
  | html (t : Text)
  | softBreak
  | hardBreak
  | emphasis (children : List Inline)
  | strong (children : List Inline)
  | strikethrough (children : List Inline)
  | link (target : Target) (children : List Inline)
  | image (target : Target) (children : List Inline)

namespace Inline

/-- A part in front of others; texts next to one another are one, and empty ones are left out. -/
def join (first : Inline) (others : List Inline) : List Inline :=
  match first, others with
  | text [], others => others
  | text s, text t :: rest => text (s ++ t) :: rest
  | first, others => first :: others

/-- Parts with the texts next to one another put together. -/
def joinAll (parts : List Inline) : List Inline := parts.foldr join []

end Inline

end RichText.Markdown
