import RichText.FrontMatter
import RichText.Output
import RichText.Source
import RichText.Token.Tree

/-!
# Conversion — from Markdown to trees, and from trees to RTF

Options may be given as a value, as named fields or as both; named fields win.  Markdown and the block in
front of it are read by whatever `Readers` are given; `RichText.Readers` has some.
-/

namespace RichText

namespace RenderContext

/-- The context that options describe. -/
def ofOptions (fs : FileSystem) (o : RtfOptions) : Except Failure RenderContext := do
  let loader ←
    if o.embedImages.truthy then
      some <$> ImageLoader.create fs o.sourceDirectory o.maxAssetSize
    else .ok none
  return ⟨o.baseUrl, o.unicodeMode, loader, o.failOnResourceErrors⟩

end RenderContext

/-- **The readers of the languages a document is in**: of the block in front of it, and of its text with
some extensions of the language. -/
structure Readers where
  block : Text → Except Fault Value
  tokens : (extensions : List Text) → Text → Except Failure Value

/-- The extensions of Markdown that options ask for. -/
def MarkdownOptions.extensions (o : MarkdownOptions) : List Text :=
  let named (on : Value) (name : Text) : List Text := if on.truthy then [name] else []
  named o.parseStrikethrough "strikethrough" ++ named o.parseTables "table"

namespace Conversion

/-- The RTF of a tree with the options of the renderer. -/
def renderWith (fs : FileSystem) (o : RtfOptions) (root : Node) : Outcome Rendered := do
  let context ← RenderContext.ofOptions fs o
  let rendered ← Walk.render fs context root
  Outcome.note .renderingDone
  return rendered

/-- Names that stand for parameters and so cannot be those of further fields. -/
def refuseNames (names : List Text) (given : Fields) : Except Failure Unit :=
  if given.names.any fun n => names.contains n then .error .misuse else .ok ()

/-- **The RTF of a tree.** -/
def render (fs : FileSystem) (root : Node) (options : Option Options) (given : Fields) :
    Outcome Rendered := do
  refuseNames ["doc", "options", "options_class", "options_type_name"] given
  let merged ← Options.merge .rtf "renderer" options given
  renderWith fs (← Options.forRenderer (some merged)) root

/-- **Give the RTF of a tree to a destination.** -/
def deliver (root : Node) (d : Destination) (options : Option Options) (given : Fields) :
    Effect (Option Text) := do
  refuseNames ["doc", "output", "options"] given
  let rendered ← Effect.ofOutcome (render (← get).files root options given)
  d.deliver rendered

/-- Give the RTF of a tree with the options of the renderer to a destination; the caller gets nothing
back. -/
def deliverWith (o : RtfOptions) (root : Node) (d : Destination) : Effect Unit := do
  let rendered ← Effect.ofOutcome (renderWith (← get).files o root)
  discard (d.deliver rendered)

/-! ## Markdown -/

/-- The nodes of the tokens that a reader gives; what is no list gives none. -/
def nodesOf : Value → Outcome (List Node)
  | .list tokens => Node.ofTokens tokens
  | _ => return []

section Reading

variable (readers : Readers)

/-- The tree of a document in Markdown with the options of the parser. -/
def parseText (o : MarkdownOptions) (t : Text) : Outcome Node := do
  let found ← FrontMatter.extractWith readers.block o t
  let children ← nodesOf (← readers.tokens o.extensions found.content)
  Outcome.note .parsingDone
  return .branch .document children (.dict found.metadata)

/-- The tree of a document that is read from a source. -/
def parseWith (fs : FileSystem) (o : MarkdownOptions) (source : Source) : Outcome Node := do
  parseText readers o (← source.read fs)

/-- **The tree of a document in Markdown.** -/
def parse (fs : FileSystem) (source : Source) (options : Option Options) : Outcome Node := do
  parseWith readers fs (← Options.forParser options) source

/-- **The RTF of a document in Markdown.**  Named fields go to the options that have them. -/
def renderMarkdown (fs : FileSystem) (source : Source) (options parserOptions : Option Options)
    (given : Fields) : Outcome Rendered := do
  refuseNames ["markdown", "options", "parser_options"] given
  let isParsers (f : Text × Value) : Bool := OptionsKind.markdown.fieldNames.contains f.1
  let merged ← Options.merge .markdown "parser" parserOptions (given.filter isParsers)
  let root ← parse readers fs source (some merged)
  render fs root options (given.filter fun f => !isParsers f)

end Reading

end Conversion

end RichText
