import RichText.Fields
import RichText.Outcome
import RichText.Rtf.Escape

/-!
# Options — what a caller may choose

Options come in four kinds, of which two extend the others.  They are made from named fields, with
defaults for those that are not given, and are never changed: an update is a new value, checked like
any other.
-/

namespace RichText

/-- Options of every renderer. -/
structure RendererOptions where
  failOnResourceErrors : Value := .bool false
  maxAssetSize : Value := .int (50 * 1024 * 1024)

/-- Options of the RTF renderer. -/
structure RtfOptions extends RendererOptions where
  baseUrl : Value := .null
  embedImages : Value := .bool false
  sourceDirectory : Value := .null
  unicodeMode : Rtf.UnicodeMode := .utf16

/-- Options of the Markdown parser. -/
structure MarkdownOptions where
  parseStrikethrough : Value := .bool false
  parseTables : Value := .bool false
  parseFrontMatter : Value := .bool true

/-- The kinds of options. -/
inductive OptionsKind
  | renderer
  | rtf
  | parser
  | markdown
  deriving DecidableEq

/-- **Options of any kind.** -/
inductive Options
  | renderer (o : RendererOptions)
  | rtf (o : RtfOptions)
  | parser
  | markdown (o : MarkdownOptions)

namespace Rtf.UnicodeMode

/-- The name of a mode. -/
def name : UnicodeMode → Text
  | utf16 => "utf16"
  | codepoint => "codepoint"

/-- The mode of a name. -/
def ofName? (t : Text) : Option UnicodeMode :=
  if t == "utf16" then some utf16 else if t == "codepoint" then some codepoint else none

/-- The mode a value asks for: surrogate units by their name, code points by anything else. -/
def ofValue : Value → UnicodeMode
  | .text t => (ofName? t).getD codepoint
  | _ => codepoint

end Rtf.UnicodeMode

namespace OptionsKind

/-- The name of a kind's class. -/
def className : OptionsKind → Text
  | renderer => "BaseRendererOptions"
  | rtf => "RtfRendererOptions"
  | parser => "BaseParserOptions"
  | markdown => "MarkdownParserOptions"

/-- The names of a kind's fields. -/
def fieldNames : OptionsKind → List Text
  | renderer => ["fail_on_resource_errors", "max_asset_size_bytes"]
  | rtf => ["fail_on_resource_errors", "max_asset_size_bytes", "base_url", "embed_images",
      "source_directory", "unicode_mode"]
  | parser => []
  | markdown => ["parse_strikethrough", "parse_tables", "parse_frontmatter"]

end OptionsKind

namespace Options

def kind : Options → OptionsKind
  | renderer _ => .renderer
  | rtf _ => .rtf
  | parser => .parser
  | markdown _ => .markdown

/-- The fields of options with their values. -/
def fields : Options → Fields
  | renderer o => [("fail_on_resource_errors", o.failOnResourceErrors),
      ("max_asset_size_bytes", o.maxAssetSize)]
  | rtf o => [("fail_on_resource_errors", o.failOnResourceErrors),
      ("max_asset_size_bytes", o.maxAssetSize), ("base_url", o.baseUrl),
      ("embed_images", o.embedImages), ("source_directory", o.sourceDirectory),
      ("unicode_mode", .text o.unicodeMode.name)]
  | parser => []
  | markdown o => [("parse_strikethrough", o.parseStrikethrough), ("parse_tables", o.parseTables),
      ("parse_frontmatter", o.parseFrontMatter)]

/-- The options of a kind when nothing is chosen. -/
def standard : OptionsKind → Options
  | .renderer => renderer {}
  | .rtf => rtf {}
  | .parser => parser
  | .markdown => markdown {}

/-- Refuse a size limit that is not above zero. -/
def checkAssetSize (limit : Value) : Except Failure Unit :=
  let tooSmall : Except Failure Bool := match limit with
    | .float x => .ok (x.leInt 0)
    | v => match v.int? with
      | some n => .ok (n ≤ 0)
      | none => .error .misuse
  match tooSmall with
  | .error e => .error e
  | .ok true => .error (.invalid (.assetSize limit))
  | .ok false => .ok ()

/-- The escaping mode a value names. -/
def modeOf (v : Value) : Except Failure Rtf.UnicodeMode :=
  match v.text?.bind Rtf.UnicodeMode.ofName? with
  | some mode => .ok mode
  | none => .error (.invalid (.unicodeMode v))

/-- Options of a renderer with given fields. -/
def rendererWith (o : RendererOptions) (given : Fields) : Except Failure RendererOptions := do
  let limit := given.getD "max_asset_size_bytes" o.maxAssetSize
  checkAssetSize limit
  return ⟨given.getD "fail_on_resource_errors" o.failOnResourceErrors, limit⟩

/-- **New options with given fields**; the others are as before. -/
def update (o : Options) (given : Fields) : Except Failure Options :=
  if given.names.any fun n => !o.kind.fieldNames.contains n then .error .misuse
  else match o with
    | renderer o => return renderer (← rendererWith o given)
    | rtf o => do
      let base ← rendererWith o.toRendererOptions given
      let mode ← modeOf (given.getD "unicode_mode" (.text o.unicodeMode.name))
      return rtf ⟨base, given.getD "base_url" o.baseUrl, given.getD "embed_images" o.embedImages,
        given.getD "source_directory" o.sourceDirectory, mode⟩
    | parser => return parser
    | markdown o =>
      return markdown ⟨given.getD "parse_strikethrough" o.parseStrikethrough,
        given.getD "parse_tables" o.parseTables, given.getD "parse_frontmatter" o.parseFrontMatter⟩

/-- Options of a kind with given fields. -/
def create (kind : OptionsKind) (given : Fields) : Except Failure Options :=
  (standard kind).update given

/-- Options of a kind, changed by those of the given fields that the kind has.  The others are noted
and skipped.  Options of another kind that were handed in are kept, and changed if there is anything
to change. -/
def merge (kind : OptionsKind) (type : Text) (options : Option Options) (given : Fields) :
    Outcome Options := do
  let known := given.filter fun f => kind.fieldNames.contains f.1
  let unknown := given.filter fun f => !kind.fieldNames.contains f.1
  if !unknown.isEmpty then
    Outcome.note (.unknownOptions type (unknown.map fun f => .text f.1))
  match options with
  | none => Outcome.ofExcept (create kind known)
  | some o => if known.isEmpty then return o else Outcome.ofExcept (o.update known)

/-- Equality of field values; a number that is none equals itself. -/
def sameField : Value → Value → Bool
  | .float x, .float y => x == y || x.numEq y
  | v, w => v.same w

/-- Whether options are of one kind and have equal fields. -/
def same (o p : Options) : Bool :=
  o.kind == p.kind && (o.fields.zip p.fields).all fun (f, g) => sameField f.2 g.2

/-- The failure of a component that was handed options of another kind. -/
def wrongKind (component : Text) (expected received : OptionsKind) : Failure :=
  .wrongOptions (.text component) expected.className received.className .null none

/-- The options of the RTF renderer: those handed in, or the standard ones. -/
def forRenderer : Option Options → Except Failure RtfOptions
  | none => .ok {}
  | some (rtf o) => .ok o
  | some o => .error (wrongKind "rtf" .rtf o.kind)

/-- The options of the Markdown parser: those handed in, or the standard ones. -/
def forParser : Option Options → Except Failure MarkdownOptions
  | none => .ok {}
  | some (markdown o) => .ok o
  | some o => .error (wrongKind "markdown" .markdown o.kind)

end Options

end RichText
