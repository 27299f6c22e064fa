import RichText.Options

/-!
# Options/Help — what the fields of options mean

Every field has a line of help and says how important it is; some also name their type or the choices
they leave.
-/

namespace RichText

/-- What a field of options means. -/
structure FieldHelp where
  help : Text
  importance : Text
  type : Option Text := none
  choices : Option (List Text) := none

namespace OptionsKind

/-- The help of the fields of every renderer. -/
def rendererHelp : List (Text × FieldHelp) :=
  [("fail_on_resource_errors",
      { help := "Raise RenderingError when an image cannot be embedded instead of falling back"
        importance := "advanced" }),
    ("max_asset_size_bytes",
      { help := "Largest image, in bytes, that will be embedded"
        importance := "security"
        type := some "int" })]

/-- The help of the fields that only the RTF renderer has. -/
def rtfHelp : List (Text × FieldHelp) :=
  [("base_url",
      { help := "Base URL for resolving relative link and image targets"
        importance := "core" }),
    ("embed_images",
      { help := "Embed local PNG/JPEG images as picture blips"
        importance := "core" }),
    ("source_directory",
      { help := "Directory used to resolve relative image paths when embedding"
        importance := "core" }),
    ("unicode_mode",
      { help := "Escape astral characters as UTF-16 surrogate units or as full code points"
        importance := "advanced"
        choices := some ["utf16", "codepoint"] })]

/-- The help of the fields of the Markdown parser. -/
def markdownHelp : List (Text × FieldHelp) :=
  [("parse_strikethrough",
      { help := "Parse strikethrough syntax (~~text~~)"
        importance := "core" }),
    ("parse_tables",
      { help := "Parse table syntax (GFM pipe tables)"
        importance := "core" }),
    ("parse_frontmatter",
      { help := "Parse YAML frontmatter at document start"
        importance := "core" })]

/-- **The help of a kind's fields.** -/
def help : OptionsKind → List (Text × FieldHelp)
  | renderer => rendererHelp
  | rtf => rendererHelp ++ rtfHelp
  | parser => []
  | markdown => markdownHelp

end OptionsKind

end RichText
