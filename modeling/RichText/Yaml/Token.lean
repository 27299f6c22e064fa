import RichText.Yaml.Cursor

/-!
# Yaml/Token — the tokens of a YAML text

Brackets, entry marks and the beginnings and ends that indentation stands for are tokens, as are
scalars with their text and the names that go with a node.
-/

namespace RichText.Yaml

/-- What a directive says. -/
inductive Directive
  | version (major : Nat)
  | tag (handle leading : List Char)
  | reserved

/-- **A token of a YAML text.** -/
inductive Token
  | directive (d : Directive)
  | documentStart
  | documentEnd
  | sequenceStart
  | mappingStart
  | blockEnd
  | flowSequenceStart
  | flowSequenceEnd
  | flowMappingStart
  | flowMappingEnd
  | entry
  | comma
  | key
  | value
  | alias (name : List Char)
  | anchor (name : List Char)
  | tag (handle : Option (List Char)) (suffix : List Char)
  | scalar (text : Text) (plain : Bool)
  | streamEnd

end RichText.Yaml
