import RichText.Outcome
import RichText.Tree.Build

/-!
# Tree/Dict — trees as mappings

Every node is written as a mapping: its type first, then its fields, its metadata last.  Reading is
strict about what a node cannot do without; types that are unknown are refused or, when reading
leniently, loaded as elements that keep everything they came with.
-/

namespace RichText

/-! ## Writing -/

/-- An entry of a mapping under a name. -/
def entry (name : Text) (v : Value) : Value × Value := (.text name, v)

namespace Branch

/-- The type of a branch in its mapping. -/
def nodeType (b : Branch) : Text := b.kind?.getD "element"

/-- The fields of a branch that stand before its children. -/
def fieldEntries : Branch → Except Failure (List (Value × Value))
  | heading level => .ok [entry "level" level]
  | link url title => .ok [entry "url" url, entry "title" title]
  | element tag attributes => do
    return [entry "tag" tag, entry "attributes" (.dict (← attributes.toEntries))]
  | _ => .ok []

/-- The mapping of a branch with the mappings of its children. -/
def toDict (b : Branch) (fields : List (Value × Value)) (children : List Value)
    (metadata : Value) : Except Failure Value := do
  return .dict (entry "node_type" (.text b.nodeType)
    :: fields
    ++ [entry b.childField (.list children), entry "metadata" (.dict (← metadata.toEntries))])

end Branch

/-- The mapping of a leaf. -/
def Leaf.toDict : Leaf → Except Failure Value
  | text content metadata => do
    return .dict [entry "node_type" "text", entry "content" content,
      entry "metadata" (.dict (← metadata.toEntries))]
  | image url alt title width height metadata => do
    return .dict [entry "node_type" "image", entry "url" url, entry "alt_text" alt,
      entry "title" title, entry "width" width, entry "height" height,
      entry "metadata" (.dict (← metadata.toEntries))]
  | foreign name => .error (.invalid (.unserializable name))
  | stray v => .error (.invalid (.unserializable v.typeName))

namespace Node

mutual

/-- **The mapping of a tree.** -/
def toDict : Node → Except Failure Value
  | leaf l => l.toDict
  | branch b children metadata => do
    let fields ← b.fieldEntries
    let items ← toDicts children
    b.toDict fields items metadata
  | misfilled b value metadata => do
    let fields ← b.fieldEntries
    match value.items? with
    | none => .error .misuse
    | some [] => b.toDict fields [] metadata
    | some (v :: _) => .error (.invalid (.unserializable v.typeName))

/-- The mappings of a list of trees. -/
def toDicts : List Node → Except Failure (List Value)
  | [] => .ok []
  | n :: rest => do
    let first ← toDict n
    return first :: (← toDicts rest)

end

/-! ## Reading -/

/-- A field a node of a kind cannot do without; null counts as missing. -/
def required (kind name : Text) (entries : List (Value × Value)) : Except Failure Value :=
  match Value.field? name entries with
  | none | some .null => .error (.missing kind name)
  | some v => .ok v

/-- A field, or null where it is missing. -/
def fieldOrNull (name : Text) (entries : List (Value × Value)) : Value :=
  (Value.field? name entries).getD .null

/-- A field that is a mapping unless something else is given. -/
def fieldOrEmpty (name : Text) (entries : List (Value × Value)) : Value :=
  (Value.field? name entries).getD (.dict [])

/-- The alternative text of an image: empty where none is given. -/
def altText (entries : List (Value × Value)) : Value :=
  let v := fieldOrNull "alt_text" entries
  if v.truthy then v else .text []

/-- The entries that stay as attributes of an element of an unknown type. -/
def otherEntries (entries : List (Value × Value)) : List (Value × Value) :=
  entries.filter fun e =>
    !(e.1.same "node_type" || e.1.same "children" || e.1.same "metadata")

/-- The outline of a mapping of a known type. -/
def outline? (type : Text) (entries : List (Value × Value)) : Option (Except Failure Outline) :=
  let metadata := fieldOrEmpty "metadata" entries
  let plain (b : Branch) : Option (Except Failure Outline) := some (.ok (.branch b metadata))
  if type == "document" then plain .document
  else if type == "heading" then
    some do return .branch (.heading (← required "heading" "level" entries)) metadata
  else if type == "paragraph" then plain .paragraph
  else if type == "bullet_list" then plain .bulletList
  else if type == "list_item" then plain .listItem
  else if type == "text" then
    some do return .leaf (.text (← required "text" "content" entries) metadata)
  else if type == "strong" then plain .strong
  else if type == "emphasis" then plain .emphasis
  else if type == "inline_code" then plain .inlineCode
  else if type == "link" then
    some do
      return .branch (.link (← required "link" "url" entries) (fieldOrNull "title" entries)) metadata
  else if type == "image" then
    some do
      return .leaf (.image (← required "image" "url" entries) (altText entries)
        (fieldOrNull "title" entries) (fieldOrNull "width" entries) (fieldOrNull "height" entries)
        metadata)
  else if type == "element" then
    some do
      return .branch (.element (← required "element" "tag" entries)
        (fieldOrEmpty "attributes" entries)) metadata
  else none

/-- The outline of a mapping. -/
def outline (strict : Bool) (entries : List (Value × Value)) : Outcome Outline := do
  let type := fieldOrNull "node_type" entries
  if !type.truthy then
    Outcome.fail (.invalid .noNodeType)
  else if !type.isKey then
    Outcome.fail .misuse
  else match type.text?.bind (outline? · entries) with
    | some known => known
    | none =>
      if strict then
        Outcome.fail (.invalid (.unknownNodeType type))
      else do
        Outcome.note (.unknownNodeType type)
        return .branch (.element type (.dict (otherEntries entries)))
          (fieldOrEmpty "metadata" entries)

mutual

/-- **The tree of a mapping.** -/
def ofDict (strict : Bool) (data : Value) : Outcome Node :=
  match data with
  | .dict entries => do
    match ← outline strict entries with
    | .leaf l => return leaf l
    | .branch b metadata =>
      let children ← match h : Value.field? b.childField entries with
        | none => pure []
        | some v =>
          have := Value.sizeOf_field? h
          ofChildren strict v
      Outcome.ofExcept b.check
      return branch b children metadata
  | _ => Outcome.fail .noPart
termination_by sizeOf data

/-- The trees of the value that stands for the children of a node. -/
def ofChildren (strict : Bool) (v : Value) : Outcome (List Node) :=
  match v with
  | .list items => ofDicts strict items
  | v => match v.items? with
    | none => Outcome.fail .misuse
    | some [] => return []
    | some (_ :: _) => Outcome.fail .noPart
termination_by sizeOf v

/-- The trees of a list of mappings. -/
def ofDicts (strict : Bool) (items : List Value) : Outcome (List Node) :=
  match items with
  | [] => return []
  | v :: rest => do
    let first ← ofDict strict v
    return first :: (← ofDicts strict rest)
termination_by sizeOf items

end

/-- The trees of the field for the children of a node: none without it. -/
def ofField (strict : Bool) : Option Value → Outcome (List Node)
  | none => return []
  | some v => ofChildren strict v

/-- The tree of a mapping: its outline first, then the children, then the one check. -/
theorem ofDict_dict (strict : Bool) (entries : List (Value × Value)) :
    ofDict strict (.dict entries) = outline strict entries >>= fun shape =>
      match shape with
      | .leaf l => return leaf l
      | .branch b metadata => do
        let children ← ofField strict (Value.field? b.childField entries)
        Outcome.ofExcept b.check
        return branch b children metadata := by
  rw [ofDict]
  refine congrArg (outline strict entries >>= ·) (funext fun shape => ?_)
  cases shape with
  | leaf l => rfl
  | branch b metadata =>
    dsimp only
    split
    · next hfield => rw [hfield, ofField]
    · next v hfield => rw [hfield, ofField]

end Node

end RichText
