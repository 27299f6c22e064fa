import RichText.Tree.Json

/-!
# Tree/Spot — what loading looks at

    {node_type: list_item, children: [a, b]}  ──▸  mapping, children, spots of a, spots of b
    {node_type: heading, level: 7}            ──▸  mapping, level

Loading looks at one spot of a document after the other and stops at the first fault
(`Spot.fault?`).  A spot is misshapen if what it holds is not even of a type that is looked for
there: no mapping for a node, nothing to go through for its children, no number for a level, a list
or mapping for the name of a type.
-/

namespace RichText

/-- **A spot: a place that loading looks at.** -/
inductive Spot
  /-- A mapping where a node should stand: the type it names, and what that type needs. -/
  | mapping (entries : List (Value × Value))
  /-- Anything else where a node should stand. -/
  | noMapping (v : Value)
  /-- What stands for the children of a node. -/
  | children (v : Value)
  /-- The level of a heading, which is looked at behind its children. -/
  | level (v : Value)

namespace Spot

/-- The first field that a type of node needs and a mapping does not have. -/
def missingField? (type : Text) (required : List Text) (entries : List (Value × Value)) :
    Option Failure :=
  required.findSome? fun name =>
    if (Node.fieldOrNull name entries).isNull then some (.missing type name) else none

/-- What is wrong with a type that is no known one. -/
def unknownFault? (strict : Bool) (type : Value) : Option Failure :=
  if strict then some (.invalid (.unknownNodeType type)) else none

/-- **What is wrong with a spot.** -/
def fault? (strict : Bool) : Spot → Option Failure
  | mapping entries =>
    let type := Node.fieldOrNull "node_type" entries
    if !type.truthy then some (.invalid .noNodeType)
    else if !type.isKey then some .misuse
    else match type.text? with
      | some t => match Outline.fieldNames? t with
        | some (required, _) => missingField? t required entries
        | none => unknownFault? strict type
      | none => unknownFault? strict type
  | noMapping _ => some .noPart
  | children (.list _) => none
  | children v => match v.items? with
    | none => some .misuse
    | some [] => none
    | some (_ :: _) => some .noPart
  | level v => match Branch.checkLevel v with
    | .ok _ => none
    | .error e => some e

/-- **A spot that holds something of the wrong type.**  An empty text or mapping counts as an empty
list of children. -/
def isMisshapen : Spot → Bool
  | mapping entries =>
    let type := Node.fieldOrNull "node_type" entries
    type.truthy && !type.isKey
  | noMapping _ => true
  | children (.list _) => false
  | children v => v.items?.all (!·.isEmpty)
  | level .null => false
  | level (.float _) => false
  | level v => v.int?.isNone

/-- The field that holds the children of a mapping: that of its type, if it is a known one. -/
def childField? (entries : List (Value × Value)) : Option Text :=
  match (Node.fieldOrNull "node_type" entries).text? with
  | some t => if (Outline.fieldNames? t).isSome then Outline.childField? t else some "children"
  | none => some "children"

/-- The spots of a mapping that are looked at behind its children. -/
def closing (entries : List (Value × Value)) : List Spot :=
  match (Node.fieldOrNull "node_type" entries).text? with
  | some t => if t = "heading" then [level (Node.fieldOrNull "level" entries)] else []
  | none => []

end Spot

namespace Value

mutual

/-- **The spots of a tree that is loaded**, in the order they are looked at. -/
def spots (data : Value) : List Spot :=
  match data with
  | .dict entries =>
    let inner := match h : (Spot.childField? entries).bind (field? · entries) with
      | none => []
      | some v =>
        have : sizeOf v < sizeOf entries := by
          obtain ⟨name, -, hfield⟩ := Option.bind_eq_some_iff.mp h
          exact sizeOf_field? hfield
        childSpots v
    .mapping entries :: inner ++ Spot.closing entries
  | v => [.noMapping v]
termination_by sizeOf data

/-- The spots of the children of a node. -/
def childSpots (v : Value) : List Spot :=
  match v with
  | .list items => .children (.list items) :: allSpots items
  | v => [.children v]
termination_by sizeOf v

/-- The spots of some trees. -/
def allSpots (items : List Value) : List Spot :=
  match items with
  | [] => []
  | v :: rest => spots v ++ allSpots rest
termination_by sizeOf items

end

/-- The spots of the field for the children of a node: none without it. -/
def fieldSpots : Option Value → List Spot
  | none => []
  | some v => childSpots v

theorem spots_dict (entries : List (Value × Value)) :
    spots (.dict entries) = .mapping entries
      :: fieldSpots ((Spot.childField? entries).bind (field? · entries))
      ++ Spot.closing entries := by
  rw [spots]
  split
  · next hfield => rw [hfield, fieldSpots]
  · next v hfield =>
    dsimp only
    rw [hfield, fieldSpots]

end Value

/-- The failures that loading announces: a document that is no JSON, a value out of place, a missing
attribute. -/
def Failure.isAnnounced : Failure → Bool
  | json _ => true
  | invalid _ => true
  | missingAttribute _ _ _ => true
  | _ => false

end RichText
