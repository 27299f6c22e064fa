import RichText.Tree.Description

/-!
# Session/Store — nodes that can be changed and shared

A store holds nodes in places.  The children of a node are places too, so that a node can be a child
of several others, and a change of it shows in all of them.  Names lead to places.
-/

namespace RichText

/-- The place of a node in a store. -/
abbrev Place := Nat

/-- **What is in a place**: a node whose children are places. -/
inductive Cell
  | leaf (l : Leaf)
  | branch (b : Branch) (children : List Place) (metadata : Value)
  | misfilled (b : Branch) (children metadata : Value)
  deriving Inhabited

/-- **Nodes in places, and names for some of them.** -/
structure Store where
  cells : Array Cell := #[]
  names : List (Text × Place) := []

/-! ## Fields -/

/-- A leaf with a value assigned to one of its fields. -/
def Leaf.assign (name : Text) (v : Value) : Leaf → Leaf
  | text content metadata =>
    if name == "content" then text v metadata
    else if name == "metadata" then text content v
    else text content metadata
  | image url alt title width height metadata =>
    if name == "url" then image v alt title width height metadata
    else if name == "alt_text" then image url v title width height metadata
    else if name == "title" then image url alt v width height metadata
    else if name == "width" then image url alt title v height metadata
    else if name == "height" then image url alt title width v metadata
    else if name == "metadata" then image url alt title width height v
    else image url alt title width height metadata
  | l => l

/-- The value of a field of a leaf. -/
def Leaf.field? (name : Text) : Leaf → Option Value
  | text content metadata =>
    if name == "content" then some content
    else if name == "metadata" then some metadata
    else none
  | image url alt title width height metadata =>
    if name == "url" then some url
    else if name == "alt_text" then some alt
    else if name == "title" then some title
    else if name == "width" then some width
    else if name == "height" then some height
    else if name == "metadata" then some metadata
    else none
  | _ => none

/-- A branch with a value assigned to one of its fields. -/
def Branch.assign (name : Text) (v : Value) : Branch → Branch
  | heading level => if name == "level" then heading v else heading level
  | link url title =>
    if name == "url" then link v title
    else if name == "title" then link url v
    else link url title
  | element tag attributes =>
    if name == "tag" then element v attributes
    else if name == "attributes" then element tag v
    else element tag attributes
  | b => b

/-- The value of a field of a branch. -/
def Branch.field? (name : Text) : Branch → Option Value
  | heading level => if name == "level" then some level else none
  | link url title =>
    if name == "url" then some url
    else if name == "title" then some title
    else none
  | element tag attributes =>
    if name == "tag" then some tag
    else if name == "attributes" then some attributes
    else none
  | _ => none

namespace Cell

/-- The cell of an outline. -/
def ofOutline : Outline → Filling Place → Cell
  | .leaf l, _ => leaf l
  | .branch b metadata, .children places => branch b places metadata
  | .branch b metadata, .value v => misfilled b v metadata

/-- The value of a field; the children are none. -/
def field? (name : Text) : Cell → Option Value
  | leaf l => l.field? name
  | branch b _ metadata => if name == "metadata" then some metadata else b.field? name
  | misfilled b v metadata =>
    if name == "metadata" then some metadata
    else if name == b.childField then some v
    else b.field? name

/-- A cell with a value assigned to a field other than its children. -/
def assign (name : Text) (v : Value) : Cell → Cell
  | leaf l => leaf (l.assign name v)
  | branch b places metadata =>
    if name == "metadata" then branch b places v else branch (b.assign name v) places metadata
  | misfilled b w metadata =>
    if name == "metadata" then misfilled b w v else misfilled (b.assign name v) w metadata

/-- The branch and the metadata of a cell that can have children. -/
def branch? : Cell → Option (Branch × Value)
  | leaf _ => none
  | branch b _ metadata => some (b, metadata)
  | misfilled b _ metadata => some (b, metadata)

end Cell

namespace Store

/-! ## Places -/

/-- The cell in a place. -/
def cell (s : Store) (p : Place) : Cell := s.cells.getD p (.leaf (.stray .null))

/-- The store with a new cell, and its place. -/
def add (s : Store) (c : Cell) : Store × Place :=
  ({ s with cells := s.cells.push c }, s.cells.size)

/-- The store with another cell in a place. -/
def replace (s : Store) (p : Place) (c : Cell) : Store :=
  { s with cells := s.cells.setIfInBounds p c }

/-- The place a name leads to. -/
def place (s : Store) (name : Text) : Except Failure Place :=
  match s.names.find? (·.1 == name) with
  | some (_, p) => .ok p
  | none => .error .noName

/-- The store with a name for a place. -/
def bind (s : Store) (name : Text) (p : Place) : Store :=
  { s with names := (name, p) :: s.names.filter (·.1 != name) }

mutual

/-- The store with all nodes of a tree, and the place of its root. -/
def addNode (s : Store) : Node → Store × Place
  | .leaf l => s.add (.leaf l)
  | .branch b children metadata =>
    let (s, places) := addNodes s children
    s.add (.branch b places metadata)
  | .misfilled b v metadata => s.add (.misfilled b v metadata)

/-- The store with all nodes of a list of trees, and the places of their roots. -/
def addNodes (s : Store) : List Node → Store × List Place
  | [] => (s, [])
  | n :: rest =>
    let (s, p) := addNode s n
    let (s, places) := addNodes s rest
    (s, p :: places)

end

mutual

/-- The store with the nodes of a description, and the place of its root.  Names in the description
lead to nodes that are in the store already. -/
def build (s : Store) : Description → Except Failure (Store × Place)
  | .value v => .ok (s.add (.leaf (.stray v)))
  | .foreign className => .ok (s.add (.leaf (.foreign className)))
  | .known name => (s.place name).map fun p => (s, p)
  | .node type given children => do
    let (s, places) ← buildAll s children
    let outline ← Outline.ofFields type given
    return s.add (.ofOutline outline (.children places))
  | .misfilled type given v => do
    let outline ← Outline.ofFields type given
    return s.add (.ofOutline outline (.value v))

/-- The store with the nodes of a list of descriptions, and the places of their roots. -/
def buildAll (s : Store) : List Description → Except Failure (Store × List Place)
  | [] => .ok (s, [])
  | d :: rest => do
    let (s, p) ← build s d
    let (s, places) ← buildAll s rest
    return (s, p :: places)

end

/-! ## Trees -/

mutual

/-- The tree that begins in a place, unless it is deeper than `depth`. -/
def treeWithin (s : Store) (depth : Nat) (p : Place) : Option Node :=
  match depth with
  | 0 => none
  | depth + 1 =>
    match s.cell p with
    | .leaf l => some (.leaf l)
    | .branch b places metadata =>
      (treesWithin s depth places).map fun children => .branch b children metadata
    | .misfilled b v metadata => some (.misfilled b v metadata)
termination_by (depth, 0)

/-- The trees that begin in places. -/
def treesWithin (s : Store) (depth : Nat) (places : List Place) : Option (List Node) :=
  match places with
  | [] => some []
  | p :: rest => do
    let first ← treeWithin s depth p
    return first :: (← treesWithin s depth rest)
termination_by (depth, places.length + 1)

end

/-- **The tree that begins in a place.**  A node that is below itself has none. -/
def tree (s : Store) (p : Place) : Except Failure Node :=
  match s.treeWithin (s.cells.size + 1) p with
  | some n => .ok n
  | none => .error .endless

/-! ## Changes -/

/-- The store with a node appended to the children of another one. -/
def append (s : Store) (parent child : Place) : Except Failure Store :=
  match s.cell parent with
  | .branch b places metadata => .ok (s.replace parent (.branch b (places ++ [child]) metadata))
  | _ => .error .noPart

/-- The store with a value assigned to a field of a node.  A list in the place of the children gives
a node children that are values. -/
def assign (s : Store) (p : Place) (name : Text) (v : Value) : Except Failure Store :=
  let c := s.cell p
  match c, c.branch? with
  | .leaf (.stray _), _ => .error .noPart
  | _, some (b, metadata) =>
    if name == b.childField then
      match v with
      | .list items =>
        let (s, places) := s.addNodes (items.map fun v => .leaf (.stray v))
        .ok (s.replace p (.branch b places metadata))
      | v => .ok (s.replace p (.misfilled b v metadata))
    else .ok (s.replace p (c.assign name v))
  | _, none => .ok (s.replace p (c.assign name v))

/-- The store with a value under a key of a field that is a mapping. -/
def assignKey (s : Store) (p : Place) (name : Text) (key v : Value) : Except Failure Store :=
  match (s.cell p).field? name with
  | none => .error .noPart
  | some (.dict entries) =>
    if key.isKey then .ok (s.replace p ((s.cell p).assign name (.dict (Value.insert key v entries))))
    else .error .misuse
  | some _ => .error .misuse

/-! ## Equality -/

/-- Equality of leaves in different places. -/
def sameLeaf : Leaf → Leaf → Bool
  | .text c m, .text c' m' => c.same c' && m.same m'
  | .image u a t w h m, .image u' a' t' w' h' m' =>
    u.same u' && a.same a' && t.same t' && w.same w' && h.same h' && m.same m'
  | .stray v, .stray w => v.same w
  | _, _ => false

/-- Equality of branches without their children. -/
def sameBranch : Branch → Branch → Bool
  | .heading l, .heading l' => l.same l'
  | .link u t, .link u' t' => u.same u' && t.same t'
  | .element t a, .element t' a' => t.same t' && a.same a'
  | b, b' => b.className == b'.className

mutual

/-- Equality of the nodes in two places, as far as `depth` levels down. -/
def sameWithin (s : Store) (depth : Nat) (p q : Place) : Bool :=
  if p = q then true
  else match depth with
    | 0 => false
    | depth + 1 =>
      match s.cell p, s.cell q with
      | .leaf l, .leaf l' => sameLeaf l l'
      | .branch b ps m, .branch b' qs m' =>
        sameBranch b b' && allSameWithin s depth ps qs && m.same m'
      | .misfilled b v m, .misfilled b' v' m' => sameBranch b b' && v.same v' && m.same m'
      | _, _ => false
termination_by (depth, 0)

/-- Equality of the nodes in two lists of places. -/
def allSameWithin (s : Store) (depth : Nat) (ps qs : List Place) : Bool :=
  match ps, qs with
  | [], [] => true
  | p :: ps, q :: qs => sameWithin s depth p q && allSameWithin s depth ps qs
  | _, _ => false
termination_by (depth, ps.length + 1)

end

/-- **Whether the nodes in two places are equal**: one and the same, or of one class with equal
fields. -/
def same (s : Store) (p q : Place) : Bool := s.sameWithin (s.cells.size + 1) p q

end Store

end RichText
