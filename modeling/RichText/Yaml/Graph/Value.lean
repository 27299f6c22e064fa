import RichText.Value.Entries
import RichText.Yaml.Scalar

/-!
# Yaml/Graph/Value — the value of a document

A node has one value however often it is referred to.  The pairs of mappings that are merged into
another one come before its own, so that its own win.  `Graph.check` goes through the nodes level by
level from the root and stops at the first one without a value; `Graph.values` gives all values, those
of parts first.
-/

namespace RichText.Yaml.Graph

/-- The type of a node; one around its place has none that could be asked for. -/
def tag (g : Graph) (i : Nat) : Tag :=
  match g.node i with
  | .scalar t _ => t
  | .sequence t _ => t
  | .mapping t _ => t
  | .around isMapping => if isMapping then .map else .seq

/-! ## Scalars -/

/-- The text of a node that is taken for a scalar.  A mapping with a default value has its text. -/
def scalarText (g : Graph) (i : Nat) : Except Fault Text :=
  match g.node i with
  | .scalar _ t => .ok t
  | .sequence _ _ => .error .malformed
  | .around _ => .error (.failed .endless)
  | .mapping _ pairs =>
    match pairs.find? fun p => g.tag p.1 == .value with
    | some (_, v) => if v < i then scalarText g v else .error (.failed .endless)
    | none => .error .malformed
termination_by i

/-- The value of a node of a type of scalars. -/
def scalar (g : Graph) (i : Nat) : Except Fault Value := do
  let t ← g.scalarText i
  match g.tag i, g.node i with
  | .timestamp, .mapping _ _ => .error (.failed .misuse)
  | tag, _ => Scalar.value tag t

/-! ## Merging -/

/-- Pairs of a key and a value, by their places. -/
abbrev Pairs := List (Nat × Nat)

/-- The pairs of a mapping that another one takes over; `done` holds the pairs of earlier nodes. -/
def takenOver (g : Graph) (done : Array (Except Fault Pairs)) (i : Nat) : Except Fault Pairs :=
  match g.node i with
  | .mapping _ _ => done.getD i (.ok [])
  | .around true => .ok []
  | _ => .error .malformed

/-- The pairs a merge key brings in, from a mapping or from several of which the first ones win. -/
def mergedPairs (g : Graph) (done : Array (Except Fault Pairs)) (i : Nat) : Except Fault Pairs :=
  match g.node i with
  | .sequence _ items => do return (← items.mapM (g.takenOver done)).reverse.flatten
  | .around false => .ok []
  | _ => g.takenOver done i

/-- The pairs of a mapping with those merged into it in front. -/
def allPairs (g : Graph) (done : Array (Except Fault Pairs)) : Node → Except Fault Pairs
  | .mapping _ pairs => do
    let merges := pairs.filter fun p => g.tag p.1 == .merge
    let merged ← merges.mapM fun p => g.mergedPairs done p.2
    return merged.flatten ++ pairs.filter fun p => g.tag p.1 != .merge
  | _ => .error .malformed

/-- The pairs of every node. -/
def pairTable (g : Graph) : Array (Except Fault Pairs) :=
  g.foldl (fun done n => done.push (g.allPairs done n)) #[]

/-! ## The first node without a value -/

/-- One of the nodes that a node is made of: a key of a mapping or any other. -/
structure Part where
  place : Nat
  isKey : Bool := false

/-- The parts of a node of a type of collections, in order; a fault stands where one is met. -/
def parts (g : Graph) (table : Array (Except Fault Pairs)) (i : Nat) : List (Except Fault Part) :=
  match g.tag i, g.node i with
  | .seq, .sequence _ items => items.map fun p => .ok ⟨p, false⟩
  | .omap, .sequence _ items => items.flatMap onlyPair
  | .pairs, .sequence _ items => items.flatMap onlyPair
  | .map, .mapping _ _ => ofPairs (table.getD i (.ok []))
  | .set, .mapping _ _ => ofPairs (table.getD i (.ok []))
  | _, _ => [.error .malformed]
where
  onlyPair (p : Nat) : List (Except Fault Part) :=
    match g.node p with
    | .mapping _ [(k, v)] => [.ok ⟨k, false⟩, .ok ⟨v, false⟩]
    | _ => [.error .malformed]
  ofPairs : Except Fault Pairs → List (Except Fault Part)
    | .ok pairs => pairs.flatMap fun (k, v) => [.ok ⟨k, true⟩, .ok ⟨v, false⟩]
    | .error e => [.error e]

/-- Whether a node is a collection whose parts are gone through later, unless it has no value; `texts`
holds the default keys that have become texts. -/
def isOpen (g : Graph) (texts : Array Bool) (p : Part) : Except Fault Bool :=
  let tag := g.tag p.place
  let collection := [.seq, .map, .set, .omap, .pairs].contains tag
  if collection then
    if p.isKey then .error .malformed
    else match g.node p.place with
      | .around _ => .ok false
      | _ => .ok true
  else if tag == .value && texts.getD p.place false then .ok false
  else if Scalar.isScalar tag then (g.scalar p.place).map fun _ => false
  else .error .malformed

/-- Go through parts in order: the nodes that have been met, and the collections met first here. -/
def meet (g : Graph) (texts met : Array Bool) : List (Except Fault Part) →
    Except Fault (Array Bool × List Nat)
  | [] => .ok (met, [])
  | .error e :: _ => .error e
  | .ok p :: rest => do
    let opens ← g.isOpen texts p
    let isNew := !met.getD p.place true
    let (met, later) ← meet g texts (met.setIfInBounds p.place true) rest
    return (met, if opens && isNew then p.place :: later else later)

/-- The default keys that have become texts, once the parts of a mapping are gone through: its own have
then, wherever else they are referred to. -/
def withTexts (g : Graph) (texts : Array Bool) (parts : List (Except Fault Part)) : Array Bool :=
  parts.foldl (fun texts part => match part with
    | .ok p => if p.isKey && g.tag p.place == .value then texts.setIfInBounds p.place true else texts
    | .error _ => texts) texts

/-- Go through the parts of the collections that wait, each of which is met once. -/
def checkFrom (g : Graph) (table : Array (Except Fault Pairs)) (fuel : Nat) (texts met : Array Bool)
    (waiting : List Nat) : Except Fault Unit :=
  match fuel, waiting with
  | fuel + 1, i :: rest => do
    let parts := g.parts table i
    let texts := g.withTexts texts parts
    let (met, later) ← g.meet texts met parts
    checkFrom g table fuel texts met (rest ++ later)
  | _, _ => .ok ()

/-- **Whether the nodes below a root have values**; otherwise why the first one has none. -/
def check (g : Graph) (table : Array (Except Fault Pairs)) (root : Nat) : Except Fault Unit := do
  let nowhere := Array.replicate g.size false
  let (met, later) ← g.meet nowhere nowhere [.ok ⟨root, false⟩]
  g.checkFrom table (g.size + 1) nowhere met later

/-! ## Values -/

/-- Keys of mappings are the same when they are equal or both no number. -/
def isSameKey (k l : Value) : Bool :=
  match k, l with
  | .float x, .float y => x.numEq y || (x.isNaN && y.isNaN)
  | k, l => k.same l

/-- Store a value under a key, at the place of an earlier value under the same key. -/
def put (entries : List (Value × Value)) (k v : Value) : List (Value × Value) :=
  match entries with
  | [] => [(k, v)]
  | e :: rest => if isSameKey e.1 k then (e.1, v) :: rest else e :: put rest k v

/-- The entries of a mapping; `done` holds the values of earlier nodes. -/
def entries (done : Array Value) (pairs : Pairs) : List (Value × Value) :=
  pairs.foldl (fun found (k, v) => put found (done.getD k .null) (done.getD v .null)) []

/-- The items of a list of pairs. -/
def pairItem (g : Graph) (done : Array Value) (i : Nat) : Value :=
  match g.node i with
  | .mapping _ [(k, v)] => .list [done.getD k .null, done.getD v .null]
  | _ => .null

/-- The value of a node that has one. -/
def nodeValue (g : Graph) (table : Array (Except Fault Pairs)) (done : Array Value) (n : Node) :
    Value :=
  let i := done.size
  match g.tag i, n with
  | _, .around isMapping => .around isMapping
  | .omap, .sequence _ items => .list (items.map (g.pairItem done))
  | .pairs, .sequence _ items => .list (items.map (g.pairItem done))
  | .set, .mapping _ _ => .set ((entries done (pairs table i)).map (·.1))
  | .map, .mapping _ _ => .dict (entries done (pairs table i))
  | .seq, .sequence _ items => .list (items.map (done.getD · .null))
  | .value, .scalar _ t => .text t
  | _, _ => match g.scalar i with
    | .ok v => v
    | .error _ => .null
where
  pairs (table : Array (Except Fault Pairs)) (i : Nat) : Pairs :=
    match table.getD i (.ok []) with
    | .ok found => found
    | .error _ => []

/-- The values of all nodes. -/
def values (g : Graph) (table : Array (Except Fault Pairs)) : Array Value :=
  g.foldl (fun done n => done.push (g.nodeValue table done n)) #[]

/-- **The value of a document** with a root. -/
def value (g : Graph) (root : Nat) : Except Fault Value := do
  let table := g.pairTable
  g.check table root
  return (g.values table).getD root .null

end RichText.Yaml.Graph
