import RichText.Yaml.Implicit
import RichText.Yaml.Token

/-!
# Yaml/Graph/OfTokens — the document that tokens describe

A reader with one function for every kind of collection.  Nodes are stored when they are complete, so
each of them comes after its parts.  A name is given to one node only, and an alias needs a node that
has been named before.
-/

namespace RichText.Yaml

/-- Why a document was not read: its tokens are in no order that makes one, or there are too few. -/
inductive Halt
  | disorder
  | starved

/-- What a name leads to: a complete node, or one around the place where it is used. -/
inductive Named
  | complete (place : Nat)
  | incomplete (isMapping : Bool)

/-- The tokens to come, and what those before them have built. -/
structure Builder where
  tokens : List Token
  nodes : Graph := #[]
  names : List (List Char × Named) := []
  handles : List (List Char × List Char) := []

/-- A step of reading a document. -/
abbrev Build := StateT Builder (Except Halt)

namespace Build

def disorder {α : Type} : Build α := throw .disorder

/-- The next token, which stays. -/
def peek : Build Token := do
  match (← get).tokens with
  | t :: _ => return t
  | [] => throw .starved

/-- Go past the next token. -/
def skip : Build Unit := modify fun b => { b with tokens := b.tokens.drop 1 }

/-- Store a node; its place. -/
def store (n : Node) : Build Nat := do
  let place := (← get).nodes.size
  modify fun b => { b with nodes := b.nodes.push n }
  return place

/-- The node that stands where nothing is written. -/
def empty : Build Nat := store (.scalar .null [])

/-- Let a name lead somewhere. -/
def name (anchor : Option (List Char)) (target : Named) : Build Unit :=
  match anchor with
  | some n => modify fun b => { b with names := (n, target) :: b.names.filter (·.1 != n) }
  | none => pure ()

/-- The node an alias stands for. -/
def dereference (n : List Char) : Build Nat := do
  match (← get).names.find? (·.1 == n) with
  | some (_, .complete place) => return place
  | some (_, .incomplete isMapping) => store (.around isMapping)
  | none => disorder

/-- The name of a type in full; `none` if the node names none of its own. -/
def fullTag (handle : Option (List Char)) (suffix : List Char) : Build (List Char) := do
  match handle with
  | none => return suffix
  | some h => match (← get).handles.find? (·.1 == h) with
    | some (_, leading) => return leading ++ suffix
    | none => disorder

/-- The name of a node that its properties give it. -/
def anchor? : Build (Option (List Char)) := do
  match ← peek with
  | .anchor n => do
    skip
    return some n
  | _ => return none

/-- The name of a node's type that its properties give. -/
def tag? : Build (Option (Option (List Char) × List Char)) := do
  match ← peek with
  | .tag handle suffix => do
    skip
    return some (handle, suffix)
  | _ => return none

/-- The name and the type of a node, in either order. -/
def properties : Build (Option (List Char) × Option (List Char)) := do
  match ← anchor? with
  | some n => do
    let tag ← tag?
    return (some n, ← tag.mapM fun (h, s) => fullTag h s)
  | none => do
    match ← tag? with
    | some (h, s) => do
      let n ← anchor?
      return (n, some (← fullTag h s))
    | none => return (none, none)

/-- A name is not given twice. -/
def checkNew (anchor : Option (List Char)) : Build Unit := do
  match anchor with
  | some n => if (← get).names.any (·.1 == n) then disorder
  | none => pure ()

/-- The type of a collection. -/
def collectionTag (standard : Tag) (tag : Option (List Char)) : Tag :=
  match tag with
  | some t => if t == ['!'] then standard else Tag.ofName t
  | none => standard

/-- The type of a scalar. -/
def scalarTag (tag : Option (List Char)) (text : Text) (plain : Bool) : Tag :=
  match tag with
  | some t => if t == ['!'] then Implicit.tag text else Tag.ofName t
  | none => if plain then Implicit.tag text else .str

/-- Store a scalar. -/
def scalar (anchor tag : Option (List Char)) (text : Text) (plain : Bool) : Build Nat := do
  checkNew anchor
  let place ← store (.scalar (scalarTag tag text plain) text)
  name anchor (.complete place)
  return place

/-- Store a sequence that `items` reads. -/
def sequence (anchor tag : Option (List Char)) (items : Build (List Nat)) : Build Nat := do
  checkNew anchor
  name anchor (.incomplete false)
  let place ← store (.sequence (collectionTag .seq tag) (← items))
  name anchor (.complete place)
  return place

/-- Store a mapping that `pairs` reads. -/
def mapping (anchor tag : Option (List Char)) (pairs : Build (List (Nat × Nat))) : Build Nat := do
  checkNew anchor
  name anchor (.incomplete true)
  let place ← store (.mapping (collectionTag .map tag) (← pairs))
  name anchor (.complete place)
  return place

/-! ## Where nothing is written -/

/-- Whether an entry of a block sequence is empty before a token. -/
def endsEntry : Token → Bool
  | .entry | .blockEnd => true
  | _ => false

/-- Whether a part of a block mapping is empty before a token. -/
def endsPart : Token → Bool
  | .key | .value | .blockEnd => true
  | _ => false

/-- Whether a value in a flow sequence is empty before a token. -/
def endsInSequence : Token → Bool
  | .comma | .flowSequenceEnd => true
  | _ => false

/-- Whether a value in a flow mapping is empty before a token. -/
def endsInMapping : Token → Bool
  | .comma | .flowMappingEnd => true
  | _ => false

def isValue : Token → Bool
  | .value => true
  | _ => false

/-! ## Nodes -/

/- Of any four calls inside one another one has taken a token, so fuel of four times the number of
tokens is never used up. -/
mutual

/-- A node; `block` says that it may be a block collection, and `indentless` that it may be a
sequence whose entries have no indentation of their own. -/
def node (block indentless : Bool) (fuel : Nat) : Build Nat := do
  match fuel with
  | 0 => disorder
  | fuel + 1 =>
    match ← peek with
    | .alias n => do
      skip
      dereference n
    | _ => do
      let (anchor, tag) ← properties
      match ← peek, block, indentless with
      | .entry, _, true => sequence anchor tag (indentlessItems fuel)
      | .scalar text plain, _, _ => do
        skip
        scalar anchor tag text plain
      | .flowSequenceStart, _, _ => do
        skip
        sequence anchor tag (flowItems true fuel)
      | .flowMappingStart, _, _ => do
        skip
        mapping anchor tag (flowPairs true fuel)
      | .sequenceStart, true, _ => do
        skip
        sequence anchor tag (blockItems fuel)
      | .mappingStart, true, _ => do
        skip
        mapping anchor tag (blockPairs fuel)
      | _, _, _ =>
        if anchor.isSome || tag.isSome then scalar anchor tag [] (tag.isNone) else disorder

/-- A node unless the next token leaves it empty. -/
def nodeUnless (ends : Token → Bool) (block indentless : Bool) (fuel : Nat) : Build Nat := do
  match fuel with
  | 0 => disorder
  | fuel + 1 => if ends (← peek) then empty else node block indentless fuel

/-- The items of a block sequence. -/
def blockItems (fuel : Nat) : Build (List Nat) := do
  match fuel with
  | 0 => disorder
  | fuel + 1 =>
    match ← peek with
    | .entry => do
      skip
      let item ← nodeUnless endsEntry true false fuel
      return item :: (← blockItems fuel)
    | .blockEnd => do
      skip
      return []
    | _ => disorder

/-- The items of a sequence without an indentation of its own. -/
def indentlessItems (fuel : Nat) : Build (List Nat) := do
  match fuel with
  | 0 => disorder
  | fuel + 1 =>
    match ← peek with
    | .entry => do
      skip
      let item ← nodeUnless (fun t => endsEntry t || endsPart t) true false fuel
      return item :: (← indentlessItems fuel)
    | _ => return []

/-- The pairs of a block mapping. -/
def blockPairs (fuel : Nat) : Build (List (Nat × Nat)) := do
  match fuel with
  | 0 => disorder
  | fuel + 1 =>
    match ← peek with
    | .blockEnd => do
      skip
      return []
    | .key => do
      skip
      let key ← nodeUnless endsPart true true fuel
      let value ← valueUnless endsPart true fuel
      return (key, value) :: (← blockPairs fuel)
    | _ => disorder

/-- The value behind a key, if there is one. -/
def valueUnless (ends : Token → Bool) (block : Bool) (fuel : Nat) : Build Nat := do
  match fuel with
  | 0 => disorder
  | fuel + 1 =>
    if isValue (← peek) then do
      skip
      nodeUnless ends block block fuel
    else empty

/-- The items of a flow sequence; a key in it begins a mapping of one pair. -/
def flowItems (first : Bool) (fuel : Nat) : Build (List Nat) := do
  match fuel with
  | 0 => disorder
  | fuel + 1 =>
    match ← peek with
    | .flowSequenceEnd => do
      skip
      return []
    | t => do
      match first, t with
      | true, _ => pure ()
      | false, .comma => skip
      | false, _ => disorder
      match ← peek with
      | .flowSequenceEnd => do
        skip
        return []
      | .key => do
        skip
        let key ← nodeUnless (fun t => endsInSequence t || isValue t) false false fuel
        let value ← valueUnless endsInSequence false fuel
        let item ← store (.mapping .map [(key, value)])
        return item :: (← flowItems false fuel)
      | _ => do
        let item ← node false false fuel
        return item :: (← flowItems false fuel)

/-- The pairs of a flow mapping; a node without a key mark is a key without a value. -/
def flowPairs (first : Bool) (fuel : Nat) : Build (List (Nat × Nat)) := do
  match fuel with
  | 0 => disorder
  | fuel + 1 =>
    match ← peek with
    | .flowMappingEnd => do
      skip
      return []
    | t => do
      match first, t with
      | true, _ => pure ()
      | false, .comma => skip
      | false, _ => disorder
      match ← peek with
      | .flowMappingEnd => do
        skip
        return []
      | .key => do
        skip
        let key ← nodeUnless (fun t => endsInMapping t || isValue t) false false fuel
        let value ← valueUnless endsInMapping false fuel
        return (key, value) :: (← flowPairs false fuel)
      | _ => do
        let key ← node false false fuel
        let value ← empty
        return (key, value) :: (← flowPairs false fuel)

end

/-! ## Documents -/

/-- What the handles of tags stand for where nothing is declared. -/
def standardHandles : List (List Char × List Char) :=
  [(['!'], ['!']), (['!', '!'], Tag.family)]

/-- The directives before a document: whether a version is declared, and what handles stand for. -/
def directives (versioned : Bool) (handles : List (List Char × List Char)) :
    List Token → Except Halt (List (List Char × List Char) × List Token)
  | .directive d :: rest =>
    match d with
    | .version major =>
      if versioned || major != 1 then .error .disorder else directives true handles rest
    | .tag handle leading =>
      if handles.any (·.1 == handle) then .error .disorder
      else directives versioned ((handle, leading) :: handles) rest
    | .reserved => directives versioned handles rest
  | rest => .ok (handles, rest)

/-- Whether a document is empty before a token. -/
def endsDocument : Token → Bool
  | .directive _ | .documentStart | .documentEnd | .streamEnd => true
  | _ => false

/-- Go past marks of ends of documents. -/
def skipDocumentEnds (fuel : Nat) : Build Unit := do
  match fuel, ← peek with
  | fuel + 1, .documentEnd => do
    skip
    skipDocumentEnds fuel
  | _, _ => pure ()

/-- The end of the only document. -/
def finish : Build Unit := do
  skipDocumentEnds (← get).tokens.length
  match ← peek with
  | .streamEnd => pure ()
  | _ => disorder

/-- The only document, if there is one: the place of its root. -/
def document : Build (Option Nat) := do
  let fuel := 4 * (← get).tokens.length + 4
  match ← peek with
  | .streamEnd => return none
  | .directive _ | .documentStart => do
    let (declared, rest) ← directives false [] (← get).tokens
    modify fun b => { b with tokens := rest, handles := declared ++ standardHandles }
    match ← peek with
    | .documentStart => do
      skip
      let root ← nodeUnless endsDocument true false fuel
      finish
      return some root
    | _ => disorder
  | _ => do
    modify fun b => { b with handles := standardHandles }
    let root ← node true false fuel
    finish
    return some root

end Build

namespace Graph

/-- **The document that tokens describe**, with the place of its root if it has one. -/
def ofTokens (tokens : List Token) : Except Halt (Graph × Option Nat) := do
  let (root, b) ← Build.document.run { tokens := tokens }
  return (b.nodes, root)

end Graph

end RichText.Yaml
