import RichText.Text

/-!
# Yaml/Graph — the nodes of a YAML document

A document is a list of nodes that refer to one another by their place.  A node comes after the nodes
it is made of, so places always lead back; only an alias inside of the node it names has nothing to
lead to and is a node of its own.
-/

namespace RichText.Yaml

/-- **What type a node has.** -/
inductive Tag
  | null
  | bool
  | int
  | float
  | binary
  | timestamp
  | omap
  | pairs
  | set
  | str
  | seq
  | map
  | merge
  | value
  | unknown
  deriving DecidableEq

namespace Tag

/-- The name that the names of all known types begin with. -/
def family : List Char := "tag:yaml.org,2002:".toList

/-- The known types by their names. -/
def named : List (String × Tag) :=
  [("null", null), ("bool", bool), ("int", int), ("float", float), ("binary", binary),
    ("timestamp", timestamp), ("omap", omap), ("pairs", pairs), ("set", set), ("str", str),
    ("seq", seq), ("map", map), ("merge", merge), ("value", value)]

/-- The type of a name. -/
def ofName (name : List Char) : Tag :=
  match named.find? fun (n, _) => family ++ n.toList == name with
  | some (_, t) => t
  | none => unknown

end Tag

/-- **A node**, made of nodes in earlier places. -/
inductive Node
  | scalar (tag : Tag) (text : Text)
  | sequence (tag : Tag) (items : List Nat)
  | mapping (tag : Tag) (pairs : List (Nat × Nat))
  /-- The node around it; `isMapping` says whether that is a mapping. -/
  | around (isMapping : Bool)

/-- The nodes of a document in the order of their places. -/
abbrev Graph := Array Node

namespace Graph

def node (g : Graph) (i : Nat) : Node := g.getD i (.around false)

end Graph

end RichText.Yaml
