import SheetFormula.Yaml.Scalar

/-!
# YAML nodes

A YAML document is a tree of scalars, sequences and mappings, with references between them. Main definitions:

* `Yaml.Node` — a node, the line it starts on, and its tag;
* `Yaml.Node.tag` — the tag of a node, written or not;
* `Yaml.Document` — a document.
-/

namespace SheetFormula

namespace Yaml

/-- **A node** of a document, with the line it starts on and its tag, when one is written. -/
inductive Node where
  /-- A scalar; a plain one may stand for something else than a text. -/
  | scalar (line : Nat) (tag : Option String) (plain : Bool) (value : String)
  /-- A sequence. -/
  | sequence (line : Nat) (tag : Option String) (items : List Node)
  /-- A mapping. -/
  | mapping (line : Nat) (tag : Option String) (entries : List (Node × Node))
  /-- A reference at some place to the node of a name, which was given at another place. -/
  | reference (line : Nat) (name : String) (place target : Nat)

namespace Node

/-- The line a node starts on. -/
def line : Node → Nat
  | .scalar line .. | .sequence line .. | .mapping line .. | .reference line .. => line

/-- The text of a scalar, or the name of a reference; empty for other nodes. -/
def value : Node → String
  | .scalar _ _ _ value => value
  | .reference _ name .. => name
  | _ => ""

/-- **Tag of a node**: the one that is written, or else what its kind and text suggest. A reference has
none. -/
def tag : Node → String
  | .scalar _ tag plain value => tag.getD (if plain then (Scalar.ofPlain value).tag else Scalar.str.tag)
  | .sequence _ tag _ => tag.getD "!!seq"
  | .mapping _ tag _ => tag.getD "!!map"
  | .reference .. => ""

/-- A node for what is left out. -/
def empty (line : Nat) : Node := .scalar line none true ""

end Node

/-- **A document**: its root node, and the nodes that have names. A reference may stand inside the very node
it refers to. -/
structure Document where
  /-- The root node. -/
  root : Node
  /-- The nodes that have names, by the places where these were given. -/
  named : List (Nat × Node) := []
  /-- The places of references. -/
  references : List Nat := []

end Yaml

end SheetFormula
