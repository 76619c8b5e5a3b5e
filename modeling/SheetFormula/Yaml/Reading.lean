import SheetFormula.Text.Quoted
import SheetFormula.Yaml.Node

/-!
# Reading values off YAML nodes

Values are read off a document's nodes. A mistake is recorded and reading goes on; it only ends where nothing
sensible can be read. Main definitions:

* `Yaml.TypeError` — a mistake, with its message;
* `Yaml.ReadError` — why reading ends, with its message;
* `Yaml.Reading` — reading a value, with what was read so far;
* `Yaml.Scope` — what references stand for, and which may be followed; `Yaml.Scope.enter` — visiting a node;
* `Yaml.duplicates` — the repeated keys of a mapping;
* `Yaml.Node.refused` — a node of which no value can be read.
-/

namespace SheetFormula

namespace Yaml

/-! ## Mistakes -/

/-- **A mistake** in a document. -/
inductive TypeError where
  /-- A node of one type where another was wanted; the text is that of a scalar. -/
  | mismatch (line : Nat) (tag text : String) (wanted : String)
  /-- A key that the mapping already has. -/
  | duplicate (line : Nat) (key : String) (firstLine : Nat)
  /-- A field that the record already has. -/
  | repeated (line : Nat) (field : String) (wanted : String)
  deriving DecidableEq, Repr

/-- The first `n` bytes of a text; bytes of a character that was cut are replacement characters. -/
def firstBytes : Nat → List Char → List Char
  | _, [] => []
  | n, c :: rest =>
    if c.utf8Size ≤ n then c :: firstBytes (n - c.utf8Size) rest else List.replicate n '\ufffd'

/-- **Excerpt** of a scalar: texts of more than ten bytes are cut to seven. -/
def excerpt (s : String) : String :=
  if 10 < s.utf8ByteSize then String.ofList (firstBytes 7 s.toList) ++ "..." else s

/-- **A node as it is shown** in a message: its tag, and an excerpt of its text unless it is tagged as a
collection. -/
def shown (tag text : String) : String :=
  if tag = "!!seq" || tag = "!!map" then tag ++ text else tag ++ " `" ++ excerpt text ++ "`"

/-- **Message of a mistake**. -/
def TypeError.message : TypeError → String
  | .mismatch line tag text wanted =>
    "line " ++ Digits.decimal line ++ ": cannot unmarshal " ++ shown tag text ++ " into " ++ wanted
  | .duplicate line key firstLine =>
    "line " ++ Digits.decimal line ++ ": mapping key " ++ Text.quoted key ++ " already defined at line " ++
      Digits.decimal firstLine
  | .repeated line field wanted =>
    "line " ++ Digits.decimal line ++ ": field " ++ field ++ " already set in type " ++ wanted

/-- **Message of several mistakes**. -/
def TypeError.summary (errors : List TypeError) : String :=
  "yaml: unmarshal errors:" ++ String.join (errors.map fun e => "\n  " ++ e.message)

/-! ## Reading -/

/-- **Why reading ends**. -/
inductive ReadError where
  /-- A scalar stands for something else than its tag says. -/
  | contradiction (found : String) (value : String) (tag : String)
  /-- Letters that are tagged as bytes do not stand for any. -/
  | notBytes
  /-- Something is merged into a mapping that is none itself. -/
  | merge
  /-- A collection is the key of a mapping whose keys may be anything else. -/
  | collectionKey
  /-- A collection is compared with other keys, for which there is no rule. -/
  | incomparable
  /-- A reference stands inside what is read for it. -/
  | cyclic (name : String)
  /-- Too much of what is read is read through references. -/
  | excessive
  deriving DecidableEq, Repr

/-- **Message of a reading error**. -/
def ReadError.message : ReadError → String
  | .contradiction found value tag => "yaml: cannot decode " ++ found ++ " `" ++ value ++ "` as a " ++ tag
  | .notBytes => "yaml: !!binary value contains invalid base64 data"
  | .merge => "yaml: map merge requires map or sequence of maps as the value"
  | .collectionKey => "yaml: invalid map key"
  | .incomparable => "yaml: incomparable map key"
  | .cyclic name => "yaml: anchor '" ++ name ++ "' value contains itself"
  | .excessive => "yaml: document contains excessive aliasing"

/-- **What was read so far**. -/
structure Tally where
  /-- The mistakes, in order. -/
  mistakes : List TypeError := []
  /-- How often a node was read. -/
  visits : Nat := 0
  /-- How many of these visits were made through references. -/
  borrowed : Nat := 0

/-- **Whether too much was read through references**: more than 99 percent, for more than 400000 visits less
and less, and from 4000000 visits on more than 10 percent. A short document may read what it likes. -/
def Tally.isExcessive (t : Tally) : Bool :=
  100 < t.borrowed && 1000 < t.visits &&
    if t.visits ≤ 400000 then 99 * t.visits < 100 * t.borrowed
    else if 4000000 ≤ t.visits then t.visits < 10 * t.borrowed
    else (99 * 3600000 - 89 * (t.visits - 400000)) * t.visits < 100 * 3600000 * t.borrowed

/-- **Reading a value**, with what was read so far. -/
abbrev Reading (α : Type) := StateT Tally (Except ReadError) α

/-- Record mistakes. -/
def report (errors : List TypeError) : Reading Unit :=
  modify fun t => { t with mistakes := t.mistakes ++ errors }

/-! ## References -/

/-- **Where in a document nodes are read**: what its references stand for, and which of them may still be
followed. -/
structure Scope where
  /-- The nodes that have names, by place. -/
  named : List (Nat × Node) := []
  /-- The places of references that are not being followed. -/
  free : List Nat := []
  /-- Whether a reference is being followed. -/
  borrowed : Bool := false

namespace Scope

/-- The scope of a document. -/
def ofDocument (d : Document) : Scope := { named := d.named, free := d.references }

/-- **The node that is meant**: a reference stands for the node it refers to. -/
def target (s : Scope) : Node → Node
  | .reference line _ _ place => (s.named.lookup place).getD (.empty line)
  | node => node

/-- **Follow a node** to the one that is meant, and the scope inside it; `none` when the reference is being
followed already. -/
def follow? (s : Scope) (node : Node) : Option (Scope × Node) :=
  match node with
  | .reference _ _ place _ =>
    if place ∈ s.free then some ({ s with free := s.free.erase place, borrowed := true }, s.target node)
    else none
  | _ => some (s, node)

/-- Following a node leaves fewer references to follow, or changes nothing. -/
theorem follow?_eq_some {s inner : Scope} {node found : Node} (h : s.follow? node = some (inner, found)) :
    inner.free.length < s.free.length ∨ (inner = s ∧ found = node) := by
  unfold follow? at h
  split at h
  · split at h
    · next place _ hmem =>
      simp only [Option.some.injEq, Prod.mk.injEq] at h
      obtain ⟨rfl, -⟩ := h
      left
      have := List.length_pos_of_mem hmem
      simp only [List.length_erase_of_mem hmem]
      omega
    · simp at h
  · simp only [Option.some.injEq, Prod.mk.injEq] at h
    exact Or.inr ⟨h.1.symm, h.2.symm⟩

/-- Count a visit. Reading ends when too much was read through references. -/
def count (s : Scope) : Reading Unit := do
  modify fun t => { t with visits := t.visits + 1, borrowed := t.borrowed + s.borrowed.toNat }
  if (← get).isExcessive then throw .excessive

/-- **Visit a node**: a reference, and then the node it refers to. Reading ends at a reference that is being
followed already. -/
def visit (s : Scope) (node : Node) : Reading Unit := do
  s.count
  match node with
  | .reference _ name place _ =>
    if s.free.contains place then count { s with borrowed := true } else throw (.cyclic name)
  | _ => return

/-- **Visit and follow a node**. -/
def enter (s : Scope) (node : Node) : Reading (Scope × Node) := do
  s.visit node
  return (s.follow? node).getD (s, node)

end Scope

/-! ## Scalars -/

/-- **What a scalar stands for**; reading ends when its tag contradicts it. A date or a merge key is a text
where another tag is given. -/
def scalarOf (tag : Option String) (plain : Bool) (value : String) : Reading Scalar :=
  match Scalar.of? tag plain value with
  | some s => return s
  | none =>
    let found :=
      match Scalar.ofPlain value with
      | .timestamp _ | .merge => Scalar.str.tag
      | s => s.tag
    throw (if tag = some "!!binary" then .notBytes else .contradiction found value (tag.getD ""))

/-! ## Repeated keys -/

/-- Whether two keys are of one kind and have one text. -/
def sameKey : Node → Node → Bool
  | .scalar _ _ _ a, .scalar _ _ _ b => a == b
  | .reference _ a .., .reference _ b .. => a == b
  | .sequence .., .sequence .. => true
  | .mapping .., .mapping .. => true
  | _, _ => false

/-- **Repeated keys** of a mapping: every later key that equals an earlier one. -/
def duplicates : List (Node × Node) → List TypeError
  | [] => []
  | (key, _) :: rest =>
    (rest.filterMap fun (other, _) =>
      if sameKey key other then some (.duplicate other.line other.value key.line) else none) ++
      duplicates rest

namespace Node

/-- **No value**: a node that was followed stands for nothing, or is of another type than was wanted. In a
mapping, repeated keys are the only mistake. -/
def refused {α : Type} (node : Node) (wanted : String) : Reading (Option α) := do
  match node with
  | .scalar line tag plain value =>
    if (← scalarOf tag plain value) ≠ .null then report [.mismatch line node.tag value wanted]
  | .sequence line _ _ => report [.mismatch line node.tag "" wanted]
  | .mapping line _ entries =>
    match duplicates entries with
    | [] => report [.mismatch line node.tag "" wanted]
    | errors => report errors
  | .reference .. => pure ()
  return none

end Node

namespace Scope

/-- **Text of a node**, by its bytes: any scalar as it is written, except that bytes are themselves. -/
def asText (s : Scope) (node : Node) : Reading (Option (List UInt8)) := do
  let (_, node) ← s.enter node
  match node with
  | .scalar _ tag plain value =>
    match ← scalarOf tag plain value with
    | .null => return none
    | .binary bytes => return some bytes
    | _ => return some (Utf8.bytes value)
  | _ => node.refused "string"

end Scope

end Yaml

end SheetFormula
