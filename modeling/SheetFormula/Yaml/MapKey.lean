import SheetFormula.Yaml.Reading

/-!
# Keys of YAML mappings

Into a mapping others can be merged, and then its own keys count before theirs. So its keys are compared with
theirs, as the values they stand for and not as they are written. A key may be a collection, which has keys of
its own, but it cannot be compared. Main definitions:

* `Yaml.MapKey` — what a key is compared by;
* `Yaml.Seen` — the keys that later ones are compared with; `Yaml.Seen.enter` — one more key;
* `Yaml.Node.merged?` — what is merged into a mapping;
* `Yaml.Scope.asKey` — the key that a node is;
* `Yaml.Scope.ownKeys` — the keys of a mapping's own entries.
-/

namespace SheetFormula

namespace Yaml

/-- **What a key is compared by**. -/
inductive MapKey where
  /-- Nothing. -/
  | null
  /-- A truth value. -/
  | bool (value : Bool)
  /-- An integer. -/
  | int (value : Int)
  /-- A binary64 number, by its bits. -/
  | float (bits : UInt64)
  /-- A date. -/
  | date (value : Timestamp)
  /-- A text, by its bytes. -/
  | text (bytes : List UInt8)
  /-- A sequence or a mapping. -/
  | collection
  deriving DecidableEq, Repr

namespace MapKey

/-- The key that a scalar stands for. Both zeros are one number. -/
def ofScalar (s : Scalar) (value : String) : MapKey :=
  match s with
  | .null => .null
  | .bool b => .bool b
  | .int n => .int n
  | .float bits => .float (if bits = 0x8000000000000000 then 0 else bits)
  | .timestamp t => .date t
  | .binary bytes => .text bytes
  | .merge | .str => .text (Utf8.bytes value)

/-- Whether a key is never equal to any: what is not a number, and a date in a zone of its own. -/
def isUnique : MapKey → Bool
  | .float bits => Double.classify bits = .nan
  | .date t => t.zone = .apart
  | _ => false

/-- **Whether a key is among others**. -/
def isAmong (key : MapKey) (keys : List MapKey) : Bool := !key.isUnique && keys.contains key

end MapKey

/-- **Keys seen so far**, with which later ones are compared; `none` where keys are not compared. -/
abbrev Seen := Option (List MapKey)

/-- **One more key**: whether it was not seen before, and the keys seen then. Where keys are not compared
every one is new. Reading ends at a collection. -/
def Seen.enter (seen : Seen) (key : MapKey) : Reading (Bool × Seen) :=
  match seen with
  | none => if key = .collection then throw .collectionKey else return (true, none)
  | some keys =>
    if key = .collection then throw .incomparable
    else if key.isAmong keys then return (false, some keys)
    else return (true, some (key :: keys))

namespace Node

/-- **Key of what is merged in**. -/
def isMergeKey : Node → Bool
  | .scalar _ tag plain value => value = "<<" && (tag = some "!!merge" || (tag.isNone && plain))
  | _ => false

/-- **What is merged in** by the entries of a mapping. -/
def merged? (entries : List (Node × Node)) : Option Node :=
  (entries.find? fun e => e.1.isMergeKey).map (·.2)

/-- What is merged in is smaller than the mapping. -/
theorem sizeOf_lt_of_merged? {entries : List (Node × Node)} {node : Node} (h : merged? entries = some node) :
    sizeOf node < sizeOf entries := by
  simp only [merged?, Option.map_eq_some_iff] at h
  obtain ⟨⟨key, value⟩, hfind, rfl⟩ := h
  have := List.sizeOf_lt_of_mem (List.mem_of_find?_eq_some hfind)
  simp only [Prod.mk.sizeOf_spec] at this
  simp only
  omega

/-- Whether a node is a mapping. -/
def isMapping : Node → Bool
  | .mapping .. => true
  | _ => false

end Node

namespace Scope

/-- Whether a key is a text by its tag. -/
def isTextKey (s : Scope) (key : Node) : Bool :=
  let tag := (s.target key).tag
  tag = "!!str" || tag = "!!merge"

/-! ## Nodes as keys -/

mutual

/-- **Key that a node is**, and the keys seen behind it; no key when a mapping repeats one of its own. A
collection is read as a whole, and its keys are compared with those seen in front of it. -/
def asKey (s : Scope) (node : Node) (seen : Seen) : Reading (Option MapKey × Seen) := do
  s.visit node
  match _h : s.follow? node with
  | some (_, .scalar _ tag plain value) => return (some (.ofScalar (← scalarOf tag plain value) value), seen)
  | some (inner, .sequence _ _ items) => return (some .collection, ← enterItems inner items seen)
  | some (inner, .mapping _ _ entries) =>
    match duplicates entries with
    | [] =>
      let texts := entries.all fun e => inner.isTextKey e.1
      let seen ← enterEntries inner texts entries seen
      match _hm : Node.merged? entries with
      | none => return (some .collection, seen)
      | some merged =>
        let keys ← match seen with
          | some keys => pure keys
          | none => ownKeys inner entries []
        let keys ← enterMerged inner texts merged keys
        return (some .collection, seen.map fun _ => keys)
    | errors => report errors; return (none, seen)
  | _ => return (none, seen)
termination_by (s.free.length, sizeOf node, 1)
decreasing_by
  all_goals
    have hlt := follow?_eq_some _h
    rcases hlt with hlt | ⟨rfl, rfl⟩
    · exact Prod.Lex.left _ _ hlt
    · apply Prod.Lex.right
      apply Prod.Lex.left
      first
        | exact Nat.lt_trans (Node.sizeOf_lt_of_merged? _hm) (by simp only [Node.mapping.sizeOf_spec]; omega)
        | (simp only [Node.mapping.sizeOf_spec, Node.sequence.sizeOf_spec]; omega)

/-- Read the items of a sequence. -/
def enterItems (s : Scope) (items : List Node) (seen : Seen) : Reading Seen :=
  match items with
  | [] => return seen
  | item :: items => do
    let (_, seen) ← asKey s item seen
    enterItems s items seen
termination_by (s.free.length, sizeOf items, 0)

/-- Read the entries of a mapping, in which no keys are compared inside a key or a value. `texts` says whether
its keys are texts. The value of a key that was seen is passed over. -/
def enterEntries (s : Scope) (texts : Bool) (entries : List (Node × Node)) (seen : Seen) : Reading Seen :=
  match entries with
  | [] => return seen
  | (key, value) :: rest => do
    if key.isMergeKey then enterEntries s texts rest seen
    else
      let found ← if texts then (·.map MapKey.text) <$> s.asText key else (·.1) <$> asKey s key none
      match found with
      | none => enterEntries s texts rest seen
      | some found =>
        let (isNew, seen) ← seen.enter found
        if isNew then discard (asKey s value none)
        enterEntries s texts rest seen
termination_by (s.free.length, sizeOf entries, 0)

/-- **Keys of a mapping's own entries**, in front of `keys`. -/
def ownKeys (s : Scope) (entries : List (Node × Node)) (keys : List MapKey) : Reading (List MapKey) :=
  match entries with
  | [] => return keys
  | (key, _) :: rest => do
    let (found, seen) ← asKey s key (some keys)
    let keys := seen.getD keys
    match found with
    | none => ownKeys s rest keys
    | some .collection => throw .incomparable
    | some found => ownKeys s rest (found :: keys)
termination_by (s.free.length, sizeOf entries, 0)

/-- Read what is merged into a mapping: another one, or several in a sequence. -/
def enterMerged (s : Scope) (texts : Bool) (merged : Node) (keys : List MapKey) : Reading (List MapKey) :=
  match merged with
  | .sequence _ _ items => enterLayers s texts items keys
  | node => enterLayer s texts node keys
termination_by (s.free.length, sizeOf merged, 2)

/-- Read several mappings that are merged into another. -/
def enterLayers (s : Scope) (texts : Bool) (items : List Node) (keys : List MapKey) : Reading (List MapKey) :=
  match items with
  | [] => return keys
  | item :: items => do
    let keys ← enterLayer s texts item keys
    enterLayers s texts items keys
termination_by (s.free.length, sizeOf items, 0)

/-- Read a mapping that is merged into another. -/
def enterLayer (s : Scope) (texts : Bool) (node : Node) (keys : List MapKey) : Reading (List MapKey) := do
  if !(s.target node).isMapping then throw .merge
  s.visit node
  match _h : s.follow? node with
  | some (inner, .mapping _ _ entries) =>
    match duplicates entries with
    | [] =>
      let keys := (← enterEntries inner texts entries (some keys)).getD keys
      match _hm : Node.merged? entries with
      | none => return keys
      | some merged => enterMerged inner texts merged keys
    | errors => report errors; return keys
  | _ => return keys
termination_by (s.free.length, sizeOf node, 1)
decreasing_by
  all_goals
    have hlt := follow?_eq_some _h
    rcases hlt with hlt | ⟨rfl, rfl⟩
    · exact Prod.Lex.left _ _ hlt
    · apply Prod.Lex.right
      apply Prod.Lex.left
      first
        | exact Nat.lt_trans (Node.sizeOf_lt_of_merged? _hm) (by simp only [Node.mapping.sizeOf_spec]; omega)
        | (simp only [Node.mapping.sizeOf_spec]; omega)

end

end Scope

end Yaml

end SheetFormula
