import SheetFormula.Yaml.MapKey

/-!
# Typed values of YAML nodes

Integers, records and tables of texts are read off nodes. Main definitions:

* `Yaml.Scope.asInt` — the integer of a node;
* `Yaml.Put` — how the entries of a mapping are put into a value;
* `Yaml.Scope.readMapping` — the values of a mapping and of those that are merged into it;
* `Yaml.Scope.asFields`, `Yaml.Scope.asTexts` — the record and the table of a node.
-/

namespace SheetFormula

namespace Yaml

/-- **How entries are put into a value**: with the keys seen, or none for a mapping that is merged into no
other. -/
abbrev Put (α : Type) := Scope → List (Node × Node) → Seen → α → Reading (α × Seen)

namespace Scope

/-! ## Integers -/

/-- The integer of a binary64 number: its integer part, when it is not above the signed 64-bit range; below
that range it is the least number. -/
def truncated? (bits : UInt64) : Option Int64 :=
  match Double.classify bits with
  | .nan => none
  | .infinite negative => if negative then some Int64.minValue else none
  | .zero _ => some 0
  | .finite negative significand exponent _ =>
    let magnitude : Nat := significand <<< exponent.toNat >>> (-exponent).toNat
    let n : Int := if negative then -magnitude else magnitude
    if Int64.maxValue.toInt + 1 < n then none
    else if Int64.minValue.toInt ≤ n && n ≤ Int64.maxValue.toInt then some (Int64.ofInt n)
    else some Int64.minValue

/-- The integer of a number. -/
def intOf? : Scalar → Option Int64
  | .int n => if n ≤ Int64.maxValue.toInt then some (Int64.ofInt n) else none
  | .float bits => truncated? bits
  | _ => none

/-- **Integer** of a node. -/
def asInt (s : Scope) (node : Node) : Reading (Option Int64) := do
  let (_, node) ← s.enter node
  match node with
  | .scalar _ tag plain value =>
    match intOf? (← scalarOf tag plain value) with
    | some n => return some n
    | none => node.refused "int"
  | _ => node.refused "int"

/-! ## Mappings -/

mutual

/-- **Values of a mapping and of those merged into it**, put into `start` by `put`. A mapping that is merged
in only counts for keys that were not seen before it. -/
def readMapping {α : Type} (put : Put α) (s : Scope) (entries : List (Node × Node)) (seen : Seen)
    (start : α) :
    Reading (α × Seen) := do
  match duplicates entries with
  | [] =>
    let (value, seen) ← put s entries seen start
    match _hm : Node.merged? entries with
    | none => return (value, seen)
    | some merged =>
      let keys ← match seen with
        | some keys => pure keys
        | none => ownKeys s entries []
      let (value, keys) ← readMerged put s merged keys value
      return (value, seen.map fun _ => keys)
  | errors => report errors; return (start, seen)
termination_by (s.free.length, sizeOf entries, 0)
decreasing_by
  apply Prod.Lex.right
  apply Prod.Lex.left
  exact Node.sizeOf_lt_of_merged? _hm

/-- Values of what is merged in: another mapping, or several in a sequence. -/
def readMerged {α : Type} (put : Put α) (s : Scope) (merged : Node) (keys : List MapKey) (start : α) :
    Reading (α × List MapKey) :=
  match merged with
  | .sequence _ _ items => readLayers put s items keys start
  | node => readLayer put s node keys start
termination_by (s.free.length, sizeOf merged, 2)

/-- Values of several mappings that are merged in. -/
def readLayers {α : Type} (put : Put α) (s : Scope) (items : List Node) (keys : List MapKey) (start : α) :
    Reading (α × List MapKey) :=
  match items with
  | [] => return (start, keys)
  | item :: items => do
    let (value, keys) ← readLayer put s item keys start
    readLayers put s items keys value
termination_by (s.free.length, sizeOf items, 0)

/-- Values of a mapping that is merged in; reading ends when it is none. -/
def readLayer {α : Type} (put : Put α) (s : Scope) (node : Node) (keys : List MapKey) (start : α) :
    Reading (α × List MapKey) := do
  if !(s.target node).isMapping then throw .merge
  s.visit node
  match _h : s.follow? node with
  | some (inner, .mapping _ _ entries) =>
    let (value, seen) ← readMapping put inner entries (some keys) start
    return (value, seen.getD keys)
  | _ => return (start, keys)
termination_by (s.free.length, sizeOf node, 1)
decreasing_by
  rcases follow?_eq_some _h with hlt | ⟨rfl, rfl⟩
  · exact Prod.Lex.left _ _ hlt
  · apply Prod.Lex.right
    apply Prod.Lex.left
    simp only [Node.mapping.sizeOf_spec]
    omega

end

/-! ## Collections -/

/-- Put the values of fields into a record by `set`. -/
def putFields {α : Type} (wanted : String) (fields : List String)
    (set : Scope → String → Node → α → Reading α) :
    Put α := fun s entries seen record => do
  let (record, seen, _) ← entries.foldlM (fun (record, seen, done) (key, value) => do
    if key.isMergeKey then return (record, seen, done)
    match ← s.asText key with
    | none => return (record, seen, done)
    | some bytes =>
      let name := Utf8.text bytes
      let (isNew, seen) ← Seen.enter seen (.text bytes)
      if !isNew || !fields.contains name then return (record, seen, done)
      if done.contains name then
        report [.repeated key.line name wanted]
        return (record, seen, done)
      return (← set s name value record, seen, name :: done)) (record, seen, ([] : List String))
  return (record, seen)

/-- **Fields of a record**: the values of its named fields, each given to `set` together with the record so
far. Other keys are passed over. -/
def asFields {α : Type} (wanted : String) (fields : List String) (set : Scope → String → Node → α → Reading α)
    (zero : α) (s : Scope) (node : Node) : Reading α := do
  let (inner, node) ← s.enter node
  match node with
  | .mapping _ _ entries => return (← readMapping (putFields wanted fields set) inner entries none zero).1
  | _ =>
    let _ : Option Unit ← node.refused wanted
    return zero

/-- Put a text under a number, in place of an earlier one. -/
def putText (table : List (Int64 × String)) (id : Int64) (text : String) : List (Int64 × String) :=
  (table.filter fun e => e.1 ≠ id) ++ [(id, text)]

/-- Put texts into a table. A value that stands for nothing is an empty text; when it is merged in, it only
counts for a number that has no text. -/
def putTexts : Put (List (Int64 × String)) := fun s entries seen table =>
  entries.foldlM (fun (table, seen) (key, value) => do
    if key.isMergeKey then return (table, seen)
    match ← s.asInt key with
    | none => return (table, seen)
    | some id =>
      let counts := seen.isNone || (table.lookup id).isNone
      let (isNew, seen) ← Seen.enter seen (.int id.toInt)
      if !isNew then return (table, seen)
      match ← s.asText value with
      | some bytes => return (putText table id (Utf8.text bytes), seen)
      | none =>
        return (if (s.target value).tag = "!!null" && counts then putText table id "" else table, seen))
    (table, seen)

/-- **Table of texts** by number. The last of two values for a number counts. -/
def asTexts (s : Scope) (node : Node) : Reading (List (Int64 × String)) := do
  let (inner, node) ← s.enter node
  match node with
  | .mapping _ _ entries => return (← readMapping putTexts inner entries none []).1
  | _ =>
    let _ : Option Unit ← node.refused "map[int]string"
    return []

end Scope

end Yaml

end SheetFormula
