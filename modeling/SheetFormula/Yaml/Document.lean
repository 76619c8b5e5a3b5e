import SheetFormula.Yaml.Node
import SheetFormula.Yaml.Token

/-!
# YAML documents

A document's nodes are read off its tokens. Whatever follows the first document is not looked at, beyond the
one token that ends it. Main definitions:

* `Yaml.Unread` — the tokens that are left, and what names and handles stand for so far;
* `Yaml.Parser` — reading a part of a document;
* `Yaml.Parser.node`, with one function for every kind of collection;
* `Yaml.Document.ofTokens?`, `Yaml.document?` — a document by its tokens or its bytes.
-/

namespace SheetFormula

namespace Yaml

/-- **State of reading** a document. -/
structure Unread where
  /-- Tokens that are left. -/
  tokens : List Token
  /-- How many places there are so far. -/
  places : Nat := 0
  /-- Names of nodes and the places where they were given, the last first. -/
  names : List (String × Nat) := []
  /-- Nodes that have names and were read, by place. -/
  named : List (Nat × Node) := []
  /-- Places of references. -/
  references : List Nat := []
  /-- Handles of tags and what they stand for. -/
  handles : List (String × String) := []

/-- **Reading a part of a document**; `none` when its tokens are not those of a document. -/
abbrev Parser (α : Type) := StateT Unread Option α

namespace Parser

/-- **The next token**. -/
def peek : Parser Token := fun u =>
  match u.tokens with
  | t :: _ => some (t, u)
  | [] => none

/-- Pass over a token. -/
def skip : Parser Unit := modify fun u => { u with tokens := u.tokens.drop 1 }

/-! ## Names and tags -/

/-- The handles that need no directive. -/
def commonHandles : List (String × String) := [("!", "!"), ("!!", "tag:yaml.org,2002:")]

/-- A tag of the language in its short form; other tags as they are. -/
def shortTag (tag : String) : String :=
  if tag.startsWith "tag:yaml.org,2002:" then
    "!!" ++ String.ofList (tag.toList.drop "tag:yaml.org,2002:".length)
  else tag

/-- **The tag that is meant**: what the handle stands for, and the rest. -/
def tagOf (t : TagText) : Parser String := fun u =>
  if t.handle = "" then some (t.text, u)
  else (u.handles.lookup t.handle).map fun start => (start ++ t.text, u)

/-- **Name and tag** in front of a node. -/
structure Properties where
  /-- Line they start on. -/
  line : Nat
  /-- The name. -/
  name : Option String := none
  /-- The tag as it is meant. -/
  tag : Option String := none

/-- Read a name when one follows. -/
def name? : Parser (Option String) := do
  match (← peek).symbol with
  | .anchor name => skip; return some name
  | _ => return none

/-- Read a tag when one follows. -/
def tag? : Parser (Option String) := do
  match (← peek).symbol with
  | .tag t => skip; return some (← tagOf t)
  | _ => return none

/-- **Read name and tag** of a node, in either order. -/
def properties : Parser Properties := do
  let line := (← peek).line
  match ← name? with
  | some name => return ⟨line, some name, ← tag?⟩
  | none =>
    let tag ← tag?
    return ⟨line, ← if tag.isSome then name? else pure none, tag⟩

/-- The tag of a node in its short form; the mark alone is no tag. -/
def Properties.shortTag (p : Properties) : Option String := (p.tag.filter (· ≠ "!")).map Parser.shortTag

/-- A new place. -/
def newPlace : Parser Nat := modifyGet fun u => (u.places, { u with places := u.places + 1 })

/-- **Read a node** by `read` and give it its name, which stands for it from its beginning on. -/
def named (p : Properties) (read : Parser Node) : Parser Node := do
  match p.name with
  | none => read
  | some name =>
    let place ← newPlace
    modify fun u => { u with names := (name, place) :: u.names }
    let node ← read
    modify fun u => { u with named := (place, node) :: u.named }
    return node

/-- **Reference** by name to a node that started before. -/
def reference (line : Nat) (name : String) : Parser Node := do
  match (← get).names.lookup name with
  | some target =>
    let place ← newPlace
    modify fun u => { u with references := place :: u.references }
    return .reference line name place target
  | none => failure

/-! ## Nodes -/

/-- Symbols that end an entry of a block. -/
def endsEntry (s : Symbol) : Bool := s = .key || s = .value || s = .blockEnd

mutual

/-- **A node**. Blocks are only allowed outside brackets, and `bare` says whether a sequence may go without
indentation. -/
def node (block bare : Bool) : Nat → Parser Node
  | 0 => failure
  | fuel + 1 => do
    let t ← peek
    match t.symbol with
    | .reference name => skip; reference t.line name
    | _ =>
      let p ← properties
      let t ← peek
      match t.symbol with
      | .scalar plain text =>
        skip
        named p (pure (.scalar p.line p.shortTag plain text))
      | .openSequence => skip; named p (.sequence p.line p.shortTag <$> flowItems fuel true [])
      | .openMapping => skip; named p (.mapping p.line p.shortTag <$> flowEntries fuel true [])
      | s =>
        if bare && s = .item then named p (.sequence p.line p.shortTag <$> bareItems fuel [])
        else if block && s = .blockSequence then
          skip
          named p (.sequence p.line p.shortTag <$> blockItems fuel [])
        else if block && s = .blockMapping then
          skip
          named p (.mapping p.line p.shortTag <$> blockEntries fuel [])
        else if p.name.isSome || p.tag.isSome then named p (pure (.scalar p.line p.shortTag true ""))
        else failure

/-- A node, or what is left out when `ends` holds for the next symbol. -/
def nodeUnless (block bare : Bool) (line : Nat) (ends : Symbol → Bool) : Nat → Parser Node
  | 0 => failure
  | fuel + 1 => do
    if ends (← peek).symbol then return .empty line else node block bare fuel

/-- Items of a sequence that is a block, behind `items`, the last first. -/
def blockItems : Nat → List Node → Parser (List Node)
  | 0, _ => failure
  | fuel + 1, items => do
    let t ← peek
    match t.symbol with
    | .item =>
      skip
      let item ← nodeUnless true false t.line (fun s => s = .item || s = .blockEnd) fuel
      blockItems fuel (item :: items)
    | .blockEnd => skip; return items.reverse
    | _ => failure

/-- Items of a sequence without indentation. -/
def bareItems : Nat → List Node → Parser (List Node)
  | 0, _ => failure
  | fuel + 1, items => do
    let t ← peek
    match t.symbol with
    | .item =>
      skip
      let item ← nodeUnless true false t.line (fun s => s = .item || endsEntry s) fuel
      bareItems fuel (item :: items)
    | _ => return items.reverse

/-- Entries of a mapping that is a block. -/
def blockEntries : Nat → List (Node × Node) → Parser (List (Node × Node))
  | 0, _ => failure
  | fuel + 1, entries => do
    let t ← peek
    match t.symbol with
    | .key =>
      skip
      let key ← nodeUnless true true t.line endsEntry fuel
      let t ← peek
      if t.symbol = .value then
        skip
        let value ← nodeUnless true true t.line endsEntry fuel
        blockEntries fuel ((key, value) :: entries)
      else blockEntries fuel ((key, .empty t.line) :: entries)
    | .blockEnd => skip; return entries.reverse
    | _ => failure

/-- Value of an entry in brackets that `close` ends; without a colon it is left out. -/
def flowValue (close : Symbol) : Nat → Parser Node
  | 0 => failure
  | fuel + 1 => do
    let t ← peek
    if t.symbol = .value then
      skip
      nodeUnless false false (← peek).line (fun s => s = .comma || s = close) fuel
    else return .empty t.line

/-- Items of a sequence in brackets; `first` says whether no comma is needed. An entry of a mapping may stand
for an item. -/
def flowItems : Nat → Bool → List Node → Parser (List Node)
  | 0, _, _ => failure
  | fuel + 1, first, items => do
    if (← peek).symbol = .closeSequence then
      skip
      return items.reverse
    if !first then
      if (← peek).symbol = .comma then skip else failure
    let t ← peek
    match t.symbol with
    | .closeSequence => skip; return items.reverse
    | .key =>
      skip
      let s ← peek
      let key ←
        if s.symbol = .value || s.symbol = .comma || s.symbol = .closeSequence then
          skip
          pure (Node.empty s.line)
        else node false false fuel
      let value ← flowValue .closeSequence fuel
      flowItems fuel false (.mapping t.line none [(key, value)] :: items)
    | _ =>
      let item ← node false false fuel
      flowItems fuel false (item :: items)

/-- Entries of a mapping in brackets; `first` says whether no comma is needed. An entry that is not marked as
a key has no value. -/
def flowEntries : Nat → Bool → List (Node × Node) → Parser (List (Node × Node))
  | 0, _, _ => failure
  | fuel + 1, first, entries => do
    if (← peek).symbol = .closeMapping then
      skip
      return entries.reverse
    if !first then
      if (← peek).symbol = .comma then skip else failure
    let t ← peek
    match t.symbol with
    | .closeMapping => skip; return entries.reverse
    | .key =>
      skip
      let key ← nodeUnless false false (← peek).line
        (fun s => s = .value || s = .comma || s = .closeMapping) fuel
      let value ← flowValue .closeMapping fuel
      flowEntries fuel false ((key, value) :: entries)
    | _ =>
      let key ← node false false fuel
      flowEntries fuel false ((key, .empty (← peek).line) :: entries)

end

/-! ## Documents -/

/-- Directives in front of a document. A version is given once, and is 1.1; so is each handle. -/
def directives (versioned : Bool) : Nat → Parser Unit
  | 0 => failure
  | fuel + 1 => do
    match (← peek).symbol with
    | .directive (.version major minor) =>
      if versioned || major ≠ 1 || minor ≠ 1 then failure
      skip
      directives true fuel
    | .directive (.handle name start) =>
      if ((← get).handles.lookup name).isSome then failure
      modify fun u => { u with handles := u.handles ++ [(name, start)] }
      skip
      directives versioned fuel
    | _ => return

/-- Symbols that leave a marked document empty. -/
def isBoundary : Symbol → Bool
  | .directive _ | .documentStart | .documentEnd | .textEnd => true
  | _ => false

/-- **A document**: its root node, or `none` when there is no document. The token behind it has to be one. -/
def document (fuel : Nat) : Parser (Option Node) := do
  let t ← peek
  if t.symbol = .textEnd then return none
  directives false fuel
  modify fun u => { u with handles := u.handles ++ commonHandles }
  let marked := match t.symbol with
    | .directive _ | .documentStart => true
    | _ => false
  if marked then
    if (← peek).symbol = .documentStart then skip else failure
  let root ← if marked then nodeUnless true false (← peek).line isBoundary fuel else node true false fuel
  discard peek
  return some root

end Parser

/-- **The first document** of some tokens; `none` when they are not those of a document, and `some none` when
there is no document. -/
def Document.ofTokens? (tokens : List Token) : Option (Option Document) :=
  ((Parser.document (4 * tokens.length + 4)).run { tokens }).map fun (root, u) =>
    root.map fun root => ⟨root, u.named, u.references⟩

/-- **The document** of some bytes. -/
def document? (bytes : List UInt8) : Option (Option Document) :=
  Document.ofTokens? (Source.ofBytes bytes).tokens

end Yaml

end SheetFormula
