import SheetFormula.Token

/-!
# Token sources

A token source hands out the tokens of a formula and the references that they take, in either layout. Main
definitions:

* `Target` — what a reference operand refers to: a cell, or a range;
* `Options.readEntry`, `Options.scanTable` — an entry of the reference table, and all of them;
* `RefSupply` — where references come from: the opcode stream itself, or two queues filled from the table;
* `TokenSource` — the unread opcode stream with its supply; `TokenSource.ofCursor` — the source of a formula;
* `TokenSource.nextToken`, `TokenSource.nextCell`, `TokenSource.nextRange` — the three ways to read on;
* `TokenSource.pending` — the references nobody has taken.
-/

namespace SheetFormula

variable {σ ρ : Type}

/-! ## The reference table -/

/-- **Target of a reference operand**: one cell, or a range. -/
inductive Target (ρ : Type) where
  /-- One cell. -/
  | cell (ref : ρ)
  /-- A range, by two corners. -/
  | range (first last : ρ)

namespace Target

/-- The cells among some targets, in order. -/
def cells (ts : List (Target ρ)) : List ρ :=
  ts.filterMap fun
    | cell ref => some ref
    | range .. => none

/-- The ranges among some targets, in order. -/
def ranges (ts : List (Target ρ)) : List (ρ × ρ) :=
  ts.filterMap fun
    | cell _ => none
    | range first last => some (first, last)

end Target

/-- The table entry of a cell. -/
def cellEntry : UInt8 := 1

/-- The table entry of a range. -/
def rangeEntry : UInt8 := 2

namespace Options

/-- **Read an entry** of the reference table: its kind, then one reference or two. -/
def readEntry (o : Options σ) (c : Cursor) (t : Trace σ) : Except Stop (Target CellRef) × Cursor × Trace σ :=
  match c.data[c.pos]? with
  | none => (.error .fault, c, t)
  | some kind =>
    if kind = cellEntry then
      match o.readRef (c.skip 1) t with
      | (result, c, t) => (result.map .cell, c, t)
    else if kind = rangeEntry then
      match o.readRange (c.skip 1) t with
      | (result, c, t) => (result.map fun range => .range range.1 range.2, c, t)
    else (.error (.error ⟨.entryKind kind, c.pos⟩), c.skip 1, t)

/-- **Scan the reference table**: the entries from the cursor up to its limit, in order. An entry takes at
least one byte, so as many entries as there are bytes are enough. -/
def scanTable (o : Options σ) : Nat → Cursor → Trace σ → Except Stop (List (Target CellRef)) × Trace σ
  | 0, _, t => (.ok [], t)
  | fuel + 1, c, t =>
    if c.limit ≤ c.pos then (.ok [], t)
    else
      match o.readEntry c t with
      | (.error stop, _, t) => (.error stop, t)
      | (.ok target, c, t) =>
        match o.scanTable fuel c t with
        | (.error stop, t) => (.error stop, t)
        | (.ok targets, t) => (.ok (target :: targets), t)

end Options

/-! ## Sources -/

/-- **Where references come from**. -/
inductive RefSupply where
  /-- From the opcode stream. -/
  | inline
  /-- From the reference table, cells and ranges each in their order. -/
  | queued (cells : List CellRef) (ranges : List (CellRef × CellRef))
  deriving DecidableEq, Repr

/-- **A token source**. -/
structure TokenSource (σ : Type) where
  /-- The opcode stream. -/
  code : Cursor
  /-- The references. -/
  supply : RefSupply
  /-- Where the reference table ends, and how many bytes stand behind it; in the opcode stream there is no
  table. -/
  behind : Option (Nat × Nat) := none
  /-- Names and notes. -/
  trace : Trace σ

namespace TokenSource

/-- The size of the header that locates the reference table. -/
def headerSize : Nat := 4

/-- **Open a formula with a reference table**: the header gives the start and the end of the table, the
opcodes stand between the header and the table, and bytes behind the table belong to nobody. All of them are
read from the same data, each part up to its own end. -/
def ofPrescanned (o : Options σ) (formula : Cursor) (t : Trace σ) :
    Except Stop (TokenSource σ) × Trace σ :=
  match formula.take .tableHeader headerSize with
  | .error stop => (.error stop, t)
  | .ok header =>
    match Bytes.word? header 0, Bytes.word? header 2 with
    | some first, some last =>
      let start := first.toNat
      let stop := last.toNat
      let size := formula.limit
      if start < headerSize || stop < start || size < stop then
        (.error (.error ⟨.tableOutside start stop size, 0⟩), t)
      else
        match o.scanTable (stop - start) (formula.region start stop) t with
        | (.error stop, t) => (.error stop, t)
        | (.ok targets, t) =>
          (.ok ⟨formula.region headerSize start, .queued (Target.cells targets) (Target.ranges targets),
            some (stop, (size - stop).toNat), t⟩, t)
    | _, _ => (.error .fault, t)

/-- **Open the formula at a cursor** in the layout of its variant. -/
def ofCursor (o : Options σ) (formula : Cursor) (t : Trace σ) :
    Except Stop (TokenSource σ) × Trace σ :=
  match o.variant.layout with
  | .prescanned => ofPrescanned o formula t
  | .interleaved => (.ok ⟨formula, .inline, none, t⟩, t)
  | .unlisted n => (.error (.error ⟨.layout (.unlisted n), 0⟩), t)

/-! ## Reading on -/

/-- **Next token** of the opcode stream. -/
def nextToken (page : CodePage) (s : TokenSource σ) : Except Stop Token × TokenSource σ :=
  match Token.read page s.code with
  | (result, code) => (result, { s with code })

/-- **Next cell**: from the opcode stream, or the first one left of the table. -/
def nextCell (o : Options σ) (s : TokenSource σ) : Except Stop CellRef × TokenSource σ :=
  match s.supply with
  | .inline =>
    match o.readRef s.code s.trace with
    | (result, code, trace) => (result, { s with code, trace })
  | .queued [] _ => (.error (.error ⟨.noMoreCells, s.code.pos⟩), s)
  | .queued (ref :: cells) ranges => (.ok ref, { s with supply := .queued cells ranges })

/-- **Next range**: from the opcode stream, or the first one left of the table. -/
def nextRange (o : Options σ) (s : TokenSource σ) : Except Stop (CellRef × CellRef) × TokenSource σ :=
  match s.supply with
  | .inline =>
    match o.readRange s.code s.trace with
    | (result, code, trace) => (result, { s with code, trace })
  | .queued _ [] => (.error (.error ⟨.noMoreRanges, s.code.pos⟩), s)
  | .queued cells (range :: ranges) => (.ok range, { s with supply := .queued cells ranges })

/-- **References nobody has taken**. -/
def pending (s : TokenSource σ) : Nat :=
  match s.supply with
  | .inline => 0
  | .queued cells ranges => cells.length + ranges.length

/-- **Bytes behind the reference table**, as a pair of positions; without a table none at the end. -/
def tail (s : TokenSource σ) : Int × Int :=
  match s.behind with
  | some (start, count) => (start, start + count)
  | none => (s.code.limit, s.code.limit)

end TokenSource

end SheetFormula
