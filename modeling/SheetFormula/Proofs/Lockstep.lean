import Mathlib.Data.List.Forall2
import SheetFormula.Proofs.MachineMoves

/-!
# Readers in lockstep

Two decoders read formulas with the same bytes, in circumstances that differ only in what becomes of texts and
references. What stands behind the formulas may differ, too. They read the same tokens from the same places:

* **`Instruction.Alike`** — instructions that are the same up to their texts and references;
* **`Lockstep`** — what has to be shown of the two circumstances: how texts, references and traces go
  together;
* **`Lockstep.refRead`**, **`Lockstep.tableScan`**, **`Lockstep.opens`** — formulas are opened alike, with a
  table or without;
* **`Lockstep.tokenRead`**, **`Lockstep.hands`** — tokens and reference operands are read alike.
-/

namespace SheetFormula

/-! ## Instructions and their reductions -/

/-- **Instructions alike**: the same ones, but for texts and references in given relations. -/
inductive Instruction.Alike (texts : String → String → Prop) (refs : CellRef → CellRef → Prop) :
    Instruction → Instruction → Prop
  | operator (s : String) : Alike texts refs (.operator s) (.operator s)
  | function (s : String) : Alike texts refs (.function s) (.function s)
  | number (bits : UInt64) : Alike texts refs (.number bits) (.number bits)
  | integer (value : Int16) : Alike texts refs (.integer value) (.integer value)
  | text {s s' : String} (content : texts s s') : Alike texts refs (.text s) (.text s')
  | cell {r r' : CellRef} (ref : refs r r') : Alike texts refs (.cell r) (.cell r')
  | range {a a' b b' : CellRef} (first : refs a a') (last : refs b b') :
      Alike texts refs (.range a b) (.range a' b')

/-- Instructions with equal texts and equal references are equal. -/
theorem Instruction.Alike.eq {i j : Instruction} (h : Instruction.Alike Eq Eq i j) : i = j := by
  cases h with
  | operator | function | number | integer => rfl
  | text content => rw [content]
  | cell ref => rw [ref]
  | range first last => rw [first, last]

/-- Lists of instructions that differ in nothing are equal. -/
theorem Instruction.eq_of_forall₂ {list list' : List Instruction}
    (h : List.Forall₂ (Instruction.Alike Eq Eq) list list') : list = list' := by
  have same : List.Forall₂ Eq list list' := h.imp fun _ _ => Instruction.Alike.eq
  rwa [List.forall₂_eq_eq_eq] at same

section Reductions

open List (Forall₂)

variable {texts : String → String → Prop} {refs : CellRef → CellRef → Prop}
  {args args' : List (List Instruction)}

/-- Alike arguments are alike with separators between them. -/
theorem separated_alike (h : Forall₂ (Forall₂ (Instruction.Alike texts refs)) args args') :
    Forall₂ (Instruction.Alike texts refs) (separated args) (separated args') := by
  induction h with
  | nil => exact .nil
  | cons first others ih =>
      cases others with
      | nil => exact first
      | cons second others =>
          rw [separated_cons_cons, separated_cons_cons]
          exact List.rel_append first (.cons (.operator argSep) ih)

/-- Calls of alike arguments are alike. -/
theorem applied_alike (name : String) (h : Forall₂ (Forall₂ (Instruction.Alike texts refs)) args args') :
    Forall₂ (Instruction.Alike texts refs) (applied name args) (applied name args') := by
  have head : Forall₂ (Instruction.Alike texts refs) (if name = openParen then [] else [.function name])
      (if name = openParen then [] else [.function name]) := by
    split
    · exact .nil
    · exact .cons (.function name) .nil
  have body := List.Forall₂.cons (Instruction.Alike.operator openParen) (separated_alike h)
  exact List.rel_append (List.rel_append head body) (.cons (.operator closeParen) .nil)

/-- **Reductions of alike operands** are alike, or both lack an operand. -/
theorem compose?_alike (shape : Shape) (name : String)
    (h : Forall₂ (Forall₂ (Instruction.Alike texts refs)) args args') :
    Option.Rel (Forall₂ (Instruction.Alike texts refs)) (shape.compose? name args)
      (shape.compose? name args') := by
  -- A call takes all operands, and an operator the first one or two.
  cases shape with
  | terminator => exact .some (applied_alike name h)
  | call => exact .some (applied_alike name h)
  | prefixOp =>
      cases h with
      | nil => exact .none
      | cons first _ => exact .some (.cons (.operator name) first)
  | infixOp =>
      cases h with
      | nil => exact .none
      | cons first others =>
          cases others with
          | nil => exact .none
          | cons second _ => exact .some (List.rel_append first (.cons (.operator name) second))

/-- **Term functions of alike arguments** are alike as functions of periods. -/
theorem periods?_alike (name : String) (h : Forall₂ (Forall₂ (Instruction.Alike texts refs)) args args') :
    Option.Rel (Forall₂ (Instruction.Alike texts refs)) (periods? name args) (periods? name args') := by
  have zero : Forall₂ (Instruction.Alike texts refs) zeroOperand zeroOperand := .cons (.integer 0) .nil
  have minus : ∀ {list list'}, Forall₂ (Instruction.Alike texts refs) list list' →
      Forall₂ (Instruction.Alike texts refs) (prefixed "-" list) (prefixed "-" list') :=
    fun lists => .cons (.operator "-") lists
  -- Only three operands make a term function.
  rcases h with _ | ⟨first, _ | ⟨second, _ | ⟨third, _ | ⟨fourth, others⟩⟩⟩⟩
  · exact .none
  · exact .none
  · exact .none
  · simp only [periods?]
    split
    · exact .some (applied_alike _ (.cons second (.cons (minus first) (.cons zero (.cons third .nil)))))
    · split
      · exact .some (applied_alike _ (.cons first (.cons zero (.cons (minus third) (.cons second .nil)))))
      · exact .none
  · exact .none

/-- **Written forms of alike operands** are alike, and both are those of a term function, or neither is. -/
theorem Reduction.write_alike (r : Reduction) (length : args.length = r.operands)
    (h : Forall₂ (Forall₂ (Instruction.Alike texts refs)) args args') :
    Forall₂ (Instruction.Alike texts refs) (r.write args) (r.write args') ∧
      (r.periods? args = none ↔ r.periods? args' = none) := by
  have periods : Option.Rel (Forall₂ (Instruction.Alike texts refs)) (r.periods? args)
      (r.periods? args') := by
    unfold Reduction.periods?
    split
    · exact periods?_alike r.opcode.name h
    · exact .none
  have composed := compose?_alike r.opcode.shape r.opcode.name h
  have form : r.periods? args = some (r.write args) ∨
      r.periods? args = none ∧ r.opcode.shape.compose? r.opcode.name args = some (r.write args) :=
    r.write_spec length
  have form' : r.periods? args' = some (r.write args') ∨
      r.periods? args' = none ∧ r.opcode.shape.compose? r.opcode.name args' = some (r.write args') :=
    r.write_spec (h.length_eq ▸ length)
  -- Both are term functions, or neither is: the two mixed cases do not go together.
  rcases form with term | ⟨plain, same⟩
  · rcases form' with term' | ⟨plain', -⟩
    · rw [term, term'] at periods ⊢
      cases periods with
      | some lists => exact ⟨lists, by simp⟩
    · rw [term, plain'] at periods
      cases periods
  · rcases form' with term' | ⟨plain', same'⟩
    · rw [plain, term'] at periods
      cases periods
    · rw [same, same'] at composed
      rw [plain, plain']
      cases composed with
      | some lists => exact ⟨lists, Iff.rfl⟩

end Reductions

/-! ## Circumstances that go together -/

/-- **Lockstep** of two circumstances: what is in relation stays in relation, and what a decoder goes by is
the same. -/
structure Lockstep {σ τ : Type} (o : Options σ) (page : CodePage) (o' : Options τ) (page' : CodePage) where
  /-- Traces that go together. -/
  trace : Trace σ → Trace τ → Prop
  /-- Texts that go together. -/
  text : String → String → Prop
  /-- References that go together. -/
  ref : CellRef → CellRef → Prop
  /-- The layouts are the same. -/
  layout : o'.variant.layout = o.variant.layout
  /-- Fields are read alike. -/
  sheetField : o'.variant.sheetField = o.variant.sheetField
  /-- The bytes of a literal give texts that go together. -/
  decoded : ∀ raw, text (page.decode raw) (page'.decode raw)
  /-- The same fields are resolved to references that go together. -/
  resolved : ∀ f {t t'}, trace t t' → Together ref trace (o.resolve f t) (o'.resolve f t')
  /-- The same note may be added. -/
  noted : ∀ n {t t'}, trace t t' → trace ⟨t.names, n :: t.notes⟩ ⟨t'.names, n :: t'.notes⟩

namespace Lockstep

variable {σ τ : Type} {o : Options σ} {o' : Options τ} {page page' : CodePage}
  (S : Lockstep o page o' page')

/-- **One code page** for both decoders, whose texts are then the same. -/
def onePage {page : CodePage} (trace : Trace σ → Trace τ → Prop) (ref : CellRef → CellRef → Prop)
    (layout : o'.variant.layout = o.variant.layout)
    (sheetField : o'.variant.sheetField = o.variant.sheetField)
    (resolved : ∀ f {t t'}, trace t t' → Together ref trace (o.resolve f t) (o'.resolve f t'))
    (noted : ∀ n {t t'}, trace t t' → trace ⟨t.names, n :: t.notes⟩ ⟨t'.names, n :: t'.notes⟩) :
    Lockstep o page o' page :=
  { trace, text := Eq, ref, layout, sheetField, decoded := fun _ => rfl, resolved, noted }

/-- Instructions that go together. -/
def instruction : Instruction → Instruction → Prop := Instruction.Alike S.text S.ref

/-- Instruction lists that go together. -/
def lists : List Instruction → List Instruction → Prop := List.Forall₂ S.instruction

/-- Readers that go together: they stand at cursors that agree. -/
def reader (s : Cursor × Trace σ) (t : Cursor × Trace τ) : Prop := s.1.Agrees t.1 ∧ S.trace s.2 t.2

/-- Ranges that go together. -/
def corners (r s : CellRef × CellRef) : Prop := S.ref r.1 s.1 ∧ S.ref r.2 s.2

/-- **Targets that go together**. -/
inductive Targets : Target CellRef → Target CellRef → Prop
  | cell {r r' : CellRef} (ref : S.ref r r') : Targets (.cell r) (.cell r')
  | range {a a' b b' : CellRef} (first : S.ref a a') (last : S.ref b b') : Targets (.range a b) (.range a' b')

/-! ## Reading references -/

variable {c c' : Cursor} {t : Trace σ} {t' : Trace τ}

include S in
/-- References take the same number of bytes. -/
theorem refSize_eq : o'.variant.refSize = o.variant.refSize := by
  rw [Variant.refSize, Variant.refSize, S.sheetField]

include S in
/-- The same fields are ahead. -/
theorem fieldsAt (agrees : c.Agrees c') {f : RefFields} (h : o.FieldsAt c f) : o'.FieldsAt c' f := by
  refine ⟨h.sheet.trans S.sheetField.symm, ?_⟩
  rw [S.refSize_eq, agrees.rest_eq, (agrees.skip _).rest_eq]
  exact h.ahead

/-- **References are read alike.** -/
theorem refRead (agrees : c.Agrees c') (traces : S.trace t t') {r : Except Stop CellRef × Cursor × Trace σ}
    (h : o.RefRead c t r) : ∃ r', o'.RefRead c' t' r' ∧ Together S.ref S.reader r r' := by
  have behind : (c.skip o.variant.refSize).Agrees (c'.skip o'.variant.refSize) := by
    rw [S.refSize_eq]
    exact agrees.skip _
  cases h with
  | @missing stop failed =>
      have failed' : c'.take .cellReference o'.variant.refSize = .error stop := by
        rw [S.refSize_eq, agrees.take, failed]
      exact ⟨_, .missing failed', .error stop ⟨agrees, traces⟩⟩
  -- The same fields are resolved on the second side, to a reference that goes together with it.
  | @accepted f ref t₁ fields resolved =>
      have together := S.resolved f traces
      rw [resolved] at together
      generalize resolved' : o'.resolve f t' = r' at together
      cases together with
      | ok refs traces' =>
          exact ⟨_, .accepted (S.fieldsAt agrees fields) resolved', .ok refs ⟨behind, traces'⟩⟩
  | @malformed f field t₁ fields resolved =>
      have together := S.resolved f traces
      rw [resolved] at together
      generalize resolved' : o'.resolve f t' = r' at together
      cases together with
      | error field traces' =>
          refine ⟨_, .malformed (S.fieldsAt agrees fields) resolved', ?_⟩
          rw [agrees.pos]
          exact .error _ ⟨behind, traces'⟩

/-- **Cells and ranges are read alike.** -/
theorem targetRead (agrees : c.Agrees c') (traces : S.trace t t') {p : Payload}
    {r : Except Stop (Target CellRef) × Cursor × Trace σ} (h : o.TargetRead c t p r) :
    ∃ r', o'.TargetRead c' t' p r' ∧ Together S.Targets S.reader r r' := by
  cases h with
  | cell read =>
      obtain ⟨⟨_, _, _⟩, read', together⟩ := S.refRead agrees traces read
      cases together with
      | ok refs states => exact ⟨_, .cell read', .ok (.cell refs) states⟩
  | noCell read =>
      obtain ⟨⟨_, _, _⟩, read', together⟩ := S.refRead agrees traces read
      cases together with
      | error _ states => exact ⟨_, .noCell read', .error _ states⟩
  -- The second corner is read where the first one ended, on both sides.
  | range read last =>
      obtain ⟨⟨_, _, _⟩, read', together⟩ := S.refRead agrees traces read
      cases together with
      | ok refs states =>
          obtain ⟨⟨_, _, _⟩, last', together⟩ := S.refRead states.1 states.2 last
          cases together with
          | ok refs' states => exact ⟨_, .range read' last', .ok (.range refs refs') states⟩
  | noFirst read =>
      obtain ⟨⟨_, _, _⟩, read', together⟩ := S.refRead agrees traces read
      cases together with
      | error _ states => exact ⟨_, .noFirst read', .error _ states⟩
  | noLast read last =>
      obtain ⟨⟨_, _, _⟩, read', together⟩ := S.refRead agrees traces read
      cases together with
      | ok refs states =>
          obtain ⟨⟨_, _, _⟩, last', together⟩ := S.refRead states.1 states.2 last
          cases together with
          | error _ states => exact ⟨_, .noLast read' last', .error _ states⟩

/-- **Table entries are read alike**: neither reader has reached the limit. -/
theorem entryRead (agrees : c.Agrees c') (traces : S.trace t t') (more : (c.pos : Int) < c.limit)
    {r : Except Stop (Target CellRef) × Cursor × Trace σ} (h : o.EntryRead c t r) :
    ∃ r', o'.EntryRead c' t' r' ∧ Together S.Targets S.reader r r' := by
  have same := agrees.getElem? more
  cases h with
  | missing here => exact ⟨_, .missing (same.trans here), .error Stop.fault ⟨agrees, traces⟩⟩
  | unknown here unknown =>
      refine ⟨_, .unknown (same.trans here) unknown, ?_⟩
      rw [agrees.pos]
      exact .error _ ⟨agrees.skip 1, traces⟩
  | target here announces read =>
      obtain ⟨r', read', together⟩ := S.targetRead (agrees.skip 1) traces read
      exact ⟨r', .target (same.trans here) announces read', together⟩

/-- **Tables are scanned alike.** -/
theorem tableScan {r : Except Stop (List (Target CellRef)) × Trace σ} (h : o.TableScan c t r)
    (agrees : c.Agrees c') (traces : S.trace t t') :
    ∃ r', o'.TableScan c' t' r' ∧ Together (List.Forall₂ S.Targets) S.trace r r' := by
  induction h generalizing c' t' with
  | done exhausted =>
      refine ⟨_, .done ?_, .ok .nil traces⟩
      rw [agrees.limit, agrees.pos]
      exact exhausted
  | stopped more failed =>
      have more' : (c'.pos : Int) < c'.limit := by rwa [agrees.limit, agrees.pos]
      obtain ⟨⟨_, _, _⟩, failed', together⟩ := S.entryRead agrees traces more failed
      cases together with
      | error _ states => exact ⟨_, .stopped more' failed', .error _ states.2⟩
  | entry more read others ih =>
      have more' : (c'.pos : Int) < c'.limit := by rwa [agrees.limit, agrees.pos]
      obtain ⟨⟨_, _, _⟩, read', together⟩ := S.entryRead agrees traces more read
      cases together with
      | ok targets states =>
          -- The others are scanned from where this entry ends, on both sides.
          obtain ⟨⟨_, _⟩, others', together⟩ := ih states.1 states.2
          refine ⟨_, .entry more' read' others', ?_⟩
          cases together with
          | ok tables traces => exact .ok (.cons targets tables) traces
          | error stop traces => exact .error stop traces

/-! ## Token sources -/

/-- **Supplies that go together**. -/
inductive Supplies : RefSupply → RefSupply → Prop
  | inline : Supplies .inline .inline
  | queued {cells cells' : List CellRef} {ranges ranges' : List (CellRef × CellRef)}
      (cell : List.Forall₂ S.ref cells cells') (range : List.Forall₂ S.corners ranges ranges') :
      Supplies (.queued cells ranges) (.queued cells' ranges')

/-- **Sources that go together**: the same bytes are ahead of both, and all of them are there. -/
structure Sources (s : TokenSource σ) (s' : TokenSource τ) : Prop where
  /-- The opcode stream. -/
  code : s.code.Agrees s'.code
  /-- All its bytes are there. -/
  whole : s.code.Whole
  /-- The references. -/
  supply : S.Supplies s.supply s'.supply
  /-- The end of the reference table. -/
  behind : s'.behind = s.behind
  /-- Names and notes. -/
  trace : S.trace s.trace s'.trace

/-- With references in line, the other supply has them in line. -/
theorem Supplies.inline_eq {S : Lockstep o page o' page'} {r : RefSupply} (h : S.Supplies .inline r) :
    r = .inline := by
  cases h with
  | inline => rfl

/-- With queues, the other supply has queues that go together with them. -/
theorem Supplies.exists_queued {S : Lockstep o page o' page'} {cells : List CellRef}
    {ranges : List (CellRef × CellRef)} {r : RefSupply} (h : S.Supplies (.queued cells ranges) r) :
    ∃ cells' ranges', r = .queued cells' ranges' ∧ List.Forall₂ S.ref cells cells' ∧
      List.Forall₂ S.corners ranges ranges' := by
  cases h with
  | queued cell range => exact ⟨_, _, rfl, cell, range⟩

/-- As many references are left. -/
theorem Supplies.pending {S : Lockstep o page o' page'} {s : TokenSource σ} {s' : TokenSource τ}
    (h : S.Supplies s.supply s'.supply) : s'.pending = s.pending := by
  unfold TokenSource.pending
  generalize s.supply = r at h ⊢
  generalize s'.supply = r' at h ⊢
  cases h with
  | inline => rfl
  | queued cell range => simp only [cell.length_eq, range.length_eq]

/-- The targets of a table fill queues that go together. -/
theorem supplies_of_targets {targets targets' : List (Target CellRef)}
    (h : List.Forall₂ S.Targets targets targets') :
    S.Supplies (.queued (Target.cells targets) (Target.ranges targets))
      (.queued (Target.cells targets') (Target.ranges targets')) := by
  refine .queued ?_ ?_
  -- Cells and ranges are picked out of the targets in the same places.
  · induction h with
    | nil => exact .nil
    | cons first others ih =>
        cases first with
        | cell ref => exact .cons ref ih
        | range first last => exact ih
  · induction h with
    | nil => exact .nil
    | cons first others ih =>
        cases first with
        | cell ref => exact ih
        | range first last => exact .cons ⟨first, last⟩ ih

/-- **Formulas are opened alike.** -/
theorem opens (agrees : c.Agrees c') (whole : c.Whole) (traces : S.trace t t')
    {r : Except Stop (TokenSource σ) × Trace σ} (h : TokenSource.Opens o c t r) :
    ∃ r', TokenSource.Opens o' c' t' r' ∧ Together S.Sources S.trace r r' := by
  cases h with
  | inline layout =>
      exact ⟨_, .inline (S.layout.trans layout), .ok ⟨agrees, whole, .inline, rfl, traces⟩ traces⟩
  | unlisted layout => exact ⟨_, .unlisted (S.layout.trans layout), .error _ traces⟩
  | noHeader layout failed =>
      have failed' := (agrees.take .tableHeader TokenSource.headerSize).trans failed
      exact ⟨_, .noHeader (S.layout.trans layout) failed', .error _ traces⟩
  | @outside first last layout header outside =>
      refine ⟨_, .outside (S.layout.trans layout) (header.agrees agrees) fun located =>
        outside (located.agrees agrees.symm), ?_⟩
      rw [agrees.limit]
      exact .error _ traces
  | @unscanned first last stop t₁ layout located scan =>
      obtain ⟨⟨_, _⟩, scan', together⟩ := S.tableScan scan (agrees.region first.toNat located.inside) traces
      cases together with
      | error _ traces =>
          exact ⟨_, .unscanned (S.layout.trans layout) (located.agrees agrees) scan', .error _ traces⟩
  | @tabled first last targets t₁ layout located scan =>
      obtain ⟨⟨_, _⟩, scan', together⟩ := S.tableScan scan (agrees.region first.toNat located.inside) traces
      cases together with
      | ok tables traces =>
          -- The opcodes end where the table starts, which is before the limit.
          have before : (first.toNat : Int) ≤ c.limit :=
            Int.le_trans (Int.ofNat_le.mpr located.ordered) located.inside
          refine ⟨_, .tabled (S.layout.trans layout) (located.agrees agrees) scan',
            .ok ⟨?_, ?_, ?_, ?_, traces⟩ traces⟩
          · exact agrees.region TokenSource.headerSize before
          · exact whole.region located.behind_header before
          · exact S.supplies_of_targets tables
          · rw [agrees.limit]

/-- **Reference operands are taken alike.** -/
theorem hands {s : TokenSource σ} {s' : TokenSource τ} (h : S.Sources s s') {p : Payload}
    {r : Except Stop (Target CellRef) × TokenSource σ} (taken : s.Hands o p r) :
    ∃ r', s'.Hands o' p r' ∧ Together S.Targets S.Sources r r' := by
  have supplies := h.supply
  -- In line, the operand is read from the stream; else it is the first one in its queue.
  cases taken with
  | inline supply read =>
      have supply' : s'.supply = .inline := (supply ▸ supplies).inline_eq
      obtain ⟨⟨_, _, _⟩, read', together⟩ := S.targetRead h.code h.trace read
      have whole := read.passes.whole h.whole
      refine ⟨_, .inline supply' read', ?_⟩
      cases together with
      | ok targets states => exact .ok targets ⟨states.1, whole, supplies, h.behind, states.2⟩
      | error stop states => exact .error stop ⟨states.1, whole, supplies, h.behind, states.2⟩
  | cell supply =>
      obtain ⟨_, _, supply', cell, range⟩ := (supply ▸ supplies).exists_queued
      cases cell with
      | cons ref cells =>
          exact ⟨_, .cell supply',
            .ok (.cell ref) ⟨h.code, h.whole, .queued cells range, h.behind, h.trace⟩⟩
  | noCell supply =>
      obtain ⟨_, _, supply', cell, range⟩ := (supply ▸ supplies).exists_queued
      cases cell with
      | nil =>
          refine ⟨_, .noCell supply', ?_⟩
          rw [h.code.pos]
          exact .error _ h
  | range supply =>
      obtain ⟨_, _, supply', cell, range⟩ := (supply ▸ supplies).exists_queued
      cases range with
      | @cons _ corners' _ _ corners ranges =>
          obtain ⟨first', last'⟩ := corners'
          exact ⟨_, .range supply',
            .ok (.range corners.1 corners.2) ⟨h.code, h.whole, .queued cell ranges, h.behind, h.trace⟩⟩
  | noRange supply =>
      obtain ⟨_, _, supply', cell, range⟩ := (supply ▸ supplies).exists_queued
      cases range with
      | nil =>
          refine ⟨_, .noRange supply', ?_⟩
          rw [h.code.pos]
          exact .error _ h

/-! ## Tokens -/

/-- **Payloads that go together**: the same ones, but for texts. -/
inductive Payloads : Payload → Payload → Prop
  | text {s s' : String} (content : S.text s s') : Payloads (.text s) (.text s')
  | same {p : Payload} (other : ∀ s, p ≠ .text s) : Payloads p p

/-- They take as many operands. -/
theorem Payloads.operands {S : Lockstep o page o' page'} {p p' : Payload} (h : S.Payloads p p') :
    p'.operands = p.operands := by
  cases h with
  | text => rfl
  | same => rfl

/-- They are the same if there is no text. -/
theorem Payloads.eq {S : Lockstep o page o' page'} {p p' : Payload} (h : S.Payloads p p')
    (other : ∀ s, p ≠ .text s) : p' = p := by
  cases h with
  | text => exact absurd rfl (other _)
  | same => rfl

/-- **Tokens that go together**: the same opcode at the same position. -/
structure Tokens (a b : Token) : Prop where
  /-- The opcode. -/
  opcode : b.opcode = a.opcode
  /-- The position. -/
  offset : b.offset = a.offset
  /-- What they bring with them. -/
  payload : S.Payloads a.payload b.payload

/-- A lexeme has such tokens. -/
theorem tokens_lexeme {ρ : Type} (x : Lexeme (Leaf ρ)) (pos : Nat) :
    S.Tokens (x.token page pos) (x.token page' pos) := by
  refine ⟨rfl, rfl, ?_⟩
  cases x with
  | leaf l =>
      cases l with
      | text raw => exact .text (S.decoded raw.bytes)
      | number | integer => exact .same (by simp [Lexeme.token, Lexeme.payload])
      | target t => exact .same (by cases t <;> simp [Lexeme.token, Lexeme.payload, Target.payload])
  | reduce | terminator => exact .same (by simp [Lexeme.token, Lexeme.payload])

/-- **Tokens are read alike.** -/
theorem tokenRead (agrees : c.Agrees c') {r : Except Stop Token × Cursor} (h : TokenRead page c r) :
    ∃ r', TokenRead page' c' r' ∧ Together S.Tokens Cursor.Agrees r r' := by
  -- What is read lies before the limit, and there the bytes are the same.
  have first {b : UInt8} (ahead : c.rest = b :: (c.skip 1).rest) : c'.rest = b :: (c'.skip 1).rest := by
    rw [agrees.rest_eq, (agrees.skip 1).rest_eq]
    exact ahead
  cases h with
  | lexeme x ahead =>
      have ahead' : c'.rest = x.code ++ (c'.skip x.code.length).rest := by
        rw [agrees.rest_eq, (agrees.skip _).rest_eq]
        exact ahead
      refine ⟨_, .lexeme x ahead', ?_⟩
      rw [agrees.pos]
      exact .ok (S.tokens_lexeme x c.pos) (agrees.skip _)
  | missing failed => exact ⟨_, .missing ((agrees.take _ _).trans failed), .error _ agrees⟩
  | invalid ahead invalid =>
      refine ⟨_, .invalid (first ahead) invalid, ?_⟩
      rw [agrees.pos]
      exact .error _ (agrees.skip 1)
  | cut listed ahead lacks =>
      exact ⟨_, .cut listed (first ahead) (lacks.agrees (agrees.skip 1)), .error _ (agrees.skip 1)⟩

end Lockstep

end SheetFormula
