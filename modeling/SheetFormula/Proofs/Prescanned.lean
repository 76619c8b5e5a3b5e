import SheetFormula.Proofs.MachineRun

/-!
# Formulas with a reference table

Which bytes are a formula when the references stand in a table behind the opcodes, and what the formula says:

* **`Expression.targets`** — the reference operands of a tree, in the order of its stream;
* **`decode_prescanned_iff`** — exactly the formulas are decoded whose header locates a table of entries, and
  whose opcodes are the code of a tree that takes its cells and its ranges from the table, each in their
  order.
-/

namespace SheetFormula

variable {σ ρ : Type} {o : Options σ}

/-- **Reference operands of a tree**, in the order of its stream. -/
def Expression.targets : Expression (Leaf ρ) → List (Target ρ) := Expression.encode Lexeme.targets

/-- **Reading with queues** reads the codes of some lexemes, and takes their reference operands off the
queues. -/
theorem readsAll_queued_iff {c : Cursor} {cells : List CellRef} {ranges : List (CellRef × CellRef)} {s : σ}
    {xs : List (Lexeme (Leaf CellRef))} {f : Feed σ} :
    ReadsAll o ⟨c, .queued cells ranges, s⟩ xs f ↔
      ∃ rest cells' ranges', c.rest = xs.flatMap Lexeme.code ++ rest ∧
        cells = Target.cells (xs.flatMap Lexeme.targets) ++ cells' ∧
        ranges = Target.ranges (xs.flatMap Lexeme.targets) ++ ranges' ∧
        f = ⟨c.skip (xs.flatMap Lexeme.code).length, .queued cells' ranges', s⟩ := by
  constructor
  · intro h
    generalize hf : (⟨c, .queued cells ranges, s⟩ : Feed σ) = f₀ at h
    induction h generalizing c cells ranges with
    | nil f => exact ⟨c.rest, cells, ranges, rfl, rfl, rfl, hf.symm⟩
    | @cons f₀ f₁ f x xs first others ih =>
        subst hf
        -- Its code stands ahead, and what it refers to is at the front of the queues.
        cases first with
        | @queued _ rest _ _ _ cells' _ ranges' ahead cell range =>
            obtain ⟨rest', cells'', ranges'', behind, rfl, rfl, rfl⟩ := ih rfl
            rw [Cursor.rest_skip_of_append ahead] at behind
            refine ⟨rest', cells'', ranges'', ?_, ?_, ?_, ?_⟩
            · rw [ahead, behind, List.flatMap_cons, List.append_assoc]
            · rw [cell, List.flatMap_cons, Target.cells_append, List.append_assoc]
            · rw [range, List.flatMap_cons, Target.ranges_append, List.append_assoc]
            · rw [List.flatMap_cons, List.length_append, Cursor.skip_skip]
  · rintro ⟨rest, cells', ranges', ahead, rfl, rfl, rfl⟩
    induction xs generalizing c with
    | nil => exact .nil _
    | cons x xs ih =>
        rw [List.flatMap_cons, List.append_assoc] at ahead
        rw [List.flatMap_cons, List.flatMap_cons, Target.cells_append, List.append_assoc,
          Target.ranges_append, List.append_assoc, List.length_append, ← Cursor.skip_skip]
        exact .cons (.queued ahead rfl rfl) (ih (Cursor.rest_skip_of_append ahead))

/-- The warning about bytes behind a table in bounds. -/
theorem TableBounds.tailWarning_eq {formula : List UInt8} (b : TableBounds formula) :
    SheetFormula.tailWarning (some (b.last.toNat, formula.length - b.last.toNat)) = b.tailWarning := by
  rw [SheetFormula.tailWarning, TableBounds.tailWarning]
  by_cases h : b.last.toNat < formula.length
  · rw [if_pos h, if_neg (by omega)]
  · rw [if_neg h, if_pos (by omega)]

/-- **Formulas with a reference table.** Decoding succeeds on exactly the bytes whose header locates a table
of entries within them, when the opcodes are the code of a tree, or that with a terminator and anything behind
it. The cells of the tree are the first ones of the table, and so are its ranges. The result is the
instruction list of the tree; a warning tells of bytes behind the terminator, and otherwise of bytes behind
the table. -/
theorem decode_prescanned_iff (o : Options σ) (names : σ) (data : List UInt8) {stop : Int}
    {page : CodePage} (start : 0 ≤ stop) (inside : stop ≤ data.length)
    (layout : o.variant.layout = .prescanned)
    (known : CodePage.ofName? o.variant.charset = some page) (list : List Instruction)
    (warning : Option DecodeError) :
    (∃ d, (decode o names data stop).outcome = .ok d ∧ d.instructions = list ∧ d.warning = warning) ↔
      ∃ (b : TableBounds (data.take stop.toNat)) (table : List (Target o.Ref))
        (e : Expression (Leaf CellRef)),
        b.table = table.flatMap Target.entry ∧ e.WellFormed ∧
        Target.cells e.targets <+: Target.cells (o.resolveTargets table names).1 ∧
        Target.ranges e.targets <+: Target.ranges (o.resolveTargets table names).1 ∧
        list = e.flatten (Leaf.instruction page) ∧
        (b.code = e.code ∧ warning = b.tailWarning ∨
          ∃ rest, b.code = e.code ++ 0x03 :: rest ∧
            warning = if rest = [] then b.tailWarning else some ⟨.trailing, 4 + e.code.length + 1⟩) := by
  have framed : Framed data stop (data.take stop.toNat) := ⟨start, inside, rfl⟩
  rw [framed.decode_eq known]
  constructor
  · intro succeeds
    rcases opened : TokenSource.ofCursor o (.ofData data stop) ⟨names, []⟩ with ⟨reason | source, t⟩
    · -- A formula that is not opened is not decoded either.
      obtain ⟨d, ok, -⟩ := succeeds
      rw [outcome_of_unopened opened] at ok
      cases ok
    · cases (TokenSource.serves_of_opened framed opened).1 with
      | inline other => cases layout.symm.trans other
      | @tabled _ b table entries t resolved =>
          -- What the lexemes take off the queues is a prefix of what the table put there.
          have whole := b.whole_stream framed
          obtain ⟨xs, f, reads, acts, ends⟩ := (exists_outcome_ok_iff opened whole).mp succeeds
          obtain ⟨rest, cells, ranges, code, cell, range, rfl⟩ := readsAll_queued_iff.mp reads
          have left := Cursor.rest_skip_of_append code
          obtain ⟨e, he, rfl, value⟩ := Lexeme.run_eq_some_singleton_iff.mp acts
          have ahead := b.rest_stream framed
          rw [Expression.flatMap_stream _ he] at code cell range ends left
          refine ⟨b, table, e, entries, he, ⟨cells, cell.symm⟩, ⟨ranges, range.symm⟩, value.symm, ?_⟩
          rw [b.tailWarning_eq] at ends
          rcases ends with ⟨nothing, rfl⟩ | ⟨f', terminator, rfl⟩
          · obtain rfl : rest = [] := left.symm.trans nothing
            exact .inl ⟨ahead.symm.trans (code.trans (List.append_nil _)), rfl⟩
          · obtain ⟨rest', here, rfl⟩ := reads_terminator_iff.mp terminator
            obtain rfl : rest = 0x03 :: rest' := left.symm.trans here
            refine .inr ⟨rest', ahead.symm.trans code, ?_⟩
            rw [whole.warning_terminated code]
            split <;> rfl
  · rintro ⟨b, table, e, entries, he, ⟨cells, cell⟩, ⟨ranges, range⟩, rfl, ends⟩
    have whole := b.whole_stream framed
    obtain ⟨t, -, opened⟩ := TokenSource.ofCursor_entries framed layout b entries names
    rw [exists_outcome_ok_iff opened whole, b.tailWarning_eq]
    have acts := Lexeme.run_eq_some_singleton_iff.mpr
      (⟨e, he, rfl, rfl⟩ : ∃ e' : Expression (Leaf CellRef), e'.WellFormed ∧ e'.stream = e.stream ∧
        e'.fold (fun l => [l.instruction page]) Reduction.write = e.flatten (Leaf.instruction page))
    rw [Expression.targets, ← Expression.flatMap_stream _ he] at cell range
    rw [← b.rest_stream framed] at ends
    rcases ends with ⟨code, rfl⟩ | ⟨rest, code, rfl⟩
    · rw [Expression.code, ← Expression.flatMap_stream _ he, ← List.append_nil (List.flatMap _ _)] at code
      exact ⟨_, _, readsAll_queued_iff.mpr ⟨_, _, _, code, cell.symm, range.symm, rfl⟩, acts,
        .inl ⟨Cursor.rest_skip_of_append code, rfl⟩⟩
    · rw [Expression.code, ← Expression.flatMap_stream _ he] at code ⊢
      refine ⟨_, _, readsAll_queued_iff.mpr ⟨_, _, _, code, cell.symm, range.symm, rfl⟩, acts,
        .inr ⟨_, reads_terminator_iff.mpr ⟨rest, Cursor.rest_skip_of_append code, rfl⟩, ?_⟩⟩
      rw [whole.warning_terminated code]
      split <;> rfl

/-- The sum of a range and a cell; in the table the cell stands first, and a byte stands behind it. -/
theorem decode_prescanned_sum :
    ∃ d, (decode ⟨.wq1, {}, Names.none.resolver⟩ ()
        [0x09, 0x00, 0x17, 0x00, 0x02, 0x50, 0x01, 0x01, 0x09, 0x01, 0x00, 0x00, 0x01, 0x00, 0x02, 0x00, 0x00,
          0x00, 0x00, 0x01, 0x00, 0x02, 0x00, 0xff] 24).outcome = .ok d ∧
      d.instructions = [.function "SUM", .operator "(", .range {} { column := ⟨1, false⟩, row := ⟨2, false⟩ },
        .operator ")", .operator "+", .cell { row := ⟨1, false⟩ }] ∧
      d.warning = some ⟨.trailing, 23⟩ := by
  refine (decode_prescanned_iff _ () _ (by decide) (by decide) rfl (CodePage.ofName?_name .cp850) _ _).mpr
    ⟨⟨9, 23, by decide, by decide, by decide, by decide, by decide⟩,
      [.cell ⟨⟨0, 1, none⟩, Options.accepts_of_axes _ rfl (by decide)⟩,
        .range ⟨⟨0, 0, none⟩, Options.accepts_of_axes _ rfl (by decide)⟩
          ⟨⟨1, 2, none⟩, Options.accepts_of_axes _ rfl (by decide)⟩],
      .apply ⟨⟨0x09, "+", .reduce 2⟩, 2, by decide, .inl rfl⟩
        [.apply ⟨⟨0x50, "SUM", .reduceCounted⟩, 1, by decide, .inr ⟨rfl, by decide⟩⟩
          [.leaf (.target (.range {} { column := ⟨1, false⟩, row := ⟨2, false⟩ }))],
        .leaf (.target (.cell { row := ⟨1, false⟩ }))], ?_, ?_, ?_, ?_, ?_, ?_⟩
  · decide +kernel
  · refine .apply rfl ?_
    simp only [List.mem_cons, List.not_mem_nil, or_false, forall_eq_or_imp, forall_eq]
    refine ⟨.apply rfl ?_, .leaf _⟩
    simp only [List.mem_cons, List.not_mem_nil, or_false, forall_eq]
    exact .leaf _
  · exact ⟨[], by decide +kernel⟩
  · exact ⟨[], by decide +kernel⟩
  · decide +kernel
  · exact .inl ⟨by decide +kernel, by decide +kernel⟩

end SheetFormula
