import SheetFormula.Proofs.MachineRun

/-!
# Formulas with references in line

Which bytes are a formula when each reference stands behind its opcode, and what the formula says:

* **`Options.formula`** — the instruction list of a tree whose references are resolved in order;
* **`decode_interleaved_iff`** — exactly the postfix bytes of a tree are decoded, alone or with a terminator
  and anything behind it, and the result is the instruction list of the tree.
-/

namespace SheetFormula

variable {σ : Type} {o : Options σ}

/-- **Instruction list of a tree** whose references are resolved from left to right, from a state of the
names. -/
def Options.formula (o : Options σ) (page : CodePage) (e : Expression (Leaf o.Ref)) (s : σ) :
    List Instruction :=
  (e.traverse (Leaf.traverse fun ref => o.reference ref.val) s).1.flatten (Leaf.instruction page)

/-- **Reading in line** reads the bytes of some lexemes, and resolves their references one after the other. -/
theorem readsAll_inline_iff {c : Cursor} {s : σ} {xs : List (Lexeme (Leaf CellRef))} {f : Feed σ} :
    ReadsAll o ⟨c, .inline, s⟩ xs f ↔
      ∃ (ys : List (Lexeme (Leaf o.Ref))) (rest : List UInt8), c.rest = ys.flatMap Lexeme.bytes ++ rest ∧
        xs = (threaded o.resolved ys s).1 ∧
        f = ⟨c.skip (ys.flatMap Lexeme.bytes).length, .inline, (threaded o.resolved ys s).2⟩ := by
  constructor
  · intro h
    generalize hf : (⟨c, .inline, s⟩ : Feed σ) = f₀ at h
    induction h generalizing c s with
    | nil f => exact ⟨[], c.rest, rfl, rfl, hf.symm⟩
    | @cons f₀ f₁ f x xs first others ih =>
        subst hf
        -- The bytes of the first lexeme stand ahead, and those of the others behind it.
        cases first with
        | @inline _ rest _ s' _ y ahead resolved =>
            obtain ⟨ys, rest', behind, rfl, rfl⟩ := ih rfl
            rw [Cursor.rest_skip_of_append ahead] at behind
            refine ⟨y :: ys, rest', ?_, ?_, ?_⟩
            · rw [ahead, behind, List.flatMap_cons, List.append_assoc]
            · rw [threaded_cons, resolved]
            · rw [threaded_cons, resolved, List.flatMap_cons, List.length_append, Cursor.skip_skip]
  · rintro ⟨ys, rest, ahead, rfl, rfl⟩
    induction ys generalizing c s with
    | nil => exact .nil _
    | cons y ys ih =>
        rw [List.flatMap_cons, List.append_assoc] at ahead
        rw [List.flatMap_cons, threaded_cons, List.length_append, ← Cursor.skip_skip]
        exact .cons (.inline y ahead rfl) (ih (Cursor.rest_skip_of_append ahead))

/-- **Formulas with references in line.** Decoding succeeds on exactly the bytes of a tree, or those with a
terminator behind them. The result is the instruction list of the tree, with a warning when bytes follow the
terminator. -/
theorem decode_interleaved_iff (o : Options σ) (names : σ) (data : List UInt8) {stop : Int}
    {page : CodePage} (start : 0 ≤ stop) (inside : stop ≤ data.length)
    (layout : o.variant.layout = .interleaved)
    (known : CodePage.ofName? o.variant.charset = some page) (list : List Instruction)
    (warning : Option DecodeError) :
    (∃ d, (decode o names data stop).outcome = .ok d ∧ d.instructions = list ∧ d.warning = warning) ↔
      ∃ e : Expression (Leaf o.Ref), e.WellFormed ∧ list = o.formula page e names ∧
        (data.take stop.toNat = e.bytes ∧ warning = none ∨
          ∃ rest, data.take stop.toNat = e.bytes ++ 0x03 :: rest ∧
            warning = if rest = [] then none else some ⟨.trailing, e.bytes.length + 1⟩) := by
  have framed : Framed data stop (data.take stop.toNat) := ⟨start, inside, rfl⟩
  have opened := TokenSource.ofCursor_interleaved layout (.ofData data stop) ⟨names, []⟩
  have ahead : (Cursor.ofData data stop).rest = data.take stop.toNat := framed.rest_eq
  rw [framed.decode_eq known, exists_outcome_ok_iff opened framed.whole]
  constructor
  · -- The lexemes that were read leave one operand, so they are the stream of a tree.
    rintro ⟨xs, f, reads, acts, ends⟩
    obtain ⟨ys, rest, bytes, rfl, rfl⟩ := readsAll_inline_iff.mp reads
    have left := Cursor.rest_skip_of_append bytes
    obtain ⟨e, he, rfl, value⟩ := Lexeme.run_threaded_iff.mp acts
    rw [Expression.flatMap_stream _ he] at bytes ends left
    refine ⟨e, he, value.symm, ?_⟩
    rcases ends with ⟨nothing, rfl⟩ | ⟨f', terminator, rfl⟩
    · obtain rfl : rest = [] := left.symm.trans nothing
      exact .inl ⟨ahead.symm.trans (bytes.trans (List.append_nil _)), rfl⟩
    · obtain ⟨rest', here, rfl⟩ := reads_terminator_iff.mp terminator
      obtain rfl : rest = 0x03 :: rest' := left.symm.trans here
      refine .inr ⟨rest', ahead.symm.trans bytes, ?_⟩
      rw [framed.whole.warning_terminated bytes, tailWarning, Option.or_none, Expression.bytes]
      simp [Cursor.ofData]
  · rintro ⟨e, he, rfl, ends⟩
    have acts : Lexeme.run (fun l => [l.instruction page]) Reduction.write
        (threaded o.resolved e.stream names).1 [] = some [o.formula page e names] :=
      Lexeme.run_threaded_iff.mpr ⟨e, he, rfl, rfl⟩
    rw [← ahead] at ends
    rcases ends with ⟨bytes, rfl⟩ | ⟨rest, bytes, rfl⟩
    · rw [Expression.bytes, ← Expression.flatMap_stream _ he, ← List.append_nil (List.flatMap _ _)] at bytes
      exact ⟨_, _, readsAll_inline_iff.mpr ⟨_, _, bytes, rfl, rfl⟩, acts,
        .inl ⟨Cursor.rest_skip_of_append bytes, rfl⟩⟩
    · rw [Expression.bytes, ← Expression.flatMap_stream _ he] at bytes ⊢
      refine ⟨_, _, readsAll_inline_iff.mpr ⟨_, _, bytes, rfl, rfl⟩, acts,
        .inr ⟨_, reads_terminator_iff.mpr ⟨rest, Cursor.rest_skip_of_append bytes, rfl⟩, ?_⟩⟩
      rw [framed.whole.warning_terminated bytes, tailWarning, Option.or_none]
      simp [Cursor.ofData]

/-- The sum of the cell that stands as far to the left as its owner, in the third row, and two; a byte follows
the terminator. -/
theorem decode_interleaved_sum :
    ∃ d, (decode ⟨.wk1, { column := 3, row := 5 }, Names.none.resolver⟩ ()
        [0x01, 0xfd, 0x80, 0x02, 0x00, 0x05, 0x02, 0x00, 0x09, 0x03, 0xff] 11).outcome = .ok d ∧
      d.instructions =
        [.cell { column := ⟨0, true⟩, row := ⟨2, false⟩ }, .operator "+", .integer 2] ∧
      d.warning = some ⟨.trailing, 10⟩ := by
  refine (decode_interleaved_iff _ () _ (by decide) (by decide) rfl (CodePage.ofName?_name .cp437) _ _).mpr
    ⟨.apply ⟨⟨0x09, "+", .reduce 2⟩, 2, by decide, .inl rfl⟩
      [.leaf (.target (.cell ⟨⟨0x80fd, 2, none⟩, Options.accepts_of_axes _ rfl (by decide)⟩)),
        .leaf (.integer 2)], ?_, ?_, ?_⟩
  · refine .apply rfl ?_
    simp only [List.mem_cons, List.not_mem_nil, or_false, forall_eq_or_imp, forall_eq]
    exact ⟨.leaf _, .leaf _⟩
  · decide +kernel
  · exact .inr ⟨[0xff], by decide +kernel, by decide +kernel⟩

end SheetFormula
