import SheetFormula.Proofs.Interleaved
import SheetFormula.Proofs.Prescanned
import SheetFormula.Proofs.Safety

/-!
# The lexemes of a formula

Which lexemes stand in a formula before its terminator, in either layout, and what a run over given lexemes
comes to:

* **`Rejects`** — an outcome by the report of its error;
* **`Machine.ends_underflow`**, **`Machine.exists_ends_exhausted`**, **`Machine.exists_ends_terminated`** —
  lexemes that can be read are run up to the first reduction without its operands, or to their end;
* **`Carries`** — a formula carries lexemes up to its end or to a terminator;
* **`exists_carries`**, **`Carries.run_eq`** — a decoded formula carries lexemes, and whatever lexemes it
  carries leave its instructions on the stack.
-/

namespace SheetFormula

variable {σ : Type} {o : Options σ} {page : CodePage}

/-! ## Reports -/

/-- **Rejected with a report**. -/
def Rejects (outcome : Except Failure Decoded) (report : ErrorReport) : Prop :=
  ∃ e notes dump, outcome = .error (.rejected e notes dump) ∧ e.report = report

/-- An error that stops the run is reported. -/
theorem rejects_of_ends {names : σ} {data formula : List UInt8} {stop : Int}
    (framed : Framed data stop formula) {source : TokenSource σ} {t : Trace σ}
    (opened : TokenSource.ofCursor o (.ofData data stop) ⟨names, []⟩ = (.ok source, t)) {e : DecodeError}
    (ends : Machine.Ends o page { source } (.error (.error e))) :
    Rejects (decodeFormula o page names data stop).outcome e.report := by
  have delivers := outcome_of_ends framed opened ends
  generalize (decodeFormula o page names data stop).outcome = outcome at delivers
  cases delivers with
  | rejected _ notes => exact ⟨e, notes, formula, rfl, rfl⟩

/-- What is rejected has one report. -/
theorem Rejects.report_eq {outcome : Except Failure Decoded} {report report' : ErrorReport}
    (h : Rejects outcome report) (h' : Rejects outcome report') : report = report' := by
  obtain ⟨e, notes, dump, rfl, rfl⟩ := h
  obtain ⟨e', notes', dump', same, rfl⟩ := h'
  cases same
  rfl

/-- What is rejected is not decoded. -/
theorem Rejects.ne_ok {outcome : Except Failure Decoded} {report : ErrorReport}
    (h : Rejects outcome report) (d : Decoded) : outcome ≠ .ok d := by
  obtain ⟨e, notes, dump, rfl, -⟩ := h
  exact fun same => by cases same

/-! ## Runs over given lexemes -/

/-- Reading lexemes and then others is reading them all. -/
theorem ReadsAll.split {f f' : Feed σ} {xs ys : List (Lexeme (Leaf CellRef))}
    (h : ReadsAll o f (xs ++ ys) f') : ∃ g, ReadsAll o f xs g ∧ ReadsAll o g ys f' := by
  induction xs generalizing f with
  | nil => exact ⟨f, .nil f, h⟩
  | cons x xs ih =>
      cases h with
      | cons first others =>
          obtain ⟨g, here, behind⟩ := ih others
          exact ⟨g, .cons first here, behind⟩

namespace Machine

variable {m : Machine σ} {xs : List (Lexeme (Leaf CellRef))} {f f' : Feed σ}
  {operands : List (List Instruction)}

/-- **The last opcode of a run** is that of the last lexeme, if there was one. -/
theorem Reaches.last_eq {m' : Machine σ} (h : Reaches o page m xs m') :
    m'.last = (xs.getLast?.map fun x => x.opcode.code).or m.last := by
  induction h with
  | refl m => rfl
  | @next m m₁ m' x xs f operands reads acts core step others ih =>
      have last : m₁.last = some x.opcode.code := (Core.mk.inj core).2.2.2
      rw [ih, last, List.getLast?_cons]
      cases xs.getLast? <;> rfl

/-- **A reduction without its operands stops the run**, behind lexemes that have left too few. -/
theorem ends_underflow (whole : m.source.code.Whole) (reads : ReadsAll o m.source.feed xs f)
    (acts : Lexeme.run (fun l => [l.instruction page]) Reduction.write xs m.stack.items = some operands)
    {r : Reduction} (next : Reads o f (.reduce r) f') (few : operands.length < r.operands) :
    Ends o page m
      (.error (.error ⟨.underflow (some r.opcode.code) r.operands operands.length, f.code.pos⟩)) := by
  obtain ⟨m', reaches, rfl, rfl⟩ := exists_reaches whole reads acts
  obtain ⟨m'', step⟩ := step_underflow (reaches.whole whole) next few page
  exact reaches.ends (ends_of_stopped next.rest_ne_nil step)

/-- **Lexemes up to the end of the stream** are run through, and then the run is finished. -/
theorem exists_ends_exhausted (whole : m.source.code.Whole) (reads : ReadsAll o m.source.feed xs f)
    (acts : Lexeme.run (fun l => [l.instruction page]) Reduction.write xs m.stack.items = some operands)
    (nothing : f.code.rest = []) :
    ∃ m' : Machine σ, m'.source.feed = f ∧ m'.stack.items = operands ∧
      m'.last = (xs.getLast?.map fun x => x.opcode.code).or m.last ∧
      Ends o page m (m'.finish false).1 := by
  obtain ⟨m', reaches, rfl, rfl⟩ := exists_reaches whole reads acts
  exact ⟨m', rfl, rfl, reaches.last_eq, reaches.ends (ends_exhausted (reaches.whole whole) nothing)⟩

/-- **Lexemes up to a terminator** are run through, and then the run is finished. -/
theorem exists_ends_terminated (whole : m.source.code.Whole) (reads : ReadsAll o m.source.feed xs f)
    (acts : Lexeme.run (fun l => [l.instruction page]) Reduction.write xs m.stack.items = some operands)
    (terminator : Reads o f .terminator f') :
    ∃ m' : Machine σ, m'.source.feed = f' ∧ m'.stack.items = operands ∧ m'.last = some 0x03 ∧
      Ends o page m (m'.finish true).1 := by
  obtain ⟨m', reaches, rfl, rfl⟩ := exists_reaches whole reads acts
  obtain ⟨m'', core, step⟩ := step_terminator (reaches.whole whole) terminator page
  obtain ⟨feed, -, stack, last⟩ := Core.mk.inj core
  exact ⟨m'', feed, stack, last, reaches.ends (ends_of_ended terminator.rest_ne_nil step)⟩

end Machine

namespace Lexeme

variable {α β : Type} {leaf : α → β} {node : Reduction → List β → β}

/-- Lexemes that are run through hold no terminator. -/
theorem terminator_not_mem_of_run {xs : List (Lexeme α)} {stack stack' : List β}
    (h : run leaf node xs stack = some stack') : .terminator ∉ xs := by
  induction xs generalizing stack with
  | nil => exact List.not_mem_nil
  | cons x xs ih =>
      rw [run, Option.bind_eq_some_iff] at h
      obtain ⟨middle, act, rest⟩ := h
      refine List.not_mem_cons_of_ne_of_not_mem ?_ (ih rest)
      rintro rfl
      cases act

/-- **Why lexemes are not run through**: somewhere a reduction finds too few values. -/
theorem exists_of_run_eq_none {xs : List (Lexeme α)} (bare : .terminator ∉ xs) {stack : List β}
    (h : run leaf node xs stack = none) :
    ∃ before r behind values, xs = before ++ .reduce r :: behind ∧
      run leaf node before stack = some values ∧ values.length < r.operands := by
  induction xs generalizing stack with
  | nil => cases h
  | cons x xs ih =>
      rw [run] at h
      cases act : x.act leaf node stack with
      | some middle =>
          rw [act, Option.bind_some] at h
          obtain ⟨before, r, behind, values, rfl, values_eq, few⟩ := ih (List.not_mem_of_not_mem_cons bare) h
          refine ⟨x :: before, r, behind, values, rfl, ?_, few⟩
          rw [run, act, Option.bind_some, values_eq]
      | none =>
          -- Only a reduction can fail to act, the terminator apart.
          cases x with
          | leaf a => cases act
          | reduce r =>
              have few : stack.length < r.operands := by simpa [Lexeme.act] using act
              exact ⟨[], r, xs, stack, rfl, rfl, few⟩
          | terminator => exact absurd List.mem_cons_self bare

end Lexeme

/-! ## Lexemes of a formula -/

/-- **End of the opcodes**: nothing is left, or a terminator with anything behind it. -/
def OpcodesEnd (rest : List UInt8) : Prop := rest = [] ∨ ∃ more, rest = 0x03 :: more

/-- **A formula carries lexemes** when they stand at its start, up to its end or to a terminator. In line,
their bytes hold their references, which are resolved one after the other. With a reference table, the stream
holds their codes, and their cells and ranges are the first ones of the table. -/
inductive Carries (o : Options σ) (names : σ) (formula : List UInt8) :
    List (Lexeme (Leaf CellRef)) → Prop
  | inline (layout : o.variant.layout = .interleaved) {ys : List (Lexeme (Leaf o.Ref))}
      {rest : List UInt8} (bare : .terminator ∉ ys) (bytes : formula = ys.flatMap Lexeme.bytes ++ rest)
      (ends : OpcodesEnd rest) : Carries o names formula (threaded o.resolved ys names).1
  | tabled (layout : o.variant.layout = .prescanned) (b : TableBounds formula)
      {table : List (Target o.Ref)} {xs : List (Lexeme (Leaf CellRef))} {rest : List UInt8}
      (entries : b.table = table.flatMap Target.entry) (bare : .terminator ∉ xs)
      (code : b.code = xs.flatMap Lexeme.code ++ rest)
      (cells : Target.cells (xs.flatMap Lexeme.targets) <+: Target.cells (o.resolveTargets table names).1)
      (ranges : Target.ranges (xs.flatMap Lexeme.targets) <+:
        Target.ranges (o.resolveTargets table names).1)
      (ends : OpcodesEnd rest) : Carries o names formula xs

/-- Resolving references makes no terminator and removes none. -/
theorem Options.terminator_mem_resolved_iff (o : Options σ) {ys : List (Lexeme (Leaf o.Ref))} {s : σ} :
    .terminator ∈ (threaded o.resolved ys s).1 ↔ .terminator ∈ ys := by
  induction ys generalizing s with
  | nil => simp [threaded_nil]
  | cons y ys ih =>
      rw [threaded_cons, List.mem_cons, List.mem_cons, ih]
      rcases y with l | r | _ <;> simp [Options.resolved, Lexeme.traverse]

/-- What is left behind lexemes is nothing or starts with a terminator that can be read. -/
theorem opcodesEnd_iff_reads {c : Cursor} {supply : RefSupply} {s : σ} :
    OpcodesEnd c.rest ↔ c.rest = [] ∨ ∃ f, Reads o ⟨c, supply, s⟩ .terminator f := by
  refine or_congr_right ⟨?_, ?_⟩
  · rintro ⟨more, ahead⟩
    exact ⟨_, reads_terminator_iff.mpr ⟨more, ahead, rfl⟩⟩
  · rintro ⟨f, terminator⟩
    obtain ⟨more, ahead, -⟩ := reads_terminator_iff.mp terminator
    exact ⟨more, ahead⟩

section Formulas

variable {names : σ} {data formula : List UInt8} {stop : Int} {xs : List (Lexeme (Leaf CellRef))}

/-- **Carried lexemes can be read** from the opened formula, up to the end or to a terminator. -/
theorem Carries.exists_reads (h : Carries o names formula xs) (framed : Framed data stop formula) :
    .terminator ∉ xs ∧ ∃ source t f,
      TokenSource.ofCursor o (.ofData data stop) ⟨names, []⟩ = (.ok source, t) ∧
        source.code.Whole ∧ ReadsAll o source.feed xs f ∧
        (f.code.rest = [] ∨ ∃ f', Reads o f .terminator f') := by
  cases h with
  -- In line, the bytes of the lexemes with their references stand ahead of the start.
  | @inline layout ys rest bare bytes ends =>
      have ahead := framed.rest_eq.trans bytes
      rw [← Cursor.rest_skip_of_append ahead] at ends
      refine ⟨fun mem => bare (o.terminator_mem_resolved_iff.mp mem), _, _, _,
        TokenSource.ofCursor_interleaved layout (.ofData data stop) ⟨names, []⟩, framed.whole,
        readsAll_inline_iff.mpr ⟨ys, rest, ahead, rfl, rfl⟩, opcodesEnd_iff_reads.mp ends⟩
  -- With a table, only their codes do; the queues hold at least what they refer to.
  | @tabled layout b table xs rest entries bare code cells ranges ends =>
      obtain ⟨t, -, opened⟩ := TokenSource.ofCursor_entries framed layout b entries names
      obtain ⟨cells', cells⟩ := cells
      obtain ⟨ranges', ranges⟩ := ranges
      have ahead := (b.rest_stream framed).trans code
      rw [← Cursor.rest_skip_of_append ahead] at ends
      exact ⟨bare, _, t, _, opened, b.whole_stream framed,
        readsAll_queued_iff.mpr ⟨rest, cells', ranges', ahead, cells.symm, ranges.symm, rfl⟩,
        opcodesEnd_iff_reads.mp ends⟩

/-- **A formula carries what is read from it.** -/
theorem carries_of_reads (framed : Framed data stop formula) {source : TokenSource σ}
    (serves : TokenSource.Serves o names data stop formula source) {f : Feed σ} (bare : .terminator ∉ xs)
    (reads : ReadsAll o source.feed xs f) (ends : f.code.rest = [] ∨ ∃ f', Reads o f .terminator f') :
    Carries o names formula xs := by
  cases serves with
  | inline layout =>
      obtain ⟨ys, rest, ahead, rfl, rfl⟩ := readsAll_inline_iff.mp reads
      have ends := opcodesEnd_iff_reads.mpr ends
      rw [Cursor.rest_skip_of_append ahead] at ends
      exact .inline layout (fun mem => bare (o.terminator_mem_resolved_iff.mpr mem))
        (framed.rest_eq.symm.trans ahead) ends
  | tabled layout b entries resolved =>
      obtain ⟨rest, cells', ranges', ahead, cells, ranges, rfl⟩ := readsAll_queued_iff.mp reads
      have ends := opcodesEnd_iff_reads.mpr ends
      rw [Cursor.rest_skip_of_append ahead] at ends
      exact .tabled layout b entries bare ((b.rest_stream framed).symm.trans ahead) ⟨cells', cells.symm⟩
        ⟨ranges', ranges.symm⟩ ends

/-- **A decoded formula carries lexemes.** -/
theorem exists_carries (framed : Framed data stop formula) {d : Decoded}
    (ok : (decodeFormula o page names data stop).outcome = .ok d) : ∃ xs, Carries o names formula xs := by
  rcases opened : TokenSource.ofCursor o (.ofData data stop) ⟨names, []⟩ with ⟨reason | source, t⟩
  · rw [outcome_of_unopened opened] at ok
    cases ok
  · have serves := (TokenSource.serves_of_opened framed opened).1
    obtain ⟨xs, f, reads, acts, ends⟩ :=
      (exists_outcome_ok_iff opened (serves.whole framed)).mp ⟨d, ok, rfl, rfl⟩
    refine ⟨xs, carries_of_reads framed serves (Lexeme.terminator_not_mem_of_run acts) reads ?_⟩
    obtain ⟨nothing, -⟩ | ⟨f', terminator, -⟩ := ends
    · exact .inl nothing
    · exact .inr ⟨f', terminator⟩

/-- **Lexemes that leave one operand are decoded** as that operand. -/
theorem Carries.exists_ok (h : Carries o names formula xs) (framed : Framed data stop formula)
    {list : List Instruction}
    (acts : Lexeme.run (fun l => [l.instruction page]) Reduction.write xs [] = some [list]) :
    ∃ d, (decodeFormula o page names data stop).outcome = .ok d ∧ d.instructions = list := by
  obtain ⟨-, source, t, f, opened, whole, reads, ends⟩ := h.exists_reads framed
  have ending : ∃ w, f.code.rest = [] ∧ w = tailWarning source.behind ∨
      ∃ f', Reads o f .terminator f' ∧ w = f'.code.warning.or (tailWarning source.behind) := by
    obtain nothing | ⟨f', terminator⟩ := ends
    · exact ⟨_, .inl ⟨nothing, rfl⟩⟩
    · exact ⟨_, .inr ⟨f', terminator, rfl⟩⟩
  obtain ⟨w, ending⟩ := ending
  obtain ⟨d, ok, same, -⟩ := (exists_outcome_ok_iff opened whole).mpr ⟨xs, f, reads, acts, ending⟩
  exact ⟨d, ok, same⟩

/-- **Whatever lexemes a decoded formula carries** leave its instructions as the only operand. -/
theorem Carries.run_eq (h : Carries o names formula xs) (framed : Framed data stop formula) {d : Decoded}
    (ok : (decodeFormula o page names data stop).outcome = .ok d) :
    Lexeme.run (fun l => [l.instruction page]) Reduction.write xs [] = some [d.instructions] := by
  obtain ⟨bare, source, t, f, opened, whole, reads, ends⟩ := h.exists_reads framed
  have whole : ({ source } : Machine σ).source.code.Whole := whole
  cases acts : Lexeme.run (fun l => [l.instruction page]) Reduction.write xs [] with
  | none =>
      -- Some reduction lacks its operands, and there the run would have stopped.
      obtain ⟨before, r, behind, values, rfl, acts, few⟩ := Lexeme.exists_of_run_eq_none bare acts
      obtain ⟨g, first, others⟩ := reads.split
      cases others with
      | cons next others =>
          have stopped := Machine.ends_underflow whole first acts next few
          exact absurd ok ((rejects_of_ends framed opened stopped).ne_ok d)
  | some operands =>
      by_cases one : operands.length = 1
      · obtain ⟨list, rfl⟩ := List.length_eq_one_iff.mp one
        obtain ⟨d', ok', rfl⟩ := h.exists_ok framed acts
        rw [ok, Except.ok.injEq] at ok'
        rw [ok']
      · -- Another number of operands would have been an error at the end.
        have ended : ∃ (m' : Machine σ) (terminated : Bool), m'.stack.items = operands ∧
            Machine.Ends o page { source } (m'.finish terminated).1 := by
          obtain nothing | ⟨f', terminator⟩ := ends
          · obtain ⟨m', -, stack, -, ended⟩ := Machine.exists_ends_exhausted whole reads acts nothing
            exact ⟨m', false, stack, ended⟩
          · obtain ⟨m', -, stack, -, ended⟩ := Machine.exists_ends_terminated whole reads acts terminator
            exact ⟨m', true, stack, ended⟩
        obtain ⟨m', terminated, rfl, ended⟩ := ended
        rw [Machine.finish_error one] at ended
        exact absurd ok ((rejects_of_ends framed opened ended).ne_ok d)

end Formulas

end SheetFormula
