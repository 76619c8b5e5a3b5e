import SheetFormula.Proofs.Interleaved
import SheetFormula.Proofs.Prescanned

/-!
# Agreement of the two layouts

The same lexemes, once with their references in line and once with a reference table, are decoded alike,
whether they are a formula or not:

* **`Options.resolveTargets_alike`** — with names that answer by a fixed assignment, the order in which
  targets are resolved does not show;
* **`SameResult`**, **`Machine.ends_alike`** — two machines that read the same lexemes in lockstep come to the
  same result, up to positions;
* **`decode_layouts_agree`** — the two layouts agree, for every order of the table that keeps the cells and
  the ranges each in theirs.
-/

namespace SheetFormula

variable {σ : Type} {o : Options σ}

/-! ## Resolving in another order -/

/-- **Reference by a fixed assignment** of names. -/
def Options.assigned (o : Options σ) (names : Names) (ref : o.Ref) : CellRef :=
  ((o.withResolver names.resolver).reference ref.val ()).1

/-- **The order of look-ups does not show** with names that answer by a fixed assignment: every reference of a
table is resolved by itself. -/
theorem Options.resolveTargets_alike {names : Names} {R : σ → Unit → Prop}
    (related : Resolver.Relates R o.resolver names.resolver) {s : σ} (h : R s ())
    (table : List (Target o.Ref)) :
    Target.cells (o.resolveTargets table s).1 = (Target.cells table).map (o.assigned names) ∧
      Target.ranges (o.resolveTargets table s).1 =
        (Target.ranges table).map (Prod.map (o.assigned names) (o.assigned names)) := by
  induction table generalizing s with
  | nil => exact ⟨rfl, rfl⟩
  | cons t table ih =>
      rw [Options.resolveTargets, threaded_cons, ← Options.resolveTargets]
      cases t with
      | cell ref =>
          -- The names answer alike after this question too.
          obtain ⟨same, next⟩ := o.reference_related related ref.val h
          obtain ⟨cells, ranges⟩ := ih next
          refine ⟨?_, ranges⟩
          show (o.reference ref.val s).1 :: Target.cells _ = _ :: (Target.cells table).map _
          rw [same, ← cells]
          rfl
      | range first last =>
          obtain ⟨same, next⟩ := o.reference_related related first.val h
          obtain ⟨same', next'⟩ := o.reference_related related last.val next
          obtain ⟨cells, ranges⟩ := ih next'
          refine ⟨cells, ?_⟩
          have pair : ((o.reference first.val s).1, (o.reference last.val (o.reference first.val s).2).1) =
              (o.assigned names first, o.assigned names last) := Prod.ext same same'
          show (_, _) :: Target.ranges _ = _ :: (Target.ranges table).map _
          rw [pair, ← ranges]
          rfl

/-- **Resolving lexemes resolves their targets** in order, and leaves their code as it is. -/
theorem Options.resolved_threaded (o : Options σ) (ys : List (Lexeme (Leaf o.Ref))) (s : σ) :
    (threaded o.resolved ys s).1.flatMap Lexeme.code = ys.flatMap Lexeme.code ∧
      (threaded o.resolved ys s).1.flatMap Lexeme.targets =
        (o.resolveTargets (ys.flatMap Lexeme.targets) s).1 := by
  induction ys generalizing s with
  | nil => exact ⟨rfl, rfl⟩
  | cons y ys ih =>
      obtain ⟨code, targets⟩ := ih (o.resolved y s).2
      rw [threaded_cons, List.flatMap_cons, List.flatMap_cons, List.flatMap_cons, List.flatMap_cons, code,
        targets]
      rcases y with (bits | value | raw | t) | r | _
      case leaf.target => cases t <;> exact ⟨rfl, rfl⟩
      all_goals exact ⟨rfl, rfl⟩

/-! ## Lockstep -/

/-- **Warnings of the same kind**: there is none, or both tell of bytes left over. -/
def SameWarning (w w' : Option DecodeError) : Prop :=
  w = none ∧ w' = none ∨ ∃ pos pos', w = some ⟨.trailing, pos⟩ ∧ w' = some ⟨.trailing, pos'⟩

/-- **Results that are the same up to positions**. -/
inductive SameResult : Except Stop Decoded → Except Stop Decoded → Prop
  | decoded {d d' : Decoded} (instructions : d.instructions = d'.instructions)
      (warnings : SameWarning d.warning d'.warning) : SameResult (.ok d) (.ok d')
  | stopped {e e' : DecodeError} (cause : e.cause = e'.cause) :
      SameResult (.error (.error e)) (.error (.error e'))

/-- A stream that was read to its end is empty when nothing was read and nothing was left. -/
theorem ReadsAll.rest_eq_nil_iff {xs : List (Lexeme (Leaf CellRef))} {f f' : Feed σ}
    (h : ReadsAll o f xs f') : f.code.rest = [] ↔ xs = [] ∧ f'.code.rest = [] := by
  cases h with
  | nil f => simp
  | cons first others => simp [first.rest_ne_nil]

/-- Streams that are both empty, or both not, are warned about alike. -/
theorem Cursor.sameWarning {c c' : Cursor} (whole : c.Whole) (whole' : c'.Whole)
    (h : c.rest = [] ↔ c'.rest = []) :
    SameWarning c.warning c'.warning := by
  rw [whole.warning_eq, whole'.warning_eq]
  by_cases nothing : c.rest = []
  · rw [if_pos nothing, if_pos (h.mp nothing)]
    exact .inl ⟨rfl, rfl⟩
  · rw [if_neg nothing, if_neg (mt h.mpr nothing)]
    exact .inr ⟨_, _, rfl, rfl⟩

/-- Of some lexemes the first one is read, and then the others. -/
theorem ReadsAll.exists_first {o : Options σ} {x : Lexeme (Leaf CellRef)} {xs : List (Lexeme (Leaf CellRef))}
    {f f'' : Feed σ} (h : ReadsAll o f (x :: xs) f'') : ∃ f', Reads o f x f' ∧ ReadsAll o f' xs f'' := by
  cases h with
  | cons first others => exact ⟨_, first, others⟩

namespace Machine

variable {page : CodePage}

/-- Machines with the same operands finish with the same result. -/
theorem finish_alike {m m' : Machine σ} (stack : m.stack.items = m'.stack.items)
    (last : m.last = m'.last) {terminated : Bool}
    (warnings : SameWarning (m.endWarning terminated) (m'.endWarning terminated)) :
    SameResult (m.finish terminated).1 (m'.finish terminated).1 := by
  by_cases one : m.stack.items.length = 1
  · obtain ⟨list, single⟩ := List.length_eq_one_iff.mp one
    rw [finish_single single, finish_single (stack.symm.trans single)]
    refine .decoded rfl ?_
    rwa [(conclude_eq _ _ _).2, (conclude_eq _ _ _).2]
  · rw [finish_error one, finish_error (stack ▸ one), stack, last]
    exact .stopped rfl

/-- **The end of the lockstep**: nothing is left, or the same invalid byte. -/
theorem ends_alike_nil {o o' : Options σ} {bad : Option UInt8}
    (invalid : ∀ code ∈ bad, Opcode.Invalid code) {m m' : Machine σ}
    (whole : m.source.code.Whole) (whole' : m'.source.code.Whole)
    (rest : m.source.code.rest = bad.toList) (rest' : m'.source.code.rest = bad.toList)
    (stack : m.stack.items = m'.stack.items) (last : m.last = m'.last)
    (tail : tailWarning m.source.behind = none) (tail' : tailWarning m'.source.behind = none) :
    ∃ result result', Ends o page m result ∧ Ends o' page m' result' ∧ SameResult result result' := by
  cases bad with
  | none =>
      refine ⟨_, _, ends_exhausted whole rest, ends_exhausted whole' rest', finish_alike stack last ?_⟩
      rw [endWarning, endWarning, tail, tail']
      exact .inl ⟨rfl, rfl⟩
  | some code =>
      have something : m.source.code.rest ≠ [] := by simp [rest]
      have something' : m'.source.code.rest ≠ [] := by simp [rest']
      obtain ⟨_, step⟩ := step_invalid o page rest (invalid code rfl)
      obtain ⟨_, step'⟩ := step_invalid o' page rest' (invalid code rfl)
      exact ⟨_, _, ends_of_stopped something step, ends_of_stopped something' step', .stopped rfl⟩

/-- **Lockstep**: two machines with the same operands that read the same lexemes, up to the end or to the same
invalid byte, come to the same result. -/
theorem ends_alike {o o' : Options σ} {xs : List (Lexeme (Leaf CellRef))} {bad : Option UInt8}
    (invalid : ∀ code ∈ bad, Opcode.Invalid code) (page : CodePage) (m m' : Machine σ) {f f' : Feed σ}
    (whole : m.source.code.Whole) (whole' : m'.source.code.Whole)
    (reads : ReadsAll o m.source.feed xs f) (reads' : ReadsAll o' m'.source.feed xs f')
    (rest : f.code.rest = bad.toList) (rest' : f'.code.rest = bad.toList)
    (stack : m.stack.items = m'.stack.items) (last : m.last = m'.last)
    (tail : tailWarning m.source.behind = none) (tail' : tailWarning m'.source.behind = none) :
    ∃ result result', Ends o page m result ∧ Ends o' page m' result' ∧ SameResult result result' := by
  -- The lexemes are shared, so the induction is on them and not on either machine.
  induction xs generalizing m m' with
  | nil =>
      cases reads
      cases reads'
      exact ends_alike_nil invalid whole whole' rest rest' stack last tail tail'
  | cons x xs ih =>
      obtain ⟨f₁, first, others⟩ := reads.exists_first
      obtain ⟨f₁', first', others'⟩ := reads'.exists_first
      cases acts : x.act (fun l => [l.instruction page]) Reduction.write m.stack.items with
      | some operands =>
          have acts' := acts
          rw [stack] at acts'
          obtain ⟨m₁, core, step⟩ := step_act whole first acts
          obtain ⟨m₁', core', step'⟩ := step_act whole' first' acts'
          have whole₁ := whole_of_core whole first core
          have whole₁' := whole_of_core whole' first' core'
          obtain ⟨rfl, behind, stack₁, last₁⟩ := Core.mk.inj core
          obtain ⟨rfl, behind', stack₁', last₁'⟩ := Core.mk.inj core'
          obtain ⟨result, result', ends, ends', same⟩ := ih m₁ m₁' whole₁ whole₁' others others'
            (stack₁.trans stack₁'.symm) (last₁.trans last₁'.symm) (behind ▸ tail) (behind' ▸ tail')
          exact ⟨result, result', ends_of_running first.rest_ne_nil step ends,
            ends_of_running first'.rest_ne_nil step' ends', same⟩
      | none =>
          -- Only a reduction or a terminator does not act: the first is in error, the second ends the run.
          cases x with
          | leaf l => simp [Lexeme.act] at acts
          | reduce r =>
              have few : m.stack.items.length < r.operands := by simpa [Lexeme.act] using acts
              obtain ⟨_, step⟩ := step_underflow whole first few page
              obtain ⟨_, step'⟩ := step_underflow whole' first' (stack ▸ few) page
              exact ⟨_, _, ends_of_stopped first.rest_ne_nil step, ends_of_stopped first'.rest_ne_nil step',
                .stopped (by rw [stack])⟩
          | terminator =>
              obtain ⟨m₁, core, step⟩ := step_terminator whole first page
              obtain ⟨m₁', core', step'⟩ := step_terminator whole' first' page
              have whole₁ := whole_of_core whole first core
              have whole₁' := whole_of_core whole' first' core'
              obtain ⟨rfl, behind, stack₁, last₁⟩ := Core.mk.inj core
              obtain ⟨rfl, behind', stack₁', last₁'⟩ := Core.mk.inj core'
              refine ⟨_, _, ends_of_ended first.rest_ne_nil step, ends_of_ended first'.rest_ne_nil step',
                finish_alike (stack₁.trans (stack.trans stack₁'.symm)) (last₁.trans last₁'.symm) ?_⟩
              rw [endWarning, endWarning, behind, behind', tail, tail', Option.or_none, Option.or_none]
              refine Cursor.sameWarning whole₁ whole₁'
                (others.rest_eq_nil_iff.trans (others'.rest_eq_nil_iff.trans ?_).symm)
              rw [rest, rest']

end Machine

/-! ## The two layouts -/

/-- The same circumstances with another layout. -/
def Options.withLayout (o : Options σ) (layout : Layout) : Options σ :=
  { o with variant := { o.variant with layout } }

/-- **Formula with a reference table**: the header, the opcodes, the table. -/
def tabulated (code table : List UInt8) : List UInt8 :=
  Bytes.ofWord (UInt16.ofNat (4 + code.length)) ++
    (Bytes.ofWord (UInt16.ofNat (4 + code.length + table.length)) ++ (code ++ table))

/-- The size of such a formula. -/
theorem length_tabulated (code table : List UInt8) :
    (tabulated code table).length = 4 + code.length + table.length := by
  simp only [tabulated, List.length_append, Bytes.length_ofWord]
  omega

/-- The header of such a formula locates its table when the positions fit into words. -/
theorem exists_tableBounds {code table : List UInt8} (fits : 4 + code.length + table.length ≤ 65535) :
    ∃ b : TableBounds (tabulated code table), b.code = code ∧ b.table = table ∧
      b.last.toNat = (tabulated code table).length := by
  -- Both bounds fit into a word of the header.
  have first : (UInt16.ofNat (4 + code.length)).toNat = 4 + code.length := by
    rw [UInt16.toNat_ofNat']
    omega
  have last : (UInt16.ofNat (4 + code.length + table.length)).toNat = 4 + code.length + table.length := by
    rw [UInt16.toNat_ofNat']
    omega
  generalize header : Bytes.ofWord (UInt16.ofNat (4 + code.length)) ++
    Bytes.ofWord (UInt16.ofNat (4 + code.length + table.length)) = h
  have length : h.length = 4 := by rw [← header, List.length_append]; simp
  have parts : tabulated code table = (h ++ code) ++ table := by
    rw [tabulated, ← header, List.append_assoc, List.append_assoc]
  have front : (h ++ code).length = 4 + code.length := by rw [List.length_append, length]
  refine ⟨⟨_, _, Bytes.word?_append [] _ _, Bytes.word?_append (Bytes.ofWord _) _ _, ?_, ?_, ?_⟩, ?_, ?_, ?_⟩
  · rw [first]
    exact Nat.le_add_right 4 _
  · rw [first, last]
    exact Nat.le_add_right _ _
  · exact Nat.le_of_eq (last.trans (length_tabulated code table).symm)
  · simp only [TableBounds.code, first]
    rw [parts, List.take_left' front]
    exact List.drop_left' length
  · simp only [TableBounds.table, first, last]
    rw [← length_tabulated, List.take_length, parts, List.drop_left' front]
  · simp only [last, length_tabulated]

/-- **Outcomes that agree**: the same instructions with warnings of the same kind, or errors whose reports
differ only by the position. -/
inductive Agree : Except Failure Decoded → Except Failure Decoded → Prop
  | decoded {d d' : Decoded} (instructions : d.instructions = d'.instructions)
      (warnings : SameWarning d.warning d'.warning) : Agree (.ok d) (.ok d')
  | rejected {e e' : DecodeError} {notes notes' : List Note} {dump dump' : List UInt8}
      (report : e'.report = { e.report with offset := e'.offset }) :
      Agree (.error (.rejected e notes dump)) (.error (.rejected e' notes' dump'))

/-- Results that are the same are delivered as outcomes that agree. -/
theorem SameResult.agree {result result' : Except Stop Decoded} (h : SameResult result result')
    {formula formula' : List UInt8} {outcome outcome' : Except Failure Decoded}
    (delivers : Delivers formula result outcome) (delivers' : Delivers formula' result' outcome') :
    Agree outcome outcome' := by
  cases h with
  | decoded instructions warnings =>
      cases delivers
      cases delivers'
      exact .decoded instructions warnings
  | stopped cause =>
      cases delivers
      cases delivers'
      refine .rejected ?_
      rw [DecodeError.report, DecodeError.report, cause]

/-- **Lexemes with their references in line**, and one more byte or none. -/
def inlineForm (ys : List (Lexeme (Leaf o.Ref))) (bad : Option UInt8) : List UInt8 :=
  ys.flatMap Lexeme.bytes ++ bad.toList

/-- **Lexemes with a reference table**, and one more byte or none behind their code. -/
def tableForm (ys : List (Lexeme (Leaf o.Ref))) (bad : Option UInt8) (table : List (Target o.Ref)) :
    List UInt8 :=
  tabulated (ys.flatMap Lexeme.code ++ bad.toList) (table.flatMap Target.entry)

/-- Lexemes are read from their inline form. -/
theorem readsAll_inlineForm {c : Cursor} {ys : List (Lexeme (Leaf o.Ref))} {bad : Option UInt8}
    (ahead : c.rest = inlineForm ys bad) (s : σ) :
    ∃ f, ReadsAll o ⟨c, .inline, s⟩ (threaded o.resolved ys s).1 f ∧ f.code.rest = bad.toList :=
  ⟨_, readsAll_inline_iff.mpr ⟨ys, bad.toList, ahead, rfl, rfl⟩, Cursor.rest_skip_of_append ahead⟩

/-- **The same lexemes are read from their table form** with names that answer by the same assignment. -/
theorem readsAll_tableForm {names : Names} {s s' : σ} (steady : o.resolver.Alike names.resolver s ())
    (steady' : o.resolver.Alike names.resolver s' ()) {c : Cursor} {ys : List (Lexeme (Leaf o.Ref))}
    {bad : Option UInt8} (ahead : c.rest = ys.flatMap Lexeme.code ++ bad.toList) {table : List (Target o.Ref)}
    (cells : Target.cells table = Target.cells (ys.flatMap Lexeme.targets))
    (ranges : Target.ranges table = Target.ranges (ys.flatMap Lexeme.targets)) (o' : Options σ) (t : σ) :
    ∃ f, ReadsAll o' ⟨c, .queued (Target.cells (o.resolveTargets table s').1)
        (Target.ranges (o.resolveTargets table s').1), t⟩ (threaded o.resolved ys s).1 f ∧
      f.code.rest = bad.toList := by
  obtain ⟨R, related, start⟩ := steady
  obtain ⟨R', related', start'⟩ := steady'
  obtain ⟨code, targets⟩ := o.resolved_threaded ys s
  obtain ⟨inCells, inRanges⟩ := Options.resolveTargets_alike related start (ys.flatMap Lexeme.targets)
  obtain ⟨tableCells, tableRanges⟩ := Options.resolveTargets_alike related' start' table
  rw [← code] at ahead
  refine ⟨_, readsAll_queued_iff.mpr ⟨bad.toList, [], [], ahead, ?_, ?_, rfl⟩,
    Cursor.rest_skip_of_append ahead⟩
  · rw [targets, List.append_nil, inCells, tableCells, cells]
  · rw [targets, List.append_nil, inRanges, tableRanges, ranges]

/-- What is accepted and what it is resolved to do not depend on the layout. -/
theorem TokenSource.ofCursor_withLayout {data formula : List UInt8} {stop : Int}
    (framed : Framed data stop formula) (b : TableBounds formula) {table : List (Target o.Ref)}
    (entries : b.table = table.flatMap Target.entry) (s : σ) :
    ∃ t, ofCursor (o.withLayout .prescanned) (.ofData data stop) ⟨s, []⟩ =
      (.ok ⟨b.stream data,
        .queued (Target.cells (o.resolveTargets table s).1) (Target.ranges (o.resolveTargets table s).1),
        some (b.last.toNat, formula.length - b.last.toNat), t⟩, t) := by
  have entry : @Target.entry σ (o.withLayout .prescanned) = @Target.entry σ o := by
    funext t
    cases t <;> rfl
  obtain ⟨t, -, opened⟩ :=
    @TokenSource.ofCursor_entries σ (o.withLayout .prescanned) data formula stop framed rfl b
    table (entries.trans (congrArg (fun entry => table.flatMap entry) entry.symm)) s
  exact ⟨t, opened⟩

/-- **The two layouts agree.** Take any lexemes whose references are accepted, and an invalid byte behind them
or none. Written with the references in line, and written with a table that lists the cells and the ranges
each in their order, they are decoded alike. The layouts are those of variants that differ in nothing else.
The names answer by a fixed assignment, possibly with a state of their own such as a cache: the two layouts
ask for them in different orders. -/
theorem decode_layouts_agree (o : Options σ) {page : CodePage}
    (layout : o.variant.layout = .interleaved)
    (known : CodePage.ofName? o.variant.charset = some page) {names : Names} {s s' : σ}
    (steady : o.resolver.Alike names.resolver s ()) (steady' : o.resolver.Alike names.resolver s' ())
    (ys : List (Lexeme (Leaf o.Ref))) (bad : Option UInt8)
    (invalid : ∀ code ∈ bad, Opcode.Invalid code) (table : List (Target o.Ref))
    (cells : Target.cells table = Target.cells (ys.flatMap Lexeme.targets))
    (ranges : Target.ranges table = Target.ranges (ys.flatMap Lexeme.targets))
    (fits : (tableForm ys bad table).length ≤ 65535) :
    Agree (decode o s (inlineForm ys bad) (inlineForm ys bad).length).outcome
      (decode (o.withLayout .prescanned) s' (tableForm ys bad table)
        (tableForm ys bad table).length).outcome := by
  have framed := framed_whole (inlineForm ys bad)
  have framed' := framed_whole (tableForm ys bad table)
  rw [framed.decode_eq known, framed'.decode_eq (o := o.withLayout .prescanned) known]
  have opened := TokenSource.ofCursor_interleaved layout
    (.ofData (inlineForm ys bad) (inlineForm ys bad).length) ⟨s, []⟩
  -- The table reaches up to the end, so nothing behind it is warned about.
  obtain ⟨b, code, entries, last⟩ := exists_tableBounds (length_tabulated _ _ ▸ fits)
  obtain ⟨t, opened'⟩ := TokenSource.ofCursor_withLayout framed' b entries s'
  obtain ⟨f, reads, rest⟩ := readsAll_inlineForm framed.rest_eq s
  obtain ⟨f', reads', rest'⟩ :=
    readsAll_tableForm steady steady' ((b.rest_stream framed').trans code) cells ranges
    (o.withLayout .prescanned) t.names
  have tail : tailWarning (some (b.last.toNat, (tableForm ys bad table).length - b.last.toNat)) = none := by
    rw [tailWarning, last, tableForm, Nat.sub_self, if_pos rfl]
  obtain ⟨result, result', ends, ends', same⟩ := Machine.ends_alike invalid page
    { source := ⟨_, .inline, none, ⟨s, []⟩⟩ } { source := ⟨_, .queued _ _, _, t⟩ } framed.whole
    (b.whole_stream framed') reads reads' rest rest' rfl rfl rfl tail
  exact same.agree (outcome_of_ends framed opened ends) (outcome_of_ends framed' opened' ends')

/-- Circumstances in which one external file has a name, behind a cache of names. -/
def oneFile : Options (Unit × NameCache) :=
  ⟨.wk1, {}, (NameTable.names { files := [(1, "BUDGET")] }).resolver.cached⟩

/-- A cell of that file plus two, and behind the terminator a range of an unknown file and an invalid byte;
the table lists the range first, and the cache has room for one name. -/
theorem decode_layouts_agree_trailing :
    Agree
      (decode oneFile ((), { capacity := 1 })
        [0x01, 0x00, 0x01, 0x01, 0x00, 0x05, 0x02, 0x00, 0x09, 0x03, 0x02, 0x00, 0x02, 0x00, 0x00, 0x01, 0x00,
          0x02, 0x00, 0xff] 20).outcome
      (decode (oneFile.withLayout .prescanned) ((), { capacity := 1 })
        [0x0c, 0x00, 0x1a, 0x00, 0x01, 0x05, 0x02, 0x00, 0x09, 0x03, 0x02, 0xff, 0x02, 0x00, 0x02, 0x00, 0x00,
          0x01, 0x00, 0x02, 0x00, 0x01, 0x00, 0x01, 0x01, 0x00] 26).outcome := by
  have unknown : Opcode.lookup? 0xff = none := by decide
  have invalid : ∀ code ∈ some (0xff : UInt8), Opcode.Invalid code := by
    intro code mem o found
    rw [← Option.mem_some.mp mem, unknown] at found
    cases found
  have steady : oneFile.resolver.Alike (NameTable.names { files := [(1, "BUDGET")] }).resolver
      ((), { capacity := 1 }) () :=
    (Resolver.alike_assignment _).cached (by simp)
  obtain ⟨table, htable⟩ : ∃ table : List (Target oneFile.Ref),
      table = [.range ⟨⟨0x200, 0, none⟩, Options.accepts_of_axes _ rfl (by decide)⟩
          ⟨⟨1, 2, none⟩, Options.accepts_of_axes _ rfl (by decide)⟩,
        .cell ⟨⟨0x100, 1, none⟩, Options.accepts_of_axes _ rfl (by decide)⟩] := ⟨_, rfl⟩
  obtain ⟨ys, hys⟩ : ∃ ys : List (Lexeme (Leaf oneFile.Ref)),
      ys = [.leaf (.target (.cell ⟨⟨0x100, 1, none⟩, Options.accepts_of_axes _ rfl (by decide)⟩)),
        .leaf (.integer 2), .reduce ⟨⟨0x09, "+", .reduce 2⟩, 2, by decide, .inl rfl⟩, .terminator,
        .leaf (.target (.range ⟨⟨0x200, 0, none⟩, Options.accepts_of_axes _ rfl (by decide)⟩
          ⟨⟨1, 2, none⟩, Options.accepts_of_axes _ rfl (by decide)⟩))] := ⟨_, rfl⟩
  have inline : inlineForm ys (some 0xff) =
      [0x01, 0x00, 0x01, 0x01, 0x00, 0x05, 0x02, 0x00, 0x09, 0x03, 0x02, 0x00, 0x02, 0x00, 0x00, 0x01, 0x00,
        0x02, 0x00, 0xff] := by
    rw [hys]
    decide +kernel
  have tabled : tableForm ys (some 0xff) table =
      [0x0c, 0x00, 0x1a, 0x00, 0x01, 0x05, 0x02, 0x00, 0x09, 0x03, 0x02, 0xff, 0x02, 0x00, 0x02, 0x00, 0x00,
        0x01, 0x00, 0x02, 0x00, 0x01, 0x00, 0x01, 0x01, 0x00] := by
    rw [hys, htable]
    decide +kernel
  have agree := decode_layouts_agree oneFile rfl (CodePage.ofName?_name .cp437) steady steady ys (some 0xff)
    invalid table (by rw [hys, htable]; rfl) (by rw [hys, htable]; rfl) (by rw [tabled]; decide)
  rwa [inline, tabled] at agree

end SheetFormula
