import SheetFormula.Proofs.MachineRun
import SheetFormula.Proofs.ReferenceBounds

/-!
# Safety of the decoder

No bytes make the decoder reach for what is not there, and whatever it decodes has a text:

* **`Reads.onSheet`**, **`ReadsAll.onSheet`** — every reference that a run reads stands on the sheet, in line
  as well as from the queues;
* **`Machine.Ending.ne_fault`** — no run ends with an access out of range;
* **`decode_safe`** — decoding any bytes in any circumstances gives a formula or an error, and the references
  of the formula have columns and rows within bounds.
-/

namespace SheetFormula

variable {σ : Type} {o : Options σ}

/-! ## References on the sheet -/

/-- What a target is resolved to stands on the sheet. -/
theorem Target.traverse_onSheet (t : Target o.Ref) (s : σ) :
    (t.traverse (fun ref => o.reference ref.val) s).1.instruction.OnSheet o.variant := by
  intro ref mem there
  cases t with
  | cell field =>
      obtain rfl := List.mem_singleton.mp mem
      exact o.reference_onSheet field.val s there
  | range first last =>
      rcases List.mem_cons.mp mem with rfl | mem
      · exact o.reference_onSheet first.val s there
      · obtain rfl := List.mem_singleton.mp mem
        exact o.reference_onSheet last.val _ there

/-- **References that are still to be taken stand on the sheet.** -/
def RefSupply.OnSheet (v : Variant) : RefSupply → Prop
  | .inline => True
  | .queued cells ranges =>
    (∀ ref ∈ cells, (Instruction.cell ref).OnSheet v) ∧
      ∀ range ∈ ranges, (Instruction.range range.1 range.2).OnSheet v

/-- Queues of targets on the sheet. -/
theorem RefSupply.onSheet_queued {v : Variant} {ts : List (Target CellRef)}
    (h : ∀ t ∈ ts, t.instruction.OnSheet v) :
    (RefSupply.queued (Target.cells ts) (Target.ranges ts)).OnSheet v := by
  refine ⟨?_, ?_⟩
  -- What is in a queue was a target.
  · intro ref mem
    obtain ⟨t, ht, found⟩ := List.mem_filterMap.mp mem
    cases t with
    | cell ref' =>
        obtain rfl := Option.some.inj found
        exact h _ ht
    | range first last => cases found
  · intro range mem
    obtain ⟨t, ht, found⟩ := List.mem_filterMap.mp mem
    cases t with
    | cell ref => cases found
    | range first last =>
        obtain rfl := Option.some.inj found
        exact h _ ht

/-- **A lexeme that is read refers to the sheet**, and leaves a supply that does. -/
theorem Reads.onSheet {f f' : Feed σ} {x : Lexeme (Leaf CellRef)} (h : Reads o f x f')
    (start : f.supply.OnSheet o.variant) :
    (∀ t ∈ x.targets, t.instruction.OnSheet o.variant) ∧ f'.supply.OnSheet o.variant := by
  cases h with
  | @inline c rest s s' x y ahead resolved =>
      refine ⟨?_, trivial⟩
      -- A lexeme refers to nothing, or to one target, which was just resolved.
      rcases y.targets_cases with none | ⟨t, rfl⟩
      · obtain ⟨-, noTargets, -⟩ := o.resolved_of_targets none resolved
        simp [noTargets]
      · obtain ⟨rfl, rfl⟩ := Prod.mk.inj resolved
        intro t' mem
        obtain rfl := List.mem_singleton.mp mem
        exact t.traverse_onSheet s
  | @queued c rest s x cells cells' ranges ranges' ahead cell range =>
      subst cell range
      obtain ⟨inCells, inRanges⟩ := start
      refine ⟨?_, fun ref mem => inCells ref (List.mem_append_right _ mem),
        fun range mem => inRanges range (List.mem_append_right _ mem)⟩
      rcases x.targets_cases with none | ⟨t, rfl⟩
      · simp [none]
      · intro t' mem
        obtain rfl := List.mem_singleton.mp mem
        cases t' with
        | cell ref => exact inCells ref (List.mem_append_left _ List.mem_cons_self)
        | range first last => exact inRanges (first, last) (List.mem_append_left _ List.mem_cons_self)

/-- **Lexemes that are read refer to the sheet.** -/
theorem ReadsAll.onSheet {f f' : Feed σ} {xs : List (Lexeme (Leaf CellRef))} (h : ReadsAll o f xs f')
    (start : f.supply.OnSheet o.variant) :
    ∀ x ∈ xs, ∀ t ∈ x.targets, t.instruction.OnSheet o.variant := by
  induction h with
  | nil f => simp
  | @cons f f₁ f' x xs first others ih =>
      obtain ⟨here, next⟩ := first.onSheet start
      intro y mem
      rcases List.mem_cons.mp mem with rfl | mem
      · exact here
      · exact ih next y mem

/-- **What lexemes on the sheet leave on the stack stands on the sheet.** -/
theorem Lexeme.run_onSheet {v : Variant} {page : CodePage} {xs : List (Lexeme (Leaf CellRef))}
    (h : ∀ x ∈ xs, ∀ t ∈ x.targets, t.instruction.OnSheet v) {operands : List (List Instruction)}
    (acts : run (fun l => [l.instruction page]) Reduction.write xs [] = some operands) :
    ∀ list ∈ operands, ∀ i ∈ list, i.OnSheet v := by
  have plain : ∀ i : Instruction, i.refs = [] → i.OnSheet v := by
    intro i none ref mem
    simp [none] at mem
  -- References come from targets alone; reductions add marks that refer to nothing.
  refine forall_run ?_ ?_ acts (by simp)
  · intro l mem i hi
    obtain rfl := List.mem_singleton.mp hi
    cases l with
    | number bits => exact plain _ rfl
    | integer value => exact plain _ rfl
    | text raw => exact plain _ rfl
    | target t => exact h _ mem t List.mem_cons_self
  · intro r args each
    exact r.forall_write (fun _ => plain _ rfl) (fun _ => plain _ rfl) (plain _ rfl) each

/-! ## No access out of range -/

/-- **No run ends with an access out of range.** -/
theorem Machine.Ending.ne_fault {page : CodePage} {m : Machine σ} {result : Except Stop Decoded}
    (h : Ending o page m result) : result ≠ .error .fault := by
  have finished : ∀ (m : Machine σ) (terminated : Bool), (m.finish terminated).1 ≠ .error .fault := by
    intro m terminated
    by_cases one : m.stack.items.length = 1
    · obtain ⟨list, single⟩ := List.length_eq_one_iff.mp one
      rw [finish_single single]
      simp
    · rw [finish_error one]
      simp
  cases h with
  | exhausted nothing => exact finished m false
  | @terminated m' f reads core step => exact finished m' true
  | stopped something step => simp

/-- **The source of a formula refers to the sheet.** -/
theorem TokenSource.Serves.onSheet {names : σ} {data formula : List UInt8} {stop : Int}
    {source : TokenSource σ} (h : Serves o names data stop formula source) :
    source.supply.OnSheet o.variant := by
  cases h with
  | inline layout => trivial
  | tabled layout b entries resolved =>
      refine RefSupply.onSheet_queued ?_
      intro target mem
      obtain ⟨raw, -, s, rfl⟩ := exists_of_mem_threaded mem
      exact raw.traverse_onSheet s

/-- **Decoding a formula is safe.** -/
theorem Framed.decodeFormula_safe {data formula : List UInt8} {stop : Int} (framed : Framed data stop formula)
    (o : Options σ) (page : CodePage) (names : σ) :
    (decodeFormula o page names data stop).outcome ≠ .error .fault ∧
      ∀ d, (decodeFormula o page names data stop).outcome = .ok d →
        ∀ i ∈ d.instructions, i.OnSheet o.variant := by
  rcases opened : TokenSource.ofCursor o (.ofData data stop) ⟨names, []⟩ with ⟨reason | source, t⟩
  · have opens := TokenSource.ofCursor_spec o (.ofData data stop) ⟨names, []⟩
    rw [opened] at opens
    obtain ⟨e, rfl⟩ := opens.error_of_whole framed.whole
    rw [outcome_of_unopened opened]
    exact ⟨by simp [Failure.ofStop, framed.dump_eq], fun d ok => by cases ok⟩
  · have serves := (TokenSource.serves_of_opened framed opened).1
    have whole : ({ source } : Machine σ).source.code.Whole := serves.whole framed
    refine ⟨?_, ?_⟩
    · -- The run comes to some ending, and that is what is delivered.
      intro fault
      obtain ⟨xs, m', result, reaches, ending⟩ := Machine.exists_ending o page whole
      have delivers := outcome_of_ends framed opened (reaches.ends (ending.ends (reaches.whole whole)))
      rw [fault] at delivers
      cases delivers
      exact ending.ne_fault rfl
    · -- The formula is what the lexemes of a successful run leave on the stack.
      intro d ok
      obtain ⟨xs, f, reads, acts, -⟩ := (exists_outcome_ok_iff opened whole).mp ⟨d, ok, rfl, rfl⟩
      exact Lexeme.run_onSheet (reads.onSheet serves.onSheet) acts _ List.mem_cons_self

/-- **Decoding has a formula on the sheet or an error**, at any end and with any code page. -/
theorem decode_onSheet (o : Options σ) (names : σ) (data : List UInt8) (stop : Int) :
    (decode o names data stop).outcome ≠ .error .fault ∧
      ∀ d, (decode o names data stop).outcome = .ok d → ∀ i ∈ d.instructions, i.OnSheet o.variant := by
  rcases decode_cases o names data stop with ⟨-, same⟩ | ⟨-, -, same⟩ | ⟨page, -, framed, same⟩
  · rw [same]
    exact ⟨by simp, fun d ok => by cases ok⟩
  · rw [same]
    exact ⟨by simp, fun d ok => by cases ok⟩
  · rw [same]
    exact framed.decodeFormula_safe o page names

/-- **Decoding is safe.** For any bytes, any end, any variant, owner and names, decoding gives a formula or an
error, without an access out of range. A decoded formula has a text; each of its references that is not gone
has a column and a row from 0 to 8191, and a column up to 255 with eight-bit distances. -/
theorem decode_safe (o : Options σ) (names : σ) (data : List UInt8) (stop : Int) :
    (decode o names data stop).outcome ≠ .error .fault ∧
      ∀ d, (decode o names data stop).outcome = .ok d →
        (∃ text, render? d.instructions = some text) ∧
          ∀ i ∈ d.instructions, ∀ ref ∈ i.refs, ref.unresolved = false →
            0 ≤ ref.column.value ∧ ref.column.value ≤ 8191 ∧
              (o.variant.width = narrowWidth → ref.column.value ≤ 255) ∧
              0 ≤ ref.row.value ∧ ref.row.value ≤ 8191 := by
  obtain ⟨unfaulted, formulas⟩ := decode_onSheet o names data stop
  refine ⟨unfaulted, fun d ok => ?_⟩
  have onSheet := formulas d ok
  refine ⟨exists_render onSheet, fun i hi ref mem there => ?_⟩
  obtain ⟨column, narrow, row⟩ := onSheet i hi ref mem there
  exact ⟨column.1, column.2, narrow, row.1, row.2⟩

end SheetFormula
