import SheetFormula.Proofs.StackShape
import SheetFormula.Proofs.StreamBounds

/-!
# Size of decoded formulas

A formula is at most six times as long as the bytes it was read from, along every run. Separators and the term
functions add more instructions than they have bytes, so the operands that are still waiting have to be
counted too:

* **`weight`** — the instructions on a stack, and one more for each operand;
* **`Reduction.weight_write_le`**, **`StackStep.weight_le`** — a reduction, and so a step, adds at most six;
* **`Machine.Stepped.weight_le`** — what a step adds is paid for by the bytes that it takes;
* **`Machine.Visits.weight_le`** — along a run the weight stays within six times the bytes taken so far;
* **`decode_linear_size`** — a decoded formula is shorter than six times its bytes.
-/

namespace SheetFormula

variable {σ : Type}

/-! ## Weights -/

/-- **Weight of a stack**: all instructions on it, and one more for each operand. -/
def weight (items : List (List Instruction)) : Nat := items.flatten.length + items.length

/-- An empty stack weighs nothing. -/
@[simp] theorem weight_nil : weight [] = 0 := rfl

/-- An operand weighs one more than it is long. -/
@[simp] theorem weight_cons (list : List Instruction) (items : List (List Instruction)) :
    weight (list :: items) = list.length + 1 + weight items := by
  simp only [weight, List.flatten_cons, List.length_append, List.length_cons]
  omega

/-- Weights of parts of a stack add up. -/
@[simp] theorem weight_append (items items' : List (List Instruction)) :
    weight (items ++ items') = weight items + weight items' := by
  simp only [weight, List.flatten_append, List.length_append]
  omega

/-- The order of operands does not matter for the weight. -/
@[simp] theorem weight_reverse (items : List (List Instruction)) : weight items.reverse = weight items := by
  induction items with
  | nil => rfl
  | cons list items ih =>
      simp only [List.reverse_cons, weight_append, weight_cons, weight_nil, ih]
      omega

/-- **Operands in brackets**: there is a separator less than there are operands, and there are two
brackets. -/
theorem length_bracketed_cons (a : List Instruction) (args : List (List Instruction)) :
    (bracketed (a :: args)).length = weight (a :: args) + 1 := by
  have between : (List.intercalate [.operator ";"] (a :: args)).length + 1 = weight (a :: args) := by
    induction args generalizing a with
    | nil => simp
    | cons b args ih =>
        rw [List.intercalate_cons_cons, List.length_append, List.length_append, weight_cons, ← ih b]
        simp only [List.length_singleton]
        omega
  rw [← between, bracketed, List.length_append, List.length_cons, List.length_singleton]

/-- **A reduction adds at most six** to the weight of its operands. The separators that it writes are paid for
by the operands that it takes off; a call without operands has none of either. -/
theorem Reduction.weight_write_le {r : Reduction} {args : List (List Instruction)}
    (length : args.length = r.operands) :
    (r.write args).length + 1 ≤ weight args + 6 := by
  cases fits length with
  | before manner a =>
      rw [write_before manner]
      simp
  | between manner a b =>
      rw [write_between manner]
      simp only [List.length_append, List.length_cons, weight_cons, weight_nil]
      omega
  | grouped manner a =>
      rw [write_grouped manner, length_bracketed_cons]
      omega
  | term manner pmt rate fv =>
      -- Three separators, two brackets, a minus, a zero and the name, and two operands less: exactly six.
      rw [write_term manner, List.length_cons, length_bracketed_cons]
      simp only [List.length_cons, List.length_nil, weight_cons, weight_nil]
      omega
  | compoundTerm manner rate fv pv =>
      rw [write_compoundTerm manner, List.length_cons, length_bracketed_cons]
      simp only [List.length_cons, List.length_nil, weight_cons, weight_nil]
      omega
  | call manner args =>
      rw [write_call manner, List.length_cons]
      cases args with
      | nil => simp [bracketed]
      | cons a args =>
          rw [length_bracketed_cons]
          omega

/-- **A step adds at most six** to the weight of the stack. -/
theorem StackStep.weight_le {items items' : List (List Instruction)} (h : StackStep items items') :
    weight items' ≤ weight items + 6 := by
  cases h with
  | same => exact Nat.le_add_right _ _
  | push operand =>
      rw [weight_cons, List.length_singleton]
      omega
  | reduce r length below =>
      have written := Reduction.weight_write_le length
      rw [weight_cons, weight_append, weight_reverse]
      omega

/-! ## Runs -/

namespace Machine

variable {o : Options σ} {page : CodePage} {m : Machine σ}

/-- **A step pays for what it adds** to the stack with the bytes that it takes. Where no token is read the
stack stays as it is, and a token takes at least one byte. -/
theorem Stepped.weight_le {p : Progress σ} (h : m.Stepped o page p) :
    weight p.machine.stack.items + 6 * m.source.code.pos ≤
      weight m.stack.items + 6 * p.machine.source.code.pos := by
  have spec := Token.read_spec page m.source.code
  cases h with
  | @unread stop code read =>
      rw [read] at spec
      have further : m.source.code.pos ≤ code.pos := spec.passes.pos_le
      show weight m.stack.items + 6 * m.source.code.pos ≤ weight m.stack.items + 6 * code.pos
      omega
  | @performed token code p read performed =>
      rw [read] at spec
      have something : m.source.code.rest ≠ [] := by
        cases spec with
        | lexeme x ahead => simp [ahead, Lexeme.code]
      -- References that stand behind the token in the stream are taken in the same step.
      have opcode : m.source.code.pos < code.pos := spec.pos_lt something
      have operands : code.pos ≤ p.machine.source.code.pos := performed.passes.pos_le
      have added : weight p.machine.stack.items ≤ weight m.stack.items + 6 := performed.stack.weight_le
      omega

/-- **Along a run the stack weighs at most six for each byte taken.** -/
theorem Visits.weight_le {start : Machine σ} {p : Progress σ} (h : Visits o page start p)
    (empty : start.stack.items = []) :
    weight p.machine.stack.items + 6 * start.source.code.pos ≤ 6 * p.machine.source.code.pos := by
  refine h.keeps
    (P := fun m => weight m.stack.items + 6 * start.source.code.pos ≤ 6 * m.source.code.pos) ?_ ?_
  · intro m p step before
    have paid := step.weight_le
    omega
  · simp [empty]

/-- **A successful run ends with its formula on the stack**, in a machine that it passes. -/
theorem RunsTo.exists_single {d : Decoded} {m' : Machine σ} (h : RunsTo o page m (.ok d, m')) :
    ∃ p, Visits o page m p ∧ p.machine.stack.items = [d.instructions] := by
  obtain ⟨p, visits, concludes⟩ := h
  generalize result : (Except.ok d, m') = r at concludes
  refine ⟨p, visits, ?_⟩
  cases concludes with
  | @exhausted m₁ exhausted => exact (finish_eq_ok_iff.mp (congrArg Prod.fst result).symm).1
  | ended m₁ => exact (finish_eq_ok_iff.mp (congrArg Prod.fst result).symm).1
  | stopped stop m₁ => cases result

end Machine

/-! ## Formulas -/

/-- **The stack of an opened formula** weighs at most six for each byte of the opcode stream that was
taken. -/
theorem weight_le_of_visits {o : Options σ} {page : CodePage} {source : TokenSource σ}
    {p : Machine.Progress σ} (visits : Machine.Visits o page { source } p) :
    ∃ taken, source.code.rest = taken ++ p.machine.source.code.rest ∧
      weight p.machine.stack.items ≤ 6 * taken.length := by
  obtain ⟨taken, stream, pos⟩ := visits.passes.exists_taken
  have weighs := visits.weight_le rfl
  refine ⟨taken, stream, ?_⟩
  have pos : p.machine.source.code.pos = source.code.pos + taken.length := pos
  have weighs : weight p.machine.stack.items + 6 * source.code.pos ≤ 6 * p.machine.source.code.pos := weighs
  omega

/-- **A decoded formula is linear in its bytes.** For any bytes, any end, any variant, owner and names: a
decoded formula has fewer instructions than six times the bytes before the end. At every point of a run, the
instructions of all lists on the operand stack and the depth of the stack are together at most six times the
bytes of the opcode stream that have been taken so far. -/
theorem decode_linear_size (o : Options σ) (names : σ) (data : List UInt8) (stop : Int) :
    (∀ d, (decode o names data stop).outcome = .ok d → (d.instructions.length : Int) < 6 * stop) ∧
      ∀ page source t, TokenSource.ofCursor o (.ofData data stop) ⟨names, []⟩ = (.ok source, t) →
        ∀ p, Machine.Visits o page { source } p →
          ∃ taken, source.code.rest = taken ++ p.machine.source.code.rest ∧
            p.machine.stack.items.flatten.length + p.machine.stack.depth ≤ 6 * taken.length := by
  refine ⟨?_, ?_⟩
  · intro d ok
    obtain ⟨framed, page, known⟩ := exists_framed_of_ok ok
    have spec := decodeFormula_spec o page names data stop
    rw [framed.decode_eq known] at ok
    generalize decodeFormula o page names data stop = run at spec ok
    cases spec with
    | unopened unopened => cases ok
    | failed opened runs => cases ok
    | @decoded source t d' m opened runs =>
        obtain rfl := Except.ok.inj ok
        obtain ⟨p, visits, single⟩ := runs.exists_single
        obtain ⟨taken, stream, weighs⟩ := weight_le_of_visits visits
        -- The one list that is left weighs one more than it is long, and the stream ends before the end.
        obtain ⟨limit, before, within⟩ := TokenSource.within_of_opened framed opened
        have bytes := congrArg List.length stream
        have last := within.length_eq
        have start := framed.start
        rw [List.length_append] at bytes
        rw [single, weight_cons, weight_nil] at weighs
        omega
  · intro page source t opened p visits
    obtain ⟨taken, stream, weighs⟩ := weight_le_of_visits visits
    rw [weight, ← p.machine.stack.depth_eq] at weighs
    exact ⟨taken, stream, weighs⟩

/-- A term function of three calls without operands: four bytes, and seventeen instructions. The first call
leaves three instructions as one operand. -/
theorem decode_linear_size_term :
    let o : Options Unit := ⟨.wk1, {}, Names.none.resolver⟩
    let data : List UInt8 := [0x26, 0x26, 0x26, 0x75]
    (∃ d, (decode o () data 4).outcome = .ok d ∧ d.instructions.length = 17 ∧
      (d.instructions.length : Int) < 6 * 4) ∧
      ∃ source t p, TokenSource.ofCursor o (.ofData data 4) ⟨(), []⟩ = (.ok source, t) ∧
        Machine.Visits o .cp437 { source } p ∧
        p.machine.stack.items.flatten.length + p.machine.stack.depth = 4 ∧
        ∃ taken, source.code.rest = taken ++ p.machine.source.code.rest ∧
          p.machine.stack.items.flatten.length + p.machine.stack.depth ≤ 6 * taken.length := by
  intro o data
  obtain ⟨sized, along⟩ := decode_linear_size o () data 4
  refine ⟨?_, ?_⟩
  · have decoded : ((decode o () data 4).outcome.map fun d => d.instructions.length) = .ok 17 := by
      decide +kernel
    cases outcome : (decode o () data 4).outcome with
    | error e =>
        rw [outcome] at decoded
        cases decoded
    | ok d =>
        rw [outcome] at decoded
        exact ⟨d, rfl, Except.ok.inj decoded, sized d outcome⟩
  · let source : TokenSource Unit := ⟨.ofData data 4, .inline, none, ⟨(), []⟩⟩
    have opened : TokenSource.ofCursor o (.ofData data 4) ⟨(), []⟩ = (.ok source, ⟨(), []⟩) := rfl
    have visits : Machine.Visits o .cp437 { source } _ := .step .start (by decide)
    exact ⟨source, _, _, opened, visits, by decide +kernel, along .cp437 source _ opened _ visits⟩

end SheetFormula
