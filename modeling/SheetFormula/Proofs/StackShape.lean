import SheetFormula.Proofs.InstructionShape
import SheetFormula.Proofs.PlainNotes

/-!
# The operand stack along a run

What the decoding machine does to its stack in one step, and what therefore holds of every list that it ever
keeps there:

* **`StackStep`**, **`Machine.Stepped.stack`** — a step leaves the stack alone, puts one operand on it, or
  replaces the operands of a reduction by its written form;
* **`Machine.Shaped`** — every list on the stack is read as one operand, and no stack has been noted yet. A
  step keeps this (`Machine.Stepped.shaped`), and so does a run (`Machine.Visits.shaped`,
  `Machine.RunsTo.shaped`);
* **`decode_wellShaped`** — along every run all lists on the stack are well-shaped, and so are decoded
  formulas and the lists in the notes of a failure.
-/

namespace SheetFormula

variable {σ : Type} {o : Options σ} {page : CodePage}

/-! ## One step on the stack -/

/-- **What a step can do to the stack**, whose top list comes first. -/
inductive StackStep : List (List Instruction) → List (List Instruction) → Prop
  | same (below : List (List Instruction)) : StackStep below below
  | push {i : Instruction} (operand : i.isOperand = true) (below : List (List Instruction)) :
      StackStep below ([i] :: below)
  | reduce (r : Reduction) {args : List (List Instruction)} (length : args.length = r.operands)
      (below : List (List Instruction)) : StackStep (args.reverse ++ below) (r.write args :: below)

namespace Machine

/-- **A reduction on the stack**: it is performed, or nothing is taken off. -/
theorem Reduced.stack {m : Machine σ} {r : Reduction} {offset : Nat} {p : Progress σ}
    (h : m.Reduced r offset p) :
    StackStep m.stack.items p.machine.stack.items := by
  cases h with
  | few few => exact .same _
  | @term args stack length items term =>
      rw [items]
      exact .reduce r length stack.items
  | @plain args stack length items plain =>
      rw [items]
      exact .reduce r length stack.items

/-- **Performing a token** does one thing to the stack. -/
theorem Performed.stack {m : Machine σ} {token : Token} {p : Progress σ} (h : m.Performed o token p) :
    StackStep m.stack.items p.machine.stack.items := by
  cases h with
  | literal literal => exact .push (Payload.isOperand_of_literal? literal) _
  | @target target source hands => exact .push target.isOperand_instruction _
  | noTarget hands => exact .same _
  | terminator ends => exact .same _
  | reduction opcode payload reduced => exact reduced.stack

/-- **A step does one thing to the stack**, also where it stops. -/
theorem Stepped.stack {m : Machine σ} {p : Progress σ} (h : m.Stepped o page p) :
    StackStep m.stack.items p.machine.stack.items := by
  cases h with
  | unread read => exact .same _
  | performed read performed => exact performed.stack

/-! ## Notes of one step -/

/-- Performing a token notes no operand. -/
theorem Performed.plain {m : Machine σ} {token : Token} {p : Progress σ} (h : m.Performed o token p)
    (plain : m.source.trace.Plain) : p.machine.source.trace.Plain := by
  cases h with
  | literal literal => exact plain
  | target hands => exact hands.plain plain
  | noTarget hands => exact hands.plain plain
  | terminator ends => exact plain
  | reduction opcode payload reduced =>
      cases reduced with
      | few few => exact plain
      | term length items term => exact plain.cons (by intro index list; simp) _
      | plain length items _ => exact plain

/-- **A step notes no operand.** -/
theorem Stepped.plain {m : Machine σ} {p : Progress σ} (h : m.Stepped o page p)
    (plain : m.source.trace.Plain) : p.machine.source.trace.Plain := by
  cases h with
  | unread read => exact plain
  | performed read performed => exact performed.plain plain

/-! ## Runs -/

/-- **What a run keeps**: every list on the stack is read as one operand, and no operand has been noted. -/
structure Shaped (m : Machine σ) : Prop where
  /-- The lists on the stack. -/
  stack : ∀ list ∈ m.stack.items, Scans list
  /-- The notes. -/
  plain : m.source.trace.Plain

/-- **A step keeps the shape of the stack**, also where it ends or stops. -/
theorem Stepped.shaped {m : Machine σ} {p : Progress σ} (h : m.Stepped o page p) (shaped : m.Shaped) :
    p.machine.Shaped := by
  refine ⟨?_, h.plain shaped.plain⟩
  have stack := shaped.stack
  have step := h.stack
  generalize p.machine.stack.items = after at step ⊢
  generalize m.stack.items = before at step stack
  cases step with
  | same => exact stack
  | push operand => exact List.forall_mem_cons.mpr ⟨scans_operand operand, stack⟩
  | @reduce r args length below =>
      obtain ⟨operands, others⟩ := List.forall_mem_append.mp stack
      refine List.forall_mem_cons.mpr ⟨r.write_scans length fun a ha => ?_, others⟩
      exact operands a (List.mem_reverse.mpr ha)

/-- **Along a run the stack keeps its shape.** -/
theorem Visits.shaped {start : Machine σ} {p : Progress σ} (h : Visits o page start p)
    (shaped : start.Shaped) : p.machine.Shaped := h.keeps Stepped.shaped shaped

/-- **Shape of a result**: a formula that is read as one operand, or a machine in shape where there is
none. -/
def ResultShaped : Except Stop Decoded × Machine σ → Prop
  | (.ok d, _) => Scans d.instructions
  | (.error _, m) => m.Shaped

/-- Finishing a run in shape gives a result in shape. -/
theorem finish_shaped {m : Machine σ} (h : m.Shaped) (terminated : Bool) :
    ResultShaped (m.finish terminated) := by
  have stack := h.stack
  unfold finish
  split
  · exact h
  · next list single =>
    rw [single] at stack
    exact stack list List.mem_cons_self
  · exact h

/-- **Whole runs keep the shape.** -/
theorem RunsTo.shaped {m : Machine σ} {r : Except Stop Decoded × Machine σ} (h : RunsTo o page m r)
    (shaped : m.Shaped) : ResultShaped r := by
  obtain ⟨p, visits, concludes⟩ := h
  -- Whether the run ends or stops here, its steps have kept the shape.
  have last := visits.shaped shaped
  cases concludes with
  | exhausted exhausted => exact finish_shaped last false
  | ended m' => exact finish_shaped last true
  | stopped stop m' => exact last

/-- **The notes on a failure** tell of the lists on the stack, and of no others. -/
theorem mem_stack_of_mem_failureNotes {notes : List Note} (plain : ∀ n ∈ notes, n.Plain)
    {stack : OperandStack} {last : Option UInt8} {kind : ErrorKind} {index : Nat} {list : List Instruction}
    (h : .operand index list ∈ failureNotes notes stack last kind) : list ∈ stack.items := by
  rw [failureNotes, List.mem_append, List.mem_append] at h
  rcases h with (noted | dumped) | failure
  · exact absurd rfl (plain _ (List.mem_reverse.mp noted) index list)
  · obtain ⟨⟨list', i⟩, mem, same⟩ := List.mem_map.mp dumped
    obtain ⟨rfl, rfl⟩ := Note.operand.inj same
    exact List.mem_reverse.mp (List.fst_mem_of_mem_zipIdx mem)
  · cases List.mem_singleton.mp failure

end Machine

/-- **A formula that is opened starts a run in shape.** -/
theorem TokenSource.Opens.shaped {formula : Cursor} {names : σ} {source : TokenSource σ} {t : Trace σ}
    (h : Opens o formula ⟨names, []⟩ (.ok source, t)) : ({ source } : Machine σ).Shaped := by
  refine ⟨?_, (h.plain (Trace.plain_start names)).2 source rfl⟩
  intro list mem
  simp [OperandStack.items_empty] at mem

/-- **Decoding a formula keeps the shape of its lists.** -/
theorem decodeFormula_shaped (o : Options σ) (page : CodePage) (names : σ) (data : List UInt8) (stop : Int) :
    (∀ d, (decodeFormula o page names data stop).outcome = .ok d → Scans d.instructions) ∧
      ∀ e notes dump, (decodeFormula o page names data stop).outcome = .error (.rejected e notes dump) →
        ∀ index list, .operand index list ∈ notes → Scans list := by
  have spec := decodeFormula_spec o page names data stop
  have opens := TokenSource.ofCursor_spec o (.ofData data stop) ⟨names, []⟩
  generalize decodeFormula o page names data stop = run at spec ⊢
  cases spec with
  | @unopened reason t unopened =>
      -- Nothing was on the stack yet, and nothing else tells of operands.
      refine ⟨fun d ok => (by cases ok), ?_⟩
      intro e notes dump rejected index list mem
      rw [unopened] at opens
      have plain := (opens.plain (Trace.plain_start names)).1
      obtain ⟨-, rfl, -⟩ := Failure.ofStop_eq_rejected_iff.mp (Except.error.inj rejected)
      have none := Machine.mem_stack_of_mem_failureNotes plain mem
      simp [OperandStack.items_empty] at none
  | @decoded source t d m opened runs =>
      rw [opened] at opens
      have shaped : Scans d.instructions := runs.shaped opens.shaped
      refine ⟨fun d' ok => ?_, fun e notes dump rejected => (by cases rejected)⟩
      cases ok
      exact shaped
  | @failed source t reason m opened runs =>
      rw [opened] at opens
      have shaped : m.Shaped := runs.shaped opens.shaped
      refine ⟨fun d ok => (by cases ok), ?_⟩
      intro e notes dump rejected index list mem
      obtain ⟨-, rfl, -⟩ := Failure.ofStop_eq_rejected_iff.mp (Except.error.inj rejected)
      exact shaped.stack list (Machine.mem_stack_of_mem_failureNotes shaped.plain mem)

/-- **Every list is well-shaped.** For any bytes, any end, any variant, owner and names: at every point of a
run each list on the operand stack is well-shaped; so is a decoded formula, and so are the operands that the
notes of a failure tell of. -/
theorem decode_wellShaped (o : Options σ) (names : σ) (data : List UInt8) (stop : Int) :
    (∀ page source t, CodePage.ofName? o.variant.charset = some page →
        TokenSource.ofCursor o (.ofData data stop) ⟨names, []⟩ = (.ok source, t) →
        ∀ p, Machine.Visits o page { source } p → ∀ list ∈ p.machine.stack.items, WellShaped list) ∧
      (∀ d, (decode o names data stop).outcome = .ok d → WellShaped d.instructions) ∧
      ∀ e notes dump, (decode o names data stop).outcome = .error (.rejected e notes dump) →
        ∀ index list, .operand index list ∈ notes → WellShaped list := by
  refine ⟨?_, ?_⟩
  · intro page source t known opened p visits list mem
    have opens := TokenSource.ofCursor_spec o (.ofData data stop) ⟨names, []⟩
    rw [opened] at opens
    exact ((visits.shaped opens.shaped).stack list mem).wellShaped
  -- Without a formula to decode there are no lists at all.
  · rcases decode_cases o names data stop with ⟨-, same⟩ | ⟨-, -, same⟩ | ⟨page, -, -, same⟩
    · rw [same]
      refine ⟨fun d ok => (by cases ok), fun e notes dump rejected index list mem => ?_⟩
      cases rejected
      cases mem
    · rw [same]
      exact ⟨fun d ok => (by cases ok), fun e notes dump rejected => (by cases rejected)⟩
    · rw [same]
      obtain ⟨decoded, rejected⟩ := decodeFormula_shaped o page names data stop
      exact ⟨fun d ok => (decoded d ok).wellShaped,
        fun e notes dump h index list mem => (rejected e notes dump h index list mem).wellShaped⟩

end SheetFormula
