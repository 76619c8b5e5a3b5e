import SheetFormula.Decode
import SheetFormula.Proofs.ReferenceTable

/-!
# Moves of the decoder

What each part of the decoding machine can do, said once, so that no later proof has to look inside again. A
relation lists the cases of a function, a `_spec` theorem says that the function does one of them, and an `eq`
theorem that it does this one:

* **`TokenSource.Hands`** — what taking a reference operand from a source can come to;
* **`Machine.Reduced`**, **`Machine.Performed`**, **`Machine.Stepped`** — what a reduction, a token and a step
  can come to. A step moves on over bytes that are ahead (`Machine.Stepped.passes`, `Machine.Stepped.pos_lt`);
* **`Machine.Visits`** — the machines that a run passes; `Machine.Concludes` — where it may end;
* **`Machine.RunsTo`** — the result of a run, which does not depend on the fuel (`Machine.runsTo_run`,
  `Machine.RunsTo.run_eq`);
* **`Decodes`** — what decoding a formula can come to; `decode_cases` — when there is a formula to decode.
-/

namespace SheetFormula

variable {σ : Type} {o : Options σ} {page : CodePage}

/-! ## Reference operands -/

namespace TokenSource

/-- **What taking a reference operand can come to**: it is read from the opcode stream, or it is the first one
left of its kind, or none is left. -/
inductive Hands (o : Options σ) (s : TokenSource σ) :
    Payload → Except Stop (Target CellRef) × TokenSource σ → Prop
  | inline {p : Payload} {result : Except Stop (Target CellRef)} {code : Cursor} {trace : Trace σ}
      (supply : s.supply = .inline) (read : o.TargetRead s.code s.trace p (result, code, trace)) :
      Hands o s p (result, { s with code, trace })
  | cell {ref : CellRef} {cells : List CellRef} {ranges : List (CellRef × CellRef)}
      (supply : s.supply = .queued (ref :: cells) ranges) :
      Hands o s .cellRef (.ok (.cell ref), { s with supply := .queued cells ranges })
  | noCell {ranges : List (CellRef × CellRef)} (supply : s.supply = .queued [] ranges) :
      Hands o s .cellRef (.error (.error ⟨.noMoreCells, s.code.pos⟩), s)
  | range {first last : CellRef} {cells : List CellRef} {ranges : List (CellRef × CellRef)}
      (supply : s.supply = .queued cells ((first, last) :: ranges)) :
      Hands o s .rangeRef (.ok (.range first last), { s with supply := .queued cells ranges })
  | noRange {cells : List CellRef} (supply : s.supply = .queued cells []) :
      Hands o s .rangeRef (.error (.error ⟨.noMoreRanges, s.code.pos⟩), s)

/-- **Taking a cell** comes to one of these. -/
theorem nextCell_spec (o : Options σ) (s : TokenSource σ) :
    s.Hands o .cellRef ((s.nextCell o).1.map .cell, (s.nextCell o).2) := by
  unfold nextCell
  split
  · next supply => exact .inline supply (o.readCell_spec s.code s.trace)
  · next supply => exact .noCell supply
  · next supply => exact .cell supply

/-- **Taking a range** comes to one of these. -/
theorem nextRange_spec (o : Options σ) (s : TokenSource σ) :
    s.Hands o .rangeRef
      ((s.nextRange o).1.map fun range => .range range.1 range.2, (s.nextRange o).2) := by
  unfold nextRange
  split
  · next supply => exact .inline supply (o.readRange_spec s.code s.trace)
  · next supply => exact .noRange supply
  · next supply => exact .range supply

namespace Hands

variable {s : TokenSource σ} {p : Payload} {r : Except Stop (Target CellRef) × TokenSource σ}

/-- A cell is taken in one way. -/
theorem eq_cell (h : s.Hands o .cellRef r) : ((s.nextCell o).1.map .cell, (s.nextCell o).2) = r := by
  unfold nextCell
  cases h with
  | inline supply read =>
      obtain ⟨rfl, same⟩ := Prod.mk.inj read.eq_cell
      simp only [supply, same]
  | cell supply => simp only [supply]; rfl
  | noCell supply => simp only [supply]; rfl

/-- A range is taken in one way. -/
theorem eq_range (h : s.Hands o .rangeRef r) :
    ((s.nextRange o).1.map fun range => .range range.1 range.2, (s.nextRange o).2) = r := by
  unfold nextRange
  cases h with
  | inline supply read =>
      obtain ⟨rfl, same⟩ := Prod.mk.inj read.eq_range
      simp only [supply, same]
  | range supply => simp only [supply]; rfl
  | noRange supply => simp only [supply]; rfl

/-- Taking a reference operand passes over bytes that are ahead, or over none. -/
theorem passes (h : s.Hands o p r) : s.code.Passes r.2.code := by
  cases h with
  | inline supply read => exact read.passes
  | cell | noCell | range | noRange => exact .refl s.code

/-- **Where all bytes are there, no access goes astray.** -/
theorem error_of_whole {stop : Stop} {s' : TokenSource σ} (h : s.Hands o p (.error stop, s'))
    (whole : s.code.Whole) : ∃ e, stop = .error e := by
  cases h with
  | inline supply read => exact read.error_of_whole whole
  | noCell | noRange => exact ⟨_, rfl⟩

end Hands

end TokenSource

/-! ## Reductions -/

/-- **A term function** of some operands as a function of periods. -/
def Reduction.periods? (r : Reduction) (args : List (List Instruction)) : Option (List Instruction) :=
  if r.opcode.shape = .call then SheetFormula.periods? r.opcode.name args else none

/-- A literal as an instruction. -/
def Payload.literal? : Payload → Option Instruction
  | .number bits => some (.number bits)
  | .integer value => some (.integer value)
  | .text content => some (.text content)
  | _ => none

/-- A literal is an operand. -/
theorem Payload.isOperand_of_literal? {p : Payload} {i : Instruction} (h : p.literal? = some i) :
    i.isOperand = true := by
  cases p with
  | number | integer | text =>
      cases h
      rfl
  | cellRef | rangeRef | terminator | reduce => cases h

namespace Machine

/-- **Machine behind a step**. -/
def Progress.machine : Progress σ → Machine σ
  | .running m | .ended m | .stopped _ m => m

/-- **What a reduction can come to**: there are too few operands, or they are replaced by its written form. A
term function is noted. -/
inductive Reduced (m : Machine σ) (r : Reduction) (offset : Nat) : Progress σ → Prop
  | few (few : m.stack.depth < r.operands) :
      Reduced m r offset
        (.stopped (.error ⟨.underflow (some r.opcode.code) r.operands m.stack.depth, offset⟩) m)
  | term {args : List (List Instruction)} {stack : OperandStack} (length : args.length = r.operands)
      (items : m.stack.items = args.reverse ++ stack.items) (term : r.periods? args = some (r.write args)) :
      Reduced m r offset
        (.running ((({ m with stack } : Machine σ).push (r.write args)).note (.rewrote offset r.opcode.name)))
  | plain {args : List (List Instruction)} {stack : OperandStack} (length : args.length = r.operands)
      (items : m.stack.items = args.reverse ++ stack.items) (plain : r.periods? args = none) :
      Reduced m r offset (.running (({ m with stack } : Machine σ).push (r.write args)))

/-- Operands come off in the order in which they were put on, and the top of the stack is the last one. -/
theorem popN_eq_some_iff {m : Machine σ} {n : Nat} {args : List (List Instruction)} {stack : OperandStack} :
    m.stack.popN n = some (args, stack) ↔ args.length = n ∧ m.stack.items = args.reverse ++ stack.items := by
  rw [OperandStack.popN_eq_some_iff, OperandStack.toList, OperandStack.toList, and_comm]
  refine and_congr_right fun _ => ?_
  rw [List.reverse_eq_iff, List.reverse_append, List.reverse_reverse]

/-- **A reduction** comes to one of these. -/
theorem reduce_spec (m : Machine σ) (r : Reduction) (offset : Nat) :
    m.Reduced r offset (m.reduce r.opcode offset r.operands) := by
  unfold reduce
  cases popped : m.stack.popN r.operands with
  | none => exact .few (OperandStack.popN_eq_none_iff.mp popped)
  | some taken =>
      obtain ⟨args, stack⟩ := taken
      obtain ⟨length, items⟩ := popN_eq_some_iff.mp popped
      -- Neither form can fail on as many operands as the reduction takes.
      rcases r.write_spec length with term | ⟨plain, composed⟩
      · simp only [term]
        exact .term length items term
      · simp only [plain, composed]
        exact .plain length items plain

/-- A reduction is performed in one way. -/
theorem Reduced.eq {m : Machine σ} {r : Reduction} {offset : Nat} {p : Progress σ}
    (h : m.Reduced r offset p) :
    m.reduce r.opcode offset r.operands = p := by
  unfold reduce
  cases h with
  | few few => simp only [OperandStack.popN_eq_none_iff.mpr few]
  | @term args stack length items term =>
      have term : (if r.opcode.shape = .call then SheetFormula.periods? r.opcode.name args else none) =
        some (r.write args) := term
      simp only [popN_eq_some_iff.mpr ⟨length, items⟩, term]
  | @plain args stack length items plain =>
      have plain : (if r.opcode.shape = .call then SheetFormula.periods? r.opcode.name args else none) =
          none := plain
      rcases r.write_spec length with term | ⟨-, composed⟩
      · cases plain.symm.trans term
      · simp only [popN_eq_some_iff.mpr ⟨length, items⟩, plain, composed]

/-! ## Tokens -/

/-- **What performing a token can come to**: a literal or a reference operand is put on the stack, unless the
operand cannot be taken; the terminator ends the run; a reduction is performed. -/
inductive Performed (o : Options σ) (m : Machine σ) (token : Token) : Progress σ → Prop
  | literal {i : Instruction} (literal : token.payload.literal? = some i) :
      Performed o m token (.running (m.push [i]))
  | target {target : Target CellRef} {source : TokenSource σ}
      (hands : m.source.Hands o token.payload (.ok target, source)) :
      Performed o m token (.running (({ m with source } : Machine σ).push [target.instruction]))
  | noTarget {stop : Stop} {source : TokenSource σ}
      (hands : m.source.Hands o token.payload (.error stop, source)) :
      Performed o m token (.stopped stop { m with source })
  | terminator (ends : token.payload = .terminator) : Performed o m token (.ended m)
  | reduction {r : Reduction} {p : Progress σ} (opcode : token.opcode = r.opcode)
      (payload : token.payload = .reduce r.operands) (reduced : m.Reduced r token.offset p) :
      Performed o m token p

/-- **Progress by a reference operand**: it is put on the stack, or there is none. -/
def withTarget (m : Machine σ) : Except Stop (Target CellRef) × TokenSource σ → Progress σ
  | (.ok target, source) => .running (({ m with source } : Machine σ).push [target.instruction])
  | (.error stop, source) => .stopped stop { m with source }

/-- A reference operand is performed as it was handed. -/
theorem Performed.of_hands {m : Machine σ} {token : Token} {r : Except Stop (Target CellRef) × TokenSource σ}
    (hands : m.source.Hands o token.payload r) : m.Performed o token (m.withTarget r) := by
  obtain ⟨stop | target, source⟩ := r
  · exact .noTarget hands
  · exact .target hands

/-- A cell is taken and put on the stack. -/
theorem perform_cell (o : Options σ) (m : Machine σ) {token : Token} (payload : token.payload = .cellRef) :
    m.perform o token = m.withTarget ((m.source.nextCell o).1.map .cell, (m.source.nextCell o).2) := by
  rw [perform, payload]
  dsimp only
  generalize m.source.nextCell o = r
  obtain ⟨stop | ref, source⟩ := r <;> rfl

/-- A range is taken and put on the stack. -/
theorem perform_range (o : Options σ) (m : Machine σ) {token : Token} (payload : token.payload = .rangeRef) :
    m.perform o token =
      m.withTarget ((m.source.nextRange o).1.map fun range => .range range.1 range.2,
        (m.source.nextRange o).2) := by
  rw [perform, payload]
  dsimp only
  generalize m.source.nextRange o = r
  obtain ⟨stop | range, source⟩ := r <;> rfl

/-- **Performing the token of a lexeme** comes to one of these. -/
theorem perform_spec {ρ : Type} (o : Options σ) (page : CodePage) (m : Machine σ) (x : Lexeme (Leaf ρ))
    (pos : Nat) :
    m.Performed o (x.token page pos) (m.perform o (x.token page pos)) := by
  cases x with
  | leaf l =>
      cases l with
      | number bits => exact .literal rfl
      | integer value => exact .literal rfl
      | text raw => exact .literal rfl
      -- A reference operand is what the source hands out.
      | target t =>
          cases t with
          | cell ref =>
              rw [perform_cell o m rfl]
              exact .of_hands (m.source.nextCell_spec o)
          | range first last =>
              rw [perform_range o m rfl]
              exact .of_hands (m.source.nextRange_spec o)
  | reduce r => exact .reduction rfl rfl (m.reduce_spec r pos)
  | terminator => exact .terminator rfl

/-- A reference operand is a cell or a range. -/
theorem payload_of_hands {s : TokenSource σ} {p : Payload} {r : Except Stop (Target CellRef) × TokenSource σ}
    (h : s.Hands o p r) : p = .cellRef ∨ p = .rangeRef := by
  cases h with
  | inline supply read =>
      cases read with
      | cell | noCell => exact .inl rfl
      | range | noFirst | noLast => exact .inr rfl
  | cell | noCell => exact .inl rfl
  | range | noRange => exact .inr rfl

/-- A reference operand is performed in one way. -/
theorem perform_of_hands {m : Machine σ} {token : Token} {r : Except Stop (Target CellRef) × TokenSource σ}
    (hands : m.source.Hands o token.payload r) : m.perform o token = m.withTarget r := by
  rcases payload_of_hands hands with payload | payload
  · rw [payload] at hands
    rw [perform_cell o m payload, hands.eq_cell]
  · rw [payload] at hands
    rw [perform_range o m payload, hands.eq_range]

/-- A token is performed in one way. -/
theorem Performed.eq {m : Machine σ} {token : Token} {p : Progress σ} (h : m.Performed o token p) :
    m.perform o token = p := by
  cases h with
  | @literal i literal =>
      unfold perform
      generalize token.payload = payload at literal ⊢
      cases payload with
      | number | integer | text =>
          cases literal
          rfl
      | cellRef | rangeRef | terminator | reduce => cases literal
  | target hands => exact perform_of_hands hands
  | noTarget hands => exact perform_of_hands hands
  | terminator ends => rw [perform, ends]
  | reduction opcode payload reduced =>
      rw [perform, payload, opcode]
      exact reduced.eq

/-- Performing a token passes over the bytes of its references, or over none. -/
theorem Performed.passes {m : Machine σ} {token : Token} {p : Progress σ} (h : m.Performed o token p) :
    m.source.code.Passes p.machine.source.code := by
  cases h with
  | literal | terminator => exact .refl _
  | target hands => exact hands.passes
  | noTarget hands => exact hands.passes
  | reduction opcode payload reduced => cases reduced <;> exact .refl _

/-! ## Steps -/

/-- **What a step can come to**: no token can be read, or the one that was read is performed. -/
inductive Stepped (o : Options σ) (page : CodePage) (m : Machine σ) : Progress σ → Prop
  | unread {stop : Stop} {code : Cursor} (read : Token.read page m.source.code = (.error stop, code)) :
      Stepped o page m
        (.stopped stop { m with source := { m.source with code }, last := lastAfter m.last stop })
  | performed {token : Token} {code : Cursor} {p : Progress σ}
      (read : Token.read page m.source.code = (.ok token, code))
      (performed : (m.took token { m.source with code }).Performed o token p) : Stepped o page m p

/-- **A step** comes to one of these. -/
theorem step_spec (o : Options σ) (page : CodePage) (m : Machine σ) : m.Stepped o page (m.step o page) := by
  have spec := Token.read_spec page m.source.code
  unfold step TokenSource.nextToken
  rcases read : Token.read page m.source.code with ⟨stop | token, code⟩
  · exact .unread read
  · -- Whatever was read is the token of a lexeme.
    rw [read] at spec
    cases spec with
    | lexeme x ahead => exact .performed read (perform_spec o page _ x _)

namespace Stepped

variable {m : Machine σ} {p : Progress σ}

/-- A step is made in one way. -/
theorem eq (h : m.Stepped o page p) : m.step o page = p := by
  unfold step TokenSource.nextToken
  cases h with
  | unread read => rw [read]
  | performed read performed =>
      rw [read]
      exact performed.eq

/-- What is known of a step is known of the progress that it makes. -/
theorem of_eq (h : m.step o page = p) : m.Stepped o page p := h ▸ m.step_spec o page

/-- A step passes over bytes that are ahead. -/
theorem passes (h : m.Stepped o page p) : m.source.code.Passes p.machine.source.code := by
  have spec := Token.read_spec page m.source.code
  cases h with
  | unread read =>
      rw [read] at spec
      exact spec.passes
  | performed read performed =>
      rw [read] at spec
      exact spec.passes.trans performed.passes

/-- **A step takes at least one byte**, as long as there is one, and also where it stops. -/
theorem pos_lt (h : m.Stepped o page p) (something : m.source.code.rest ≠ []) :
    m.source.code.pos < p.machine.source.code.pos := by
  have spec := Token.read_spec page m.source.code
  cases h with
  | unread read =>
      rw [read] at spec
      exact spec.pos_lt something
  | performed read performed =>
      rw [read] at spec
      exact Nat.lt_of_lt_of_le (spec.pos_lt something) performed.passes.pos_le

/-- A step that goes on has read something. -/
theorem rest_ne_nil {m' : Machine σ} (h : m.Stepped o page (.running m')) : m.source.code.rest ≠ [] := by
  have spec := Token.read_spec page m.source.code
  cases h with
  | performed read performed =>
      rw [read] at spec
      cases spec with
      | lexeme x ahead =>
          rw [ahead, Lexeme.code]
          exact List.cons_ne_nil _ _

/-- Behind a step that goes on fewer bytes are announced. -/
theorem left_lt {m' : Machine σ} (h : m.Stepped o page (.running m')) :
    m'.source.code.left < m.source.code.left := by
  have further := h.pos_lt h.rest_ne_nil
  have limit := h.passes.limit_eq
  simp only [Progress.machine] at further limit
  simp only [Cursor.left, limit]
  omega

end Stepped

/-! ## Runs -/

/-- **Machines that a run passes**: it goes on as long as steps do and there are bytes. -/
inductive Visits (o : Options σ) (page : CodePage) (start : Machine σ) : Progress σ → Prop
  | start : Visits o page start (.running start)
  | step {m : Machine σ} (before : Visits o page start (.running m))
      (more : (m.source.code.pos : Int) < m.source.code.limit) : Visits o page start (m.step o page)

/-- **Where a run may end**, and with what: at the end of the stream, behind a terminator, or where it
stops. -/
inductive Concludes : Progress σ → Except Stop Decoded × Machine σ → Prop
  | exhausted {m : Machine σ} (exhausted : m.source.code.limit ≤ m.source.code.pos) :
      Concludes (.running m) (m.finish false)
  | ended (m : Machine σ) : Concludes (.ended m) (m.finish true)
  | stopped (stop : Stop) (m : Machine σ) : Concludes (.stopped stop m) (.error stop, m)

/-- **A run comes to a result**: it passes a machine where it ends with that. -/
def RunsTo (o : Options σ) (page : CodePage) (m : Machine σ) (r : Except Stop Decoded × Machine σ) : Prop :=
  ∃ p, Visits o page m p ∧ Concludes p r

/-- What a run passes behind one of its machines it passes. -/
theorem Visits.trans {start m : Machine σ} {p : Progress σ} (h : Visits o page start (.running m))
    (behind : Visits o page m p) : Visits o page start p := by
  induction behind with
  | start => exact h
  | step before more ih => exact ih.step more

/-- **What steps keep, runs keep.** -/
theorem Visits.keeps {P : Machine σ → Prop} (kept : ∀ {m p}, m.Stepped o page p → P m → P p.machine)
    {start : Machine σ} {p : Progress σ} (h : Visits o page start p) (here : P start) : P p.machine := by
  induction h with
  | start => exact here
  | @step m before more ih => exact kept (m.step_spec o page) ih

/-- A run passes over bytes that are ahead. -/
theorem Visits.passes {start : Machine σ} {p : Progress σ} (h : Visits o page start p) :
    start.source.code.Passes p.machine.source.code :=
  h.keeps (P := fun m => start.source.code.Passes m.source.code)
    (fun step before => before.trans step.passes) (.refl _)

/-- With fuel for each byte, a run goes on from each machine that it passes. -/
theorem Visits.run_eq {start m : Machine σ} (h : Visits o page start (.running m)) {fuel : Nat}
    (enough : start.source.code.left ≤ fuel) :
    ∃ fuel' : Nat, m.source.code.left ≤ fuel' ∧ start.run o page fuel = m.run o page fuel' := by
  generalize progress : Progress.running m = p at h
  induction h generalizing m with
  | start =>
      cases progress
      exact ⟨fuel, enough, rfl⟩
  -- A step takes one unit of fuel and at least one byte.
  | @step m₀ before more ih =>
      obtain ⟨fuel', enough', same⟩ := ih rfl
      have fewer := (Stepped.of_eq progress.symm).left_lt
      obtain ⟨fuel', rfl⟩ := Cursor.exists_fuel enough' more
      refine ⟨fuel', by omega, ?_⟩
      rw [same, run, if_neg (by omega), ← progress]

/-- **A run has one result**, with any fuel that is enough. -/
theorem RunsTo.run_eq {m : Machine σ} {r : Except Stop Decoded × Machine σ} (h : RunsTo o page m r)
    {fuel : Nat} (enough : m.source.code.left ≤ fuel) : m.run o page fuel = r := by
  obtain ⟨p, visits, concludes⟩ := h
  -- A machine that ends the run, or stops it, is behind a last step.
  have last {m' : Machine σ} {p : Progress σ} (visits : Visits o page m (.running m'))
      (more : (m'.source.code.pos : Int) < m'.source.code.limit) (step : m'.step o page = p)
      (concludes : Concludes p r) (stands : ∀ m'', p ≠ .running m'') : m.run o page fuel = r := by
    obtain ⟨fuel', enough', same⟩ := visits.run_eq enough
    obtain ⟨fuel', rfl⟩ := Cursor.exists_fuel enough' more
    rw [same, run, if_neg (by omega), step]
    cases concludes with
    | exhausted => exact absurd rfl (stands _)
    | ended | stopped => rfl
  cases concludes with
  | @exhausted m' exhausted =>
      obtain ⟨fuel', -, same⟩ := visits.run_eq enough
      rw [same]
      cases fuel' with
      | zero => rfl
      | succ fuel' => rw [run, if_pos exhausted]
  | ended m' =>
      generalize progress : Progress.ended m' = p at visits
      cases visits with
      | start => cases progress
      | step before more => exact last before more progress.symm (.ended m') (by rintro _ ⟨⟩)
  | stopped stop m' =>
      generalize progress : Progress.stopped stop m' = p at visits
      cases visits with
      | start => cases progress
      | step before more => exact last before more progress.symm (.stopped stop m') (by rintro _ ⟨⟩)

/-- **Every run comes to a result**, if there is fuel for each byte. -/
theorem runsTo_run (o : Options σ) (page : CodePage) {m : Machine σ} {fuel : Nat}
    (enough : m.source.code.left ≤ fuel) :
    RunsTo o page m (m.run o page fuel) := by
  -- The start of the run stays where it is, and the fuel is for what is left of it.
  have further : ∀ (fuel : Nat) (m' : Machine σ), Visits o page m (.running m') → m'.source.code.left ≤ fuel →
      RunsTo o page m (m'.run o page fuel) := by
    intro fuel
    induction fuel with
    | zero =>
        intro m' visits enough
        exact ⟨_, visits, .exhausted (by simp only [Cursor.left] at enough; omega)⟩
    | succ fuel ih =>
        intro m' visits enough
        rw [run]
        by_cases exhausted : m'.source.code.limit ≤ m'.source.code.pos
        · rw [if_pos exhausted]
          exact ⟨_, visits, .exhausted exhausted⟩
        · have next := visits.step (by omega)
          have step := m'.step_spec o page
          rw [if_neg exhausted]
          generalize m'.step o page = p at next step ⊢
          cases p with
          | running m'' =>
              have fewer := step.left_lt
              exact ih m'' next (by omega)
          | ended m'' => exact ⟨_, next, .ended m''⟩
          | stopped stop m'' => exact ⟨_, next, .stopped stop m''⟩
  exact further fuel m .start enough

end Machine

/-! ## Decoding -/

/-- **Which failures are rejections**: those for an error of the formula, with a dump of the data before the
end. -/
theorem Failure.ofStop_eq_rejected_iff {data : List UInt8} {stop : Int} {notes notes' : List Note}
    {stack : OperandStack} {last : Option UInt8} {reason : Stop} {e : DecodeError} {dump : List UInt8} :
    ofStop data stop notes stack last reason = .rejected e notes' dump ↔
      reason = .error e ∧ notes' = failureNotes notes stack last e.cause.kind ∧
        HexDump.bytes? data 0 stop = some dump := by
  cases reason with
  | fault => simp [ofStop]
  | error e' =>
      unfold ofStop
      -- A dump that reaches outside the data is no rejection either.
      cases HexDump.bytes? data 0 stop with
      | none => simp
      | some bytes =>
          simp only [rejected.injEq, Stop.error.injEq, Option.some.injEq]
          constructor
          · rintro ⟨rfl, rfl, rfl⟩
            exact ⟨rfl, rfl, rfl⟩
          · rintro ⟨rfl, rfl, rfl⟩
            exact ⟨rfl, rfl, rfl⟩

/-- **What decoding a formula can come to**: it cannot be opened, or it is decoded, or its run fails. -/
inductive Decodes (o : Options σ) (page : CodePage) (names : σ) (data : List UInt8) (stop : Int) :
    Run σ → Prop
  | unopened {reason : Stop} {t : Trace σ}
      (unopened : TokenSource.ofCursor o (.ofData data stop) ⟨names, []⟩ = (.error reason, t)) :
      Decodes o page names data stop ⟨.error (.ofStop data stop t.notes .empty none reason), [], t.names⟩
  | decoded {source : TokenSource σ} {t : Trace σ} {d : Decoded} {m : Machine σ}
      (opened : TokenSource.ofCursor o (.ofData data stop) ⟨names, []⟩ = (.ok source, t))
      (runs : Machine.RunsTo o page { source } (.ok d, m)) :
      Decodes o page names data stop ⟨.ok d, m.log.reverse, m.source.trace.names⟩
  | failed {source : TokenSource σ} {t : Trace σ} {reason : Stop} {m : Machine σ}
      (opened : TokenSource.ofCursor o (.ofData data stop) ⟨names, []⟩ = (.ok source, t))
      (runs : Machine.RunsTo o page { source } (.error reason, m)) :
      Decodes o page names data stop
        ⟨.error (m.failure data stop reason), (m.logFailure reason).log.reverse, m.source.trace.names⟩

/-- **Decoding a formula** comes to one of these. -/
theorem decodeFormula_spec (o : Options σ) (page : CodePage) (names : σ) (data : List UInt8) (stop : Int) :
    Decodes o page names data stop (decodeFormula o page names data stop) := by
  unfold decodeFormula
  rcases opened : TokenSource.ofCursor o (.ofData data stop) ⟨names, []⟩ with ⟨reason | source, t⟩
  · exact .unopened opened
  · have runs := Machine.runsTo_run o page (m := { source }) (Int.self_le_toNat source.code.left)
    dsimp only
    generalize Machine.run o page source.code.left.toNat { source } = r at runs ⊢
    obtain ⟨reason | d, m⟩ := r
    · exact .failed opened runs
    · exact .decoded opened runs

/-- A formula is decoded in one way. -/
theorem Decodes.eq {names : σ} {data : List UInt8} {stop : Int} {r : Run σ}
    (h : Decodes o page names data stop r) :
    decodeFormula o page names data stop = r := by
  unfold decodeFormula
  cases h with
  | unopened unopened => rw [unopened]
  | @decoded source t d m opened runs =>
      rw [opened]
      simp only [runs.run_eq (Int.self_le_toNat source.code.left)]
  | @failed source t reason m opened runs =>
      rw [opened]
      simp only [runs.run_eq (Int.self_le_toNat source.code.left)]

/-- An end that is not in the data is rejected. -/
theorem decode_outside {data : List UInt8} {stop : Int} (outside : ¬ (0 ≤ stop ∧ stop ≤ data.length))
    (o : Options σ) (names : σ) :
    decode o names data stop = ⟨.error (.rejected ⟨.endOutside stop data.length, 0⟩ [] []), [], names⟩ := by
  have outside : (decide (stop < 0) || decide ((data.length : Int) < stop)) = true := by
    rw [Bool.or_eq_true, decide_eq_true_eq, decide_eq_true_eq]
    omega
  rw [decode, if_pos outside]

namespace Framed

variable {data formula : List UInt8} {stop : Int} (h : Framed data stop formula)

include h

/-- An end in the data is accepted. -/
theorem not_outside : ¬ (decide (stop < 0) || decide ((data.length : Int) < stop)) = true := by
  have start := h.start
  have inside := h.inside
  rw [Bool.or_eq_true, decide_eq_true_eq, decide_eq_true_eq]
  omega

/-- Without a code page nothing is decoded. -/
theorem decode_unknown (unknown : CodePage.ofName? o.variant.charset = none) (names : σ) :
    decode o names data stop = ⟨.error (.unknownCharset o.variant.name o.variant.charset), [], names⟩ := by
  rw [decode, if_neg h.not_outside, unknown]

/-- **A framed formula is decoded** when its code page is known. -/
theorem decode_eq (known : CodePage.ofName? o.variant.charset = some page) (names : σ) :
    decode o names data stop = decodeFormula o page names data stop := by
  rw [decode, if_neg h.not_outside, known]

end Framed

/-- **What decoding can come to**: the end is not in the data, or nobody knows the code page, or a formula is
decoded. -/
theorem decode_cases (o : Options σ) (names : σ) (data : List UInt8) (stop : Int) :
    (¬ (0 ≤ stop ∧ stop ≤ data.length) ∧ decode o names data stop =
        ⟨.error (.rejected ⟨.endOutside stop data.length, 0⟩ [] []), [], names⟩) ∨
      (Framed data stop (data.take stop.toNat) ∧ CodePage.ofName? o.variant.charset = none ∧
        decode o names data stop = ⟨.error (.unknownCharset o.variant.name o.variant.charset), [], names⟩) ∨
      ∃ page, CodePage.ofName? o.variant.charset = some page ∧ Framed data stop (data.take stop.toNat) ∧
        decode o names data stop = decodeFormula o page names data stop := by
  by_cases inside : 0 ≤ stop ∧ stop ≤ data.length
  · have framed : Framed data stop (data.take stop.toNat) := ⟨inside.1, inside.2, rfl⟩
    cases known : CodePage.ofName? o.variant.charset with
    | none => exact .inr (.inl ⟨framed, rfl, framed.decode_unknown known names⟩)
    | some page => exact .inr (.inr ⟨page, rfl, framed, framed.decode_eq known names⟩)
  · exact .inl ⟨inside, decode_outside inside o names⟩

/-- **What is decoded is framed**, and its code page is known. -/
theorem exists_framed_of_ok {names : σ} {data : List UInt8} {stop : Int} {d : Decoded}
    (h : (decode o names data stop).outcome = .ok d) :
    Framed data stop (data.take stop.toNat) ∧ ∃ page, CodePage.ofName? o.variant.charset = some page := by
  rcases decode_cases o names data stop with ⟨-, same⟩ | ⟨-, -, same⟩ | ⟨page, known, framed, -⟩
  · rw [same] at h
    cases h
  · rw [same] at h
    cases h
  · exact ⟨framed, page, known⟩

end SheetFormula
