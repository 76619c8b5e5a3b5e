import SheetFormula.Proofs.Lockstep

/-!
# Runs in lockstep

Two machines in circumstances that go together take the same steps, log the same, and come to the same end:

* **`Lockstep.Machines`** — machines that go together. So they do after a step (`Lockstep.Machines.stepped`),
  all along a run (`Lockstep.Machines.visits`) and at its end (`Lockstep.Machines.runsTo`);
* **`Lockstep.Runs`** — outcomes that go together: nothing but texts and references tells them apart;
* **`Lockstep.decodeFormula`** — decoding comes to such outcomes, also in data that differ behind the end;
* **`Options.answered`** — decoders that get the same answers about names are in lockstep, whatever state is
  kept behind the answers. So names show by their answers only (`decodeFormula_answered`,
  `decode_answered`).
-/

namespace SheetFormula

namespace Lockstep

variable {σ τ : Type} {o : Options σ} {o' : Options τ} {page page' : CodePage}
  (S : Lockstep o page o' page')

/-! ## Steps -/

/-- **Machines that go together**. -/
structure Machines (m : Machine σ) (m' : Machine τ) : Prop where
  /-- What is left to read. -/
  source : S.Sources m.source m'.source
  /-- The operands. -/
  stack : List.Forall₂ S.lists m.stack.items m'.stack.items
  /-- The log. -/
  log : m'.log = m.log
  /-- The last opcode. -/
  last : m'.last = m.last

/-- **Steps that end together**. -/
inductive Progresses : Machine.Progress σ → Machine.Progress τ → Prop
  | running {m : Machine σ} {m' : Machine τ} (machines : S.Machines m m') :
      Progresses (.running m) (.running m')
  | ended {m : Machine σ} {m' : Machine τ} (machines : S.Machines m m') : Progresses (.ended m) (.ended m')
  | stopped (stop : Stop) {m : Machine σ} {m' : Machine τ} (machines : S.Machines m m') :
      Progresses (.stopped stop m) (.stopped stop m')

variable {S} {m : Machine σ} {m' : Machine τ}

/-- As many operands are on the stack. -/
theorem Machines.depth (h : S.Machines m m') : m'.stack.depth = m.stack.depth := by
  rw [m.stack.depth_eq, m'.stack.depth_eq, h.stack.length_eq]

/-- Lists that go together are put on. -/
theorem Machines.push (h : S.Machines m m') {list list' : List Instruction} (lists : S.lists list list') :
    S.Machines (m.push list) (m'.push list') :=
  ⟨h.source, .cons lists h.stack, h.log, h.last⟩

/-- The same note is added. -/
theorem Machines.note (h : S.Machines m m') (n : Note) : S.Machines (m.note n) (m'.note n) :=
  ⟨⟨h.source.code, h.source.whole, h.source.supply, h.source.behind, S.noted n h.source.trace⟩, h.stack,
    h.log, h.last⟩

/-- The same is logged. -/
theorem Machines.logged (h : S.Machines m m') (e : LogEntry) : S.Machines (m.logged e) (m'.logged e) :=
  ⟨h.source, h.stack, by rw [Machine.logged, Machine.logged, h.log], h.last⟩

/-- **The same number of operands stands on top**, and they go together. -/
theorem Machines.exists_operands (h : S.Machines m m') {args : List (List Instruction)} {stack : OperandStack}
    (items : m.stack.items = args.reverse ++ stack.items) :
    ∃ (args' : List (List Instruction)) (stack' : OperandStack),
      m'.stack.items = args'.reverse ++ stack'.items ∧
      List.Forall₂ S.lists args args' ∧ List.Forall₂ S.lists stack.items stack'.items := by
  have both := h.stack
  rw [items] at both
  -- The other stack is cut after as many lists.
  have both := both.flip
  let n := args.reverse.length
  refine ⟨(m'.stack.items.take n).reverse, ⟨m'.stack.items.drop n, _, rfl⟩, ?_, ?_, ?_⟩
  · rw [List.reverse_reverse, List.take_append_drop]
  · have taken := List.rel_reverse (List.forall₂_take_append _ _ _ both).flip
    rwa [List.reverse_reverse] at taken
  · exact (List.forall₂_drop_append _ _ _ both).flip

/-- **Reductions go together.** -/
theorem Machines.reduced (h : S.Machines m m') {r : Reduction} {offset : Nat} {p : Machine.Progress σ}
    (reduced : m.Reduced r offset p) : ∃ p', m'.Reduced r offset p' ∧ S.Progresses p p' := by
  cases reduced with
  | few few =>
      refine ⟨_, .few (h.depth ▸ few), ?_⟩
      rw [h.depth]
      exact .stopped _ h
  | @term args stack length items term =>
      obtain ⟨args', stack', items', alike, below⟩ := h.exists_operands items
      obtain ⟨lists, periods⟩ := r.write_alike length alike
      have next : S.Machines { m with stack } { m' with stack := stack' } := ⟨h.source, below, h.log, h.last⟩
      have length' : args'.length = r.operands := alike.length_eq ▸ length
      -- The second side has a term function too, so that both of them note it.
      have term' : r.periods? args' = some (r.write args') := by
        refine (r.write_spec length').resolve_right fun plain => ?_
        rw [periods.mpr plain.1] at term
        cases term
      exact ⟨_, .term length' items' term', .running ((next.push lists).note _)⟩
  | @plain args stack length items plain =>
      obtain ⟨args', stack', items', alike, below⟩ := h.exists_operands items
      obtain ⟨lists, periods⟩ := r.write_alike length alike
      have next : S.Machines { m with stack } { m' with stack := stack' } := ⟨h.source, below, h.log, h.last⟩
      exact ⟨_, .plain (alike.length_eq ▸ length) items' (periods.mp plain), .running (next.push lists)⟩

/-- Literals go together. -/
theorem Payloads.literal? {p p' : Payload} (h : S.Payloads p p') {i : Instruction}
    (literal : p.literal? = some i) :
    ∃ i', p'.literal? = some i' ∧ S.instruction i i' := by
  cases h with
  | text content =>
      cases literal
      exact ⟨_, rfl, .text content⟩
  | same other =>
      cases p with
      | number bits =>
          cases literal
          exact ⟨_, rfl, .number bits⟩
      | integer value =>
          cases literal
          exact ⟨_, rfl, .integer value⟩
      | text content => exact absurd rfl (other content)
      | cellRef | rangeRef | terminator | reduce => cases literal

/-- The instructions of targets go together. -/
theorem Targets.instruction {target target' : Target CellRef} (h : S.Targets target target') :
    S.instruction target.instruction target'.instruction := by
  cases h with
  | cell ref => exact .cell ref
  | range first last => exact .range first last

/-- **Tokens are performed together.** -/
theorem Machines.performed (h : S.Machines m m') {a b : Token} (tokens : S.Tokens a b)
    {p : Machine.Progress σ} (performed : m.Performed o a p) :
    ∃ p', m'.Performed o' b p' ∧ S.Progresses p p' := by
  have payloads := tokens.payload
  -- A reference operand is no text, so both tokens ask for the same one.
  have operand {r : Except Stop (Target CellRef) × TokenSource σ} (hands : m.source.Hands o a.payload r) :
      b.payload = a.payload := by
    refine payloads.eq fun s text => ?_
    rcases Machine.payload_of_hands hands with cell | range
    · cases text.symm.trans cell
    · cases text.symm.trans range
  cases performed with
  | literal literal =>
      obtain ⟨i', literal', alike⟩ := payloads.literal? literal
      exact ⟨_, .literal literal', .running (h.push (.cons alike .nil))⟩
  | target hands =>
      obtain ⟨⟨_, source'⟩, hands', together⟩ := S.hands h.source hands
      rw [← operand hands] at hands'
      cases together with
      | ok targets sources =>
          have next : S.Machines { m with source := _ } { m' with source := source' } :=
            ⟨sources, h.stack, h.log, h.last⟩
          exact ⟨_, .target hands', .running (next.push (.cons targets.instruction .nil))⟩
  | noTarget hands =>
      obtain ⟨⟨_, source'⟩, hands', together⟩ := S.hands h.source hands
      rw [← operand hands] at hands'
      cases together with
      | error _ sources => exact ⟨_, .noTarget hands', .stopped _ ⟨sources, h.stack, h.log, h.last⟩⟩
  | terminator ends =>
      rw [ends] at payloads
      exact ⟨_, .terminator (payloads.eq (by simp)), .ended h⟩
  | reduction opcode payload reduced =>
      rw [payload] at payloads
      obtain ⟨p', reduced', progresses⟩ := h.reduced reduced
      rw [← tokens.offset] at reduced'
      exact ⟨p', .reduction (tokens.opcode.trans opcode) (payloads.eq (by simp)) reduced', progresses⟩

/-- **Steps go together.** -/
theorem Machines.stepped (h : S.Machines m m') {p : Machine.Progress σ} (step : m.Stepped o page p) :
    ∃ p', m'.Stepped o' page' p' ∧ S.Progresses p p' := by
  have spec := Token.read_spec page m.source.code
  have whole' := h.source.code.whole h.source.whole
  cases step with
  | @unread stop code read =>
      rw [read] at spec
      obtain ⟨⟨_, code'⟩, read', together⟩ := S.tokenRead h.source.code spec
      cases together with
      | error _ agrees =>
          refine ⟨_, .unread (read'.eq whole'), .stopped _ ⟨⟨agrees, ?_, ?_, ?_, ?_⟩, h.stack, h.log, ?_⟩⟩
          · exact spec.passes.whole h.source.whole
          · exact h.source.supply
          · exact h.source.behind
          · exact h.source.trace
          · exact congrArg (Machine.lastAfter · stop) h.last
  | @performed token code p read performed =>
      rw [read] at spec
      obtain ⟨⟨_, code'⟩, read', together⟩ := S.tokenRead h.source.code spec
      cases together with
      | @ok _ token' _ _ tokens agrees =>
          have sources : S.Sources { m.source with code } { m'.source with code := code' } :=
            ⟨agrees, spec.passes.whole h.source.whole, h.source.supply, h.source.behind, h.source.trace⟩
          -- A log entry shows the opcode, its place, its count and the depth: all are the same.
          have entry : m'.entryOf token' = m.entryOf token := by
            rw [Machine.entryOf, Machine.entryOf, tokens.opcode, tokens.offset, tokens.payload.operands,
              h.depth]
          have next : S.Machines (m.took token { m.source with code })
              (m'.took token' { m'.source with code := code' }) := by
            refine ⟨sources, h.stack, ?_, ?_⟩
            · show m'.entryOf token' :: m'.log = m.entryOf token :: m.log
              rw [entry, h.log]
            · show some token'.opcode.code = some token.opcode.code
              rw [tokens.opcode]
          obtain ⟨p', performed', progresses⟩ := next.performed tokens performed
          exact ⟨p', .performed (read'.eq whole') performed', progresses⟩

/-! ## Runs -/

/-- **Decoded formulas that go together**. -/
structure Formulas (S : Lockstep o page o' page') (d d' : Decoded) : Prop where
  /-- The instructions. -/
  instructions : S.lists d.instructions d'.instructions
  /-- The warning. -/
  warning : d'.warning = d.warning
  /-- The notes are those of traces that go together. -/
  notes : ∃ t t', S.trace t t' ∧ d.notes = t.notes.reverse ∧ d'.notes = t'.notes.reverse

/-- The same number of unused references is noted. -/
theorem Machines.notePending (h : S.Machines m m') : S.Machines m.notePending m'.notePending := by
  unfold Machine.notePending
  rw [h.source.supply.pending]
  split
  · exact h.note _
  · exact h

/-- The same bytes are left behind a terminator. -/
theorem Machines.warnTrailing (h : S.Machines m m') :
    m'.warnTrailing.1 = m.warnTrailing.1 ∧ S.Machines m.warnTrailing.2 m'.warnTrailing.2 := by
  unfold Machine.warnTrailing
  simp only [h.source.code.pos, h.source.code.limit, h.source.code.left]
  split
  · exact ⟨rfl, (h.note _).logged _⟩
  · exact ⟨rfl, h⟩

/-- The same bytes are left behind a table. -/
theorem Machines.warnTail (h : S.Machines m m') (w : Option DecodeError) :
    (m'.warnTail w).1 = (m.warnTail w).1 ∧ S.Machines (m.warnTail w).2 (m'.warnTail w).2 := by
  unfold Machine.warnTail
  rw [h.source.behind]
  split
  · exact ⟨rfl, h⟩
  · exact ⟨rfl, h⟩
  · split
    · exact ⟨rfl, h.note _⟩
    · exact ⟨rfl, (h.logged _).note _⟩

/-- Runs that left lists that go together are concluded together. -/
theorem Machines.conclude (h : S.Machines m m') (terminated : Bool) {list list' : List Instruction}
    (lists : S.lists list list') :
    S.Formulas (m.conclude terminated list).1 (m'.conclude terminated list').1 ∧
      S.Machines (m.conclude terminated list).2 (m'.conclude terminated list').2 := by
  have pending := h.notePending
  -- Bytes behind the terminator are the same on both sides, and so are those behind the table.
  have stream : (if terminated then m'.notePending.warnTrailing else (none, m'.notePending)).1 =
      (if terminated then m.notePending.warnTrailing else (none, m.notePending)).1 ∧
      S.Machines (if terminated then m.notePending.warnTrailing else (none, m.notePending)).2
        (if terminated then m'.notePending.warnTrailing else (none, m'.notePending)).2 := by
    cases terminated with
    | false => exact ⟨rfl, pending⟩
    | true => exact pending.warnTrailing
  unfold Machine.conclude
  generalize (if terminated then m.notePending.warnTrailing else (none, m.notePending)) = r at stream ⊢
  generalize (if terminated then m'.notePending.warnTrailing else (none, m'.notePending)) = r' at stream ⊢
  obtain ⟨w, n⟩ := r
  obtain ⟨w', n'⟩ := r'
  obtain ⟨rfl, machines⟩ := stream
  obtain ⟨warning, machines⟩ := machines.warnTail w'
  exact ⟨⟨lists, warning, _, _, machines.source.trace, rfl, rfl⟩, machines⟩

/-- **Runs are finished together.** -/
theorem Machines.finish (h : S.Machines m m') (terminated : Bool) :
    Together S.Formulas S.Machines (m.finish terminated) (m'.finish terminated) := by
  have stack := h.stack
  unfold Machine.finish
  rw [h.last, h.source.code.pos, h.depth]
  generalize m.stack.items = items at stack ⊢
  generalize m'.stack.items = items' at stack ⊢
  rcases stack with _ | ⟨lists, _ | ⟨lists', others⟩⟩
  · exact .error _ h
  · obtain ⟨formulas, machines⟩ := h.conclude terminated lists
    exact .ok formulas machines
  · exact .error _ h

/-- **Along two runs** the machines go together. -/
theorem Machines.visits (h : S.Machines m m') {p : Machine.Progress σ} (visits : Machine.Visits o page m p) :
    ∃ p', Machine.Visits o' page' m' p' ∧ S.Progresses p p' := by
  induction visits with
  | start => exact ⟨_, .start, .running h⟩
  | @step n before more ih =>
      obtain ⟨_, before', progresses⟩ := ih
      cases progresses with
      | @running n n' machines =>
          -- Neither machine is at its limit before the other.
          have more' : (n'.source.code.pos : Int) < n'.source.code.limit := by
            rwa [machines.source.code.pos, machines.source.code.limit]
          obtain ⟨p', step', progresses⟩ := machines.stepped (n.step_spec o page)
          exact ⟨p', step'.eq ▸ before'.step more', progresses⟩

/-- **Whole runs go together.** -/
theorem Machines.runsTo (h : S.Machines m m') {r : Except Stop Decoded × Machine σ}
    (runs : Machine.RunsTo o page m r) :
    ∃ r', Machine.RunsTo o' page' m' r' ∧ Together S.Formulas S.Machines r r' := by
  obtain ⟨p, visits, concludes⟩ := runs
  obtain ⟨p', visits', progresses⟩ := h.visits visits
  -- Whichever way the first run ends, the second one stands at the same kind of end.
  cases concludes with
  | exhausted exhausted =>
      cases progresses with
      | @running n n' machines =>
          have exhausted' : n'.source.code.limit ≤ n'.source.code.pos := by
            rwa [machines.source.code.pos, machines.source.code.limit]
          exact ⟨_, ⟨_, visits', .exhausted exhausted'⟩, machines.finish false⟩
  | ended m =>
      cases progresses with
      | ended machines => exact ⟨_, ⟨_, visits', .ended _⟩, machines.finish true⟩
  | stopped stop m =>
      cases progresses with
      | stopped _ machines => exact ⟨_, ⟨_, visits', .stopped stop _⟩, .error stop machines⟩

/-! ## Decoding -/

/-- **Outcomes that go together**: both are decoded, or both fail with the same error. -/
inductive Outcomes (S : Lockstep o page o' page') : Except Failure Decoded → Except Failure Decoded → Prop
  | decoded {d d' : Decoded} (formulas : S.Formulas d d') : Outcomes S (.ok d) (.ok d')
  | rejected (e : DecodeError) (last : Option UInt8) (dump : List UInt8) {t : Trace σ} {t' : Trace τ}
      (traces : S.trace t t') {stack stack' : OperandStack}
      (operands : List.Forall₂ S.lists stack.items stack'.items) :
      Outcomes S (.error (.rejected e (failureNotes t.notes stack last e.cause.kind) dump))
        (.error (.rejected e (failureNotes t'.notes stack' last e.cause.kind) dump))
  | fault : Outcomes S (.error .fault) (.error .fault)

/-- **Runs of the decoder that go together**. -/
structure Runs (S : Lockstep o page o' page') (r : Run σ) (r' : Run τ) : Prop where
  /-- The outcomes. -/
  outcome : S.Outcomes r.outcome r'.outcome
  /-- The log is the same. -/
  log : r'.log = r.log
  /-- The states of the names are those of traces that go together. -/
  names : ∃ t t', S.trace t t' ∧ r.names = t.names ∧ r'.names = t'.names

variable {data data' : List UInt8} {stop : Int}

/-- **Failures go together**: data that agree before the end are dumped alike. -/
theorem Outcomes.ofStop (agrees : (Cursor.ofData data stop).Agrees (.ofData data' stop)) {t : Trace σ}
    {t' : Trace τ} (traces : S.trace t t') {stack stack' : OperandStack}
    (operands : List.Forall₂ S.lists stack.items stack'.items) (last : Option UInt8) (reason : Stop) :
    S.Outcomes (.error (.ofStop data stop t.notes stack last reason))
      (.error (.ofStop data' stop t'.notes stack' last reason)) := by
  have dump : HexDump.bytes? data' 0 stop = HexDump.bytes? data 0 stop := by
    have same := agrees.rest_eq
    rw [Cursor.rest_ofData, Cursor.rest_ofData] at same
    rw [HexDump.bytes?_of_nonneg data (Int.le_refl 0), HexDump.bytes?_of_nonneg data' (Int.le_refl 0)]
    exact congrArg some same
  cases reason with
  | fault => exact .fault
  | error e =>
      unfold Failure.ofStop
      rw [dump]
      cases HexDump.bytes? data 0 stop with
      | none => exact .fault
      | some dump => exact .rejected e last dump traces operands

/-- **Decoding goes together.** -/
theorem decodeFormula (S : Lockstep o page o' page') {names : σ} {names' : τ}
    (start : S.trace ⟨names, []⟩ ⟨names', []⟩)
    (agrees : (Cursor.ofData data stop).Agrees (.ofData data' stop))
    (whole : (Cursor.ofData data stop).Whole) :
    S.Runs (SheetFormula.decodeFormula o page names data stop)
      (SheetFormula.decodeFormula o' page' names' data' stop) := by
  have spec := decodeFormula_spec o page names data stop
  have opens := TokenSource.ofCursor_spec o (.ofData data stop) ⟨names, []⟩
  -- An opened formula is opened on the second side, and the machines start together.
  have started {source : TokenSource σ} {t : Trace σ}
      (opened : TokenSource.ofCursor o (.ofData data stop) ⟨names, []⟩ = (.ok source, t)) :
      ∃ source' t', TokenSource.ofCursor o' (.ofData data' stop) ⟨names', []⟩ = (.ok source', t') ∧
        S.Machines { source } { source := source' } := by
    rw [opened] at opens
    obtain ⟨⟨_, t'⟩, opens', together⟩ := S.opens agrees whole start opens
    cases together with
    | @ok _ source' _ _ sources traces => exact ⟨source', t', opens'.eq, sources, .nil, rfl, rfl⟩
  -- The second run is what the first one makes of it.
  have second : ∃ r', Decodes o' page' names' data' stop r' ∧
      S.Runs (SheetFormula.decodeFormula o page names data stop) r' := by
    generalize SheetFormula.decodeFormula o page names data stop = r at spec ⊢
    cases spec with
    | @unopened reason t unopened =>
        rw [unopened] at opens
        obtain ⟨⟨_, _⟩, opens', together⟩ := S.opens agrees whole start opens
        cases together with
        | error _ traces =>
            exact ⟨_, .unopened opens'.eq, .ofStop agrees traces .nil none reason, rfl, _, _, traces, rfl,
              rfl⟩
    | decoded opened runs =>
        obtain ⟨source', t', opened', machines⟩ := started opened
        obtain ⟨⟨_, _⟩, runs', together⟩ := machines.runsTo runs
        cases together with
        | ok formulas machines =>
            exact ⟨_, .decoded opened' runs', .decoded formulas, congrArg List.reverse machines.log, _, _,
              machines.source.trace, rfl, rfl⟩
    | @failed source t reason m opened runs =>
        obtain ⟨source', t', opened', machines⟩ := started opened
        obtain ⟨⟨_, _⟩, runs', together⟩ := machines.runsTo runs
        cases together with
        | @error _ _ m' machines =>
            refine ⟨_, .failed opened' runs', ?_, ?_, _, _, machines.source.trace, rfl, rfl⟩
            · unfold Machine.failure
              rw [machines.last]
              exact .ofStop agrees machines.source.trace machines.stack m.last reason
            · cases reason with
              | fault => exact congrArg List.reverse machines.log
              | error e => exact congrArg List.reverse (machines.logged (.failed e.message)).log
  obtain ⟨r', decodes, runs⟩ := second
  rw [decodes.eq]
  exact runs

/-- **Outcomes that nothing tells apart are equal**: texts and references are the same, and so are the
notes. -/
theorem Outcomes.eq (text : S.text = Eq) (ref : S.ref = Eq)
    (noted : ∀ {t : Trace σ} {t' : Trace τ}, S.trace t t' → t'.notes = t.notes)
    {r r' : Except Failure Decoded} (h : S.Outcomes r r') : r = r' := by
  have lists : ∀ {list list'}, S.lists list list' → list = list' := by
    intro list list' alike
    unfold Lockstep.lists instruction at alike
    rw [text, ref] at alike
    exact Instruction.eq_of_forall₂ alike
  cases h with
  | @decoded d d' formulas =>
      -- Instructions, warning and notes are equal one by one.
      obtain ⟨list, w, notes⟩ := d
      obtain ⟨list', w', notes'⟩ := d'
      obtain ⟨instructions, warning, t, t', traces, rfl, rfl⟩ := formulas
      obtain rfl : list = list' := lists instructions
      obtain rfl : w' = w := warning
      rw [noted traces]
  | @rejected e last dump t t' traces stack stack' operands =>
      have same : List.Forall₂ Eq stack.items stack'.items := operands.imp fun _ _ => lists
      rw [List.forall₂_eq_eq_eq] at same
      rw [OperandStack.ext_items same, noted traces]
  | fault => rfl

end Lockstep

/-! ## Names that answer alike -/

section Answered

variable {σ τ : Type} {R : σ → τ → Prop} {r' : Resolver τ}

/-- **Traces with the same answers**: the names are related, and the notes are the same. -/
def Trace.Answered (R : σ → τ → Prop) (t : Trace σ) (t' : Trace τ) : Prop :=
  R t.names t'.names ∧ t'.notes = t.notes

namespace Options

variable (o : Options σ)

/-- **The same answers give the same references**, and the same notes. -/
theorem resolve_answered (related : Resolver.Relates R o.resolver r') (f : RefFields) {t : Trace σ}
    {t' : Trace τ} (h : Trace.Answered R t t') :
    Together Eq (Trace.Answered R) (o.resolve f t) ((o.withResolver r').resolve f t') :=
  o.resolve_related (Q := fun l l' => l' = l) related (fun n _ _ same => congrArg (n :: ·) same) f h

/-- Decoders whose names answer alike, in lockstep. -/
def answered (page : CodePage) (related : Resolver.Relates R o.resolver r') :
    Lockstep o page (o.withResolver r') page :=
  .onePage (Trace.Answered R) Eq rfl rfl (fun f _ _ traces => o.resolve_answered related f traces)
    (fun n _ _ traces => ⟨traces.1, congrArg (n :: ·) traces.2⟩)

end Options

/-- **The same answers give the same outcome** and the same log, also where the data differ behind the end. -/
theorem decodeFormula_answered (o : Options σ) (page : CodePage) (related : Resolver.Relates R o.resolver r')
    {s : σ} {s' : τ} (h : R s s') {data data' : List UInt8} {stop : Int}
    (agrees : (Cursor.ofData data stop).Agrees (.ofData data' stop))
    (whole : (Cursor.ofData data stop).Whole) :
    (decodeFormula o page s data stop).outcome =
      (decodeFormula (o.withResolver r') page s' data' stop).outcome ∧
      (decodeFormula o page s data stop).log = (decodeFormula (o.withResolver r') page s' data' stop).log ∧
      R (decodeFormula o page s data stop).names
        (decodeFormula (o.withResolver r') page s' data' stop).names := by
  have start : (o.answered page related).trace ⟨s, []⟩ ⟨s', []⟩ := ⟨h, rfl⟩
  obtain ⟨outcomes, log, t, t', traces, names, names'⟩ :=
    (o.answered page related).decodeFormula start agrees whole
  have noted : ∀ {t : Trace σ} {t' : Trace τ}, (o.answered page related).trace t t' → t'.notes = t.notes :=
    fun answered => answered.2
  refine ⟨outcomes.eq rfl rfl noted, log.symm, ?_⟩
  rw [names, names']
  exact traces.1

/-- **Names show by their answers only.** With names that answer alike, decoding has the same outcome and the
same log, and the names answer alike after it. -/
theorem decode_answered (o : Options σ) (related : Resolver.Relates R o.resolver r') {s : σ} {s' : τ}
    (h : R s s') (data : List UInt8) (stop : Int) :
    (decode o s data stop).outcome = (decode (o.withResolver r') s' data stop).outcome ∧
      (decode o s data stop).log = (decode (o.withResolver r') s' data stop).log ∧
      R (decode o s data stop).names (decode (o.withResolver r') s' data stop).names := by
  rcases decode_cases o s data stop with
    ⟨outside, same⟩ | ⟨framed, unknown, same⟩ | ⟨page, known, framed, same⟩
  · rw [same, decode_outside outside]
    exact ⟨rfl, rfl, h⟩
  · have unknown' : CodePage.ofName? (o.withResolver r').variant.charset = none := unknown
    rw [same, framed.decode_unknown unknown']
    exact ⟨rfl, rfl, h⟩
  · have known' : CodePage.ofName? (o.withResolver r').variant.charset = some page := known
    rw [same, framed.decode_eq known']
    exact decodeFormula_answered o page related h (.refl _) framed.whole

end Answered

end SheetFormula
