import SheetFormula.Proofs.MachineStep

/-!
# Runs of the decoder

How a whole run of the decoding machine ends, and which formulas are decoded:

* **`Machine.Ends`** — the result of a run, whatever machine it ends with;
* **`Machine.Reaches`** — runs labelled with the lexemes they performed; the operand stack is the result of
  `Lexeme.run` on those;
* **`Machine.Ending`**, **`Machine.exists_ending`** — every run comes to an ending: the stream is exhausted, a
  terminator was read, or an error stops it;
* **`Machine.ends_ok_iff`**, **`exists_outcome_ok_iff`** — which runs succeed, and so which formulas are
  decoded.
-/

namespace SheetFormula

variable {σ : Type}

/-! ## The end of a run -/

/-- **Warning about bytes that were not read** before the end of a stream. -/
def Cursor.warning (c : Cursor) : Option DecodeError :=
  if c.pos < c.limit then some ⟨.trailing, c.pos⟩ else none

/-- Where all bytes are there, those that are ahead are warned about. -/
theorem Cursor.Whole.warning_eq {c : Cursor} (whole : c.Whole) :
    c.warning = if c.rest = [] then none else some ⟨.trailing, c.pos⟩ := by
  rw [Cursor.warning]
  by_cases nothing : c.rest = []
  · have exhausted := whole.limit_le_of_rest nothing
    rw [if_pos nothing, if_neg (by omega)]
  · rw [if_neg nothing, if_pos (Cursor.pos_lt_limit nothing)]

/-- **Warning behind a terminator** with some bytes before it. -/
theorem Cursor.Whole.warning_terminated {c : Cursor} (whole : c.Whole) {front rest : List UInt8}
    (ahead : c.rest = front ++ 0x03 :: rest) :
    ((c.skip front.length).skip 1).warning =
      if rest = [] then none else some ⟨.trailing, c.pos + front.length + 1⟩ := by
  have terminator : (c.skip front.length).rest = [0x03] ++ rest := Cursor.rest_skip_of_append ahead
  have behind : ((c.skip front.length).skip 1).rest = rest := Cursor.rest_skip_of_append terminator
  have whole' : ((c.skip front.length).skip 1).Whole :=
    (Cursor.Passes.block terminator).whole ((Cursor.Passes.block ahead).whole whole)
  rw [whole'.warning_eq, behind]
  rfl

/-- **Warning about bytes behind a reference table**. -/
def tailWarning : Option (Nat × Nat) → Option DecodeError
  | none => none
  | some (start, count) => if count = 0 then none else some ⟨.trailing, start⟩

namespace Machine

variable {o : Options σ} {page : CodePage}

/-- References that nobody took are only noted. -/
theorem core_notePending (m : Machine σ) : m.notePending.core = m.core := by
  rw [notePending]
  split
  · exact m.core_note _
  · rfl

/-- Bytes behind the terminator are warned about, and only noted otherwise. -/
theorem warnTrailing_eq (m : Machine σ) :
    m.warnTrailing.1 = m.source.code.warning ∧ m.warnTrailing.2.core = m.core := by
  unfold warnTrailing Cursor.warning
  dsimp only
  split
  · exact ⟨rfl, rfl⟩
  · exact ⟨rfl, rfl⟩

/-- A warning about the stream goes before one about the table. -/
theorem warnTail_eq (m : Machine σ) (w : Option DecodeError) :
    (m.warnTail w).1 = w.or (tailWarning m.source.behind) := by
  unfold warnTail
  rcases m.source.behind with _ | ⟨start, _ | count⟩
  · rw [tailWarning, Option.or_none]
  · rw [tailWarning, if_pos rfl, Option.or_none]
  · rw [tailWarning, if_neg (Nat.succ_ne_zero count)]
    cases w <;> rfl

/-- **Warning at the end of a run**: about the stream when a terminator was read, and about the table. -/
def endWarning (terminated : Bool) (m : Machine σ) : Option DecodeError :=
  (if terminated then m.source.code.warning else none).or (tailWarning m.source.behind)

/-- **A run concludes** with its operand and the warning at its end. -/
theorem conclude_eq (m : Machine σ) (terminated : Bool) (list : List Instruction) :
    (m.conclude terminated list).1.instructions = list ∧
      (m.conclude terminated list).1.warning = m.endWarning terminated := by
  refine ⟨rfl, ?_⟩
  -- Notes do not touch what warnings are made from.
  have pending := core_eq_iff.mp m.core_notePending
  obtain ⟨warning, core⟩ := m.notePending.warnTrailing_eq
  have trailing := core_eq_iff.mp (core.trans m.core_notePending)
  cases terminated with
  | false =>
      show (m.notePending.warnTail none).1 = _
      rw [warnTail_eq, pending.2.2.2.1]
      rfl
  | true =>
      show (m.notePending.warnTrailing.2.warnTail m.notePending.warnTrailing.1).1 = _
      rw [warnTail_eq, warning, trailing.2.2.2.1, pending.1]
      rfl

/-- **A single operand is the formula.** -/
theorem finish_single {m : Machine σ} {list : List Instruction} (h : m.stack.items = [list])
    (terminated : Bool) : (m.finish terminated).1 = .ok (m.conclude terminated list).1 := by
  rw [finish, h]

/-- **No operand, or several of them, are no formula.** -/
theorem finish_error {m : Machine σ} (h : m.stack.items.length ≠ 1) (terminated : Bool) :
    (m.finish terminated).1 = .error (.error
      ⟨if m.stack.items = [] then .underflow m.last 1 0 else .excess m.last m.stack.items.length,
        m.source.code.pos⟩) := by
  rw [finish]
  split
  · next none => rw [if_pos none]
  · next one => simp [one] at h
  · next none _ => rw [if_neg none, m.stack.depth_eq]

/-! ## Whole runs -/

/-- **A machine ends with a result**, in whatever state. -/
def Ends (o : Options σ) (page : CodePage) (m : Machine σ) (result : Except Stop Decoded) : Prop :=
  ∃ m', RunsTo o page m (result, m')

/-- A machine ends with one result. -/
theorem Ends.unique {m : Machine σ} {result result' : Except Stop Decoded} (h : Ends o page m result)
    (h' : Ends o page m result') : result = result' := by
  obtain ⟨m', runs⟩ := h
  obtain ⟨m'', runs'⟩ := h'
  have enough := Int.self_le_toNat m.source.code.left
  exact congrArg Prod.fst ((runs.run_eq enough).symm.trans (runs'.run_eq enough))

/-- A machine ends where the stream does. -/
theorem ends_exhausted {m : Machine σ} (whole : m.source.code.Whole) (h : m.source.code.rest = []) :
    Ends o page m (m.finish false).1 :=
  ⟨(m.finish false).2, _, .start, .exhausted (whole.limit_le_of_rest h)⟩

/-- A step that goes on hands its result back. -/
theorem ends_of_running {m m' : Machine σ} {result : Except Stop Decoded}
    (something : m.source.code.rest ≠ []) (step : m.step o page = .running m') (h : Ends o page m' result) :
    Ends o page m result := by
  obtain ⟨m'', p, visits, concludes⟩ := h
  have first : Visits o page m (.running m') := step ▸ Visits.start.step (Cursor.pos_lt_limit something)
  exact ⟨m'', p, first.trans visits, concludes⟩

/-- A machine ends behind a terminator. -/
theorem ends_of_ended {m m' : Machine σ} (something : m.source.code.rest ≠ [])
    (step : m.step o page = .ended m') : Ends o page m (m'.finish true).1 := by
  have last : Visits o page m (.ended m') := step ▸ Visits.start.step (Cursor.pos_lt_limit something)
  exact ⟨(m'.finish true).2, _, last, .ended m'⟩

/-- A machine ends where a step stops. -/
theorem ends_of_stopped {m m' : Machine σ} {stop : Stop} (something : m.source.code.rest ≠ [])
    (step : m.step o page = .stopped stop m') : Ends o page m (.error stop) := by
  have last : Visits o page m (.stopped stop m') := step ▸ Visits.start.step (Cursor.pos_lt_limit something)
  exact ⟨m', _, last, .stopped stop m'⟩

/-- **Running through lexemes**: each of them was read and has acted on the stack. -/
inductive Reaches (o : Options σ) (page : CodePage) :
    Machine σ → List (Lexeme (Leaf CellRef)) → Machine σ → Prop
  | refl (m : Machine σ) : Reaches o page m [] m
  | next {m m' m'' : Machine σ} {x : Lexeme (Leaf CellRef)} {xs : List (Lexeme (Leaf CellRef))}
      {f : Feed σ} {operands : List (List Instruction)} (reads : Reads o m.source.feed x f)
      (acts : x.act (fun l => [l.instruction page]) Reduction.write m.stack.items = some operands)
      (core : m'.core = ⟨f, m.source.behind, operands, some x.opcode.code⟩)
      (step : m.step o page = .running m') (others : Reaches o page m' xs m'') :
      Reaches o page m (x :: xs) m''

/-- Reading leaves the bytes there that were there. -/
theorem whole_of_core {m m' : Machine σ} (whole : m.source.code.Whole) {x : Lexeme (Leaf CellRef)}
    {f : Feed σ} (reads : Reads o m.source.feed x f) {behind : Option (Nat × Nat)}
    {operands : List (List Instruction)} {last : Option UInt8}
    (core : m'.core = ⟨f, behind, operands, last⟩) : m'.source.code.Whole := by
  have feed : m'.source.feed = f := (Core.mk.inj core).1
  have whole' := reads.passes.1.whole whole
  rwa [← feed] at whole'

/-- **Runs read and act**: along a run the lexemes are read from the feed, they act on the stack, and the end
of the reference table stays where it is. -/
theorem Reaches.spec {m m' : Machine σ} {xs : List (Lexeme (Leaf CellRef))}
    (h : Reaches o page m xs m') :
    ReadsAll o m.source.feed xs m'.source.feed ∧
      Lexeme.run (fun l => [l.instruction page]) Reduction.write xs m.stack.items =
        some m'.stack.items ∧
      m'.source.behind = m.source.behind := by
  induction h with
  | refl m => exact ⟨.nil _, rfl, rfl⟩
  | @next m m₁ m' x xs f operands reads acts core step others ih =>
      obtain ⟨feed, behind, stack, -⟩ := Core.mk.inj core
      obtain ⟨ihReads, ihRun, ihBehind⟩ := ih
      rw [feed] at ihReads
      rw [stack] at ihRun
      exact ⟨.cons reads ihReads, by rw [Lexeme.run, acts, Option.bind_some, ihRun],
        ihBehind.trans behind⟩

/-- **Lexemes that can be read and act are run through.** -/
theorem exists_reaches {m : Machine σ} (whole : m.source.code.Whole) {xs : List (Lexeme (Leaf CellRef))}
    {f : Feed σ} {operands : List (List Instruction)} (reads : ReadsAll o m.source.feed xs f)
    (acts : Lexeme.run (fun l => [l.instruction page]) Reduction.write xs m.stack.items =
      some operands) :
    ∃ m', Reaches o page m xs m' ∧ m'.source.feed = f ∧ m'.stack.items = operands := by
  generalize hf : m.source.feed = f₀ at reads
  induction reads generalizing m with
  | nil f =>
      rw [Lexeme.run, Option.some.injEq] at acts
      exact ⟨m, .refl m, hf, acts⟩
  | @cons f₀ f₁ f x xs first others ih =>
      subst hf
      rw [Lexeme.run, Option.bind_eq_some_iff] at acts
      obtain ⟨middle, act, acts⟩ := acts
      -- The first lexeme makes one step, and the run goes on from there.
      obtain ⟨m₁, core, step⟩ := step_act whole first act
      obtain ⟨feed, -, stack, -⟩ := Core.mk.inj core
      rw [← stack] at acts
      obtain ⟨m', reaches, final⟩ := ih (whole_of_core whole first core) acts feed
      exact ⟨m', .next first act core step reaches, final⟩

/-- Along a run all bytes stay there. -/
theorem Reaches.whole {m m' : Machine σ} {xs : List (Lexeme (Leaf CellRef))} (h : Reaches o page m xs m')
    (whole : m.source.code.Whole) : m'.source.code.Whole := by
  induction h with
  | refl m => exact whole
  | next reads acts core step others ih => exact ih (whole_of_core whole reads core)

/-- What a machine ends with that was reached, the run ends with. -/
theorem Reaches.ends {m m' : Machine σ} {xs : List (Lexeme (Leaf CellRef))}
    {result : Except Stop Decoded} (h : Reaches o page m xs m') (ends : Ends o page m' result) :
    Ends o page m result := by
  induction h with
  | refl m => exact ends
  | @next m m₁ m' x xs f operands reads acts core step others ih =>
      exact ends_of_running reads.rest_ne_nil step (ih ends)

/-- **Ending of a run** at a machine that reads nothing more: the stream is exhausted, a terminator ends it,
or an error stops it. -/
inductive Ending (o : Options σ) (page : CodePage) (m : Machine σ) : Except Stop Decoded → Prop
  | exhausted (nothing : m.source.code.rest = []) : Ending o page m (m.finish false).1
  | terminated {m' : Machine σ} {f : Feed σ} (reads : Reads o m.source.feed .terminator f)
      (core : m'.core = ⟨f, m.source.behind, m.stack.items, some 0x03⟩)
      (step : m.step o page = .ended m') : Ending o page m (m'.finish true).1
  | stopped {m' : Machine σ} {e : DecodeError} (something : m.source.code.rest ≠ [])
      (step : m.step o page = .stopped (.error e) m') : Ending o page m (.error (.error e))

/-- An ending is a result of the run. -/
theorem Ending.ends {m : Machine σ} {result : Except Stop Decoded} (h : Ending o page m result)
    (whole : m.source.code.Whole) : Ends o page m result := by
  cases h with
  | exhausted nothing => exact ends_exhausted whole nothing
  | terminated reads core step => exact ends_of_ended reads.rest_ne_nil step
  | stopped something step => exact ends_of_stopped something step

/-- **Every run comes to an ending.** -/
theorem exists_ending (o : Options σ) (page : CodePage) {m : Machine σ} (whole : m.source.code.Whole) :
    ∃ xs m' result, Reaches o page m xs m' ∧ Ending o page m' result := by
  -- Each lexeme takes a byte, so the induction is on the bytes that are announced.
  induction bytes : m.source.code.left.toNat using Nat.strongRecOn generalizing m with
  | ind n ih =>
      subst bytes
      by_cases nothing : m.source.code.rest = []
      · exact ⟨[], m, _, .refl m, .exhausted nothing⟩
      · rcases step_cases o page whole with ⟨x, f, reads⟩ | ⟨e, m', failed⟩
        · cases acts : x.act (fun l => [l.instruction page]) Reduction.write m.stack.items with
          | some operands =>
              obtain ⟨m₁, core, step⟩ := step_act whole reads acts
              have whole₁ := whole_of_core whole reads core
              have fewer : m₁.source.code.left.toNat < m.source.code.left.toNat := by
                have fewer := (Stepped.of_eq step).left_lt
                have more := Cursor.pos_lt_limit nothing
                simp only [Cursor.left] at fewer ⊢
                omega
              obtain ⟨xs, m', result, reaches, ending⟩ := ih _ fewer whole₁ rfl
              exact ⟨x :: xs, m', result, .next reads acts core step reaches, ending⟩
          | none =>
              -- A leaf always acts: this is a reduction of too many operands, or a terminator.
              cases x with
              | leaf l => simp [Lexeme.act] at acts
              | reduce r =>
                  have few : m.stack.items.length < r.operands := by simpa [Lexeme.act] using acts
                  obtain ⟨m', step⟩ := step_underflow whole reads few page
                  exact ⟨[], m, _, .refl m, .stopped nothing step⟩
              | terminator =>
                  obtain ⟨m', core, step⟩ := step_terminator whole reads page
                  exact ⟨[], m, _, .refl m, .terminated reads core step⟩
        · exact ⟨[], m, _, .refl m, .stopped nothing failed⟩

/-- **A run succeeds with one operand left.** -/
theorem finish_eq_ok_iff {m : Machine σ} {terminated : Bool} {d : Decoded} :
    (m.finish terminated).1 = .ok d ↔
      m.stack.items = [d.instructions] ∧ (m.conclude terminated d.instructions).1 = d := by
  constructor
  · intro h
    by_cases one : m.stack.items.length = 1
    · obtain ⟨list, single⟩ := List.length_eq_one_iff.mp one
      rw [finish_single single, Except.ok.injEq] at h
      subst h
      exact ⟨single, rfl⟩
    · rw [finish_error one] at h
      cases h
  · rintro ⟨single, concluded⟩
    rw [finish_single single, concluded]

/-- **Which runs succeed**: those whose lexemes leave one operand, up to the end of the stream or to a
terminator. -/
theorem ends_ok_iff {m : Machine σ} (whole : m.source.code.Whole) {list : List Instruction}
    {w : Option DecodeError} :
    (∃ d, Ends o page m (.ok d) ∧ d.instructions = list ∧ d.warning = w) ↔
      ∃ xs f, ReadsAll o m.source.feed xs f ∧
        Lexeme.run (fun l => [l.instruction page]) Reduction.write xs m.stack.items = some [list] ∧
        (f.code.rest = [] ∧ w = tailWarning m.source.behind ∨
          ∃ f', Reads o f .terminator f' ∧ w = f'.code.warning.or (tailWarning m.source.behind)) := by
  constructor
  · -- The run has an ending, and the one that succeeds is its only result.
    rintro ⟨d, ends, rfl, rfl⟩
    obtain ⟨xs, m', result, reaches, ending⟩ := exists_ending o page whole
    obtain ⟨reads, acts, behind⟩ := reaches.spec
    obtain rfl := (reaches.ends (ending.ends (reaches.whole whole))).unique ends
    refine ⟨xs, m'.source.feed, reads, ?_⟩
    rw [acts, Option.some.injEq, ← behind]
    generalize result : Except.ok d = r at ending
    cases ending with
    | exhausted nothing =>
        obtain ⟨single, concluded⟩ := finish_eq_ok_iff.mp result.symm
        refine ⟨single, .inl ⟨nothing, ?_⟩⟩
        rw [← concluded, (conclude_eq _ _ _).2]
        rfl
    | @terminated m'' f reads core step =>
        obtain ⟨feed, behind, stack, -⟩ := Core.mk.inj core
        obtain ⟨single, concluded⟩ := finish_eq_ok_iff.mp result.symm
        refine ⟨stack ▸ single, .inr ⟨f, reads, ?_⟩⟩
        rw [← concluded, (conclude_eq _ _ _).2, ← feed, ← behind]
        rfl
    | stopped something step => cases result
  · -- Lexemes that can be read and act are run through, and then nothing or a terminator is left.
    rintro ⟨xs, f, reads, acts, ends⟩
    obtain ⟨m', reaches, rfl, single⟩ := exists_reaches whole reads acts
    obtain ⟨-, -, behind⟩ := reaches.spec
    have whole' := reaches.whole whole
    rcases ends with ⟨nothing, rfl⟩ | ⟨f', terminator, rfl⟩
    · refine ⟨_, reaches.ends (finish_single single false ▸ ends_exhausted whole' nothing), rfl, ?_⟩
      rw [(conclude_eq _ _ _).2, ← behind]
      rfl
    · obtain ⟨m'', core, step⟩ := step_terminator whole' terminator page
      obtain ⟨feed, behind', stack, -⟩ := Core.mk.inj core
      have ended := ends_of_ended terminator.rest_ne_nil step
      rw [finish_single (stack.trans single)] at ended
      refine ⟨_, reaches.ends ended, rfl, ?_⟩
      rw [(conclude_eq _ _ _).2, ← behind, ← behind', ← feed]
      rfl

end Machine

/-! ## Decoding -/

section Decoding

variable {o : Options σ} {page : CodePage} {names : σ} {data formula : List UInt8} {stop : Int}
  {source : TokenSource σ} {t : Trace σ}

/-- **What becomes of the result of a run**: a rejected formula is dumped as a whole. -/
inductive Delivers (formula : List UInt8) : Except Stop Decoded → Except Failure Decoded → Prop
  | decoded (d : Decoded) : Delivers formula (.ok d) (.ok d)
  | rejected (e : DecodeError) (notes : List Note) :
      Delivers formula (.error (.error e)) (.error (.rejected e notes formula))
  | fault : Delivers formula (.error .fault) (.error .fault)

/-- The bytes of a dump are those of the formula. -/
theorem Framed.dump_eq (framed : Framed data stop formula) : HexDump.bytes? data 0 stop = some formula := by
  rw [HexDump.bytes?_of_nonneg data (Int.le_refl 0), ← framed.bytes]
  rfl

/-- A failure of a formula is delivered with its dump. -/
theorem Framed.delivers_ofStop (framed : Framed data stop formula) (notes : List Note) (stack : OperandStack)
    (last : Option UInt8) (reason : Stop) :
    Delivers formula (.error reason) (.error (.ofStop data stop notes stack last reason)) := by
  cases reason with
  | fault => exact .fault
  | error e =>
      rw [Failure.ofStop, framed.dump_eq]
      exact .rejected e _

/-- **An opened formula is decoded by the run of its source.** -/
theorem outcome_of_ends (framed : Framed data stop formula)
    (opened : TokenSource.ofCursor o (.ofData data stop) ⟨names, []⟩ = (.ok source, t))
    {result : Except Stop Decoded} (ends : Machine.Ends o page { source } result) :
    Delivers formula result (decodeFormula o page names data stop).outcome := by
  obtain ⟨m, runs⟩ := ends
  cases result with
  | ok d =>
      rw [(Decodes.decoded opened runs).eq]
      exact .decoded d
  | error reason =>
      rw [(Decodes.failed opened runs).eq]
      exact framed.delivers_ofStop _ _ _ reason

/-- Success of decoding is success of the run. -/
theorem outcome_eq_ok_iff (opened : TokenSource.ofCursor o (.ofData data stop) ⟨names, []⟩ = (.ok source, t))
    {d : Decoded} :
    (decodeFormula o page names data stop).outcome = .ok d ↔ Machine.Ends o page { source } (.ok d) := by
  constructor
  · intro ok
    have decodes := decodeFormula_spec o page names data stop
    generalize decodeFormula o page names data stop = r at decodes ok
    cases decodes with
    | unopened unopened => cases ok
    | @decoded source' t' d' m opened' runs =>
        cases opened.symm.trans opened'
        cases ok
        exact ⟨m, runs⟩
    | failed opened' runs => cases ok
  · rintro ⟨m, runs⟩
    rw [(Decodes.decoded opened runs).eq]

/-- **Which opened formulas are decoded**: those whose lexemes leave one operand. -/
theorem exists_outcome_ok_iff
    (opened : TokenSource.ofCursor o (.ofData data stop) ⟨names, []⟩ = (.ok source, t))
    (whole : source.code.Whole) {list : List Instruction} {w : Option DecodeError} :
    (∃ d, (decodeFormula o page names data stop).outcome = .ok d ∧ d.instructions = list ∧ d.warning = w) ↔
      ∃ xs f, ReadsAll o source.feed xs f ∧
        Lexeme.run (fun l => [l.instruction page]) Reduction.write xs [] = some [list] ∧
        (f.code.rest = [] ∧ w = tailWarning source.behind ∨
          ∃ f', Reads o f .terminator f' ∧ w = f'.code.warning.or (tailWarning source.behind)) := by
  simp only [outcome_eq_ok_iff opened]
  exact Machine.ends_ok_iff whole

/-- **A formula that cannot be opened is not decoded.** -/
theorem outcome_of_unopened {reason : Stop}
    (unopened : TokenSource.ofCursor o (.ofData data stop) ⟨names, []⟩ = (.error reason, t)) :
    (decodeFormula o page names data stop).outcome =
      .error (.ofStop data stop t.notes .empty none reason) := by
  rw [(Decodes.unopened unopened).eq]

end Decoding

end SheetFormula
