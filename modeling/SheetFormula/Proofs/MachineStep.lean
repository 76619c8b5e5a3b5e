import SheetFormula.Proofs.MachineMoves

/-!
# One step of the decoder

What one step of the decoding machine does, for both layouts of references at once:

* **`Feed`**, **`Reads`** — what is left to read, and what it means to read one lexeme from it: with its
  references behind it, or with the references taken from two queues;
* **`Core`** — the state of a machine without its notes and its log, which decide nothing;
* **`Machine.step_of_reads`** — a step reads a lexeme and performs it; `Machine.step_act`,
  `Machine.step_terminator` and `Machine.step_underflow` say what becomes of the stack;
* **`Machine.step_cases`** — where no lexeme can be read the step stops with an error, and no access goes
  astray.
-/

namespace SheetFormula

variable {σ : Type}

/-! ## Feeds -/

/-- **Feed of a run**: what is left to read, and the state of the names. -/
structure Feed (σ : Type) where
  /-- The opcode stream. -/
  code : Cursor
  /-- The references. -/
  supply : RefSupply
  /-- State of the names. -/
  names : σ

/-- **Feed of a token source**. -/
def TokenSource.feed (s : TokenSource σ) : Feed σ := ⟨s.code, s.supply, s.trace.names⟩

/-- **Resolve the references of a lexeme** in order, from a state of the names. -/
def Options.resolved (o : Options σ) : Lexeme (Leaf o.Ref) → σ → Lexeme (Leaf CellRef) × σ :=
  Lexeme.traverse (Leaf.traverse fun ref => o.reference ref.val)

/-- A lexeme has no reference operand, or it is one. -/
theorem Lexeme.targets_cases {ρ : Type} (x : Lexeme (Leaf ρ)) :
    x.targets = [] ∨ ∃ t, x = .leaf (.target t) := by
  rcases x with (_ | _ | _ | t) | _ | _
  case leaf.target => exact .inr ⟨t, rfl⟩
  all_goals exact .inl rfl

/-- The code of a reference operand is its opcode. -/
theorem Lexeme.code_target {ρ : Type} (t : Target ρ) :
    (Lexeme.leaf (.target t)).code = [t.opcode.code] := rfl

/-- A lexeme without a reference operand is there for references of every kind. -/
theorem Lexeme.exists_of_targets {ρ : Type} (ρ' : Type) {x : Lexeme (Leaf ρ)} (h : x.targets = []) :
    ∃ y : Lexeme (Leaf ρ'), y.code = x.code ∧ y.targets = [] := by
  rcases x with (bits | value | raw | t) | r | _
  case leaf.target => simp [Lexeme.targets] at h
  · exact ⟨.leaf (.number bits), rfl, rfl⟩
  · exact ⟨.leaf (.integer value), rfl, rfl⟩
  · exact ⟨.leaf (.text raw), rfl, rfl⟩
  · exact ⟨.reduce r, rfl, rfl⟩
  · exact ⟨.terminator, rfl, rfl⟩

/-- A lexeme without a reference operand stays as it is. -/
theorem Options.resolved_of_targets (o : Options σ) {y : Lexeme (Leaf o.Ref)} (h : y.targets = [])
    {s s' : σ} {x : Lexeme (Leaf CellRef)} (resolved : o.resolved y s = (x, s')) :
    s = s' ∧ x.targets = [] ∧ x.opcode = y.opcode ∧
      ∀ page pos, x.token page pos = y.token page pos := by
  rcases y with (_ | _ | _ | t) | _ | _
  case leaf.target => simp [Lexeme.targets] at h
  all_goals
    rw [Options.resolved, Lexeme.traverse, Prod.mk.injEq] at resolved
    obtain ⟨rfl, rfl⟩ := resolved
    exact ⟨rfl, rfl, rfl, fun _ _ => rfl⟩

/-- **Reading one lexeme from a feed**. In line, the bytes of the lexeme hold its references, which are
resolved on the spot. With queues, its code is in the stream and its reference operand is the first one left
of its kind. -/
inductive Reads (o : Options σ) : Feed σ → Lexeme (Leaf CellRef) → Feed σ → Prop
  | inline {c : Cursor} {rest : List UInt8} {s s' : σ} {x : Lexeme (Leaf CellRef)} (y : Lexeme (Leaf o.Ref))
      (ahead : c.rest = y.bytes ++ rest) (resolved : o.resolved y s = (x, s')) :
      Reads o ⟨c, .inline, s⟩ x ⟨c.skip y.bytes.length, .inline, s'⟩
  | queued {c : Cursor} {rest : List UInt8} {s : σ} {x : Lexeme (Leaf CellRef)}
      {cells cells' : List CellRef} {ranges ranges' : List (CellRef × CellRef)}
      (ahead : c.rest = x.code ++ rest) (cell : cells = Target.cells x.targets ++ cells')
      (range : ranges = Target.ranges x.targets ++ ranges') :
      Reads o ⟨c, .queued cells ranges, s⟩ x ⟨c.skip x.code.length, .queued cells' ranges', s⟩

/-- **Reading a terminator** takes its byte, in either layout. -/
theorem reads_terminator_iff {o : Options σ} {c : Cursor} {supply : RefSupply} {s : σ} {f : Feed σ} :
    Reads o ⟨c, supply, s⟩ .terminator f ↔ ∃ rest, c.rest = 0x03 :: rest ∧ f = ⟨c.skip 1, supply, s⟩ := by
  constructor
  · intro h
    cases h with
    | @inline _ rest _ s' _ y ahead resolved =>
        -- Only a terminator is resolved to a terminator.
        rcases y with l | r | _
        · cases resolved
        · cases resolved
        · cases resolved
          exact ⟨rest, ahead, rfl⟩
    | @queued _ rest _ _ cells cells' ranges ranges' ahead cell range =>
        subst cell range
        exact ⟨rest, ahead, rfl⟩
  · rintro ⟨rest, ahead, rfl⟩
    cases supply with
    | inline => exact .inline .terminator ahead rfl
    | queued cells ranges => exact .queued ahead rfl rfl

/-- Reading a lexeme passes over bytes that are ahead, and over at least one. -/
theorem Reads.passes {o : Options σ} {f f' : Feed σ} {x : Lexeme (Leaf CellRef)} (h : Reads o f x f') :
    f.code.Passes f'.code ∧ f.code.pos < f'.code.pos := by
  cases h with
  | @inline c rest s s' x y ahead resolved =>
      refine ⟨.block ahead, ?_⟩
      show c.pos < c.pos + y.bytes.length
      rw [Lexeme.bytes, Lexeme.code, List.length_append, List.length_cons]
      omega
  | @queued c rest s x cells cells' ranges ranges' ahead cell range =>
      refine ⟨.block ahead, ?_⟩
      show c.pos < c.pos + x.code.length
      rw [Lexeme.code, List.length_cons]
      omega

/-- Where a lexeme is read, there is a byte. -/
theorem Reads.rest_ne_nil {o : Options σ} {f f' : Feed σ} {x : Lexeme (Leaf CellRef)} (h : Reads o f x f') :
    f.code.rest ≠ [] := by
  obtain ⟨⟨n, there, moved⟩, further⟩ := h.passes
  have : f'.code.pos = f.code.pos + n := congrArg Cursor.pos moved
  exact List.ne_nil_of_length_pos (by omega)

/-- **Reading several lexemes**, one after the other. -/
inductive ReadsAll (o : Options σ) : Feed σ → List (Lexeme (Leaf CellRef)) → Feed σ → Prop
  | nil (f : Feed σ) : ReadsAll o f [] f
  | cons {f f' f'' : Feed σ} {x : Lexeme (Leaf CellRef)} {xs : List (Lexeme (Leaf CellRef))}
      (first : Reads o f x f') (others : ReadsAll o f' xs f'') : ReadsAll o f (x :: xs) f''

/-! ## Cores -/

/-- **Core of a machine**: all of its state that decides how its run goes on, which leaves out notes and
log. -/
structure Core (σ : Type) where
  /-- What is left to read. -/
  feed : Feed σ
  /-- Where the reference table ends, and how many bytes stand behind it. -/
  behind : Option (Nat × Nat)
  /-- The operands, the top one first. -/
  operands : List (List Instruction)
  /-- The last opcode. -/
  last : Option UInt8

namespace Machine

variable {o : Options σ} {page : CodePage}

/-- **Core of a machine**. -/
def core (m : Machine σ) : Core σ := ⟨m.source.feed, m.source.behind, m.stack.items, m.last⟩

/-- An operand that is put on the stack is in the core. -/
theorem core_push (m : Machine σ) (list : List Instruction) :
    (m.push list).core = { m.core with operands := list :: m.core.operands } := rfl

/-- Notes are no part of the core. -/
theorem core_note (m : Machine σ) (n : Note) : (m.note n).core = m.core := rfl

end Machine

/-! ## One step -/

/-- **Perform a lexeme** that was read at a position. -/
def Lexeme.performed (page : CodePage) (pos : Nat) (m : Machine σ) :
    Lexeme (Leaf CellRef) → Machine.Progress σ
  | .leaf l => .running (m.push [l.instruction page])
  | .reduce r => m.reduce r.opcode pos r.operands
  | .terminator => .ended m

namespace Machine

variable {o : Options σ} {page : CodePage}

/-- What the core of a machine says about its parts. -/
theorem core_eq_iff {m : Machine σ} {code : Cursor} {supply : RefSupply} {names : σ}
    {behind : Option (Nat × Nat)} {operands : List (List Instruction)} {last : Option UInt8} :
    m.core = ⟨⟨code, supply, names⟩, behind, operands, last⟩ ↔
      m.source.code = code ∧ m.source.supply = supply ∧ m.source.trace.names = names ∧
        m.source.behind = behind ∧ m.stack.items = operands ∧ m.last = last := by
  simp only [core, TokenSource.feed, Core.mk.injEq, Feed.mk.injEq, and_assoc]

/-- Reading the token of a lexeme moves the stream behind its code. -/
theorem step_code {ρ : Type} (o : Options σ) (page : CodePage) {m : Machine σ} (whole : m.source.code.Whole)
    (x : Lexeme (Leaf ρ)) {rest : List UInt8} (ahead : m.source.code.rest = x.code ++ rest) :
    ∃ m' : Machine σ,
      m'.core = ⟨⟨m.source.code.skip x.code.length, m.source.supply, m.source.trace.names⟩, m.source.behind,
        m.stack.items, some x.opcode.code⟩ ∧
      m.step o page = perform o m' (x.token page m.source.code.pos) := by
  refine ⟨m.took (x.token page m.source.code.pos)
    { m.source with code := m.source.code.skip x.code.length }, rfl, ?_⟩
  rw [step, TokenSource.nextToken, Token.read_code page x whole ahead]

/-- A lexeme without a reference operand is performed as it is. -/
theorem perform_token {x : Lexeme (Leaf CellRef)} (h : x.targets = []) (m : Machine σ) (pos : Nat) :
    perform o m (x.token page pos) = x.performed page pos m := by
  cases x with
  | leaf l =>
      cases l with
      | number bits => rfl
      | integer value => rfl
      | text raw => rfl
      | target t => simp [Lexeme.targets] at h
  | reduce r => rfl
  | terminator => rfl

/-- **A reference operand in line** is read from the stream and resolved. -/
theorem perform_inline {m : Machine σ} {t : Target o.Ref} {c : Cursor} {rest : List UInt8} {s : σ}
    {behind : Option (Nat × Nat)} {operands : List (List Instruction)} {last : Option UInt8}
    (h : m.core = ⟨⟨c, .inline, s⟩, behind, operands, last⟩)
    (ahead : c.rest = t.refs.flatMap Options.Ref.written ++ rest) (page : CodePage) (start : Nat) :
    ∃ m' : Machine σ,
      m'.core = ⟨⟨c.skip (t.refs.flatMap Options.Ref.written).length, .inline,
        (t.traverse (fun ref => o.reference ref.val) s).2⟩, behind, operands, last⟩ ∧
      perform o m ((Lexeme.leaf (.target t)).token page start) =
        .running (m'.push [(t.traverse (fun ref => o.reference ref.val) s).1.instruction]) := by
  obtain ⟨rfl, supply, rfl, rfl, rfl, rfl⟩ := core_eq_iff.mp h
  obtain ⟨notes, read⟩ := Options.targetRead_written t ahead m.source.trace
  have hands : m.source.Hands o ((Lexeme.leaf (.target t)).token page start).payload _ := .inline supply read
  refine ⟨_, ?_, perform_of_hands hands⟩
  rw [core, TokenSource.feed, supply]

/-- **A reference operand of the table** is the first one left of its kind. -/
theorem perform_queued {m : Machine σ} {t : Target CellRef} {code : Cursor} {cells : List CellRef}
    {ranges : List (CellRef × CellRef)} {s : σ} {behind : Option (Nat × Nat)}
    {operands : List (List Instruction)} {last : Option UInt8}
    (h : m.core = ⟨⟨code, .queued (Target.cells [t] ++ cells) (Target.ranges [t] ++ ranges), s⟩,
      behind, operands, last⟩) (o : Options σ) (page : CodePage) (start : Nat) :
    ∃ m' : Machine σ, m'.core = ⟨⟨code, .queued cells ranges, s⟩, behind, operands, last⟩ ∧
      perform o m ((Lexeme.leaf (.target t)).token page start) = .running (m'.push [t.instruction]) := by
  obtain ⟨rfl, supply, rfl, rfl, rfl, rfl⟩ := core_eq_iff.mp h
  have hands : m.source.Hands o ((Lexeme.leaf (.target t)).token page start).payload
      (.ok t, { m.source with supply := .queued cells ranges }) := by
    cases t with
    | cell ref => exact .cell supply
    | range first last => exact .range supply
  exact ⟨_, rfl, perform_of_hands hands⟩

/-- **A step reads a lexeme and performs it.** -/
theorem step_of_reads {m : Machine σ} (whole : m.source.code.Whole) {x : Lexeme (Leaf CellRef)} {f : Feed σ}
    (h : Reads o m.source.feed x f) (page : CodePage) :
    ∃ m' : Machine σ, m'.core = ⟨f, m.source.behind, m.stack.items, some x.opcode.code⟩ ∧
      m.step o page = x.performed page m.source.code.pos m' := by
  generalize hf : m.source.feed = f₀ at h
  cases h with
  | @inline c rest s s' x y ahead resolved =>
      rw [TokenSource.feed, Feed.mk.injEq] at hf
      obtain ⟨rfl, supply, rfl⟩ := hf
      rw [Lexeme.bytes, List.append_assoc] at ahead
      obtain ⟨m₁, core₁, step⟩ := step_code o page whole y ahead
      rw [supply] at core₁
      rcases y.targets_cases with none | ⟨t, rfl⟩
      · -- Without a reference operand the lexeme is its code, and resolving leaves it as it is.
        obtain ⟨rfl, noTargets, sameOpcode, sameToken⟩ := o.resolved_of_targets none resolved
        refine ⟨m₁, ?_, ?_⟩
        · rw [core₁, sameOpcode, Lexeme.bytes, none, List.flatMap_nil, List.append_nil]
        · rw [step, ← sameToken, perform_token noTargets]
      · -- The stream stands at the fields of the reference operand now.
        have behind := Cursor.rest_skip_of_append ahead
        rw [Lexeme.targets, List.flatMap_singleton] at behind
        obtain ⟨m₂, core₂, performed⟩ := perform_inline core₁ behind page m.source.code.pos
        rw [Options.resolved, Lexeme.traverse, Prod.mk.injEq] at resolved
        obtain ⟨rfl, rfl⟩ := resolved
        refine ⟨m₂, ?_, step.trans performed⟩
        rw [core₂, Lexeme.bytes, Lexeme.targets, List.flatMap_singleton, List.length_append, Cursor.skip_skip]
        cases t <;> rfl
  | @queued c rest s x cells cells' ranges ranges' ahead cell range =>
      -- The stream holds only the code; a reference operand comes off its queue.
      rw [TokenSource.feed, Feed.mk.injEq] at hf
      obtain ⟨rfl, supply, rfl⟩ := hf
      obtain ⟨m₁, core₁, step⟩ := step_code o page whole x ahead
      rw [supply, cell, range] at core₁
      rcases x.targets_cases with none | ⟨t, rfl⟩
      · refine ⟨m₁, ?_, ?_⟩
        · rw [core₁, none]
          rfl
        · rw [step, perform_token none]
      · obtain ⟨m₂, core₂, performed⟩ := perform_queued core₁ o page m.source.code.pos
        exact ⟨m₂, core₂, step.trans performed⟩

/-- **A reduction with enough operands** replaces them by its written form. -/
theorem reduce_of_act {m : Machine σ} {r : Reduction} {operands : List (List Instruction)}
    {leaf : Leaf CellRef → List Instruction}
    (h : (Lexeme.reduce r).act leaf Reduction.write m.stack.items = some operands) (pos : Nat) :
    ∃ m' : Machine σ, m'.core = { m.core with operands } ∧
      m.reduce r.opcode pos r.operands = .running m' := by
  simp only [Lexeme.act, Option.ite_none_right_eq_some, Option.some.injEq] at h
  obtain ⟨enough, rfl⟩ := h
  have reduced := m.reduce_spec r pos
  generalize m.reduce r.opcode pos r.operands = p at reduced ⊢
  -- The operands that come off are those at the front, whichever they are.
  have written {args : List (List Instruction)} {stack : OperandStack} (length : args.length = r.operands)
      (items : m.stack.items = args.reverse ++ stack.items) :
      r.write args :: stack.items =
        r.write (m.stack.items.take r.operands).reverse :: m.stack.items.drop r.operands := by
    rw [items, ← length, ← List.length_reverse, List.take_left, List.drop_left, List.reverse_reverse]
  cases reduced with
  | few few =>
      rw [m.stack.depth_eq] at few
      omega
  | term length items term =>
      exact ⟨_, congrArg (fun operands => { m.core with operands }) (written length items), rfl⟩
  | plain length items plain =>
      exact ⟨_, congrArg (fun operands => { m.core with operands }) (written length items), rfl⟩

/-- **A reduction with too few operands** stops the run. -/
theorem reduce_short {m : Machine σ} {r : Reduction} (h : m.stack.items.length < r.operands)
    (pos : Nat) :
    m.reduce r.opcode pos r.operands =
      .stopped (.error ⟨.underflow (some r.opcode.code) r.operands m.stack.items.length, pos⟩) m := by
  rw [← m.stack.depth_eq] at h ⊢
  exact (Reduced.few h).eq

/-- **A step that acts on the stack**: the run goes on behind the lexeme. -/
theorem step_act {m : Machine σ} (whole : m.source.code.Whole) {x : Lexeme (Leaf CellRef)} {f : Feed σ}
    {operands : List (List Instruction)} (h : Reads o m.source.feed x f)
    (acts : x.act (fun l => [l.instruction page]) Reduction.write m.stack.items = some operands) :
    ∃ m' : Machine σ, m'.core = ⟨f, m.source.behind, operands, some x.opcode.code⟩ ∧
      m.step o page = .running m' := by
  obtain ⟨m₁, core₁, step⟩ := step_of_reads whole h page
  -- Reading the token has left the stack alone.
  have stack : m₁.stack.items = m.stack.items := (core_eq_iff.mp core₁).2.2.2.2.1
  rw [step]
  cases x with
  | leaf l =>
      rw [Lexeme.act, Option.some.injEq] at acts
      subst acts
      exact ⟨_, by rw [core_push, core₁], rfl⟩
  | reduce r =>
      rw [← stack] at acts
      obtain ⟨m₂, core₂, reduced⟩ := reduce_of_act acts m.source.code.pos
      exact ⟨m₂, by rw [core₂, core₁], reduced⟩
  | terminator => simp [Lexeme.act] at acts

/-- **A terminator ends the run** behind it. -/
theorem step_terminator {m : Machine σ} (whole : m.source.code.Whole) {f : Feed σ}
    (h : Reads o m.source.feed .terminator f) (page : CodePage) :
    ∃ m' : Machine σ, m'.core = ⟨f, m.source.behind, m.stack.items, some 0x03⟩ ∧
      m.step o page = .ended m' :=
  step_of_reads whole h page

/-- **A reduction of more operands than there are** stops the run. -/
theorem step_underflow {m : Machine σ} (whole : m.source.code.Whole) {r : Reduction} {f : Feed σ}
    (h : Reads o m.source.feed (.reduce r) f) (few : m.stack.items.length < r.operands)
    (page : CodePage) :
    ∃ m' : Machine σ, m.step o page = .stopped
      (.error ⟨.underflow (some r.opcode.code) r.operands m.stack.items.length, m.source.code.pos⟩)
      m' := by
  obtain ⟨m₁, core, step⟩ := step_of_reads whole h page
  have stack : m₁.stack.items = m.stack.items := (Core.mk.inj core).2.2.1
  refine ⟨m₁, ?_⟩
  rw [step, Lexeme.performed, reduce_short (stack ▸ few), stack]

/-- **An invalid byte stops the run.** -/
theorem step_invalid (o : Options σ) (page : CodePage) {m : Machine σ} {code : UInt8} {rest : List UInt8}
    (ahead : m.source.code.rest = code :: rest) (invalid : Opcode.Invalid code) :
    ∃ m', m.step o page = .stopped (.error ⟨.unknownOpcode code, m.source.code.pos⟩) m' :=
  ⟨_, (Stepped.unread (Token.read_invalid page invalid ahead)).eq⟩

/-- **A lexeme without a reference operand can be read** from either layout, where its code is ahead: it is
the same one with references of any kind. -/
theorem exists_reads_of_code (o : Options σ) {m : Machine σ} {x : Lexeme (Leaf Unit)} (none : x.targets = [])
    {rest : List UInt8} (ahead : m.source.code.rest = x.code ++ rest) : ∃ y f, Reads o m.source.feed y f := by
  rw [TokenSource.feed]
  cases m.source.supply with
  | inline =>
      obtain ⟨y, code, targets⟩ := x.exists_of_targets o.Ref none
      have bytes : y.bytes = y.code := by rw [Lexeme.bytes, targets, List.flatMap_nil, List.append_nil]
      exact ⟨_, _, .inline y (by rw [bytes, code, ahead]) rfl⟩
  | queued cells ranges =>
      obtain ⟨y, code, targets⟩ := x.exists_of_targets CellRef none
      exact ⟨y, _, .queued (by rw [code, ahead]) (by rw [targets]; rfl) (by rw [targets]; rfl)⟩

/-- **A reference operand that is handed could be read** together with the opcode before it. -/
theorem exists_reads_of_hands {m : Machine σ} {t : Target Unit} {code : Cursor}
    (ahead : m.source.code.rest = t.opcode.code :: code.rest) {target : Target CellRef}
    {source : TokenSource σ}
    (hands : ({ m.source with code } : TokenSource σ).Hands o t.payload (.ok target, source)) :
    ∃ y f, Reads o m.source.feed y f := by
  have opcode {ρ : Type} (t' : Target ρ) (payload : t'.payload = t.payload) : t'.opcode = t.opcode := by
    cases t <;> cases t' <;> first | rfl | cases payload
  rw [TokenSource.feed]
  generalize kind : t.payload = p at hands
  cases hands with
  -- In line, the references stand behind the opcode and belong to the lexeme.
  | @inline p result code' trace supply read =>
      obtain ⟨t', payload, behind, -⟩ := read.exists_refs
      have supply : m.source.supply = .inline := supply
      have behind : code.rest = t'.refs.flatMap Options.Ref.written ++ code'.rest := behind
      have bytes : m.source.code.rest = (Lexeme.leaf (.target t')).bytes ++ code'.rest := by
        rw [ahead, behind, Lexeme.bytes, Lexeme.code_target, opcode t' (payload.trans kind.symm),
          Lexeme.targets, List.flatMap_singleton, List.append_assoc]
        rfl
      rw [supply]
      exact ⟨_, _, .inline _ bytes rfl⟩
  -- From the queues, the lexeme has the code of its opcode only.
  | @cell ref cells ranges supply =>
      have supply : m.source.supply = .queued (ref :: cells) ranges := supply
      have code : m.source.code.rest = (Lexeme.leaf (.target (.cell ref))).code ++ code.rest := by
        rw [ahead, Lexeme.code_target, opcode (.cell ref) kind.symm]
        rfl
      rw [supply]
      exact ⟨_, _, .queued code rfl rfl⟩
  | @range first last cells ranges supply =>
      have supply : m.source.supply = .queued cells ((first, last) :: ranges) := supply
      have code : m.source.code.rest = (Lexeme.leaf (.target (.range first last))).code ++ code.rest := by
        rw [ahead, Lexeme.code_target, opcode (.range first last) kind.symm]
        rfl
      rw [supply]
      exact ⟨_, _, .queued code rfl rfl⟩

/-- **A lexeme is there, or the step stops with an error**; no access goes astray. -/
theorem step_cases (o : Options σ) (page : CodePage) {m : Machine σ} (whole : m.source.code.Whole) :
    (∃ x f, Reads o m.source.feed x f) ∨ ∃ e m', m.step o page = .stopped (.error e) m' := by
  have spec := Token.read_spec page m.source.code
  have step := m.step_spec o page
  generalize m.step o page = p at step ⊢
  cases step with
  | unread read =>
      rw [read] at spec
      obtain ⟨e, rfl⟩ := spec.error_of_whole whole
      exact .inr ⟨e, _, rfl⟩
  | performed read performed =>
      rw [read] at spec
      cases spec with
      | lexeme x ahead =>
          rcases x.targets_cases with none | ⟨t, rfl⟩
          · exact .inl (exists_reads_of_code o none ahead)
          · -- Whether the operand is there shows only after the code was read.
            have whole' := (Cursor.Passes.block ahead).whole whole
            cases performed with
            | literal literal => cases t <;> cases literal
            | target hands => exact .inl (exists_reads_of_hands ahead hands)
            | noTarget hands =>
                obtain ⟨e, rfl⟩ := hands.error_of_whole whole'
                exact .inr ⟨e, _, rfl⟩
            | terminator ends => cases t <;> cases ends
            | reduction opcode payload reduced => cases t <;> cases payload

end Machine

end SheetFormula
