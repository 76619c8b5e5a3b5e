import SheetFormula.Proofs.Safety
import SheetFormula.Proofs.StreamBounds

/-!
# Errors and the bytes they point to

What an error says can be seen in the data, at the offset that it gives:

* **`Shown`** — an error with the bytes that are to blame for it, one case for each way to fail;
* **`Options.RefRead.shown`**, **`TokenSource.Opens.shown`**, **`TokenRead.shown`** — readers fail with such
  errors;
* **`Machine.Stepped.shown`**, **`Machine.RunsTo.shown`** — so do steps and whole runs;
* **`Witnessed`** — what follows for a report, by its class; **`decode_witnessed`** — decoding fails with
  errors of which this is true.
-/

namespace SheetFormula

variable {σ : Type} {o : Options σ} {data : List UInt8} {stop limit : Nat}

/-! ## Errors that are shown -/

/-- **Counted operands**: an opcode of the table stands at a position and announces a number of operands, by
the table or by the byte behind it. -/
structure Announces (data : List UInt8) (stop : Nat) (opcode : Opcode) (pos needed : Nat) : Prop where
  /-- The opcode is listed. -/
  listed : opcode ∈ Opcode.table
  /-- It stands before the end. -/
  before : pos < stop
  /-- It stands at the position. -/
  here : data[pos]? = some opcode.code
  /-- The table or the byte behind it tells the number. -/
  count : opcode.role = .reduce needed ∨ opcode.role = .reduceCounted ∧ pos + 1 < stop ∧
    ∃ n, data[pos + 1]? = some n ∧ n.toNat = needed

/-- **An error is shown by the bytes** before the end of a formula. -/
inductive Shown (o : Options σ) (data : List UInt8) (stop : Nat) : DecodeError → Prop
  /-- Bytes are missing. -/
  | truncated {cause : Cause} (kind : cause.kind = .truncatedStream) {pos : Nat} (before : pos ≤ stop) :
      Shown o data stop ⟨cause, pos⟩
  /-- Nobody knows the layout. -/
  | layout {n : Int64} (unlisted : o.variant.layout = .unlisted n) :
      Shown o data stop ⟨.layout (.unlisted n), 0⟩
  /-- An invalid byte. -/
  | opcode {code : UInt8} {pos : Nat} (before : pos < stop) (here : data[pos]? = some code)
      (invalid : Opcode.Invalid code) : Shown o data stop ⟨.unknownOpcode code, pos⟩
  /-- The fields of a reference that is not accepted. -/
  | fields {f : RefFields} {field : MalformedField} {pos : Nat} (before : pos + o.variant.refSize ≤ stop)
      (here : RefFields.ofBytes? o.variant.sheetField ((data.drop pos).take o.variant.refSize) = some f)
      (rejected : ∀ t, (o.resolve f t).1 = .error field) : Shown o data stop ⟨field.cause, pos⟩
  /-- Behind some entries of the table, the kind of one that is neither a cell nor a range. -/
  | entry {kind : UInt8} (layout : o.variant.layout = .prescanned) (b : TableBounds (data.take stop))
      (table : List (Target o.Ref)) (rest : List UInt8)
      (here : b.table = table.flatMap Target.entry ++ kind :: rest)
      (other : kind ≠ cellEntry ∧ kind ≠ rangeEntry) :
      Shown o data stop ⟨.entryKind kind, b.first.toNat + (table.flatMap Target.entry).length⟩
  /-- A reduction that announces more operands than there are. -/
  | operands {opcode : Opcode} {pos needed available : Nat}
      (announced : Announces data stop opcode pos needed) (few : available < needed) :
      Shown o data stop ⟨.underflow (some opcode.code) needed available, pos⟩
  /-- No operand, before any token or at the terminator. -/
  | nothing {last : Option UInt8} (first : last = none ∨ last = some 0x03) {pos : Nat} (before : pos ≤ stop) :
      Shown o data stop ⟨.underflow last 1 0, pos⟩
  /-- Several operands are left. -/
  | several (last : Option UInt8) {available : Nat} (several : 2 ≤ available) {pos : Nat}
      (before : pos ≤ stop) :
      Shown o data stop ⟨.excess last available, pos⟩

/-- **Layouts are to blame only when nobody knows them.** -/
theorem Shown.exists_unlisted {e : DecodeError} (h : Shown o data stop e)
    (kind : e.cause.kind = .unsupportedReferenceLayout) : ∃ n, o.variant.layout = .unlisted n := by
  cases h with
  | layout unlisted => exact ⟨_, unlisted⟩
  | truncated truncated => cases truncated.symm.trans kind
  | @fields f field => cases field <;> cases kind
  | opcode | entry | operands | nothing | several => cases kind

/-! ## References -/

namespace Cursor.Within

variable {c : Cursor}

/-- The position is not behind the end either. -/
theorem pos_le_stop (h : c.Within data limit) (before : limit ≤ stop) : c.pos ≤ stop :=
  Nat.le_trans h.pos_le before

/-- A part that cannot be taken is missing. -/
theorem take_shown (h : c.Within data limit) (before : limit ≤ stop) {part : Part} {n : Nat} {e : DecodeError}
    (failed : c.take part n = .error (.error e)) : Shown o data stop e := by
  have taking := Cursor.take_spec part n c
  rw [failed] at taking
  cases taking with
  | short few => exact .truncated rfl (h.pos_le_stop before)

/-- A block that is ahead is that of the data at the position. -/
theorem block_eq (h : c.Within data limit) {block tail : List UInt8} (ahead : c.rest = block ++ tail) :
    c.pos + block.length ≤ limit ∧ (data.drop c.pos).take block.length = block := by
  have fits : c.pos + block.length ≤ limit := by
    have size := h.length_eq
    rw [ahead, List.length_append] at size
    omega
  refine ⟨fits, ?_⟩
  have bytes : c.rest.take block.length = block := by rw [ahead, List.take_left]
  rwa [h.rest_eq, List.drop_take, List.take_take, Nat.min_eq_left (by omega)] at bytes

end Cursor.Within

namespace Options

variable {c c' : Cursor} {t t' : Trace σ}

/-- **Fields are rejected for what they are**, not for the names. -/
theorem resolve_error {f : RefFields} {t : Trace σ} {field : MalformedField}
    (h : (o.resolve f t).1 = .error field) (t' : Trace σ) : (o.resolve f t').1 = .error field := by
  have spec := o.resolve_spec f t
  generalize o.resolve f t = r at spec h
  cases spec with
  | noColumn columnField =>
      rw [(Resolves.noColumn columnField).eq]
      exact h
  | noRow columnField rowField =>
      rw [(Resolves.noRow columnField rowField).eq]
      exact h
  | gone | there => cases h

/-- **A reference that is not read** is missing, or its fields are rejected where they stand. -/
theorem RefRead.shown {e : DecodeError} (failed : o.RefRead c t (.error (.error e), c', t'))
    (h : c.Within data limit) (before : limit ≤ stop) : Shown o data stop e := by
  cases failed with
  | missing failed => exact h.take_shown before failed
  | @malformed f field t' fields resolved =>
      obtain ⟨fits, bytes⟩ := h.block_eq fields.ahead
      have length := RefFields.length_written fields.sheet
      rw [length] at fits bytes
      refine .fields (f := f) (Nat.le_trans fits before) ?_ (resolve_error (congrArg Prod.fst resolved))
      rw [bytes, ← fields.sheet]
      exact RefFields.ofBytes?_written f

/-- **A cell or a range that is not read** has a reference that is not. -/
theorem TargetRead.shown {p : Payload} {e : DecodeError}
    (failed : o.TargetRead c t p (.error (.error e), c', t')) (h : c.Within data limit)
    (before : limit ≤ stop) : Shown o data stop e := by
  cases failed with
  | noCell read | noFirst read => exact read.shown h before
  | noLast read read' => exact read'.shown (h.passes read.passes) before

end Options

/-! ## Reference tables -/

section Tables

variable {stop : Int} (framed : Framed data stop (data.take stop.toNat))

include framed

/-- The table of a formula stands in the data. -/
theorem TableBounds.within (b : TableBounds (data.take stop.toNat)) :
    b.last.toNat ≤ stop.toNat ∧ (b.entries data).Within data b.last.toNat := by
  have last := b.last_le framed
  have inside := framed.inside
  exact ⟨by omega, rfl, rfl, b.ordered, by omega⟩

/-- **Behind some entries** the next byte of a table is that of the data: the entries are passed over. -/
theorem TableBounds.getElem?_entries (b : TableBounds (data.take stop.toNat)) {table : List (Target o.Ref)}
    {kind : UInt8} {rest : List UInt8} (here : b.table = table.flatMap Target.entry ++ kind :: rest) :
    b.first.toNat + (table.flatMap Target.entry).length < b.last.toNat ∧
      data[b.first.toNat + (table.flatMap Target.entry).length]? = some kind := by
  have within := (TableBounds.within framed b).2
  have ahead : (b.entries data).rest = table.flatMap Target.entry ++ kind :: rest :=
    (b.rest_entries framed).trans here
  have behind := Cursor.rest_skip_of_append ahead
  exact (within.passes (.block ahead)).getElem?
    (show ((b.entries data).skip _).rest[0]? = some kind by rw [behind]; rfl)

/-- **A formula that cannot be opened** is in error, and the error is shown. -/
theorem TokenSource.Opens.shown {t t' : Trace σ} {e : DecodeError}
    (failed : Opens o (.ofData data stop) t (.error (.error e), t')) : Shown o data stop.toNat e := by
  cases failed with
  | unlisted layout => exact .layout layout
  | noHeader layout failed => exact framed.within.take_shown (Nat.le_refl _) failed
  | outside layout header outside => exact .truncated rfl (Nat.zero_le _)
  | unscanned layout located scan =>
      obtain ⟨b, rfl, rfl⟩ := located.exists_bounds framed
      obtain ⟨last, within⟩ := b.within framed
      -- The scan stops behind some entries, at one that cannot be read.
      obtain ⟨table, c, c', t'', ahead, rfl, more, failed⟩ := scan.exists_failed
      have entries := (b.rest_entries framed).symm.trans ahead
      have within' := within.passes (.block ahead)
      cases failed with
      | @unknown kind here unknown =>
          have behind := Cursor.rest_of_getElem? more here
          have other : kind ≠ cellEntry ∧ kind ≠ rangeEntry := by
            refine ⟨?_, ?_⟩
            · rintro rfl
              cases unknown
            · rintro rfl
              cases unknown
          exact .entry layout b table _ (entries.trans (congrArg _ behind)) other
      | @target kind p r here announces read =>
          have behind := Cursor.rest_of_getElem? more here
          exact read.shown (within'.passes (.block (show _ = [kind] ++ _ from behind))) last

end Tables

/-! ## Tokens -/

namespace TokenRead

variable {page : CodePage} {c c' : Cursor}

/-- **Reading a token** fails with an error that is shown. -/
theorem shown {e : DecodeError} (failed : TokenRead page c (.error (.error e), c')) (h : c.Within data limit)
    (before : limit ≤ stop) : Shown o data stop e := by
  -- The opcode that is blamed stands in the data, before the limit.
  have first {b : UInt8} (ahead : c.rest = b :: (c.skip 1).rest) : c.pos < limit ∧ data[c.pos]? = some b := by
    have here : c.rest[0]? = some b := by rw [ahead]; rfl
    exact h.getElem? here
  cases failed with
  | missing failed => exact h.take_shown before failed
  | invalid ahead invalid =>
      obtain ⟨inside, here⟩ := first ahead
      exact .opcode (by omega) here invalid
  | @cut opcode _ listed ahead lacks =>
      have behind := h.passes (.block (show c.rest = [opcode.code] ++ (c.skip 1).rest from ahead))
      obtain ⟨cause, same, kind⟩ := lacks.error behind.whole
      obtain rfl := Stop.error.inj same
      exact .truncated kind (behind.pos_le_stop before)

/-- **A reduction that was read** stands in the data, with its count. -/
theorem announces {token : Token} (read : TokenRead page c (.ok token, c')) (h : c.Within data limit)
    (before : limit ≤ stop) {n : Nat} (payload : token.payload = .reduce n) :
    Announces data stop token.opcode token.offset n := by
  cases read with
  | lexeme x ahead =>
      obtain ⟨first, here⟩ := h.getElem? (show c.rest[0]? = some x.opcode.code by rw [ahead]; rfl)
      refine ⟨x.opcode_mem, by show c.pos < stop; omega, here, ?_⟩
      cases x with
      | terminator => cases payload
      | leaf l => rcases l with _ | _ | _ | _ | _ <;> cases payload
      | reduce r =>
          obtain rfl := Payload.reduce.inj payload
          -- The count is listed with the opcode, or stands in the byte behind it.
          rcases r.takes.2 with role | ⟨role, small⟩
          · exact .inl role
          · have count : c.rest[1]? = some (UInt8.ofNat r.operands) := by
              rw [ahead, Lexeme.code, Lexeme.immediate, if_pos role]
              rfl
            obtain ⟨second, there⟩ := h.getElem? count
            refine .inr ⟨role, by show c.pos + 1 < stop; omega, _, there, ?_⟩
            rw [UInt8.toNat_ofNat', Nat.mod_eq_of_lt small]

/-- Only the terminator ends a formula. -/
theorem opcode_of_terminator {token : Token} (read : TokenRead page c (.ok token, c'))
    (ends : token.payload = .terminator) : token.opcode.code = 0x03 := by
  cases read with
  | lexeme x ahead =>
      cases x with
      | terminator => rfl
      | reduce r => cases ends
      | leaf l => rcases l with _ | _ | _ | _ | _ <;> cases ends

end TokenRead

/-! ## Steps and runs -/

/-- **A reference operand that is not taken** is missing in the table, or not read. -/
theorem TokenSource.Hands.shown {s s' : TokenSource σ} {p : Payload} {e : DecodeError}
    (failed : s.Hands o p (.error (.error e), s')) (h : s.code.Within data limit) (before : limit ≤ stop) :
    Shown o data stop e := by
  cases failed with
  | inline supply read => exact read.shown h before
  | noCell supply => exact .truncated rfl (h.pos_le_stop before)
  | noRange supply => exact .truncated rfl (h.pos_le_stop before)

namespace Machine

variable {page : CodePage} {m m' : Machine σ}

/-- **A step stops** with an error that is shown. -/
theorem Stepped.shown {e : DecodeError} (stopped : m.Stepped o page (.stopped (.error e) m'))
    (h : m.source.code.Within data limit) (before : limit ≤ stop) : Shown o data stop e := by
  have spec := Token.read_spec page m.source.code
  -- A step stops at its token, at its reference, or for want of operands.
  cases stopped with
  | unread read =>
      rw [read] at spec
      exact spec.shown h before
  | performed read performed =>
      rw [read] at spec
      cases performed with
      | noTarget hands => exact hands.shown (h.passes spec.passes) before
      | @reduction r p opcode payload reduced =>
          cases reduced with
          | few few =>
              have announced := spec.announces h before payload
              rw [opcode] at announced
              exact .operands announced few

/-- **Behind a token that goes on** there is an operand on the stack. -/
theorem Performed.items_ne_nil {token : Token} (running : m.Performed o token (.running m')) :
    m'.stack.items ≠ [] := by
  cases running with
  | literal literal => exact List.cons_ne_nil _ _
  | target hands => exact List.cons_ne_nil _ _
  | reduction opcode payload reduced =>
      cases reduced with
      | term length items term => exact List.cons_ne_nil _ _
      | plain length items plain => exact List.cons_ne_nil _ _

/-- **Behind a step that goes on** there is an operand on the stack. -/
theorem Stepped.items_ne_nil (running : m.Stepped o page (.running m')) : m'.stack.items ≠ [] := by
  cases running with
  | performed read performed => exact performed.items_ne_nil

/-- **A step that ends the run** has read the terminator. -/
theorem Stepped.last_of_ended (ended : m.Stepped o page (.ended m')) : m'.last = some 0x03 := by
  have spec := Token.read_spec page m.source.code
  cases ended with
  | @performed token code _ read performed =>
      rw [read] at spec
      cases performed with
      | terminator ends => exact congrArg some (spec.opcode_of_terminator ends)
      | reduction opcode payload reduced => cases reduced

/-- **Without an operand the run has not begun**: no step that goes on leaves the stack empty. -/
theorem Visits.last_of_empty (h : Visits o page m (.running m')) (fresh : m.last = none)
    (none : m'.stack.items = []) : m'.last = Option.none := by
  generalize progress : Progress.running m' = p at h
  cases h with
  | start =>
      cases progress
      exact fresh
  | step before more => exact absurd none (Stepped.of_eq progress.symm).items_ne_nil

/-- **A run that ends before its limit** has read the terminator. -/
theorem Visits.last_of_ended (h : Visits o page m (.ended m')) : m'.last = some 0x03 := by
  generalize progress : Progress.ended m' = p at h
  cases h with
  | start => cases progress
  | step before more => exact (Stepped.of_eq progress.symm).last_of_ended

/-- A run without one operand fails with an error that is shown. -/
theorem finish_shown (h : m.source.code.Within data limit) (before : limit ≤ stop)
    (first : m.stack.items = [] → m.last = none ∨ m.last = some 0x03) {terminated : Bool} {e : DecodeError}
    (failed : (m.finish terminated).1 = .error (.error e)) : Shown o data stop e := by
  have inside := h.pos_le_stop before
  -- With one operand there is no error; without any, the last opcode is known.
  by_cases one : m.stack.items.length = 1
  · obtain ⟨list, single⟩ := List.length_eq_one_iff.mp one
    rw [finish_single single] at failed
    cases failed
  · rw [finish_error one] at failed
    obtain rfl := Stop.error.inj (Except.error.inj failed)
    by_cases none : m.stack.items = []
    · rw [if_pos none]
      exact .nothing (first none) inside
    · have some := List.length_pos_iff.mpr none
      rw [if_neg none]
      exact .several m.last (by omega) inside

/-- **A run fails** with an error that is shown: at the end, behind the terminator, or at a step. -/
theorem RunsTo.shown {e : DecodeError} (failed : RunsTo o page m (.error (.error e), m'))
    (h : m.source.code.Within data limit) (before : limit ≤ stop) (fresh : m.last = none) :
    Shown o data stop e := by
  obtain ⟨p, visits, concludes⟩ := failed
  have within := visits.within h
  generalize result : (Except.error (Stop.error e), m') = r at concludes
  -- An error comes from the end of the stream, from behind the terminator, or from a step.
  cases concludes with
  | exhausted exhausted =>
      refine finish_shown within before ?_ (congrArg Prod.fst result).symm
      exact fun none => .inl (visits.last_of_empty fresh none)
  | ended m₁ =>
      refine finish_shown within before ?_ (congrArg Prod.fst result).symm
      exact fun _ => .inr visits.last_of_ended
  | stopped reason m₁ =>
      cases result
      generalize progress : Progress.stopped (.error e) m' = p at visits
      cases visits with
      | start => cases progress
      | step visits more => exact (Stepped.of_eq progress.symm).shown (visits.within h) before

end Machine

/-- **Decoding a formula fails** with an error that is shown. -/
theorem Framed.decodeFormula_shown {page : CodePage} {stop : Int}
    (framed : Framed data stop (data.take stop.toNat)) {names : σ} {failure : Failure}
    (failed : (decodeFormula o page names data stop).outcome = .error failure) :
    ∃ e notes, failure = .rejected e notes (data.take stop.toNat) ∧ Shown o data stop.toNat e := by
  have safe := (framed.decodeFormula_safe o page names).1
  have opens := TokenSource.ofCursor_spec o (.ofData data stop) ⟨names, []⟩
  have spec := decodeFormula_spec o page names data stop
  rw [failed] at safe
  generalize decodeFormula o page names data stop = run at spec failed
  -- No access goes astray, so a failure is an error; its dump is the formula.
  have rejected {notes : List Note} {stack : OperandStack} {last : Option UInt8} {reason : Stop}
      (made : failure = .ofStop data stop notes stack last reason)
      (shown : ∀ e, reason = .error e → Shown o data stop.toNat e) :
      ∃ e notes, failure = .rejected e notes (data.take stop.toNat) ∧ Shown o data stop.toNat e := by
    cases reason with
    | fault => exact absurd (congrArg Except.error made) safe
    | error e =>
        rw [Failure.ofStop, framed.dump_eq] at made
        exact ⟨e, _, made, shown e rfl⟩
  cases spec with
  | unopened unopened =>
      rw [unopened] at opens
      refine rejected (Except.error.inj failed).symm ?_
      rintro e rfl
      exact opens.shown framed
  | decoded opened runs => cases failed
  | failed opened runs =>
      obtain ⟨limit, before, within⟩ := TokenSource.within_of_opened framed opened
      refine rejected (Except.error.inj failed).symm ?_
      rintro e rfl
      exact runs.shown within before rfl

/-! ## Reports -/

/-- **A report is witnessed by the data** before the end of a formula: what it says about the opcode, the
operands or the reference at its offset can be read there. -/
structure Witnessed (o : Options σ) (data : List UInt8) (stop : Int) (r : ErrorReport) : Prop where
  /-- The offset is not behind the end. -/
  offset : 0 ≤ r.offset ∧ r.offset ≤ stop
  /-- Bytes that are left over are no error. -/
  noTrailing : r.kind ≠ .trailingData
  /-- An unknown opcode stands at the offset; it is not in the table, or reserved there. -/
  unknownOpcode : r.kind = .unknownOpcode → r.offset < stop ∧
    ∃ code, data[r.offset.toNat]? = some code ∧ r.opcode = code.toNat ∧ Opcode.Invalid code
  /-- Operands are missing. The opcode that needs them stands at the offset, with the number in the table or
  in the byte behind it; or the formula has no operand at all. -/
  stackUnderflow : r.kind = .stackUnderflow → r.available < r.needed ∧
    ((r.offset < stop ∧ ∃ opcode ∈ Opcode.table, data[r.offset.toNat]? = some opcode.code ∧
        r.opcode = opcode.code.toNat ∧ (opcode.role.arity = r.needed ∨
          opcode.role.arity = -1 ∧ r.offset + 1 < stop ∧
            ∃ n, data[r.offset.toNat + 1]? = some n ∧ r.needed = n.toNat)) ∨
      r.needed = 1 ∧ r.available = 0 ∧ (r.opcode = -1 ∨ r.opcode = 0x03))
  /-- At least two operands are left. -/
  excessOperands : r.kind = .excessOperands → 2 ≤ r.available
  /-- A reference is malformed. Its bytes stand at the offset, and their fields are rejected with the detail;
  or the table has an entry at the offset, behind others that are whole, which is neither a cell nor a
  range. -/
  malformedCellReference : r.kind = .malformedCellReference →
    (r.offset + o.variant.refSize ≤ stop ∧ ∃ f field,
        RefFields.ofBytes? o.variant.sheetField ((data.drop r.offset.toNat).take o.variant.refSize) = some f ∧
          (∀ t, (o.resolve f t).1 = .error field) ∧ r.detail = field.cause.detail) ∨
      o.variant.layout = .prescanned ∧ r.offset < stop ∧
        ∃ kind, data[r.offset.toNat]? = some kind ∧ kind ≠ cellEntry ∧ kind ≠ rangeEntry ∧
          ∃ (b : TableBounds (data.take stop.toNat)) (table : List (Target o.Ref)) (rest : List UInt8),
            b.table = table.flatMap Target.entry ++ kind :: rest ∧
              r.offset = b.first.toNat + (table.flatMap Target.entry).length
  /-- Other errors have no opcode. -/
  noOpcode : r.kind = .truncatedStream ∨ r.kind = .malformedCellReference ∨
    r.kind = .unsupportedReferenceLayout → r.opcode = -1

/-- Errors that say nothing of a byte are witnessed by their offset. -/
theorem Witnessed.of_offset {stop : Int} {r : ErrorReport} (offset : 0 ≤ r.offset ∧ r.offset ≤ stop)
    (kind : r.kind = .truncatedStream ∨ r.kind = .unsupportedReferenceLayout) (bare : r.opcode = -1) :
    Witnessed o data stop r := by
  refine ⟨offset, ?_, ?_, ?_, ?_, ?_, fun _ => bare⟩
  all_goals rcases kind with kind | kind <;> simp [kind]

/-- **What is shown is witnessed.** -/
theorem Shown.witnessed {e : DecodeError} (h : Shown o data stop e) (inside : stop ≤ data.length) :
    Witnessed o data stop e.report := by
  cases h with
  | @truncated cause kind pos before =>
      have bare : opcodeNumber cause.opcode? = -1 := by
        cases cause <;> first | rfl | cases kind
      exact .of_offset ⟨Int.natCast_nonneg _, Int.ofNat_le.mpr before⟩ (.inl kind) bare
  | layout _ => exact .of_offset ⟨Int.le_refl _, Int.natCast_nonneg _⟩ (.inr rfl) rfl
  | @opcode code pos before here invalid =>
      refine ⟨⟨Int.natCast_nonneg _, ?_⟩, by simp [DecodeError.report, Cause.kind], fun _ => ⟨?_, ?_⟩, nofun,
        nofun, nofun, nofun⟩
      · show (pos : Int) ≤ stop
        omega
      · show (pos : Int) < stop
        omega
      · exact ⟨code, here, rfl, invalid⟩
  | @fields f field pos before here rejected =>
      have fits : (pos : Int) + o.variant.refSize ≤ stop := by omega
      have kind : field.cause.kind = .malformedCellReference := by cases field <;> rfl
      have bare : opcodeNumber field.cause.opcode? = -1 := by cases field <;> rfl
      refine ⟨⟨Int.natCast_nonneg _, ?_⟩, ?_, ?_, ?_, ?_, fun _ => .inl ⟨fits, f, field, here, rejected, rfl⟩,
        fun _ => bare⟩
      · show (pos : Int) ≤ stop
        omega
      -- It is of no other kind.
      all_goals simp [DecodeError.report, kind]
  | @entry kind layout b table rest here different =>
      have framed : Framed data (stop : Int) (data.take (stop : Int).toNat) :=
        ⟨Int.natCast_nonneg _, Int.ofNat_le.mpr inside, rfl⟩
      have last := (TableBounds.within framed b).1
      obtain ⟨before, there⟩ := TableBounds.getElem?_entries framed b here
      refine ⟨⟨Int.natCast_nonneg _, ?_⟩, by simp [DecodeError.report, Cause.kind], nofun, nofun, nofun,
        fun _ => .inr ⟨layout, ?_, kind, there, different.1, different.2, b, table, rest, here, ?_⟩,
        fun _ => rfl⟩
      · show ((b.first.toNat + (table.flatMap Target.entry).length : Nat) : Int) ≤ stop
        omega
      · show ((b.first.toNat + (table.flatMap Target.entry).length : Nat) : Int) < stop
        omega
      · exact Int.natCast_add _ _
  | @operands opcode pos needed available announced few =>
      obtain ⟨listed, before, here, count⟩ := announced
      refine ⟨⟨Int.natCast_nonneg _, ?_⟩, by simp [DecodeError.report, Cause.kind], nofun,
        fun _ => ⟨Int.ofNat_lt.mpr few, .inl ⟨Int.ofNat_lt.mpr before, opcode, listed, here, rfl, ?_⟩⟩, nofun,
        nofun, nofun⟩
      · show (pos : Int) ≤ stop
        omega
      · rcases count with role | ⟨role, second, n, there, value⟩
        · exact .inl (by rw [role]; rfl)
        · refine .inr ⟨by rw [role]; rfl, ?_, n, there, congrArg Int.ofNat value.symm⟩
          show (pos : Int) + 1 < stop
          omega
  | @nothing last first pos before =>
      refine ⟨⟨Int.natCast_nonneg _, Int.ofNat_le.mpr before⟩, by simp [DecodeError.report, Cause.kind],
        nofun, fun _ => ⟨Int.one_pos, .inr ⟨rfl, rfl, ?_⟩⟩, nofun, nofun, nofun⟩
      rcases first with rfl | rfl
      · exact .inl rfl
      · exact .inr rfl
  | @several last available several pos before =>
      exact ⟨⟨Int.natCast_nonneg _, Int.ofNat_le.mpr before⟩, by simp [DecodeError.report, Cause.kind], nofun,
        nofun, fun _ => Int.ofNat_le.mpr several, nofun, nofun⟩

/-- **Errors are witnessed by the bytes they point to.** When decoding the first bytes of some data fails,
with a code page that is known, then with an error whose report is witnessed by those bytes. -/
theorem decode_witnessed (o : Options σ) {page : CodePage}
    (known : CodePage.ofName? o.variant.charset = some page) (names : σ) (data : List UInt8) {stop : Int}
    (start : 0 ≤ stop) (inside : stop ≤ data.length) {failure : Failure}
    (failed : (decode o names data stop).outcome = .error failure) :
    ∃ e notes, failure = .rejected e notes (data.take stop.toNat) ∧ Witnessed o data stop e.report := by
  have framed : Framed data stop (data.take stop.toNat) := ⟨start, inside, rfl⟩
  rw [framed.decode_eq known] at failed
  obtain ⟨e, notes, rejected, shown⟩ := framed.decodeFormula_shown failed
  have witnessed := shown.witnessed (show stop.toNat ≤ data.length by omega)
  rw [Int.toNat_of_nonneg start] at witnessed
  exact ⟨e, notes, rejected, witnessed⟩

/-- A sum of two operands with one before it: the report has the opcode, and the count behind it. -/
theorem decode_witnessed_sum :
    (decode ⟨.wk1, {}, Names.none.resolver⟩ () [0x05, 0x07, 0x00, 0x50, 0x02, 0x03] 6).outcome =
        .error (.rejected ⟨.underflow (some 0x50) 2 1, 3⟩
          [.operand 0 [.integer 7], .failure .stackUnderflow (some 0x50) 1]
          [0x05, 0x07, 0x00, 0x50, 0x02, 0x03]) ∧
      Witnessed (⟨.wk1, {}, Names.none.resolver⟩ : Options Unit) [0x05, 0x07, 0x00, 0x50, 0x02, 0x03] 6
        { kind := .stackUnderflow, opcode := 0x50, needed := 2, available := 1, offset := 3 } := by
  have failed : (decode ⟨.wk1, {}, Names.none.resolver⟩ () [0x05, 0x07, 0x00, 0x50, 0x02, 0x03] 6).outcome =
      .error (.rejected ⟨.underflow (some 0x50) 2 1, 3⟩
        [.operand 0 [.integer 7], .failure .stackUnderflow (some 0x50) 1]
        [0x05, 0x07, 0x00, 0x50, 0x02, 0x03]) := by
    decide +kernel
  obtain ⟨e, notes, rejected, witnessed⟩ := decode_witnessed ⟨.wk1, {}, Names.none.resolver⟩
    (CodePage.ofName?_name .cp437) () _ (show (0 : Int) ≤ 6 by decide) (by decide) failed
  cases rejected
  exact ⟨failed, witnessed⟩

end SheetFormula
