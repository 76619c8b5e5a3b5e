import SheetFormula.Proofs.BytesAhead
import SheetFormula.Proofs.Resolution
import SheetFormula.Proofs.WrittenFields

/-!
# Accepted references

Which raw fields the decoder accepts as a reference, and what reading one at a cursor does:

* **`Options.Accepts`**, **`Options.Ref`** — the fields that are resolved without an error;
* **`Options.reference`** — the reference that accepted fields stand for, and the state of the names after the
  look-ups it took. It is the same with names that answer alike (`Options.reference_related`);
* **`Options.RefRead`**, **`Options.readRef_spec`**, **`Options.RefRead.eq`** — what reading one can come to,
  and nothing else;
* **`Options.refRead_written`**, **`Options.RefRead.exists_ref`** — exactly the bytes of an accepted reference
  are read as one.
-/

namespace SheetFormula

variable {σ : Type}

/-! ## Accepted fields -/

namespace Options

variable (o : Options σ)

/-- **Accepted fields**: they are those of the variant's references, and resolving them gives one. -/
def Accepts (f : RefFields) : Prop :=
  f.sheet.isSome = o.variant.sheetField ∧ ∀ t, ∃ ref, (o.resolve f t).1 = .ok ref

/-- **Accepted reference**, by its raw fields. -/
def Ref : Type := { f : RefFields // o.Accepts f }

/-- **Bytes of an accepted reference**. -/
def Ref.written {o : Options σ} (r : o.Ref) : List UInt8 := r.val.written

/-- **Reference of raw fields** when the names are in state `s`, and their state after it. -/
def reference (f : RefFields) (s : σ) : CellRef × σ :=
  match o.resolve f ⟨s, []⟩ with
  | (.ok ref, t) => (ref, t.names)
  | (.error _, t) => (.gone, t.names)

/-- **Related names give the same references**, and stay related. -/
theorem reference_related {τ : Type} {r' : Resolver τ} {R : σ → τ → Prop}
    (related : Resolver.Relates R o.resolver r') (f : RefFields) {s : σ} {s' : τ} (h : R s s') :
    (o.reference f s).1 = ((o.withResolver r').reference f s').1 ∧
      R (o.reference f s).2 ((o.withResolver r').reference f s').2 := by
  have start : Trace.Related R Eq ⟨s, []⟩ ⟨s', []⟩ := ⟨h, rfl⟩
  have together := o.resolve_related related (fun n _ _ same => congrArg (n :: ·) same) f start
  unfold reference
  generalize o.resolve f ⟨s, []⟩ = r at together ⊢
  generalize (o.withResolver r').resolve f ⟨s', []⟩ = q at together ⊢
  cases together with
  | ok same traces => exact ⟨same, traces.1⟩
  | error _ traces => exact ⟨rfl, traces.1⟩

/-- **Names do not matter for success**: it takes a column and a row that have a meaning. -/
theorem exists_resolve_ok_iff (f : RefFields) (t : Trace σ) :
    (∃ ref, (o.resolve f t).1 = .ok ref) ↔
      (AxisValue.ofField? o.variant o.position.column f.columnField).isSome ∧
        (AxisValue.ofField? o.variant o.position.row f.row.toNat).isSome := by
  have spec := o.resolve_spec f t
  generalize o.resolve f t = r at spec ⊢
  cases spec with
  | noColumn columnField => simp [columnField]
  | noRow columnField rowField => simp [rowField]
  | gone columnField rowField gone => simp [columnField, rowField]
  | there columnField rowField sheetField => simp [columnField, rowField]

/-- Fields are accepted when column and row have a meaning. -/
theorem accepts_of_axes {f : RefFields} (sheet : f.sheet.isSome = o.variant.sheetField)
    (axes : (AxisValue.ofField? o.variant o.position.column f.columnField).isSome ∧
      (AxisValue.ofField? o.variant o.position.row f.row.toNat).isSome) : o.Accepts f :=
  ⟨sheet, fun t => (o.exists_resolve_ok_iff f t).mpr axes⟩

/-- **Accepted fields are resolved to their reference**, whatever was noted before. -/
theorem resolve_of_accepts {f : RefFields} (h : o.Accepts f) (t : Trace σ) :
    ∃ notes, o.resolve f t =
      (.ok (o.reference f t.names).1, ⟨(o.reference f t.names).2, notes⟩) := by
  -- Compare with the resolution that starts without notes, by which the reference is defined.
  obtain ⟨ref, bare⟩ := h.2 ⟨t.names, []⟩
  have start : Trace.Related Eq (fun _ _ => True) ⟨t.names, []⟩ t := ⟨rfl, trivial⟩
  have together := o.resolve_related (Resolver.relates_eq _) (fun _ _ _ _ => trivial) f start
  rw [show o.withResolver o.resolver = o from rfl] at together
  unfold reference
  generalize o.resolve f ⟨t.names, []⟩ = r at bare together ⊢
  generalize o.resolve f t = q at together ⊢
  cases together with
  | @ok ref' _ s u same traces =>
      obtain rfl := same
      have names : s.names = u.names := traces.1
      refine ⟨u.notes, ?_⟩
      show (Except.ok ref', u) = (Except.ok ref', (⟨s.names, u.notes⟩ : Trace σ))
      rw [names]
  | error _ traces => cases bare

/-! ## Reading references -/

variable {o}

/-- An accepted reference takes as many bytes as all of them do. -/
theorem Ref.length_written (r : o.Ref) : r.written.length = o.variant.refSize :=
  RefFields.length_written r.property.1

/-- **Fields ahead**: the bytes of some fields stand at a cursor. -/
structure FieldsAt (o : Options σ) (c : Cursor) (f : RefFields) : Prop where
  /-- They are those of the variant's references. -/
  sheet : f.sheet.isSome = o.variant.sheetField
  /-- Their bytes are ahead. -/
  ahead : c.rest = f.written ++ (c.skip o.variant.refSize).rest

/-- **What reading a reference can come to**: its bytes cannot be taken, or there are fields that are resolved
to a reference, or rejected where they stand. -/
inductive RefRead (o : Options σ) (c : Cursor) (t : Trace σ) : Except Stop CellRef × Cursor × Trace σ → Prop
  | missing {stop : Stop} (failed : c.take .cellReference o.variant.refSize = .error stop) :
      RefRead o c t (.error stop, c, t)
  | accepted {f : RefFields} {ref : CellRef} {t' : Trace σ} (fields : o.FieldsAt c f)
      (resolved : o.resolve f t = (.ok ref, t')) : RefRead o c t (.ok ref, c.skip o.variant.refSize, t')
  | malformed {f : RefFields} {field : MalformedField} {t' : Trace σ} (fields : o.FieldsAt c f)
      (resolved : o.resolve f t = (.error field, t')) :
      RefRead o c t (.error (.error ⟨field.cause, c.pos⟩), c.skip o.variant.refSize, t')

variable {c c' : Cursor} {t t' : Trace σ}

/-- Fields that are ahead are taken and told apart. -/
theorem FieldsAt.taken {f : RefFields} (h : o.FieldsAt c f) :
    c.take .cellReference o.variant.refSize = .ok f.written ∧
      RefFields.ofBytes? o.variant.sheetField f.written = some f := by
  have length := RefFields.length_written h.sheet
  have some : f.written ≠ [] := by
    refine List.ne_nil_of_length_pos ?_
    rw [length, Variant.refSize]
    split <;> omega
  refine ⟨?_, ?_⟩
  · rw [← length]
    exact Cursor.take_append .cellReference h.ahead some
  · rw [← h.sheet]
    exact RefFields.ofBytes?_written f

/-- **Reading a reference** comes to one of these. -/
theorem readRef_spec (o : Options σ) (c : Cursor) (t : Trace σ) : o.RefRead c t (o.readRef c t) := by
  unfold readRef
  cases taken : c.take .cellReference o.variant.refSize with
  | error stop => exact .missing taken
  | ok block =>
      obtain ⟨length, ahead⟩ := Cursor.rest_of_take taken
      -- A block of this length holds the fields of some reference.
      obtain ⟨f, sheet, rfl⟩ := RefFields.exists_written length
      have fields : o.FieldsAt c f := ⟨sheet, ahead⟩
      simp only [fields.taken.2]
      rcases resolved : o.resolve f t with ⟨field | ref, t'⟩
      · exact .malformed fields resolved
      · exact .accepted fields resolved

namespace RefRead

/-- **A reference is read in one way.** -/
theorem eq {r : Except Stop CellRef × Cursor × Trace σ} (h : o.RefRead c t r) : o.readRef c t = r := by
  cases h with
  | missing failed => rw [readRef, failed]
  | accepted fields resolved =>
      rw [readRef, fields.taken.1]
      simp only [fields.taken.2, resolved]
  | malformed fields resolved =>
      rw [readRef, fields.taken.1]
      simp only [fields.taken.2, resolved]

/-- Reading a reference passes over bytes that are ahead. -/
theorem passes {r : Except Stop CellRef × Cursor × Trace σ} (h : o.RefRead c t r) : c.Passes r.2.1 := by
  have passed {f : RefFields} (fields : o.FieldsAt c f) : c.Passes (c.skip o.variant.refSize) := by
    rw [← RefFields.length_written fields.sheet]
    exact .block fields.ahead
  cases h with
  | missing failed => exact .refl c
  | accepted fields resolved => exact passed fields
  | malformed fields resolved => exact passed fields

/-- **Where all bytes are there, no access goes astray.** -/
theorem error_of_whole {stop : Stop} (whole : c.Whole) (h : o.RefRead c t (.error stop, c', t')) :
    ∃ e, stop = .error e := by
  cases h with
  | missing failed => exact ⟨_, (whole.take_error failed).2⟩
  | malformed fields resolved => exact ⟨_, rfl⟩

/-- **Only accepted references are read**, with the names that their look-ups leave. -/
theorem exists_ref {ref : CellRef} (h : o.RefRead c t (.ok ref, c', t')) :
    ∃ r : o.Ref, c.rest = r.written ++ c'.rest ∧ c' = c.skip r.written.length ∧
      ref = (o.reference r.val t.names).1 ∧ t'.names = (o.reference r.val t.names).2 := by
  cases h with
  | @accepted f _ _ fields resolved =>
      have accepts : o.Accepts f :=
        o.accepts_of_axes fields.sheet ((o.exists_resolve_ok_iff f t).mp ⟨ref, congrArg Prod.fst resolved⟩)
      obtain ⟨notes, same⟩ := o.resolve_of_accepts accepts t
      rw [resolved, Prod.mk.injEq, Except.ok.injEq] at same
      let r : o.Ref := ⟨f, accepts⟩
      exact ⟨r, fields.ahead, by rw [r.length_written], same.1, congrArg Trace.names same.2⟩

end RefRead

/-- **The bytes of an accepted reference are read as that reference.** -/
theorem refRead_written (r : o.Ref) {tail : List UInt8} (ahead : c.rest = r.written ++ tail) (t : Trace σ) :
    ∃ notes, o.RefRead c t (.ok (o.reference r.val t.names).1, c.skip r.written.length,
      ⟨(o.reference r.val t.names).2, notes⟩) := by
  obtain ⟨notes, resolved⟩ := o.resolve_of_accepts r.property t
  have behind := Cursor.rest_skip_of_append ahead
  rw [r.length_written] at behind ⊢
  exact ⟨notes, .accepted ⟨r.property.1, by rw [ahead, behind]; rfl⟩ resolved⟩

end Options

end SheetFormula
