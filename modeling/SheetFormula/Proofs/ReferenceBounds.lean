import Mathlib.Algebra.Group.Nat.Defs
import SheetFormula.Render
import SheetFormula.Proofs.AcceptedReference
import SheetFormula.Proofs.ColumnNumbering

/-!
# Bounds of references

Which columns and rows a decoded reference can have, and why they have a name:

* **`wrapAround_bounds`** — a step around an axis stays on it, whatever the words involved are;
* **`CellRef.OnSheet`**, **`Options.reference_onSheet`** — the column and the row of a decoded reference stand
  on a sheet of 8192 by 8192 cells, and with eight-bit distances within its first 256 columns;
* **`ColumnName.exists_name`** — a column below the room of eight letters has a name, so instructions whose
  references stand on the sheet have a text (`exists_render`).
-/

namespace SheetFormula

variable {σ : Type}

/-! ## Coordinates -/

/-- **A step around an axis stays on it.** The sum may overflow; its remainder lies strictly between the
negative modulus and the modulus, and one modulus more brings a negative one onto the axis. -/
theorem wrapAround_bounds {modulus : Int64} (positive : 0 < modulus.toInt) (own : Int64) (d : Int) :
    0 ≤ (wrapAround modulus own d).toInt ∧ (wrapAround modulus own d).toInt < modulus.toInt := by
  have below := Int.tmod_lt_of_pos (own + Int64.ofInt d).toInt positive
  have above := Int.lt_tmod_of_pos (own + Int64.ofInt d).toInt positive
  rw [← Int64.toInt_mod] at below above
  unfold wrapAround
  generalize (own + Int64.ofInt d) % modulus = value at below above
  show 0 ≤ (if value < 0 then value + modulus else value).toInt ∧
    (if value < 0 then value + modulus else value).toInt < modulus.toInt
  have zero : (0 : Int64).toInt = 0 := rfl
  -- A truncated remainder may be negative; adding the modulus once is enough, and does not overflow.
  by_cases negative : value < 0
  · have largest := modulus.toInt_lt
    rw [Int64.lt_iff_toInt_lt, zero] at negative
    have sum : (value + modulus).toInt = value.toInt + modulus.toInt := by
      rw [Int64.toInt_add]
      exact Int.bmod_eq_of_le_mul_two (by omega) (by omega)
    rw [if_pos (Int64.lt_iff_toInt_lt.mpr (zero ▸ negative)), sum]
    omega
  · rw [if_neg negative]
    rw [Int64.lt_iff_toInt_lt, zero] at negative
    omega

/-- An axis has at least one place and at most 8192 of them. -/
theorem Variant.axisWidth_bounds (v : Variant) : 0 < v.axisWidth.toInt ∧ v.axisWidth.toInt ≤ 8192 := by
  unfold axisWidth
  split <;> decide

/-- **A coordinate stands on the sheet.** -/
def Coordinate.OnSheet (c : Coordinate) : Prop := 0 ≤ c.value ∧ c.value ≤ 8191

/-- Whether a coordinate stands on the sheet can be decided. -/
instance : DecidablePred Coordinate.OnSheet :=
  fun c => inferInstanceAs (Decidable (0 ≤ c.value ∧ c.value ≤ 8191))

/-- **A field that has a place has it on the sheet**, for any owner. -/
theorem AxisValue.onSheet_of_ofField? {v : Variant} {own : Int64} {field : Nat} {c : Coordinate}
    (h : AxisValue.ofField? v own field = some (.place c)) : c.OnSheet := by
  have last : (8191 : Int64).toInt = 8191 := rfl
  have zero : (0 : Int64).toInt = 0 := rfl
  rw [Coordinate.OnSheet, Int64.le_iff_toInt_le, Int64.le_iff_toInt_le, last, zero]
  unfold ofField? at h
  split at h
  · next small =>
    -- The field is the coordinate itself, below `0x1000`.
    obtain rfl := AxisValue.place.inj (Option.some.inj h)
    rw [Int64.toInt_ofNat_of_lt (by omega)]
    omega
  · split at h
    · -- A distance: the owner's coordinate is moved around the axis.
      obtain rfl := AxisValue.place.inj (Option.some.inj h)
      obtain ⟨positive, width⟩ := v.axisWidth_bounds
      have bounds := wrapAround_bounds positive own (distance v.width field)
      exact ⟨bounds.1, Int.le_of_lt_add_one (Int.lt_of_lt_of_le bounds.2 width)⟩
    · split at h <;> cases h

/-! ## References -/

/-- **A reference stands on the sheet**: column and row do, and with eight-bit distances the column is one of
the first 256. -/
structure CellRef.OnSheet (v : Variant) (ref : CellRef) : Prop where
  /-- The column is on the sheet. -/
  column : ref.column.OnSheet
  /-- With eight-bit distances it is one of the first. -/
  narrow : v.width = narrowWidth → ref.column.value ≤ 255
  /-- The row is on the sheet. -/
  row : ref.row.OnSheet

/-- **Clamping keeps a column on the sheet**, and brings it among the first with eight-bit distances. -/
theorem clampColumn_onSheet (v : Variant) {c : Coordinate} (h : c.OnSheet) :
    (clampColumn v c).OnSheet ∧ (v.width = narrowWidth → (clampColumn v c).value ≤ 255) := by
  unfold clampColumn
  by_cases beyond : (decide (v.width = narrowWidth) && decide (narrowColumnMax < c.value)) = true
  · rw [if_pos beyond]
    have onSheet : (0 : Int64) ≤ narrowColumnMax ∧ narrowColumnMax ≤ 8191 := by decide
    exact ⟨onSheet, fun _ => Int64.le_refl _⟩
  · rw [if_neg beyond]
    refine ⟨h, fun narrow => ?_⟩
    rw [decide_eq_true narrow, Bool.true_and, decide_eq_true_eq] at beyond
    exact Int64.not_lt.mp beyond

/-- **A resolved reference stands on the sheet** unless it is gone. -/
theorem Options.resolve_onSheet (o : Options σ) {f : RefFields} {t : Trace σ} {ref : CellRef}
    (h : (o.resolve f t).1 = .ok ref) (there : ref.unresolved = false) : ref.OnSheet o.variant := by
  have spec := o.resolve_spec f t
  generalize o.resolve f t = r at spec h
  cases spec with
  | noColumn | noRow => cases h
  | gone columnField rowField gone =>
      obtain rfl := Except.ok.inj h
      cases there
  | there columnField rowField sheetField =>
      obtain rfl := Except.ok.inj h
      have column := clampColumn_onSheet o.variant (AxisValue.onSheet_of_ofField? columnField)
      exact ⟨column.1, column.2, AxisValue.onSheet_of_ofField? rowField⟩

/-- **Decoded references stand on the sheet** unless they are gone. -/
theorem Options.reference_onSheet (o : Options σ) (f : RefFields) (s : σ)
    (there : (o.reference f s).1.unresolved = false) : (o.reference f s).1.OnSheet o.variant := by
  unfold reference at there ⊢
  rcases resolved : o.resolve f ⟨s, []⟩ with ⟨e | ref, t⟩
  · simp [resolved, CellRef.gone] at there
  · simp only [resolved] at there ⊢
    exact o.resolve_onSheet (congrArg Prod.fst resolved) there

/-! ## Names of columns -/

namespace ColumnName

/-- **A column with room for its letters has a name.** -/
theorem exists_name {column : Int64} (h : column.toInt.toNat < room maxLetters) :
    ∃ name, name? column = some name := by
  by_cases negative : column < 0
  · rw [name?, if_pos negative]
    exact ⟨_, rfl⟩
  · rw [name?_of_nonneg (Int64.not_lt.mp negative), if_pos h]
    exact ⟨_, rfl⟩

end ColumnName

/-! ## Texts -/

/-- A coordinate on the sheet has a column name. -/
theorem Coordinate.OnSheet.exists_name {c : Coordinate} (h : c.OnSheet) :
    ∃ name, ColumnName.name? c.value = some name := by
  have last : c.value.toInt ≤ 8191 := Int64.le_iff_toInt_le.mp h.2
  have room : 8191 < ColumnName.room ColumnName.maxLetters := by decide
  exact ColumnName.exists_name (by omega)

/-- A cell on the sheet has a name there. -/
theorem CellRef.OnSheet.exists_localName {v : Variant} {ref : CellRef} (h : ref.OnSheet v) :
    ∃ name, ref.localName? = some name := by
  obtain ⟨name, named⟩ := h.column.exists_name
  rw [CellRef.localName?, named]
  exact ⟨_, rfl⟩

/-- **References of an instruction**: one of a cell, two of a range. -/
def Instruction.refs : Instruction → List CellRef
  | .cell ref => [ref]
  | .range first last => [first, last]
  | _ => []

/-- **An instruction stands on the sheet** when its references do, unless they are gone. -/
def Instruction.OnSheet (v : Variant) (i : Instruction) : Prop :=
  ∀ ref ∈ i.refs, ref.unresolved = false → ref.OnSheet v

/-- A cell on the sheet, or one that is gone, has a name. -/
theorem CellRef.exists_name {v : Variant} {ref : CellRef}
    (h : ref.unresolved = false → ref.OnSheet v) : ∃ name, ref.name? = some name := by
  unfold name?
  cases there : ref.unresolved with
  | true => exact ⟨_, rfl⟩
  | false =>
      obtain ⟨name, named⟩ := (h there).exists_localName
      rw [named]
      exact ⟨_, rfl⟩

/-- So has a range of such cells. -/
theorem CellRef.exists_rangeName {v : Variant} {first last : CellRef}
    (h : first.unresolved = false → first.OnSheet v) (h' : last.unresolved = false → last.OnSheet v) :
    ∃ name, first.rangeName? last = some name := by
  unfold rangeName?
  by_cases gone : (first.unresolved || last.unresolved) = true
  · rw [if_pos gone]
    exact ⟨_, rfl⟩
  · rw [if_neg gone]
    rw [Bool.or_eq_true, not_or, Bool.not_eq_true, Bool.not_eq_true] at gone
    obtain ⟨name, named⟩ := (h gone.1).exists_localName
    obtain ⟨name', named'⟩ := (h' gone.2).exists_localName
    rw [named, named']
    exact ⟨_, rfl⟩

/-- **Instructions on the sheet have a text.** -/
theorem Instruction.OnSheet.exists_text {v : Variant} {i : Instruction} (h : i.OnSheet v) :
    ∃ text, i.text? = some text := by
  cases i with
  | cell ref => exact CellRef.exists_name (h ref (by simp [refs]))
  | range first last =>
      exact CellRef.exists_rangeName (h first (by simp [refs])) (h last (by simp [refs]))
  | operator _ | function _ | number _ | integer _ | text _ | unlisted _ => exact ⟨_, rfl⟩

/-- **Instruction lists on the sheet have a text.** -/
theorem exists_render {v : Variant} {list : List Instruction} (h : ∀ i ∈ list, i.OnSheet v) :
    ∃ text, render? list = some text := by
  have texts : ∃ texts, list.mapM Instruction.text? = some texts := by
    induction list with
    | nil => exact ⟨_, rfl⟩
    | cons i list ih =>
        obtain ⟨text, first⟩ := (h i List.mem_cons_self).exists_text
        obtain ⟨texts, others⟩ := ih fun j hj => h j (List.mem_cons_of_mem _ hj)
        rw [List.mapM_cons, first, others]
        exact ⟨_, rfl⟩
  obtain ⟨texts, found⟩ := texts
  rw [render?, found]
  exact ⟨_, rfl⟩

end SheetFormula
