import SheetFormula.Proofs.Rebasing

/-!
# What the fields of a reference say

The fields of a reference by their bits, the coordinates over the integers, and the reference that is made of
them:

* **`FieldForm.of`** — the four forms of a field by its upper bits; `FieldForm.of_eq` — by its number;
* **`RefFields.bareColumn`** — the column field without the bits of a file (`RefFields.columnField_eq`);
  `RefFields.Malformed`, `RefFields.SaysGone` — what some fields say as a whole;
* **`DeltaWidth`** — the two widths of a distance; `DeltaWidth.distance` — the low bits in two's complement,
  and `DeltaWidth.place` — the coordinate of a field, without any word that could overflow;
* **`AxisValue.value_of_ofField?`** — reading a field gives that coordinate;
* **`Options.Denotes`**, **`Options.resolve_exact`** — the reference of some fields: none when a field is
  malformed, one that is gone when a field says so, and otherwise the one that the bits denote.
-/

namespace SheetFormula

variable {σ : Type}

/-! ## Forms of a field -/

/-- **Form of a field.** -/
inductive FieldForm where
  /-- The coordinate itself. -/
  | absolute
  /-- A distance from the owner. -/
  | relative
  /-- The mark of a cell that is gone. -/
  | sentinel
  /-- No form at all. -/
  | malformed
  deriving DecidableEq, Repr

/-- **Form of a field by its bits**: absolute when the upper four are clear, relative when the upper two are
`10`, the sentinel when all are set. -/
def FieldForm.of (field : UInt16) : FieldForm :=
  if field >>> 12 = 0 then .absolute
  else if field >>> 14 = 0b10 then .relative
  else if field = 0xffff then .sentinel
  else .malformed

/-- **Form of a field by its number.** -/
theorem FieldForm.of_eq (field : UInt16) :
    FieldForm.of field =
      if field.toNat < 0x1000 then .absolute
      else if 0x8000 ≤ field.toNat ∧ field.toNat < 0xc000 then .relative
      else if field.toNat = sentinelField then .sentinel
      else .malformed := by
  have small := field.toNat_lt
  -- The bits of the form, as bounds on the number.
  have absolute : field >>> 12 = 0 ↔ field.toNat < 0x1000 := by
    rw [← UInt16.toNat_inj, UInt16.toNat_shiftRight]
    show field.toNat >>> 12 = 0 ↔ _
    rw [Nat.shiftRight_eq_div_pow]
    omega
  have relative : field >>> 14 = 0b10 ↔ 0x8000 ≤ field.toNat ∧ field.toNat < 0xc000 := by
    rw [← UInt16.toNat_inj, UInt16.toNat_shiftRight]
    show field.toNat >>> 14 = 2 ↔ _
    rw [Nat.shiftRight_eq_div_pow]
    omega
  have sentinel : field = 0xffff ↔ field.toNat = sentinelField := by
    rw [← UInt16.toNat_inj]
    rfl
  simp only [FieldForm.of, absolute, relative, sentinel]

/-! ## The column field -/

namespace RefFields

/-- **Number of a file** by its bits: bits 8 to 11 of the column field. -/
def fileNumber (f : RefFields) : UInt16 := f.column >>> 8 &&& 0xf

/-- **A file is named** when these bits are neither all clear nor all set. -/
def NamesFile (f : RefFields) : Prop := f.fileNumber ≠ 0 ∧ f.fileNumber ≠ 15

/-- Whether the fields name a file can be decided. -/
instance (f : RefFields) : Decidable f.NamesFile := instDecidableAnd

/-- **Column field without a file**: the bits of its number are cleared when they name one. -/
def bareColumn (f : RefFields) : UInt16 := if f.NamesFile then f.column &&& 0xf0ff else f.column

/-- **Malformed fields**: the column, without the bits of a file, or the row has no form. -/
def Malformed (f : RefFields) : Prop :=
  FieldForm.of f.bareColumn = .malformed ∨ FieldForm.of f.row = .malformed

/-- Whether the fields are malformed can be decided. -/
instance (f : RefFields) : Decidable f.Malformed := instDecidableOr

/-- **Fields that say the cell is gone**: one of them is the sentinel. -/
def SaysGone (f : RefFields) : Prop :=
  FieldForm.of f.bareColumn = .sentinel ∨ FieldForm.of f.row = .sentinel ∨ f.sheet = some 0xffff

/-- Whether the fields say that a cell is gone can be decided. -/
instance (f : RefFields) : Decidable f.SaysGone := instDecidableOr

/-- The number of a file is that of its bits. -/
theorem toNat_fileNumber (f : RefFields) : f.fileNumber.toNat = f.fileBits := by
  rw [fileNumber, UInt16.toNat_and, UInt16.toNat_shiftRight, fileBits]
  show f.column.toNat >>> 8 &&& (2 ^ 4 - 1) = _
  rw [Nat.and_two_pow_sub_one_eq_mod, Nat.shiftRight_eq_div_pow]

/-- A file is named by any number but the smallest and the largest one. -/
theorem namesFile_iff (f : RefFields) : f.NamesFile ↔ f.fileBits ≠ 0 ∧ f.fileBits ≠ 15 := by
  rw [NamesFile, ← toNat_fileNumber, Ne, Ne, ← UInt16.toNat_inj, ← UInt16.toNat_inj]
  rfl

/-- **The number of a file** is there exactly when the bits name one. -/
theorem file?_eq (f : RefFields) : f.file? = if f.NamesFile then some f.fileNumber.toNat else none := by
  rw [file?, toNat_fileNumber]
  by_cases named : f.NamesFile
  · have bits := f.namesFile_iff.mp named
    rw [if_pos named, if_neg (by simpa using bits)]
  · have bits := mt f.namesFile_iff.mpr named
    rw [if_neg named, if_pos (by simp; omega)]

/-- Clearing the bits of the number takes it away. -/
theorem and_mask (x : Nat) (small : x < 0x10000) : x &&& 0xf0ff = x - 256 * (x / 256 % 16) := by
  -- Byte by byte, and the upper byte half by half.
  have low : (x &&& 0xf0ff) % 2 ^ 8 = x % 2 ^ 8 := by
    rw [Nat.and_mod_two_pow]
    exact (Nat.and_two_pow_sub_one_eq_mod _ 8).trans (Nat.mod_mod _ _)
  have middle : (x &&& 0xf0ff) / 2 ^ 8 % 2 ^ 4 = 0 := by
    rw [Nat.and_div_two_pow, Nat.and_mod_two_pow]
    exact Nat.and_zero _
  have high : (x &&& 0xf0ff) / 2 ^ 12 = x / 2 ^ 12 := by
    rw [Nat.and_div_two_pow]
    exact (Nat.and_two_pow_sub_one_eq_mod _ 4).trans (Nat.mod_eq_of_lt (by omega))
  omega

/-- **The column field proper is the one without the bits of a file.** -/
theorem columnField_eq (f : RefFields) : f.columnField = f.bareColumn.toNat := by
  rw [columnField, file?_eq, bareColumn]
  by_cases named : f.NamesFile
  · rw [if_pos named, if_pos named, UInt16.toNat_and, toNat_fileNumber, fileBits]
    exact (and_mask _ f.column.toNat_lt).symm
  · rw [if_neg named, if_neg named]

end RefFields

/-! ## Coordinates over the integers -/

/-- **Width of a distance.** -/
inductive DeltaWidth where
  /-- Eight bits. -/
  | narrow
  /-- Fourteen bits. -/
  | extended
  deriving DecidableEq, Repr

namespace DeltaWidth

/-- The width as variants give it. -/
def word : DeltaWidth → Int64
  | .narrow => narrowWidth
  | .extended => extendedWidth

/-- How many bits of a field carry a distance. -/
def bits : DeltaWidth → Nat
  | .narrow => 8
  | .extended => 14

/-- **Span of an axis**: how many columns or rows there are before it wraps around. -/
def span : DeltaWidth → Int
  | .narrow => 256
  | .extended => 8192

/-- **Distance of a relative field**: its low bits in two's complement. -/
def distance (w : DeltaWidth) (field : UInt16) : Int := (field.toBitVec.setWidth w.bits).toInt

/-- **Place of a field** for an owner, over the integers: the field itself, or the owner's coordinate and the
distance, brought onto the axis. -/
def place (w : DeltaWidth) (own : Int) (field : UInt16) : Int :=
  if FieldForm.of field = .relative then (own + w.distance field) % w.span else field.toNat

/-- **Last column**: with the narrow width a column is never behind the last one. -/
def cap : DeltaWidth → Int → Int
  | .narrow, column => min column 255
  | .extended, column => column

variable {v : Variant} {w : DeltaWidth}

/-- The width of the axis is the span of coordinates. -/
theorem toInt_axisWidth (width : v.width = w.word) : v.axisWidth.toInt = w.span := by
  rw [Variant.axisWidth, width]
  cases w <;> rfl

/-- The low bits of a field as a signed number, either way. -/
theorem signedLow_eq (bits : Nat) (field : UInt16) :
    signedLow bits field.toNat = (field.toBitVec.setWidth bits).toInt := by
  rw [BitVec.toInt_eq_toNat_cond, BitVec.toNat_setWidth, UInt16.toNat_toBitVec, signedLow, Nat.one_shiftLeft]
  by_cases low : 2 * (field.toNat % 2 ^ bits) < 2 ^ bits
  · rw [if_pos low, if_neg (Nat.not_le.mpr low)]
  · rw [if_neg low, if_pos (Nat.le_of_not_lt low)]

/-- The distance in a field is read in two's complement. -/
theorem distance_eq (width : v.width = w.word) (field : UInt16) :
    SheetFormula.distance v.width field.toNat = w.distance field := by
  have bits : min v.width.toUInt64.toNat 17 = w.bits := by
    rw [width]
    cases w <;> rfl
  rw [SheetFormula.distance, bits, signedLow_eq, distance]

/-- A step around the axis is exact: the span divides the number of words, so an overflow is a number of
turns. -/
theorem toInt_wrapAround_eq (width : v.width = w.word) (own : Int64) (field : UInt16) :
    (wrapAround v.axisWidth own (SheetFormula.distance v.width field.toNat)).toInt =
      (own.toInt + w.distance field) % w.span := by
  rw [toInt_wrapAround v.axisWidth_bounds.1 v.axisWidth_dvd, toInt_axisWidth width, distance_eq width]

/-- A column is capped, and stays relative or absolute. -/
theorem toInt_clampColumn (width : v.width = w.word) (c : Coordinate) :
    (clampColumn v c).value.toInt = w.cap c.value.toInt ∧ (clampColumn v c).relative = c.relative := by
  have last : narrowColumnMax.toInt = 255 := rfl
  rw [clampColumn, width]
  cases w with
  | narrow =>
      rw [decide_eq_true (show DeltaWidth.narrow.word = narrowWidth from rfl), Bool.true_and]
      -- Only a narrow variant has a cap.
      by_cases beyond : narrowColumnMax < c.value
      · have behind := Int64.lt_iff_toInt_lt.mp beyond
        rw [if_pos (decide_eq_true beyond), cap]
        refine ⟨?_, rfl⟩
        rw [last]
        omega
      · have before := Int64.le_iff_toInt_le.mp (Int64.not_lt.mp beyond)
        rw [if_neg (by simpa using beyond), cap]
        exact ⟨by omega, rfl⟩
  | extended => exact ⟨rfl, rfl⟩

end DeltaWidth

/-! ## Values of fields -/

namespace AxisValue

variable {v : Variant} {w : DeltaWidth}

/-- **What a field says, by its form.** -/
theorem ofField?_eq (v : Variant) (own : Int64) (field : UInt16) :
    ofField? v own field.toNat =
      match FieldForm.of field with
      | .absolute => some (.place ⟨Int64.ofNat field.toNat, false⟩)
      | .relative => some (.place ⟨wrapAround v.axisWidth own (distance v.width field.toNat), true⟩)
      | .sentinel => some .gone
      | .malformed => none := by
  rw [FieldForm.of_eq, ofField?]
  by_cases absolute : field.toNat < 0x1000
  · rw [if_pos absolute, if_pos absolute]
  · rw [if_neg absolute, if_neg absolute]
    by_cases relative : 0x8000 ≤ field.toNat ∧ field.toNat < 0xc000
    · rw [if_pos relative, if_pos (by simpa using relative)]
    · rw [if_neg relative, if_neg (by simpa using relative)]
      by_cases sentinel : field.toNat = sentinelField
      · rw [if_pos sentinel, if_pos sentinel]
      · rw [if_neg sentinel, if_neg sentinel]

/-- A field has no value exactly when it is malformed. -/
theorem ofField?_eq_none_iff (v : Variant) (own : Int64) (field : UInt16) :
    ofField? v own field.toNat = none ↔ FieldForm.of field = .malformed := by
  rw [ofField?_eq]
  cases FieldForm.of field <;> simp

/-- A field says that the cell is gone exactly when it is the sentinel. -/
theorem ofField?_eq_gone_iff (v : Variant) (own : Int64) (field : UInt16) :
    ofField? v own field.toNat = some .gone ↔ FieldForm.of field = .sentinel := by
  rw [ofField?_eq]
  cases FieldForm.of field <;> simp

/-- **The coordinate of a field** is its place over the integers, and relative exactly when the field is. -/
theorem value_of_ofField? (width : v.width = w.word) {own : Int64} {field : UInt16} {c : Coordinate}
    (h : ofField? v own field.toNat = some (.place c)) :
    c.value.toInt = w.place own.toInt field ∧ (c.relative = true ↔ FieldForm.of field = .relative) := by
  rw [ofField?_eq] at h
  unfold DeltaWidth.place
  -- An absolute field is the value itself, and a relative one a distance from the owner.
  cases form : FieldForm.of field with
  | absolute =>
      rw [form] at h
      obtain rfl := AxisValue.place.inj (Option.some.inj h)
      have small := field.toNat_lt
      rw [if_neg nofun]
      exact ⟨Int64.toInt_ofNat_of_lt (by omega), by simp⟩
  | relative =>
      rw [form] at h
      obtain rfl := AxisValue.place.inj (Option.some.inj h)
      rw [if_pos rfl]
      exact ⟨DeltaWidth.toInt_wrapAround_eq width own field, by simp⟩
  | sentinel | malformed =>
      rw [form] at h
      cases h

end AxisValue

/-! ## References -/

/-- The name of a look-up is the answer, and empty without one. -/
theorem Trace.nameOf_eq (t : Trace σ) (r : Resolver σ) (key : NameKey) :
    (t.nameOf r key).1 = (r key t.names).1.getD "" ∧ (t.nameOf r key).2.names = (r key t.names).2 := by
  unfold nameOf
  generalize r key t.names = found
  obtain ⟨_ | name, s⟩ := found <;> exact ⟨rfl, rfl⟩

namespace Options

variable (o : Options σ)

/-- The state of the names once the file of some fields has been asked for, when they name one. -/
def namesBehindFile (f : RefFields) (names : σ) : σ :=
  if f.NamesFile then (o.resolver (.file (Int64.ofNat f.fileNumber.toNat)) names).2 else names

/-- **What some fields denote** for an owner, with the names in some state: coordinates over the integers, the
file that the column field names, and the sheet when it is not the owner's or a file is named. A name that
nobody knows is empty. -/
structure Denotes (w : DeltaWidth) (f : RefFields) (names : σ) (ref : CellRef) : Prop where
  /-- The cell is there. -/
  there : ref.unresolved = false
  /-- The column. -/
  column : ref.column.value.toInt = w.cap (w.place o.position.column.toInt f.bareColumn)
  /-- The column is relative when its field is. -/
  column_relative : ref.column.relative = true ↔ FieldForm.of f.bareColumn = .relative
  /-- The row. -/
  row : ref.row.value.toInt = w.place o.position.row.toInt f.row
  /-- The row is relative when its field is. -/
  row_relative : ref.row.relative = true ↔ FieldForm.of f.row = .relative
  /-- The file. -/
  file : ref.file =
    if f.NamesFile then
      ⟨true, Int64.ofNat f.fileNumber.toNat,
        (o.resolver (.file (Int64.ofNat f.fileNumber.toNat)) names).1.getD ""⟩
    else {}
  /-- The sheet. -/
  sheet : ref.sheet =
    if o.sheetOf f ≠ o.position.sheet ∨ f.NamesFile then
      ⟨true, o.sheetOf f, (o.resolver (.sheet (o.sheetOf f)) (o.namesBehindFile f names)).1.getD ""⟩
    else {}

/-- **The file of some fields**, and the names behind it. -/
theorem resolveFile_eq (f : RefFields) (t : Trace σ) :
    (o.resolveFile f t).1 =
        (if f.NamesFile then
          ⟨true, Int64.ofNat f.fileNumber.toNat,
            (o.resolver (.file (Int64.ofNat f.fileNumber.toNat)) t.names).1.getD ""⟩
        else {}) ∧
      (o.resolveFile f t).2.names = o.namesBehindFile f t.names := by
  rw [resolveFile, f.file?_eq, namesBehindFile]
  by_cases named : f.NamesFile
  · obtain ⟨name, names⟩ := t.nameOf_eq o.resolver (.file (Int64.ofNat f.fileNumber.toNat))
    rw [if_pos named, if_pos named, if_pos named]
    exact ⟨congrArg (NamedId.mk true (Int64.ofNat f.fileNumber.toNat)) name, names⟩
  · rw [if_neg named, if_neg named, if_neg named]
    exact ⟨rfl, rfl⟩

/-- **The sheet of some fields.** -/
theorem resolveSheet_eq (f : RefFields) (fileGiven : Bool) (t : Trace σ) :
    (o.resolveSheet f fileGiven t).1 =
      if o.sheetOf f ≠ o.position.sheet ∨ fileGiven = true then
        ⟨true, o.sheetOf f, (o.resolver (.sheet (o.sheetOf f)) t.names).1.getD ""⟩
      else {} := by
  have condition : (decide (o.sheetOf f ≠ o.position.sheet) || fileGiven) = true ↔
      o.sheetOf f ≠ o.position.sheet ∨ fileGiven = true := by
    rw [Bool.or_eq_true, decide_eq_true_eq]
  rw [resolveSheet]
  by_cases given : o.sheetOf f ≠ o.position.sheet ∨ fileGiven = true
  · rw [if_pos given, if_pos (condition.mpr given)]
    exact congrArg (NamedId.mk true (o.sheetOf f)) (t.nameOf_eq o.resolver _).1
  · rw [if_neg given, if_neg (mt condition.mp given)]

/-- A sheet is gone exactly when its field has all bits set. -/
theorem sheetGone_iff (f : RefFields) : sheetGone f = true ↔ f.sheet = some 0xffff := by
  rw [sheetGone]
  cases f.sheet with
  | none => simp
  | some sheet =>
      rw [decide_eq_true_eq, Option.some.injEq, ← UInt16.toNat_inj]
      rfl

/-- **Malformed fields** are an error; the column is looked at first. -/
theorem resolve_of_malformed {f : RefFields} (t : Trace σ) (h : f.Malformed) :
    (o.resolve f t).1 =
      .error (if FieldForm.of f.bareColumn = .malformed then .column f.column else .row f.row) := by
  by_cases column : FieldForm.of f.bareColumn = .malformed
  · have columnField := (AxisValue.ofField?_eq_none_iff o.variant o.position.column _).mpr column
    rw [← f.columnField_eq] at columnField
    rw [(Resolves.noColumn columnField).eq, if_pos column]
  · have rowField := (AxisValue.ofField?_eq_none_iff o.variant o.position.row _).mpr (h.resolve_left column)
    cases columnField : AxisValue.ofField? o.variant o.position.column f.columnField with
    | none =>
        rw [f.columnField_eq] at columnField
        exact absurd ((AxisValue.ofField?_eq_none_iff _ _ _).mp columnField) column
    | some place => rw [(Resolves.noRow columnField rowField).eq, if_neg column]

/-- Fields that are not malformed have a column and a row, each with a place or gone. -/
theorem exists_axes {f : RefFields} (h : ¬ f.Malformed) :
    ∃ column row, AxisValue.ofField? o.variant o.position.column f.columnField = some column ∧
      AxisValue.ofField? o.variant o.position.row f.row.toNat = some row := by
  rw [f.columnField_eq]
  rw [RefFields.Malformed, not_or, ← AxisValue.ofField?_eq_none_iff o.variant o.position.column,
    ← AxisValue.ofField?_eq_none_iff o.variant o.position.row] at h
  obtain ⟨column, readColumn⟩ := Option.ne_none_iff_exists'.mp h.1
  obtain ⟨row, readRow⟩ := Option.ne_none_iff_exists'.mp h.2
  exact ⟨column, row, readColumn, readRow⟩

/-- Fields say that a cell is gone when its column, its row or its sheet is. -/
theorem saysGone_iff {f : RefFields} {column row : AxisValue}
    (columnField : AxisValue.ofField? o.variant o.position.column f.columnField = some column)
    (rowField : AxisValue.ofField? o.variant o.position.row f.row.toNat = some row) :
    f.SaysGone ↔ column = .gone ∨ row = .gone ∨ sheetGone f = true := by
  rw [f.columnField_eq] at columnField
  rw [RefFields.SaysGone, ← AxisValue.ofField?_eq_gone_iff o.variant o.position.column,
    ← AxisValue.ofField?_eq_gone_iff o.variant o.position.row, columnField, rowField, ← sheetGone_iff,
    Option.some.injEq, Option.some.injEq]

/-- **One sentinel is enough**, and nothing but the mark is left of the reference. -/
theorem resolve_of_gone {f : RefFields} (t : Trace σ) (formed : ¬ f.Malformed) (h : f.SaysGone) :
    (o.resolve f t).1 = .ok .gone := by
  obtain ⟨column, row, columnField, rowField⟩ := o.exists_axes formed
  rw [o.saysGone_iff columnField rowField] at h
  rw [(Resolves.gone columnField rowField h).eq]

/-- **Without a sentinel** the reference is what the fields denote. -/
theorem resolve_of_there {w : DeltaWidth} (width : o.variant.width = w.word) {f : RefFields} (t : Trace σ)
    (formed : ¬ f.Malformed) (h : ¬ f.SaysGone) :
    ∃ ref, (o.resolve f t).1 = .ok ref ∧ o.Denotes w f t.names ref := by
  obtain ⟨column, row, columnField, rowField⟩ := o.exists_axes formed
  rw [o.saysGone_iff columnField rowField, not_or, not_or, Bool.not_eq_true] at h
  obtain ⟨column_ne, row_ne, sheetField⟩ := h
  obtain ⟨file, names⟩ := o.resolveFile_eq f t
  cases column with
  | gone => exact absurd rfl column_ne
  | place column =>
      cases row with
      | gone => exact absurd rfl row_ne
      | place row =>
          rw [(Resolves.there columnField rowField sheetField).eq]
          rw [f.columnField_eq] at columnField
          obtain ⟨columnValue, columnRelative⟩ := AxisValue.value_of_ofField? width columnField
          obtain ⟨rowValue, rowRelative⟩ := AxisValue.value_of_ofField? width rowField
          obtain ⟨clampedValue, clampedRelative⟩ := DeltaWidth.toInt_clampColumn width column
          -- The sheet goes by the file that was found, and that by the bits.
          have named : (o.resolveFile f t).1.given = true ↔ f.NamesFile := by
            rw [file]
            split <;> simp_all
          refine ⟨_, rfl, rfl, ?_, ?_, rowValue, rowRelative, file, ?_⟩
          · rw [clampedValue, columnValue]
          · rw [clampedRelative, columnRelative]
          · dsimp only
            rw [resolveSheet_eq, names]
            simp only [named]

end Options

end SheetFormula
