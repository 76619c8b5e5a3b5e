import SheetFormula.Bytes
import SheetFormula.Names
import SheetFormula.Note

/-!
# Encoded references

A reference is stored as two or three 16-bit fields. Main definitions:

* `RefFields` — the raw fields, with `RefFields.ofBytes?`;
* `signedLow` — the low bits of a field as a signed distance;
* `AxisValue.ofField?` — the coordinate that a field stands for;
* `Options` — the circumstances of decoding: variant, owner and names;
* `Trace` — the state of the names and the notes so far;
* `Options.resolve` — the reference that raw fields stand for.
-/

namespace SheetFormula

/-! ## Fields -/

/-- **Raw fields** of an encoded reference. -/
structure RefFields where
  /-- Column field; it may carry the number of a file. -/
  column : UInt16
  /-- Row field. -/
  row : UInt16
  /-- Sheet field, in variants that have one. -/
  sheet : Option UInt16
  deriving DecidableEq, Repr

namespace RefFields

/-- **Fields of a block of bytes**: words one after the other. The result is `none` when the block is too
short. -/
def ofBytes? (sheetField : Bool) (block : List UInt8) : Option RefFields :=
  match Bytes.word? block 0, Bytes.word? block 2 with
  | some column, some row =>
    if sheetField then (Bytes.word? block 4).map fun sheet => ⟨column, row, some sheet⟩
    else some ⟨column, row, none⟩
  | _, _ => none

/-- Bits 8 to 11 of the column field. -/
def fileBits (f : RefFields) : Nat := f.column.toNat / 256 % 16

/-- **Number of the external file**, when bits 8 to 11 of the column field are neither all clear nor all
set. -/
def file? (f : RefFields) : Option Nat :=
  if f.fileBits = 0 || f.fileBits = 15 then none else some f.fileBits

/-- **Column field proper**: without the number of a file. -/
def columnField (f : RefFields) : Nat :=
  match f.file? with
  | some n => f.column.toNat - 256 * n
  | none => f.column.toNat

end RefFields

/-! ## Coordinates -/

/-- The field value that marks a reference as gone. -/
def sentinelField : Nat := 0xffff

/-- **Low bits as a signed number**: the `bits` low bits of `n` in two's complement. -/
def signedLow (bits n : Nat) : Int :=
  let span := 1 <<< bits
  let low := n % span
  if span ≤ 2 * low then (low : Int) - span else low

/-- **Distance of a relative field**: its low bits, as many as the width says, as a signed number. A field has
sixteen bits, so with more the field itself is the distance. -/
def distance (width : Int64) (field : Nat) : Int := signedLow (min width.toUInt64.toNat 17) field

/-- **Step around an axis**: `own + d` in 64-bit words, brought into `[0, modulus)`. -/
def wrapAround (modulus own : Int64) (d : Int) : Int64 :=
  let value := (own + Int64.ofInt d) % modulus
  if value < 0 then value + modulus else value

/-- **What a field says** about its axis. -/
inductive AxisValue where
  /-- A column or row. -/
  | place (coordinate : Coordinate)
  /-- The cell is gone. -/
  | gone
  deriving DecidableEq, Repr

/-- **Value of a field**. A field below `0x1000` is the coordinate itself, one from `0x8000` to `0xbfff` holds
a distance from the owner, `0xffff` says that the cell is gone, and no other field has a meaning. -/
def AxisValue.ofField? (v : Variant) (own : Int64) (field : Nat) : Option AxisValue :=
  if field < 0x1000 then some (.place ⟨Int64.ofNat field, false⟩)
  else if 0x8000 ≤ field && field < 0xc000 then
    some (.place ⟨wrapAround v.axisWidth own (distance v.width field), true⟩)
  else if field = sentinelField then some .gone
  else none

/-- The last column of a variant with eight-bit distances. -/
def narrowColumnMax : Int64 := 255

/-- **Column of a variant**: with eight-bit distances it never lies behind the last one. -/
def clampColumn (v : Variant) (c : Coordinate) : Coordinate :=
  if v.width = narrowWidth && narrowColumnMax < c.value then { c with value := narrowColumnMax } else c

/-! ## Circumstances -/

/-- **Circumstances of decoding**: the format, the owner of the formula, and who knows names. -/
structure Options (σ : Type) where
  /-- The format. -/
  variant : Variant
  /-- The owner of the formula. -/
  position : Position
  /-- Names of sheets and files. -/
  resolver : Resolver σ

/-- **Trace of a decoder**: the state of the names and the notes so far, the latest first. -/
structure Trace (σ : Type) where
  /-- State of the resolver. -/
  names : σ
  /-- Notes so far, the latest first. -/
  notes : List Note := []

/-- The note for a name that nobody knows. -/
def NameKey.missing : NameKey → Note
  | .sheet id => .noSheetName id
  | .file id => .noFileName id

variable {σ : Type}

/-- **Look a name up**. A name that nobody knows is empty, and noted. -/
def Trace.nameOf (resolver : Resolver σ) (key : NameKey) (t : Trace σ) : String × Trace σ :=
  match resolver key t.names with
  | (some name, s) => (name, { t with names := s })
  | (none, s) => ("", { names := s, notes := key.missing :: t.notes })

/-- Which field of a reference has no meaning. -/
inductive MalformedField where
  /-- The column field. -/
  | column (field : UInt16)
  /-- The row field. -/
  | row (field : UInt16)
  deriving DecidableEq, Repr

/-- The cause of an error in a field. -/
def MalformedField.cause : MalformedField → Cause
  | .column field => .malformedColumn field
  | .row field => .malformedRow field

namespace Options

/-- **External file** of raw fields. -/
def resolveFile (o : Options σ) (f : RefFields) (t : Trace σ) : NamedId × Trace σ :=
  match f.file? with
  | some n =>
    match t.nameOf o.resolver (.file (Int64.ofNat n)) with
    | (name, t') => (⟨true, Int64.ofNat n, name⟩, t')
  | none => ({}, t)

/-- The sheet that raw fields speak of: their own, or the owner's when they have none. -/
def sheetOf (o : Options σ) (f : RefFields) : Int64 :=
  match f.sheet with
  | some sheet => Int64.ofNat sheet.toNat
  | none => o.position.sheet

/-- **Sheet** of raw fields: it is given when it is not the owner's, and always together with a file. -/
def resolveSheet (o : Options σ) (f : RefFields) (fileGiven : Bool) (t : Trace σ) : NamedId × Trace σ :=
  if o.sheetOf f ≠ o.position.sheet || fileGiven then
    match t.nameOf o.resolver (.sheet (o.sheetOf f)) with
    | (name, t') => (⟨true, o.sheetOf f, name⟩, t')
  else ({}, t)

/-- Whether the sheet field says that the cell is gone. -/
def sheetGone (f : RefFields) : Bool :=
  match f.sheet with
  | some sheet => sheet.toNat = sentinelField
  | none => false

/-- **Resolve a reference**: the file is looked up first, then the fields are read, column before row, and the
sheet is looked up last. -/
def resolve (o : Options σ) (f : RefFields) (t : Trace σ) : Except MalformedField CellRef × Trace σ :=
  match o.resolveFile f t with
  | (file, t) =>
    match AxisValue.ofField? o.variant o.position.column f.columnField with
    | none => (.error (.column f.column), t)
    | some column =>
      match AxisValue.ofField? o.variant o.position.row f.row.toNat with
      | none => (.error (.row f.row), t)
      | some row =>
        match column, row, sheetGone f with
        | .place column, .place row, false =>
          match o.resolveSheet f file.given t with
          | (sheet, t) => (.ok ⟨clampColumn o.variant column, row, sheet, file, false⟩, t)
        | _, _, _ => (.ok .gone, t)

end Options

end SheetFormula
