import SheetFormula.Bytes
import SheetFormula.Text.Quoted

/-!
# Format variants

What the decoder has to know about a family of worksheet files, and how a file tells its family: it starts
with a record that holds a version word. Main definitions:

* `Layout` — where the references of a formula are stored;
* `Variant` — reference width, layout, sheet field and code page, with `Variant.axisWidth` and
  `Variant.refSize`;
* `Variant.registered`, `Variant.ofName?` — the known families and the search by name;
* `DetectError` — why no variant could be told, with its message;
* `Variant.ofVersion?`, `Variant.detect` — the variant of a version word, and of a file's first bytes.
-/

namespace SheetFormula

/-! ## Variants -/

/-- **Reference layout**. -/
inductive Layout where
  /-- All references stand in a table behind the opcodes. -/
  | prescanned
  /-- Each reference stands right behind its opcode. -/
  | interleaved
  /-- A layout number that no decoder knows. -/
  | unlisted (number : Int64)
  deriving DecidableEq, Repr

/-- **Name of a layout**. -/
def Layout.name : Layout → String
  | .prescanned => "prescanned"
  | .interleaved => "interleaved"
  | .unlisted number => "RefLayout(" ++ Digits.decimal number.toInt ++ ")"

/-- **A format variant**. -/
structure Variant where
  /-- The name of the family. -/
  name : String
  /-- How many bits of a relative coordinate carry the distance. -/
  width : Int64
  /-- Where references are stored. -/
  layout : Layout
  /-- Whether a reference has a third field for the sheet. -/
  sheetField : Bool
  /-- The name of the code page of text literals. -/
  charset : String
  deriving DecidableEq, Repr

/-- The eight-bit distance of the DOS era. -/
def narrowWidth : Int64 := 8

/-- The fourteen-bit distance of the Windows era. -/
def extendedWidth : Int64 := 14

namespace Variant

/-- **Axis width**: relative coordinates wrap around at this many columns or rows. -/
def axisWidth (v : Variant) : Int64 := if v.width = extendedWidth then 8192 else 256

/-- **Size of a reference** in bytes. -/
def refSize (v : Variant) : Nat := if v.sheetField then 6 else 4

/-- Interleaved eight-bit references. -/
def wk1 : Variant := ⟨"wk1", narrowWidth, .interleaved, false, "cp437"⟩

/-- Tabulated eight-bit references. -/
def wq1 : Variant := ⟨"wq1", narrowWidth, .prescanned, false, "cp850"⟩

/-- Tabulated fourteen-bit references with a sheet field. -/
def wb1 : Variant := ⟨"wb1", extendedWidth, .prescanned, true, "windows-1252"⟩

/-- **Known variants**, in the order of their names. -/
def registered : List Variant := [wb1, wk1, wq1]

/-- **Variant of a name**, when it is registered. -/
def ofName? (name : String) : Option Variant := registered.find? fun v => v.name == name

/-- The message for a quoted name that is not registered. -/
def unknownQuoted (quoted : String) : String := "unknown format variant " ++ quoted

/-- The message for a name that is not registered. -/
def unknownMessage (name : String) : String := unknownQuoted (Text.quoted name)

/-- What is found under a name is registered and has that name. -/
theorem mem_of_ofName? {name : String} {v : Variant} (h : ofName? name = some v) :
    v ∈ registered ∧ v.name = name := by
  refine ⟨List.mem_of_find?_eq_some h, ?_⟩
  simpa using List.find?_some h

end Variant

/-! ## Detection -/

/-- **Why no variant could be told**. -/
inductive DetectError where
  /-- Fewer bytes than the record takes. -/
  | tooShort
  /-- The first record is of another type. -/
  | noRecord
  /-- The record does not hold a version. -/
  | recordTooShort
  /-- The version is not known. -/
  | unsupported (version : UInt16)
  deriving DecidableEq, Repr

/-- The message of a detect error. -/
def DetectError.message : DetectError → String
  | .tooShort => "file too short to carry a BOF record"
  | .noRecord => "no BOF record at start of file"
  | .recordTooShort => "BOF record too short"
  | .unsupported version => "unsupported BOF version 0x" ++ Digits.hex 4 version.toNat

namespace Variant

/-- How many bytes tell the variant. -/
def peekSize : Nat := 6

/-- **Version words** and their variants. -/
def versions : List (UInt16 × Variant) :=
  [(0x0404, wk1), (0x0405, wk1), (0x0406, wk1), (0x5120, wq1), (0x5121, wq1), (0x1000, wb1), (0x1002, wb1),
    (0x1003, wb1), (0x1005, wb1)]

/-- **Variant of a version word**. -/
def ofVersion? (version : UInt16) : Option Variant := versions.lookup version

/-- **Detect the variant**: a record of type zero, of at least two bytes, that starts with a known version. -/
def detect (content : List UInt8) : Except DetectError Variant :=
  match Bytes.word? content 0, Bytes.word? content 2, Bytes.word? content 4 with
  | some type, some size, some version =>
    if type ≠ 0 then .error .noRecord
    else if size < 2 then .error .recordTooShort
    else
      match ofVersion? version with
      | some v => .ok v
      | none => .error (.unsupported version)
  | _, _, _ => .error .tooShort

end Variant

end SheetFormula
