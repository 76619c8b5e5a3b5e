import SheetFormula.CodePage
import SheetFormula.Variant

/-!
# Decode errors

Why a formula could not be decoded. Main definitions:

* `ErrorKind` — the classes of errors; `ErrorReport` — an error as callers see it, with
  `ErrorReport.message`;
* `Cause` — what exactly went wrong; `DecodeError` — a cause and where it was noticed, with
  `DecodeError.report`;
* `Stop` — why a step gave no value: an error of the formula, or an access outside of what was read.
-/

namespace SheetFormula

/-! ## Reports -/

/-- **Class of an error**. -/
inductive ErrorKind where
  /-- The bytes end too early. -/
  | truncatedStream
  /-- A byte that is no valid opcode. -/
  | unknownOpcode
  /-- Fewer operands than needed. -/
  | stackUnderflow
  /-- A reference that cannot be decoded. -/
  | malformedCellReference
  /-- A layout that no decoder knows. -/
  | unsupportedReferenceLayout
  /-- Bytes behind the end of the formula. -/
  | trailingData
  /-- More than one operand left. -/
  | excessOperands
  /-- A number outside the classes above. -/
  | unlisted (number : Int)
  deriving DecidableEq, Repr

namespace ErrorKind

/-- The listed classes, numbered from one. -/
def listed : List ErrorKind :=
  [truncatedStream, unknownOpcode, stackUnderflow, malformedCellReference, unsupportedReferenceLayout,
    trailingData, excessOperands]

/-- **Class of a number**. -/
def ofNumber (n : Int) : ErrorKind :=
  if 1 ≤ n then listed.getD (n.toNat - 1) (unlisted n) else unlisted n

/-- **Name of a class**. -/
def name : ErrorKind → String
  | truncatedStream => "truncated stream"
  | unknownOpcode => "unknown opcode"
  | stackUnderflow => "stack underflow"
  | malformedCellReference => "malformed cell reference"
  | unsupportedReferenceLayout => "unsupported reference layout"
  | trailingData => "trailing data"
  | excessOperands => "excess operands"
  | unlisted number => "ErrorKind(" ++ Digits.decimal number ++ ")"

end ErrorKind

/-- **An error as callers see it**. -/
structure ErrorReport where
  /-- Its class. -/
  kind : ErrorKind
  /-- The opcode at fault, or `-1`. -/
  opcode : Int := -1
  /-- How many operands were needed. -/
  needed : Int := 0
  /-- How many operands there were. -/
  available : Int := 0
  /-- Where it was noticed. -/
  offset : Int := 0
  /-- What else there is to say. -/
  detail : String := ""
  deriving DecidableEq, Repr

/-- The name that starts every message. -/
def messageTag : String := "wkfmla: "

/-- **Message of an error**. -/
def ErrorReport.message (e : ErrorReport) : String :=
  let offset := Digits.decimal e.offset
  let opcode := "0x" ++ Digits.hex 2 e.opcode
  messageTag ++
    match e.kind with
    | .unknownOpcode => "unknown opcode " ++ opcode ++ " at offset " ++ offset
    | .stackUnderflow =>
      "stack underflow at offset " ++ offset ++ ": opcode " ++ opcode ++ " needs " ++
        Digits.decimal e.needed ++ " operands, " ++ Digits.decimal e.available ++ " available"
    | .excessOperands => Digits.decimal e.available ++ " operands left on the stack at offset " ++ offset
    | .trailingData => "trailing data at offset " ++ offset
    | kind =>
      kind.name ++ " at offset " ++ offset ++ (if e.detail = "" then "" else ": " ++ e.detail)

/-! ## Causes -/

/-- **Part of a formula** that takes a fixed number of bytes. -/
inductive Part where
  /-- The opcode itself. -/
  | opcode
  /-- The bytes of a number. -/
  | number
  /-- The bytes of an integer. -/
  | integer
  /-- The count of a counted reduction. -/
  | argumentCount
  /-- One reference. -/
  | cellReference
  /-- The two words that locate the reference table. -/
  | tableHeader
  deriving DecidableEq, Repr

/-- The name of a part. -/
def Part.name : Part → String
  | .opcode => "opcode"
  | .number => "number"
  | .integer => "integer"
  | .argumentCount => "argument count"
  | .cellReference => "cell reference"
  | .tableHeader => "reference table header"

/-- **What went wrong**. -/
inductive Cause where
  /-- The end offset lies outside the data. -/
  | endOutside (stop : Int) (size : Nat)
  /-- Fewer bytes left than a part takes. -/
  | short (needed : Nat) (part : Part) (left : Int)
  /-- A text literal without an end. -/
  | text (error : TextError)
  /-- The header puts the reference table outside the formula. -/
  | tableOutside (start stop : Nat) (size : Int)
  /-- The table holds no further cell. -/
  | noMoreCells
  /-- The table holds no further range. -/
  | noMoreRanges
  /-- A byte that is no valid opcode. -/
  | unknownOpcode (code : UInt8)
  /-- Fewer operands than needed. -/
  | underflow (opcode : Option UInt8) (needed available : Nat)
  /-- A column field of no known form. -/
  | malformedColumn (field : UInt16)
  /-- A row field of no known form. -/
  | malformedRow (field : UInt16)
  /-- A table entry that is neither a cell nor a range. -/
  | entryKind (kind : UInt8)
  /-- A layout that no decoder knows. -/
  | layout (layout : Layout)
  /-- Bytes behind the end of the formula. -/
  | trailing
  /-- More than one operand left. -/
  | excess (opcode : Option UInt8) (available : Nat)
  deriving DecidableEq, Repr

/-- **A decode error**: what went wrong, and where it was noticed. -/
structure DecodeError where
  /-- What went wrong. -/
  cause : Cause
  /-- Where it was noticed. -/
  offset : Nat
  deriving DecidableEq, Repr

namespace Cause

/-- **Class of a cause**. -/
def kind : Cause → ErrorKind
  | endOutside .. | short .. | text _ | tableOutside .. | noMoreCells | noMoreRanges => .truncatedStream
  | unknownOpcode _ => .unknownOpcode
  | underflow .. => .stackUnderflow
  | malformedColumn _ | malformedRow _ | entryKind _ => .malformedCellReference
  | layout _ => .unsupportedReferenceLayout
  | trailing => .trailingData
  | excess .. => .excessOperands

/-- **Opcode at fault**, if one is. -/
def opcode? : Cause → Option UInt8
  | unknownOpcode code => some code
  | underflow opcode _ _ | excess opcode _ => opcode
  | _ => none

/-- How many operands were needed. -/
def needed : Cause → Nat
  | underflow _ n _ => n
  | _ => 0

/-- How many operands there were. -/
def available : Cause → Nat
  | underflow _ _ n | excess _ n => n
  | _ => 0

/-- **Detail** that the other fields do not carry. -/
def detail : Cause → String
  | endOutside stop size =>
    "end offset " ++ Digits.decimal stop ++ " outside blob of " ++ Digits.decimal size ++ " bytes"
  | short needed part left =>
    "need " ++ Digits.decimal needed ++ " bytes for " ++ part.name ++ ", " ++ Digits.decimal left ++ " left"
  | text error => error.message
  | tableOutside start stop size =>
    "reference table [" ++ Digits.decimal start ++ ", " ++ Digits.decimal stop ++ ") outside formula of " ++
      Digits.decimal size ++ " bytes"
  | noMoreCells => "reference table has no more cell references"
  | noMoreRanges => "reference table has no more ranges"
  | malformedColumn field => "column field 0x" ++ Digits.hex 4 field.toNat
  | malformedRow field => "row field 0x" ++ Digits.hex 4 field.toNat
  | entryKind kind => "reference table entry kind 0x" ++ Digits.hex 2 kind.toNat
  | layout l => "layout " ++ l.name
  | unknownOpcode _ | underflow .. | trailing | excess .. => ""

end Cause

/-- The number of an opcode in a report: `-1` when there is none. -/
def opcodeNumber : Option UInt8 → Int
  | some code => code.toNat
  | none => -1

namespace DecodeError

/-- **Report of an error**. -/
def report (e : DecodeError) : ErrorReport where
  kind := e.cause.kind
  opcode := opcodeNumber e.cause.opcode?
  needed := e.cause.needed
  available := e.cause.available
  offset := e.offset
  detail := e.cause.detail

/-- **Message of an error**. -/
def message (e : DecodeError) : String := e.report.message

end DecodeError

/-! ## Stops -/

/-- **Why a step gave no value**: the formula is in error, or bytes or operands were asked for that are not
there although the checks before it passed. -/
inductive Stop where
  /-- An error of the formula. -/
  | error (error : DecodeError)
  /-- An access outside of what was read. -/
  | fault
  deriving DecidableEq, Repr

end SheetFormula
