import SheetFormula.Number.Double
import SheetFormula.Text.Quoted

/-!
# Instructions

A decoded formula is a list of instructions in infix order, some of which refer to cells. Main definitions:

* `Position` — the cell that owns a formula;
* `Coordinate` — a column or row, with a mark when it was stored as a distance;
* `NamedId` — the number and name of a sheet or file, when a reference carries one;
* `CellRef` — a reference, with `CellRef.debug`, the form that traces show;
* `Instruction` — one unit of a formula; `Instruction.kindName` — the word for its kind;
* `Instruction.debug` — the form that traces show.

All numbers of cells are 64-bit words.
-/

namespace SheetFormula

/-! ## Cells -/

/-- **Owner of a formula**: its column, row and sheet, counted from zero. -/
structure Position where
  /-- Column, from zero. -/
  column : Int64 := 0
  /-- Row, from zero. -/
  row : Int64 := 0
  /-- Sheet, from zero. -/
  sheet : Int64 := 0
  deriving DecidableEq, Repr

/-- **One coordinate** of a reference, counted from zero. -/
structure Coordinate where
  /-- The absolute column or row. -/
  value : Int64 := 0
  /-- Whether it was stored as a distance from the owner. -/
  relative : Bool := false
  deriving DecidableEq, Repr

/-- **Sheet or file of a reference**. Number and name mean something only when `given` is set; the name is
empty when nobody knows it. -/
structure NamedId where
  /-- Whether the reference carries it. -/
  given : Bool := false
  /-- Its number. -/
  id : Int64 := 0
  /-- Its name. -/
  name : String := ""
  deriving DecidableEq, Repr

/-- **A cell reference**. The coordinates of an unresolved reference mean nothing. -/
structure CellRef where
  /-- Column. -/
  column : Coordinate := {}
  /-- Row. -/
  row : Coordinate := {}
  /-- Sheet, when it is not the owner's. -/
  sheet : NamedId := {}
  /-- External file. -/
  file : NamedId := {}
  /-- Whether the cell it pointed to is gone. -/
  unresolved : Bool := false
  deriving DecidableEq, Repr

namespace CellRef

/-- A reference to a cell that is gone. -/
def gone : CellRef := { unresolved := true }

/-- A truth value as traces show it. -/
def flag (b : Bool) : String := if b then "true" else "false"

/-- **Debugging form** of a reference. -/
def debug (r : CellRef) : String :=
  if r.unresolved then "unresolved"
  else
    "col=" ++ Digits.decimal r.column.value.toInt ++ " row=" ++ Digits.decimal r.row.value.toInt ++
      (if r.column.relative || r.row.relative then
        " rel=" ++ flag r.column.relative ++ "/" ++ flag r.row.relative
      else "") ++
      (if r.sheet.given then " sheet=" ++ Digits.decimal r.sheet.id.toInt else "") ++
      (if r.file.given then " file=" ++ Digits.decimal r.file.id.toInt else "")

end CellRef

/-! ## Units of a formula -/

/-- **One unit of a decoded formula**. -/
inductive Instruction where
  /-- An operator, bracket or separator. -/
  | operator (text : String)
  /-- The name of a function. -/
  | function (name : String)
  /-- A reference to a cell. -/
  | cell (ref : CellRef)
  /-- A block of cells, given by two corners. -/
  | range (first last : CellRef)
  /-- A number, by its binary64 bits. -/
  | number (bits : UInt64)
  /-- A short integer. -/
  | integer (value : Int16)
  /-- A text literal. -/
  | text (content : String)
  /-- A kind number outside the seven above. -/
  | unlisted (kind : UInt8)
  deriving DecidableEq, Repr

/-- The opening bracket. -/
def openParen : String := "("

/-- The closing bracket. -/
def closeParen : String := ")"

/-- The separator between arguments. -/
def argSep : String := ";"

namespace Instruction

/-- **Name of a kind number**; the seven kinds are numbered from one. -/
def kindName (kind : Nat) : String :=
  match kind with
  | 1 => "Operator"
  | 2 => "Function"
  | 3 => "Cell"
  | 4 => "Range"
  | 5 => "Number"
  | 6 => "Integer"
  | 7 => "Text"
  | _ => "?Unknown kind?"

/-- **Debugging form** of an instruction: its kind and content. -/
def debug : Instruction → String
  | operator s => "Operator(" ++ s ++ ")"
  | function s => "Function(" ++ s ++ ")"
  | cell ref => "Cell(" ++ ref.debug ++ ")"
  | range first last => "Range(" ++ first.debug ++ ":" ++ last.debug ++ ")"
  | number bits => "Number(" ++ Double.text bits ++ ")"
  | integer value => "Integer(" ++ Digits.decimal value.toInt ++ ")"
  | text s => "Text(" ++ Text.quoted s ++ ")"
  | unlisted kind => kindName kind.toNat

/-- **Operand**: a number, integer, text, cell or range. -/
def isOperand : Instruction → Bool
  | cell _ | range _ _ | number _ | integer _ | text _ => true
  | operator _ | function _ | unlisted _ => false

end Instruction

end SheetFormula
