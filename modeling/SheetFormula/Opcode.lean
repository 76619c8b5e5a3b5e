/-!
# Opcodes

The opcodes of the formula stream. Main definitions:

* `Role` — what an opcode makes the decoder do; `Opcode` — a code with its name and role;
* `Opcode.table`, `Opcode.lookup?` — the known opcodes and the search by code;
* `Shape` — how an opcode that takes operands lays them out, with `Shape.of` and `Opcode.shape`.
-/

namespace SheetFormula

/-- **Role of an opcode**. -/
inductive Role where
  /-- Eight bytes of a number follow. -/
  | number
  /-- Two bytes of a signed integer follow. -/
  | integer
  /-- A text follows, up to a zero byte. -/
  | text
  /-- Takes one reference. -/
  | cellRef
  /-- Takes the two references of a range. -/
  | rangeRef
  /-- Ends the formula. -/
  | terminator
  /-- Replaces a fixed number of operands by one. -/
  | reduce (operands : Nat)
  /-- Replaces as many operands by one as the byte that follows says. -/
  | reduceCounted
  /-- Listed, but never valid in a formula. -/
  | reserved
  deriving DecidableEq, Repr

/-- **An opcode** of the table. -/
structure Opcode where
  /-- Its byte in the stream. -/
  code : UInt8
  /-- Its name: an operator, a function, or what it stands for. -/
  name : String
  /-- What it does. -/
  role : Role
  deriving DecidableEq, Repr

/-- **Number of operands** a role announces: `-1` when a count byte tells, `-2` when it is reserved. -/
def Role.arity : Role → Int
  | .number | .integer | .text | .cellRef | .rangeRef => 0
  | .terminator => 1
  | .reduce operands => operands
  | .reduceCounted => -1
  | .reserved => -2

namespace Opcode

/-- **Opcode table**, in the order of the codes. -/
def table : List Opcode :=
  [⟨0x00, "Number", .number⟩, ⟨0x01, "CellRef", .cellRef⟩, ⟨0x02, "RangeRef", .rangeRef⟩,
   ⟨0x03, "Return", .terminator⟩, ⟨0x04, "(", .reduce 1⟩, ⟨0x05, "Integer", .integer⟩,
   ⟨0x06, "String", .text⟩, ⟨0x07, "Unk07", .reserved⟩, ⟨0x08, "-", .reduce 1⟩,
   ⟨0x09, "+", .reduce 2⟩, ⟨0x0a, "-", .reduce 2⟩, ⟨0x0b, "*", .reduce 2⟩, ⟨0x0c, "/", .reduce 2⟩,
   ⟨0x0d, "^", .reduce 2⟩, ⟨0x0e, "=", .reduce 2⟩, ⟨0x0f, "<>", .reduce 2⟩, ⟨0x10, "<=", .reduce 2⟩,
   ⟨0x11, ">=", .reduce 2⟩, ⟨0x12, "<", .reduce 2⟩, ⟨0x13, ">", .reduce 2⟩,
   ⟨0x14, "AND", .reduce 2⟩, ⟨0x15, "OR", .reduce 2⟩, ⟨0x16, "NOT", .reduce 1⟩,
   ⟨0x17, "+", .reduce 1⟩, ⟨0x18, "&", .reduce 2⟩, ⟨0x19, "Unk19", .reserved⟩,
   ⟨0x1a, "Unk1A", .reserved⟩, ⟨0x1b, "Unk1B", .reserved⟩, ⟨0x1c, "Unk1C", .reserved⟩,
   ⟨0x1d, "Unk1D", .reserved⟩, ⟨0x1e, "Unk1E", .reserved⟩, ⟨0x1f, "NA", .reduce 0⟩,
   ⟨0x20, "ERR", .reduce 0⟩, ⟨0x21, "ABS", .reduce 1⟩, ⟨0x22, "INT", .reduce 1⟩,
   ⟨0x23, "SQRT", .reduce 1⟩, ⟨0x24, "LOG10", .reduce 1⟩, ⟨0x25, "LN", .reduce 1⟩,
   ⟨0x26, "PI", .reduce 0⟩, ⟨0x27, "SIN", .reduce 1⟩, ⟨0x28, "COS", .reduce 1⟩,
   ⟨0x29, "TAN", .reduce 1⟩, ⟨0x2a, "ATAN2", .reduce 2⟩, ⟨0x2b, "ATAN", .reduce 1⟩,
   ⟨0x2c, "ASIN", .reduce 1⟩, ⟨0x2d, "ACOS", .reduce 1⟩, ⟨0x2e, "EXP", .reduce 1⟩,
   ⟨0x2f, "MOD", .reduce 2⟩, ⟨0x30, "CHOOSE", .reduceCounted⟩, ⟨0x31, "ISNA", .reduce 1⟩,
   ⟨0x32, "ISERR", .reduce 1⟩, ⟨0x33, "FALSE", .reduce 0⟩, ⟨0x34, "TRUE", .reduce 0⟩,
   ⟨0x35, "RAND", .reduce 0⟩, ⟨0x36, "DATE", .reduce 3⟩, ⟨0x37, "TODAY", .reduce 0⟩,
   ⟨0x38, "PMT", .reduce 3⟩, ⟨0x39, "PV", .reduce 3⟩, ⟨0x3a, "FV", .reduce 3⟩,
   ⟨0x3b, "IF", .reduce 3⟩, ⟨0x3c, "DAY", .reduce 1⟩, ⟨0x3d, "MONTH", .reduce 1⟩,
   ⟨0x3e, "YEAR", .reduce 1⟩, ⟨0x3f, "ROUND", .reduce 2⟩, ⟨0x40, "TIME", .reduce 3⟩,
   ⟨0x41, "HOUR", .reduce 1⟩, ⟨0x42, "MINUTE", .reduce 1⟩, ⟨0x43, "SECOND", .reduce 1⟩,
   ⟨0x44, "ISNUMBER", .reduce 1⟩, ⟨0x45, "ISTEXT", .reduce 1⟩, ⟨0x46, "LEN", .reduce 1⟩,
   ⟨0x47, "VALUE", .reduce 1⟩, ⟨0x48, "FIXED", .reduce 2⟩, ⟨0x49, "MID", .reduce 3⟩,
   ⟨0x4a, "CHAR", .reduce 1⟩, ⟨0x4b, "CODE", .reduce 1⟩, ⟨0x4c, "FIND", .reduce 3⟩,
   ⟨0x4d, "DATEVALUE", .reduce 1⟩, ⟨0x4e, "TIMEVALUE", .reduce 1⟩, ⟨0x4f, "CELLPOINTER", .reduce 1⟩,
   ⟨0x50, "SUM", .reduceCounted⟩, ⟨0x51, "AVERAGE", .reduceCounted⟩,
   ⟨0x52, "COUNT", .reduceCounted⟩, ⟨0x53, "MIN", .reduceCounted⟩, ⟨0x54, "MAX", .reduceCounted⟩,
   ⟨0x55, "VLOOKUP", .reduce 3⟩, ⟨0x56, "NPV", .reduce 2⟩, ⟨0x57, "VARP", .reduceCounted⟩,
   ⟨0x58, "STDEVP", .reduceCounted⟩, ⟨0x59, "IRR", .reduce 2⟩, ⟨0x5a, "HLOOKUP", .reduce 3⟩,
   ⟨0x5b, "DSUM", .reduce 3⟩, ⟨0x5c, "DAVERAGE", .reduce 3⟩, ⟨0x5d, "DCOUNT", .reduce 3⟩,
   ⟨0x5e, "DMIN", .reduce 3⟩, ⟨0x5f, "DMAX", .reduce 3⟩, ⟨0x60, "DVARP", .reduce 3⟩,
   ⟨0x61, "DSTDEVP", .reduce 3⟩, ⟨0x62, "INDEX", .reduce 3⟩, ⟨0x63, "COLUMNS", .reduce 1⟩,
   ⟨0x64, "ROWS", .reduce 1⟩, ⟨0x65, "REPT", .reduce 2⟩, ⟨0x66, "UPPER", .reduce 1⟩,
   ⟨0x67, "LOWER", .reduce 1⟩, ⟨0x68, "LEFT", .reduce 2⟩, ⟨0x69, "RIGHT", .reduce 2⟩,
   ⟨0x6a, "REPLACE", .reduce 4⟩, ⟨0x6b, "PROPER", .reduce 1⟩, ⟨0x6c, "CELL", .reduce 2⟩,
   ⟨0x6d, "TRIM", .reduce 1⟩, ⟨0x6e, "CLEAN", .reduce 1⟩, ⟨0x6f, "T", .reduce 1⟩,
   ⟨0x70, "N", .reduce 1⟩, ⟨0x71, "EXACT", .reduce 2⟩, ⟨0x72, "CALL", .reserved⟩,
   ⟨0x73, "INDIRECT", .reduce 1⟩, ⟨0x74, "RATE", .reduce 3⟩, ⟨0x75, "TERM", .reduce 3⟩,
   ⟨0x76, "CTERM", .reduce 3⟩, ⟨0x77, "SLN", .reduce 3⟩, ⟨0x78, "SYD", .reduce 4⟩,
   ⟨0x79, "DDB", .reduce 4⟩, ⟨0x7a, "MEMAVAIL", .reserved⟩, ⟨0x7b, "MEMEMSAVAIL", .reserved⟩,
   ⟨0x7c, "FILEEXISTS", .reduce 1⟩, ⟨0x7d, "CURVALUE", .reduce 2⟩, ⟨0x7e, "DEGREES", .reduce 1⟩,
   ⟨0x7f, "RADIANS", .reduce 1⟩, ⟨0x80, "DEC2HEX", .reduce 1⟩, ⟨0x81, "HEX2DEC", .reduce 1⟩,
   ⟨0x82, "SHEETS", .reduce 1⟩]

/-- **Opcode of a byte**, when the byte is in the table. -/
def lookup? (code : UInt8) : Option Opcode := table.find? fun o => o.code == code

end Opcode

/-! ## Shapes -/

/-- **Shape of a reduction**: how operands and name are put together. -/
inductive Shape where
  /-- Ends the formula. -/
  | terminator
  /-- The operator in front of its operand. -/
  | prefixOp
  /-- The operator between its operands. -/
  | infixOp
  /-- The name in front of bracketed operands. -/
  | call
  deriving DecidableEq, Repr

/-- **Call name**: a name that starts with a capital letter `A` to `Z`, or the grouping bracket. -/
def isCallName (name : String) : Bool :=
  name == "(" ||
    match name.toList with
    | c :: _ => 'A' ≤ c && c ≤ 'Z'
    | [] => false

/-- **Shape of a name and arity**. A call name is always a call; any other name is an operator in front of one
operand or between two, and a call otherwise. -/
def Shape.of (terminator : Bool) (name : String) (arity : Int) : Shape :=
  if terminator then .terminator
  else if isCallName name then .call
  else if arity = 1 then .prefixOp
  else if arity = 2 then .infixOp
  else .call

/-- **Shape of an opcode**. -/
def Opcode.shape (o : Opcode) : Shape := .of (o.role = .terminator) o.name o.role.arity

/-- An opcode of the table is found under its code. -/
theorem Opcode.lookup?_of_mem {o : Opcode} (h : o ∈ Opcode.table) : Opcode.lookup? o.code = some o := by
  have all : ∀ o ∈ Opcode.table, Opcode.lookup? o.code = some o := by decide +kernel
  exact all o h

/-- What a look-up finds is in the table and carries the code. -/
theorem Opcode.mem_of_lookup? {code : UInt8} {o : Opcode} (h : Opcode.lookup? code = some o) :
    o ∈ Opcode.table ∧ o.code = code := by
  refine ⟨List.mem_of_find?_eq_some h, ?_⟩
  simpa using List.find?_some h

/-- An operator in front of its operand takes exactly one, an operator in between exactly two. -/
theorem Opcode.role_of_shape {o : Opcode} (h : o ∈ Opcode.table) :
    (o.shape = .prefixOp → o.role = .reduce 1) ∧ (o.shape = .infixOp → o.role = .reduce 2) := by
  have all : ∀ o ∈ Opcode.table, (o.shape = .prefixOp → o.role = .reduce 1) ∧
      (o.shape = .infixOp → o.role = .reduce 2) := by decide +kernel
  exact all o h

end SheetFormula
