import SheetFormula.DecodeError
import SheetFormula.Instruction

/-!
# Notes and log entries

What a decoder remarks on the way. Main definitions:

* `Note` — a remark of the diagnostics trace, with `Note.text`; `Note.trace` is the text of several;
* `Level`, `LogEntry` — an entry of the log, with its level.
-/

namespace SheetFormula

/-- **A remark of the diagnostics trace**. -/
inductive Note where
  /-- Nobody knows the name of an external file. -/
  | noFileName (id : Int64)
  /-- Nobody knows the name of a sheet. -/
  | noSheetName (id : Int64)
  /-- A function was replaced by another. -/
  | rewrote (offset : Nat) (name : String)
  /-- References of the table that no opcode took. -/
  | unusedReferences (count : Nat)
  /-- Bytes behind the terminator. -/
  | trailingBytes (count offset : Nat)
  /-- Bytes behind the reference table. -/
  | trailingAfterTable (count offset : Nat)
  /-- An operand that was on the stack when decoding failed. -/
  | operand (index : Nat) (list : List Instruction)
  /-- The failure, with the last opcode and the number of operands. -/
  | failure (kind : ErrorKind) (last : Option UInt8) (depth : Nat)
  deriving DecidableEq, Repr

namespace Note

/-- **Text of a note**. -/
def text : Note → String
  | noFileName id => "no name for external file " ++ Digits.decimal id.toInt
  | noSheetName id => "no name for sheet " ++ Digits.decimal id.toInt
  | rewrote offset name => "Pos:" ++ Digits.decimal offset ++ " rewrote " ++ name ++ " as NPER"
  | unusedReferences count =>
    Digits.decimal count ++ " references in the reference table were never used"
  | trailingBytes count offset =>
    Digits.decimal count ++ " trailing bytes after offset " ++ Digits.decimal offset
  | trailingAfterTable count offset =>
    Digits.decimal count ++ " trailing bytes after the reference table at offset " ++ Digits.decimal offset
  | operand index list =>
    "Stack[" ++ Digits.decimal index ++ "] = [" ++ String.intercalate " " (list.map Instruction.debug) ++ "]"
  | failure kind last depth =>
    "ERROR *** " ++ kind.name ++ "; " ++
      (match last with
        | some code => "last opcode 0x" ++ Digits.hex 2 code.toNat ++ ", "
        | none => "") ++
      "stack depth " ++ Digits.decimal depth

/-- **Trace of notes**: one line each. -/
def trace (notes : List Note) : String := String.join (notes.map fun n => n.text ++ "\n")

end Note

/-! ## Log -/

/-- **Level of a log entry**, from the least to the most urgent. -/
inductive Level where
  /-- Every step. -/
  | debug
  /-- Ordinary events. -/
  | info
  /-- Something is odd. -/
  | warn
  /-- Something failed. -/
  | error
  deriving DecidableEq, Repr

/-- Levels as numbers, the more urgent the larger. -/
def Level.rank : Level → Nat
  | .debug => 0
  | .info => 1
  | .warn => 2
  | .error => 3

/-- **An entry of the log**. -/
inductive LogEntry where
  /-- A token was read: where, its code and name, its operand count and the operands present. -/
  | opcode (offset : Nat) (code : UInt8) (name : String) (operands depth : Nat)
  /-- Decoding failed. -/
  | failed (message : String)
  /-- Bytes that no opcode read. -/
  | trailing (offset stop : Nat)
  deriving DecidableEq, Repr

namespace LogEntry

/-- The level of an entry. -/
def level : LogEntry → Level
  | opcode .. | failed _ => .debug
  | trailing .. => .warn

/-- The message of an entry. -/
def message : LogEntry → String
  | opcode .. => "opcode"
  | failed _ => "formula decode failed"
  | trailing .. => "formula has trailing data"

/-- **Entries from a level on**. -/
def atLeast (level : Level) (entries : List LogEntry) : List LogEntry :=
  entries.filter fun e => level.rank ≤ e.level.rank

end LogEntry

end SheetFormula
