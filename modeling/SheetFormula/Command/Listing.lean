import SheetFormula.Batch
import SheetFormula.FormulaFile
import SheetFormula.Bytes
import SheetFormula.Render

/-!
# Listings of decoded formulas

The output of the command has a block per formula line. Main definitions:

* `Format`, `Format.ofName?` — what is shown of a formula;
* `Listing.result?` — a decoded formula under its line number;
* `Listing.block?` — the block of a formula line, with its dump when that is wanted;
* `Listing.text?` — the blocks of all formula lines.
-/

namespace SheetFormula

/-- **What is shown of a formula**. -/
inductive Format where
  /-- Its text. -/
  | text
  /-- Its instructions, one a line. -/
  | instructions
  deriving DecidableEq, Repr

namespace Format

/-- Lower case, as far as the names of formats need it: the dotted capital I is a capital i. -/
def lower (c : Char) : Char := if c = 'İ' then 'i' else c.toLower

/-- **Format by name**, in any case. -/
def ofName? (name : String) : Option Format :=
  match String.ofList (name.toList.map lower) with
  | "text" => some .text
  | "instr" => some .instructions
  | _ => none

end Format

namespace Listing

/-- **A decoded formula** under its line number, or `none` when its text has none. -/
def result? (format : Format) (number : Nat) (d : Decoded) : Option String := do
  let label := Digits.decimal number
  let body ←
    match format with
    | .text => (render? d.instructions).map fun text => label ++ ": " ++ text ++ "\n"
    | .instructions =>
      some (label ++ ":\n" ++ String.join (d.instructions.map fun i => "\t" ++ i.debug ++ "\n"))
  match d.warning with
  | none => some body
  | some warning => some (body ++ label ++ ": warning: " ++ warning.message ++ "\n")

/-- **What became of a formula** under its line number. -/
def outcome? (format : Format) (number : Nat) : Except JobError Decoded → Option String
  | .ok d => result? format number d
  | .error (.failed .fault) => none
  | .error e => some (Digits.decimal number ++ ": error: " ++ e.message ++ "\n")

/-- **Block of a formula line**. -/
def block? (format : Format) (dump : Bool) (line : FormulaLine) (report : JobReport) : Option String := do
  let shown ← outcome? format line.number report.outcome
  some ((if dump then HexDump.dump (some 0) line.data else "") ++ shown)

/-- **Blocks of all formula lines**. -/
def text? (format : Format) (dump : Bool) (lines : List FormulaLine) (reports : List JobReport) :
    Option String := do
  let blocks ← (lines.zip reports).mapM fun (line, report) => block? format dump line report
  some (String.join blocks)

/-- **Whether a formula failed**. -/
def failed (report : JobReport) : Bool := !report.outcome.isOk

end Listing

end SheetFormula
