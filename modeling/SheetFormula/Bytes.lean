import SheetFormula.Text.Quoted

/-!
# Bytes

Access to the bytes of some data, and to a block that was read as a whole; and lists of bytes, sixteen to a
line, in hexadecimal and as characters. Main definitions:

* `Bytes.block?` — the `n` bytes of some data from an index on, or `none` when the data do not reach that far;
* `Bytes.littleEndian?` — the unsigned little-endian number of `width` bytes at an index, or `none` when the
  block does not reach that far; `Bytes.word?` — its 16-bit case;
* `HexDump.rows`, `HexDump.line` — bytes cut into rows of sixteen, and one row as a line;
* `HexDump.dump` — the lines of some bytes;
* `HexDump.bytes?`, `HexDump.window?` — the bytes of a window into some data, and their lines.
-/

namespace SheetFormula

/-! ## Blocks -/

namespace Bytes

/-- **Block of some data**: the `n` bytes from index `start` on, read one after the other. It is `none` when
one of them lies outside the data. -/
def block? (data : Array UInt8) (start : Nat) : Nat → Option (List UInt8)
  | 0 => some []
  | n + 1 =>
    match data[start]?, block? data (start + 1) n with
    | some b, some block => some (b :: block)
    | _, _ => none

/-- **Little-endian number**: the `width` bytes of `bytes` from index `start`, least significant first. It is
`none` when one of them lies outside the block. -/
def littleEndian? (bytes : List UInt8) (start : Nat) : Nat → Option Nat
  | 0 => some 0
  | width + 1 =>
    match bytes[start]?, littleEndian? bytes (start + 1) width with
    | some b, some high => some (b.toNat + 256 * high)
    | _, _ => none

/-- **Little-endian word**: two bytes from index `start` as a 16-bit number. -/
def word? (bytes : List UInt8) (start : Nat) : Option UInt16 :=
  (littleEndian? bytes start 2).map UInt16.ofNat

/-- A number is its first byte and 256 times the number of the bytes behind it. -/
theorem littleEndian?_succ (bytes : List UInt8) (start width : Nat) :
    littleEndian? bytes start (width + 1) =
      match bytes[start]?, littleEndian? bytes (start + 1) width with
      | some b, some high => some (b.toNat + 256 * high)
      | _, _ => none := rfl

end Bytes

/-! ## Hex dumps -/

namespace HexDump

/-- Bytes on a line. -/
def rowSize : Nat := 16

/-- Rows of sixteen bytes, at most `fuel` of them. -/
def rowsUpTo : Nat → List UInt8 → List (List UInt8)
  | 0, _ => []
  | fuel + 1, bytes =>
    if bytes.isEmpty then [] else bytes.take rowSize :: rowsUpTo fuel (bytes.drop rowSize)

/-- **Rows**: the bytes cut after every sixteen. -/
def rows (bytes : List UInt8) : List (List UInt8) := rowsUpTo bytes.length bytes

/-- **Character of a byte**: itself when it is printable ASCII, a tilde for zero, else a question mark. -/
def shown (b : UInt8) : Char :=
  if b = 0 then '~' else if b < 0x20 || 0x7e < b then '?' else Char.ofNat b.toNat

/-- **Line of a row**: its number, unless there is none, its bytes in 48 columns, and its characters. -/
def line (number : Option Int64) (row : List UInt8) : String :=
  let label :=
    match number with
    | some n => Digits.padLeft ' ' 5 (Digits.decimal n.toInt) ++ ": "
    | none => ""
  let bytes := String.join (row.map fun b => Digits.hex 2 b.toNat ++ " ")
  label ++ "     " ++ Digits.padRight ' ' 48 bytes ++ " " ++ String.ofList (row.map shown) ++ "\n"

/-- **Dump of some bytes**, numbered from `base` in 64-bit words, or not at all. -/
def dump (base : Option Int64) (bytes : List UInt8) : String :=
  String.join ((rows bytes).zipIdx.map fun (row, i) =>
    line (base.map fun b => b + Int64.ofNat (rowSize * i)) row)

/-- **Bytes of a window**: those of some data from `start` on and before `stop`, as far as the data reach. A
window that has bytes before the data is `none`. -/
def bytes? (data : List UInt8) (start stop : Int) : Option (List UInt8) :=
  let stop := min stop data.length
  if stop ≤ start then some []
  else if start < 0 then none
  else some (data.extract start.toNat stop.toNat)

/-- **Dump of a window**: `length` bytes from `start` on. The end of the window is a 64-bit word. -/
def window? (data : List UInt8) (start length : Int64) (base : Option Int64) : Option String :=
  (bytes? data start.toInt (start + length).toInt).map (dump base)

/-- **A window that does not start before the data** has the bytes in it. -/
theorem bytes?_of_nonneg (data : List UInt8) {start stop : Int} (first : 0 ≤ start) :
    bytes? data start stop = some (data.extract start.toNat stop.toNat) := by
  unfold bytes?
  dsimp only
  by_cases empty : min stop data.length ≤ start
  · -- The window is empty, or starts behind the data.
    rw [if_pos empty, List.extract, eq_comm, Option.some_inj, List.take_eq_nil_iff, List.drop_eq_nil_iff]
    omega
  · rw [if_neg empty, if_neg (by omega), Option.some_inj, List.extract, List.extract, List.take_eq_take_iff,
      List.length_drop]
    omega

end HexDump

end SheetFormula
