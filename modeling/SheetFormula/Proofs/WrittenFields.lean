import Mathlib.Algebra.Group.Nat.Defs
import SheetFormula.Reference

/-!
# Written numbers and fields

The byte form of what the readers of a formula take in fixed widths, and the laws that tie writing to
reading. Main definitions:

* `Bytes.written` — a number as little-endian bytes; `Bytes.value` — the number of some bytes;
* `Bytes.ofWord` — a 16-bit word as two bytes;
* `RefFields.written` — the fields of a reference as bytes.

Main statements: a block that was written is read back (`Bytes.word?_append`,
`RefFields.ofBytes?_written`), and every block of the right length was written
(`Bytes.written_value`, `RefFields.exists_written`), so a reader of such a block cannot fail.
-/

namespace SheetFormula

namespace Bytes

/-! ## Numbers -/

/-- **Bytes of a number**: `width` of them, least significant first. What does not fit is cut off. -/
def written : Nat → Nat → List UInt8
  | 0, _ => []
  | width + 1, n => UInt8.ofNat n :: written width (n / 256)

/-- **Number of some bytes**, least significant first. -/
def value : List UInt8 → Nat
  | [] => 0
  | b :: block => b.toNat + 256 * value block

/-- A number is written in as many bytes as it is wide. -/
@[simp] theorem length_written (width n : Nat) : (written width n).length = width := by
  induction width generalizing n with
  | zero => rfl
  | succ width ih => rw [written, List.length_cons, ih]

/-- **Reading a number in place**: the block that starts behind `front` gives its number. -/
theorem littleEndian?_append (front block rest : List UInt8) :
    littleEndian? (front ++ block ++ rest) front.length block.length = some (value block) := by
  induction block generalizing front with
  | nil => rfl
  | cons b block ih =>
      -- The rest of the block stands behind `front` and its first byte.
      have shift : front ++ (b :: block) ++ rest = (front ++ [b]) ++ block ++ rest := by simp
      have here : (front ++ (b :: block) ++ rest)[front.length]? = some b := by simp
      have further := ih (front ++ [b])
      rw [List.length_append, List.length_singleton] at further
      rw [List.length_cons, littleEndian?_succ, here, shift, further, value]

/-- Every block is the written form of its number. -/
theorem written_value (block : List UInt8) : written block.length (value block) = block := by
  induction block with
  | nil => rfl
  | cons b block ih =>
      have low : UInt8.ofNat (b.toNat + 256 * value block) = b := by
        apply UInt8.toNat_inj.mp
        have := b.toNat_lt
        simp only [UInt8.toNat_ofNat']
        omega
      have high : (b.toNat + 256 * value block) / 256 = value block := by
        have := b.toNat_lt
        omega
      rw [List.length_cons, written, value, low, high, ih]

/-- A number that fits is read back from its bytes. -/
theorem value_written {width n : Nat} (h : n < 256 ^ width) : value (written width n) = n := by
  induction width generalizing n with
  | zero =>
      rw [written, value]
      simp only [Nat.pow_zero] at h
      omega
  | succ width ih =>
      have fits : n / 256 < 256 ^ width := by
        rw [Nat.pow_succ] at h
        omega
      rw [written, value, ih fits, UInt8.toNat_ofNat']
      omega

/-- The number of some bytes fits into as many. -/
theorem value_lt (block : List UInt8) : value block < 256 ^ block.length := by
  induction block with
  | nil => exact Nat.one_pos
  | cons b block ih =>
      have hb := b.toNat_lt
      rw [value, List.length_cons, Nat.pow_succ]
      omega

/-- Eight bytes are the bytes of a 64-bit number. -/
theorem exists_written_eight {block : List UInt8} (h : block.length = 8) :
    ∃ bits : UInt64, written 8 bits.toNat = block := by
  refine ⟨UInt64.ofNat (value block), ?_⟩
  have small := value_lt block
  have back := written_value block
  rw [h] at small back
  rwa [UInt64.toNat_ofNat', Nat.mod_eq_of_lt (show value block < 2 ^ 64 from small)]

/-! ## Words -/

/-- **Bytes of a word**, the low one first. -/
def ofWord (w : UInt16) : List UInt8 := written 2 w.toNat

/-- A word is written in two bytes. -/
@[simp] theorem length_ofWord (w : UInt16) : (ofWord w).length = 2 := length_written 2 w.toNat

/-- **Reading a word in place**: the word that starts behind `front`. -/
theorem word?_append (front rest : List UInt8) (w : UInt16) :
    word? (front ++ ofWord w ++ rest) front.length = some w := by
  have read := littleEndian?_append front (ofWord w) rest
  rw [length_ofWord] at read
  rw [word?, read, ofWord, value_written w.toNat_lt, Option.map_some, UInt16.ofNat_toNat]

/-- Two bytes are the bytes of a word. -/
theorem exists_ofWord {block : List UInt8} (h : block.length = 2) : ∃ w, ofWord w = block := by
  refine ⟨UInt16.ofNat (value block), ?_⟩
  have small := value_lt block
  have back := written_value block
  rw [h] at small back
  rwa [ofWord, UInt16.toNat_ofNat', Nat.mod_eq_of_lt (show value block < 2 ^ 16 from small)]

/-- Four bytes or more start with two words. -/
theorem exists_two_words {bytes : List UInt8} (h : 4 ≤ bytes.length) :
    ∃ first second rest, bytes = ofWord first ++ (ofWord second ++ rest) := by
  have firstTwo : (bytes.take 2).length = 2 := by
    rw [List.length_take]
    omega
  have nextTwo : ((bytes.drop 2).take 2).length = 2 := by
    rw [List.length_take, List.length_drop]
    omega
  obtain ⟨first, hfirst⟩ := exists_ofWord firstTwo
  obtain ⟨second, hsecond⟩ := exists_ofWord nextTwo
  refine ⟨first, second, (bytes.drop 2).drop 2, ?_⟩
  rw [hfirst, hsecond, List.take_append_drop, List.take_append_drop]

end Bytes

/-! ## Fields of a reference -/

namespace RefFields

/-- **Bytes of a reference**: its fields one after the other. -/
def written (f : RefFields) : List UInt8 :=
  Bytes.ofWord f.column ++ Bytes.ofWord f.row ++ (f.sheet.map Bytes.ofWord).getD []

/-- A reference takes as many bytes as the variant says whose fields it has. -/
theorem length_written {f : RefFields} {v : Variant} (h : f.sheet.isSome = v.sheetField) :
    f.written.length = v.refSize := by
  rw [written, Variant.refSize, ← h]
  cases f.sheet with
  | none => simp
  | some sheet => simp

/-- **Reading back**: the fields of a reference are read from its bytes. -/
theorem ofBytes?_written (f : RefFields) : ofBytes? f.sheet.isSome f.written = some f := by
  obtain ⟨column, row, sheet⟩ := f
  -- Each word is read back at its own place, whatever stands around it.
  have first : Bytes.word? (written ⟨column, row, sheet⟩) 0 = some column := by
    have read := Bytes.word?_append [] (Bytes.ofWord row ++ (sheet.map Bytes.ofWord).getD []) column
    rwa [List.nil_append, ← List.append_assoc] at read
  have second : Bytes.word? (written ⟨column, row, sheet⟩) 2 = some row :=
    Bytes.word?_append (Bytes.ofWord column) ((sheet.map Bytes.ofWord).getD []) row
  unfold ofBytes?
  rw [first, second]
  cases sheet with
  | none => rfl
  | some sheet =>
      have third : Bytes.word? (written ⟨column, row, some sheet⟩) 4 = some sheet := by
        have read := Bytes.word?_append (Bytes.ofWord column ++ Bytes.ofWord row) [] sheet
        rwa [List.append_nil] at read
      simp only [Option.isSome_some, if_true, third, Option.map_some]

/-- Every block of the size of a reference holds the fields of one. -/
theorem exists_written {v : Variant} {block : List UInt8} (h : block.length = v.refSize) :
    ∃ f : RefFields, f.sheet.isSome = v.sheetField ∧ f.written = block := by
  have size : 4 ≤ block.length := by
    rw [h, Variant.refSize]
    split <;> omega
  obtain ⟨column, row, rest, rfl⟩ := Bytes.exists_two_words size
  rw [List.length_append, List.length_append, Bytes.length_ofWord, Bytes.length_ofWord,
    Variant.refSize] at h
  -- What is left is a sheet field, or nothing.
  cases hs : v.sheetField with
  | false =>
      rw [hs, if_neg Bool.false_ne_true] at h
      obtain rfl : rest = [] := List.eq_nil_of_length_eq_zero (by omega)
      exact ⟨⟨column, row, none⟩, rfl, List.append_assoc _ _ _⟩
  | true =>
      rw [hs, if_pos rfl] at h
      obtain ⟨sheet, rfl⟩ := Bytes.exists_ofWord (show rest.length = 2 by omega)
      exact ⟨⟨column, row, some sheet⟩, rfl, List.append_assoc _ _ _⟩

end RefFields

end SheetFormula
