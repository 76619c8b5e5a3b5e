import Mathlib.Data.List.Basic
import SheetFormula.Text.Quoted

/-!
# Texts in ASCII

A text in ASCII has a byte for each of its characters, and no other bytes are read as that text:

* **`Utf8.bytes_of_ascii`** — the bytes of such a text are the codes of its characters;
* **`Utf8.text_eq_iff`** — some bytes are read as such a text exactly when they are its bytes, although bytes
  that belong to no character are read as well.
-/

namespace SheetFormula

namespace Utf8

/-! ## Bytes of a text -/

/-- What the loop over the bytes of an array adds to those it has. -/
theorem toList_loop (bytes : ByteArray) (i : Nat) (known : List UInt8) :
    ByteArray.toList.loop bytes i known = known.reverse ++ bytes.data.toList.drop i := by
  fun_induction ByteArray.toList.loop bytes i known with
  | case1 i known more ih =>
      have inside : i < bytes.data.toList.length := by simpa using more
      have here : bytes.get! i = bytes.data.toList[i] := by
        rw [Array.getElem_toList]
        exact getElem!_pos bytes.data i inside
      rw [ih, List.drop_eq_getElem_cons inside, here, List.reverse_cons, List.append_assoc,
        List.singleton_append]
  | case2 i known done =>
      have behind : bytes.data.toList.length ≤ i := by simpa using done
      rw [List.drop_eq_nil_of_le behind, List.append_nil]

/-- **Bytes of a text**: those of its characters, one after the other. -/
theorem bytes_eq (s : String) : bytes s = s.toList.flatMap String.utf8EncodeChar := by
  have encoded : s.toByteArray = (s.toList.flatMap String.utf8EncodeChar).toByteArray := by
    rw [← List.utf8Encode, ← String.toByteArray_ofList, String.ofList_toList]
  rw [bytes, String.toUTF8, encoded, ByteArray.toList, toList_loop, List.reverse_nil, List.nil_append,
    List.drop_zero, List.toList_data_toByteArray]

/-- The code of a character, as a byte. -/
def code (c : Char) : UInt8 := UInt8.ofNat c.toNat

/-- **A text in ASCII**. -/
def Ascii (s : String) : Prop := ∀ c ∈ s.toList, c.toNat < 0x80

/-- Whether a text is ASCII can be decided. -/
instance : DecidablePred Ascii := fun s => List.decidableBAll _ s.toList

/-- The code of an ASCII character is its number. -/
theorem toNat_code {c : Char} (ascii : c.toNat < 0x80) : (code c).toNat = c.toNat := by
  rw [code, UInt8.toNat_ofNat']
  omega

/-- An ASCII character takes one byte. -/
theorem utf8Size_of_ascii {c : Char} (ascii : c.toNat < 0x80) : c.utf8Size = 1 :=
  if_pos (show c.val ≤ 0x7f from UInt32.le_iff_toNat_le.mpr (Nat.le_of_lt_succ ascii))

/-- An ASCII character is written as its code. -/
theorem encode_of_ascii {c : Char} (ascii : c.toNat < 0x80) : String.utf8EncodeChar c = [code c] := by
  rw [String.utf8EncodeChar_eq_singleton (utf8Size_of_ascii ascii)]
  rfl

/-- **Bytes of a text in ASCII**: the codes of its characters. -/
theorem bytes_of_ascii {s : String} (ascii : Ascii s) : bytes s = s.toList.map code := by
  rw [bytes_eq, ← List.flatMap_pure_eq_map]
  exact List.flatMap_congr fun c mem => encode_of_ascii (ascii c mem)

/-! ## Text of bytes -/

/-- A valid number is that of its character. -/
theorem toNat_ofNat {n : Nat} (valid : n.isValidChar) : (Char.ofNat n).toNat = n := by
  rw [Char.ofNat, dif_pos valid]
  rfl

/-- **No character has a longer form** than it needs. -/
theorem le_of_wide {width least start : Nat} {bytes rest : List UInt8} {c : Char}
    (h : wide width least start bytes = .char c rest) : least ≤ c.toNat := by
  unfold wide at h
  dsimp only at h
  split at h
  · cases h
  · split at h
    · next n _ =>
      split at h
      · cases h
      · next fine =>
        -- What was not refused is at least the least, and a valid character.
        obtain ⟨rfl, -⟩ := First.char.inj h
        simp only [Bool.or_eq_true, Bool.and_eq_true, decide_eq_true_eq, not_or, not_and] at fine
        have valid : n.isValidChar := by
          unfold Nat.isValidChar
          omega
        rw [toNat_ofNat valid]
        omega
    · cases h

/-- **A character in ASCII is read off its code.** -/
theorem first_code {c : Char} (ascii : c.toNat < 0x80) (rest : List UInt8) :
    first (code c :: rest) = .char c rest := by
  have small : ¬ (decide (c.toNat < 0) || (decide (0xd800 ≤ c.toNat) && decide (c.toNat ≤ 0xdfff)) ||
      decide (0x10ffff < c.toNat)) = true := by
    simp only [Bool.or_eq_true, Bool.and_eq_true, decide_eq_true_eq]
    omega
  have single : wide 1 0 c.toNat rest = .char c rest := by
    simp only [wide, continued?, Nat.sub_self, List.take_zero, List.length_nil, Nat.lt_irrefl, if_false,
      List.foldl_nil, List.drop_zero, if_neg small, Char.ofNat_toNat]
  simp only [first, toNat_code ascii, if_pos ascii, single]

/-- **It is read off nothing else.** -/
theorem eq_code_of_first {b : UInt8} {bytes rest : List UInt8} {c : Char}
    (h : first (b :: bytes) = .char c rest) (ascii : c.toNat < 0x80) : b = code c := by
  by_cases small : b.toNat < 0x80
  · have number : (Char.ofNat b.toNat).toNat = b.toNat := toNat_ofNat (.inl (by omega))
    have same : code (Char.ofNat b.toNat) = b := by
      rw [code, number, UInt8.ofNat_toNat]
    have read := first_code (number ▸ small) bytes
    rw [same, h] at read
    rw [(First.char.inj read).1, same]
  · -- Longer forms are for the characters behind ASCII.
    have long : 0x80 ≤ c.toNat := by
      simp only [first, if_neg small] at h
      split at h
      · exact le_of_wide h
      · split at h
        · exact Nat.le_trans (by decide) (le_of_wide h)
        · split at h
          · exact Nat.le_trans (by decide) (le_of_wide h)
          · cases h
    omega

/-- Codes of ASCII characters are read back one by one. -/
theorem piecesBehind_codes {chars : List Char} (ascii : ∀ c ∈ chars, c.toNat < 0x80) :
    piecesBehind 0 (chars.map code) = chars.map .char := by
  induction chars with
  | nil => rfl
  | cons c chars ih =>
      have here := ascii c List.mem_cons_self
      rw [List.map_cons, List.map_cons, piecesBehind, first_code here]
      dsimp only
      rw [utf8Size_of_ascii here, Nat.sub_self, ih fun c mem => ascii c (List.mem_cons_of_mem _ mem)]

/-- Bytes with a piece for each of some characters in ASCII are the codes of these. -/
theorem eq_codes_of_piecesBehind {chars : List Char} (ascii : ∀ c ∈ chars, c.toNat < 0x80)
    {bytes : List UInt8} (h : (piecesBehind 0 bytes).map Piece.shown = chars) : bytes = chars.map code := by
  induction bytes generalizing chars with
  | nil =>
      subst h
      rfl
  | cons b bytes ih =>
      rw [piecesBehind] at h
      split at h
      · next c rest read =>
        subst h
        have here : c.toNat < 0x80 := ascii c List.mem_cons_self
        rw [utf8Size_of_ascii here, Nat.sub_self] at ascii ⊢
        rw [List.map_cons, List.map_cons, ← ih (fun c mem => ascii c (List.mem_cons_of_mem _ mem)) rfl]
        exact congrArg (· :: bytes) (eq_code_of_first read here)
      · -- What is shown for a byte that belongs to no character is not in ASCII.
        subst h
        exact absurd (ascii '\ufffd' List.mem_cons_self) (by decide)

/-- **A text in ASCII is the text of its bytes**, and of no others. -/
theorem text_eq_iff {s : String} (ascii : Ascii s) {b : List UInt8} : text b = s ↔ b = bytes s := by
  rw [bytes_of_ascii ascii, text, pieces, ← String.toList_inj, String.toList_ofList]
  constructor
  · exact eq_codes_of_piecesBehind ascii
  · rintro rfl
    rw [piecesBehind_codes ascii, List.map_map]
    exact List.map_id s.toList

end Utf8

end SheetFormula
