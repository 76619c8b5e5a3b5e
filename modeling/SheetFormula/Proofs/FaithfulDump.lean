import Mathlib.Data.List.Forall2
import SheetFormula.Bytes
import SheetFormula.Proofs.AsciiText
import SheetFormula.Proofs.WrittenFormulas

/-!
# Dumps are faithful

A dump shows a window of some data line by line, and the data can be read off it again. What its lines look
like is said column by column, without the functions that write them:

* **`HexDump.LineParts`**, **`HexDump.LineParts.Shows`** — the parts of a line, and when they show a row of
  bytes: `HexDump.column` says what stands in each column of the hex field, `HexDump.ShownAs` what stands for
  a byte among the characters;
* **`HexDump.readBack`** — the bytes of a dump, read off its hex fields; `HexDump.readBack_lines` says that
  lines that show rows of bytes are read back as these bytes;
* **`HexDump.rows_eq`**, **`HexDump.partsOf_shows`** — the rows of some bytes, and the lines that are written
  for them;
* **`HexDump.window?_faithful`** — a dump is made of the lines that show its window, and is read back as that
  window.
-/

namespace SheetFormula

namespace HexDump

/-! ## What a line shows -/

/-- **How a byte shows** among the characters of a line. -/
inductive ShownAs : UInt8 → Char → Prop
  /-- Printable ASCII shows as itself. -/
  | itself {b : UInt8} {c : Char} (printable : 0x20 ≤ b ∧ b ≤ 0x7e) (same : c.toNat = b.toNat) : ShownAs b c
  /-- Zero shows as a tilde. -/
  | zero : ShownAs 0 '~'
  /-- All else shows as a question mark. -/
  | other {b : UInt8} (nonzero : b ≠ 0) (unprintable : ¬ (0x20 ≤ b ∧ b ≤ 0x7e)) : ShownAs b '?'

/-- **Column of a hex field**. A byte has three: two digits, that of its upper half first, and a blank. The
columns behind the last byte are blank. -/
def column (row : List UInt8) (i : Nat) : Char :=
  match row[i / 3]?, i % 3 with
  | some b, 0 => Nat.digitChar (b.toNat / 16)
  | some b, 1 => Nat.digitChar (b.toNat % 16)
  | _, _ => ' '

/-- Columns of a hex field. -/
def fieldWidth : Nat := 48

/-- **Parts of a line**. -/
structure LineParts where
  /-- The number, with a colon and a blank behind it; nothing when lines have no numbers. -/
  label : String
  /-- The hex field. -/
  field : String
  /-- The characters. -/
  chars : String

namespace LineParts

/-- **Line of some parts**. -/
def text (p : LineParts) : String := p.label ++ "     " ++ p.field ++ " " ++ p.chars

/-- **A line shows a row of bytes** under a number, or without one. -/
structure Shows (p : LineParts) (number : Option Int) (row : List UInt8) : Prop where
  /-- The number is right-aligned to at least five columns. -/
  label : p.label = number.elim "" fun n => String.ofList ((toString n).toList.leftpad 5 ' ') ++ ": "
  /-- The hex field holds two digits for each byte. -/
  field : p.field.toList = (List.range fieldWidth).map (column row)
  /-- There is one character for each byte. -/
  chars : List.Forall₂ ShownAs row p.chars.toList

end LineParts

/-! ## Reading a dump -/

/-- **Hex field of a line**. The number ends at the first colon; five blanks stand before the field. -/
def hexField (numbered : Bool) (line : List UInt8) : List UInt8 :=
  ((if numbered then (line.dropWhile (· ≠ 0x3a)).drop 2 else line).drop 5).take fieldWidth

/-- **Bytes of a dump**, read off the hex fields of its lines. -/
def readBack (numbered : Bool) (text : List UInt8) : Except HexError (List UInt8) :=
  List.flatten <$> (FormulaFile.lines text).mapM fun line =>
    HexText.decode (Blank.removed (hexField numbered line))

/-! ## Hex fields -/

/-- The columns of a byte. -/
def triple (b : UInt8) : List Char := [Nat.digitChar (b.toNat / 16), Nat.digitChar (b.toNat % 16), ' ']

/-- A byte takes up three columns. -/
theorem column_cons (b : UInt8) (row : List UInt8) (i : Nat) : column (b :: row) (3 + i) = column row i := by
  have quotient : (3 + i) / 3 = i / 3 + 1 := by omega
  have remainder : (3 + i) % 3 = i % 3 := by omega
  rw [column, column, quotient, remainder, List.getElem?_cons_succ]

/-- **Columns of a row**, one byte after the other, with blanks behind them. -/
theorem map_column (row : List UInt8) (blanks : Nat) :
    (List.range (3 * row.length + blanks)).map (column row) =
      row.flatMap triple ++ List.replicate blanks ' ' := by
  induction row with
  | nil =>
      rw [List.flatMap_nil, List.nil_append, List.eq_replicate_iff]
      refine ⟨by simp, fun c mem => ?_⟩
      obtain ⟨i, -, rfl⟩ := List.mem_map.mp mem
      rfl
  | cons b row ih =>
      -- The first byte takes three columns, and the others follow behind it.
      have columns : 3 * (b :: row).length + blanks = 3 + (3 * row.length + blanks) := by
        rw [List.length_cons]
        omega
      rw [columns, List.range_add, List.map_append, List.map_map, List.flatMap_cons, List.append_assoc, ← ih]
      congr 1
      exact List.map_congr_left fun i _ => column_cons b row i

/-- A hex field has room for sixteen bytes. -/
theorem map_column_field {row : List UInt8} (fits : row.length ≤ rowSize) :
    (List.range fieldWidth).map (column row) =
      row.flatMap triple ++ List.replicate (fieldWidth - 3 * row.length) ' ' := by
  have columns : fieldWidth = 3 * row.length + (fieldWidth - 3 * row.length) := by
    unfold fieldWidth rowSize at *
    omega
  rw [← map_column, ← columns]

/-- The digits of a row, as bytes. -/
def digitsOf (row : List UInt8) : List UInt8 :=
  row.flatMap fun b => [Utf8.code (Nat.digitChar (b.toNat / 16)), Utf8.code (Nat.digitChar (b.toNat % 16))]

/-- The digits of a row write its bytes. -/
theorem writes_digitsOf (row : List UInt8) : HexText.Writes row (digitsOf row) := by
  induction row with
  | nil => exact .nil
  | cons b row ih => exact .byte (.inl rfl) (.inl rfl) ih

/-- Blanks are white space. -/
theorem spaced_blank {kept line : List UInt8} (others : FormulaFile.Spaced kept line) :
    FormulaFile.Spaced kept (0x20 :: line) := .blank (c := ' ') (by decide) (by decide) others

/-- The columns of a row are its digits and blanks between and behind them. -/
theorem spaced_columns (row : List UInt8) (blanks : Nat) :
    FormulaFile.Spaced (digitsOf row) ((row.flatMap triple ++ List.replicate blanks ' ').map Utf8.code) := by
  induction row with
  | nil =>
      induction blanks with
      | zero => exact .nil
      | succ n ih => exact spaced_blank ih
  | cons b row ih => exact .byte _ (.byte _ (spaced_blank ih))

/-- **A hex field is read back** as the row that it holds, when it has room for it. -/
theorem decode_field {row : List UInt8} (fits : row.length ≤ rowSize) :
    HexText.decode (Blank.removed (((List.range fieldWidth).map (column row)).map Utf8.code)) = .ok row := by
  obtain ⟨readable, whole⟩ := HexText.writes_iff.mp (writes_digitsOf row)
  rw [map_column_field fits, (spaced_columns row _).removed_digits readable.2,
    HexText.decode_readable readable, whole]

/-! ## Lines that show rows -/

/-- **Printable characters** of ASCII. -/
def Printable (c : Char) : Prop := 0x20 ≤ c.toNat ∧ c.toNat ≤ 0x7e

/-- Whether a character is printable can be decided. -/
instance : DecidablePred Printable := fun c => inferInstanceAs (Decidable (0x20 ≤ c.toNat ∧ c.toNat ≤ 0x7e))

/-- **Printable texts**. -/
def PrintableText (s : String) : Prop := ∀ c ∈ s.toList, Printable c

/-- Whether all of a text is printable can be decided. -/
instance : DecidablePred PrintableText := fun s => List.decidableBAll _ s.toList

/-- A text in two parts is printable when both of them are. -/
theorem printableText_append {s t : String} : PrintableText (s ++ t) ↔ PrintableText s ∧ PrintableText t := by
  simp only [PrintableText, String.toList_append, List.forall_mem_append]

/-- A text is printable when its characters are. -/
theorem printableText_ofList {chars : List Char} :
    PrintableText (String.ofList chars) ↔ ∀ c ∈ chars, Printable c := by
  rw [PrintableText, String.toList_ofList]

/-- A newline is not printable. -/
theorem Printable.ne_newline {c : Char} (h : Printable c) : c ≠ '\n' := by
  rintro rfl
  exact absurd h (by decide)

/-- A byte is shown as a printable character. -/
theorem ShownAs.printable {b : UInt8} {c : Char} (h : ShownAs b c) : Printable c := by
  cases h with
  | itself printable same =>
      obtain ⟨low, high⟩ := printable
      rw [UInt8.le_iff_toNat_le, ← same] at low high
      exact ⟨low, high⟩
  | zero => decide
  | other => decide

/-- All bytes of a row are. -/
theorem ShownAs.forall_printable {row : List UInt8} {chars : List Char} (h : List.Forall₂ ShownAs row chars) :
    ∀ c ∈ chars, Printable c := by
  induction h with
  | nil => simp
  | cons shown _ ih => exact List.forall_mem_cons.mpr ⟨shown.printable, ih⟩

/-- Digits and blanks are printable. -/
theorem column_printable (row : List UInt8) (i : Nat) : Printable (column row i) := by
  have digits : ∀ n < 16, Printable (Nat.digitChar n) := by decide
  unfold column
  split
  · next b _ _ => exact digits _ (Nat.div_lt_of_lt_mul b.toNat_lt)
  · exact digits _ (Nat.mod_lt _ (by decide))
  · decide

/-- What numbers are written with. -/
theorem mem_toString {n : Int} {c : Char} (mem : c ∈ (toString n).toList) : c = '-' ∨ c.isDigit = true := by
  have digit {m : Nat} (mem : c ∈ m.repr.toList) : c.isDigit = true := by
    rw [Nat.repr, String.toList_ofList] at mem
    exact Nat.isDigit_of_mem_toDigits (by decide) (by decide) mem
  rw [Int.toString_eq_repr] at mem
  cases n with
  | ofNat m => exact .inr (digit mem)
  | negSucc m =>
      rw [Int.repr, String.toList_append] at mem
      rcases List.mem_append.mp mem with sign | mem
      · exact .inl (List.mem_singleton.mp sign)
      · exact .inr (digit mem)

/-- **Numbers of lines** are printable, and have no colon. -/
theorem number_printable {n : Int} {c : Char} (mem : c ∈ (toString n).toList.leftpad 5 ' ') :
    Printable c ∧ c.toNat ≠ 0x3a := by
  rcases List.mem_append.mp mem with blank | mem
  · rw [List.eq_of_mem_replicate blank]
    decide
  · rcases mem_toString mem with rfl | digit
    · decide
    · obtain ⟨low, high⟩ : 0x30 ≤ c.toNat ∧ c.toNat ≤ 0x39 := by
        simpa [Char.isDigit, UInt32.le_iff_toNat_le] using digit
      exact ⟨⟨by omega, by omega⟩, by omega⟩

namespace LineParts.Shows

variable {p : LineParts} {number : Option Int} {row : List UInt8}

/-- **Lines that show something are printable**, so that they have no newline. -/
theorem printable (h : p.Shows number row) : PrintableText p.text := by
  have label : PrintableText p.label := by
    rw [h.label]
    cases number with
    | none => decide
    | some n =>
        have digits : PrintableText (String.ofList ((toString n).toList.leftpad 5 ' ')) :=
          printableText_ofList.mpr fun c mem => (number_printable mem).1
        exact printableText_append.mpr ⟨digits, by decide⟩
  have field : PrintableText p.field := by
    unfold PrintableText
    rw [h.field]
    intro c mem
    obtain ⟨i, -, rfl⟩ := List.mem_map.mp mem
    exact column_printable row i
  simp only [text, printableText_append]
  exact ⟨⟨⟨⟨label, by decide⟩, field⟩, by decide⟩, ShownAs.forall_printable h.chars⟩

/-- **The hex field is found** in the line, behind the number and five blanks. -/
theorem hexField_eq (h : p.Shows number row) :
    hexField number.isSome (p.text.toList.map Utf8.code) = p.field.toList.map Utf8.code := by
  have width : (p.field.toList.map Utf8.code).length = fieldWidth := by
    rw [h.field, List.length_map, List.length_map, List.length_range]
  have behind : ((("     " ++ p.field ++ " " ++ p.chars).toList.map Utf8.code).drop 5).take fieldWidth =
      p.field.toList.map Utf8.code := by
    simp only [String.toList_append, List.map_append, List.append_assoc]
    show ((p.field.toList.map Utf8.code ++ _)).take fieldWidth = _
    rw [List.take_left' width]
  have text : p.text.toList.map Utf8.code =
      p.label.toList.map Utf8.code ++ ("     " ++ p.field ++ " " ++ p.chars).toList.map Utf8.code := by
    simp only [LineParts.text, String.toList_append, List.map_append, List.append_assoc]
  rw [hexField, text, h.label]
  cases number with
  | none => exact behind
  | some n =>
      -- The number is passed over up to its colon.
      have plain : ∀ b ∈ ((toString n).toList.leftpad 5 ' ').map Utf8.code, decide (b ≠ 0x3a) = true := by
        intro b mem
        obtain ⟨c, inside, rfl⟩ := List.mem_map.mp mem
        obtain ⟨printable, other⟩ := number_printable inside
        refine decide_eq_true fun colon => other ?_
        have number := congrArg UInt8.toNat colon
        rwa [Utf8.toNat_code (by have := printable.2; omega)] at number
      rw [Option.elim_some, String.toList_append, String.toList_ofList, List.map_append, List.append_assoc,
        List.dropWhile_append_of_pos plain]
      exact behind

/-- **A line is read back** as the row that it shows. -/
theorem decode_eq (h : p.Shows number row) (fits : row.length ≤ rowSize) :
    HexText.decode (Blank.removed (hexField number.isSome (p.text.toList.map Utf8.code))) = .ok row := by
  rw [h.hexField_eq, h.field, decode_field fits]

end LineParts.Shows

/-- **Text of some lines**, each with its newline. -/
def textOf (lines : List LineParts) : String := String.join (lines.map fun p => p.text ++ "\n")

/-- A text of lines has a newline behind each of them. -/
theorem toList_textOf (lines : List LineParts) :
    (textOf lines).toList = lines.flatMap fun p => p.text.toList ++ ['\n'] := by
  rw [textOf, String.toList_join, List.flatMap_map]
  exact List.flatMap_congr fun p _ => String.toList_append

/-- Printable lines are written as the codes of their characters. -/
theorem bytes_textOf {lines : List LineParts} (printable : ∀ p ∈ lines, PrintableText p.text) :
    Utf8.bytes (textOf lines) = (lines.map fun p => p.text.toList.map Utf8.code).flatMap (· ++ [0x0a]) := by
  have ascii : Utf8.Ascii (textOf lines) := by
    intro c mem
    rw [toList_textOf] at mem
    obtain ⟨p, inside, mem⟩ := List.mem_flatMap.mp mem
    rcases List.mem_append.mp mem with mem | newline
    · have := (printable p inside c mem).2
      omega
    · rw [List.mem_singleton.mp newline]
      decide
  rw [Utf8.bytes_of_ascii ascii, toList_textOf, List.map_flatMap, List.flatMap_map]
  exact List.flatMap_congr fun p _ => List.map_append

/-- **Printable lines are the lines of their text.** -/
theorem lines_textOf {lines : List LineParts} (printable : ∀ p ∈ lines, PrintableText p.text) :
    FormulaFile.lines (Utf8.bytes (textOf lines)) = lines.map fun p => p.text.toList.map Utf8.code := by
  rw [bytes_textOf printable]
  refine FormulaFile.lines_ended fun line mem newline => ?_
  obtain ⟨p, inside, rfl⟩ := List.mem_map.mp mem
  obtain ⟨c, here, code⟩ := List.mem_map.mp newline
  obtain ⟨low, high⟩ := printable p inside c here
  have number := congrArg UInt8.toNat code
  rw [Utf8.toNat_code (by omega)] at number
  exact absurd (number ▸ low) (by decide)

/-- **Lines that show rows are read back** as these rows, one after the other. -/
theorem readBack_lines {numbered : Bool} {lines : List LineParts} {rows : List (List UInt8)}
    (fits : ∀ row ∈ rows, row.length ≤ rowSize)
    (shown : List.Forall₂
      (fun p row => ∃ number : Option Int, number.isSome = numbered ∧ p.Shows number row) lines rows) :
    readBack numbered (Utf8.bytes (textOf lines)) = .ok rows.flatten := by
  have read : (∀ p ∈ lines, PrintableText p.text) ∧
      (lines.mapM fun p => HexText.decode (Blank.removed (hexField numbered (p.text.toList.map Utf8.code)))) =
        .ok rows := by
    -- Line by line: it is printable, and its field is read as its row.
    induction shown with
    | nil => exact ⟨by simp, rfl⟩
    | cons here _ ih =>
        obtain ⟨number, rfl, shows⟩ := here
        obtain ⟨first, others⟩ := List.forall_mem_cons.mp fits
        obtain ⟨printable, rows⟩ := ih others
        refine ⟨List.forall_mem_cons.mpr ⟨shows.printable, printable⟩, ?_⟩
        rw [List.mapM_cons, shows.decode_eq first, rows]
        rfl
  rw [readBack, lines_textOf read.1, List.mapM_map]
  exact congrArg (List.flatten <$> ·) read.2

/-! ## Rows -/

/-- **Rows of some bytes**, when there is fuel for all of them: as many as are needed, and nothing is lost. -/
theorem rowsUpTo_spec {fuel : Nat} {bytes : List UInt8} (enough : bytes.length ≤ fuel) :
    rowsUpTo fuel bytes =
        (List.range ((bytes.length + 15) / 16)).map (fun i => (bytes.drop (16 * i)).take 16) ∧
      (rowsUpTo fuel bytes).flatten = bytes := by
  induction fuel generalizing bytes with
  | zero =>
      obtain rfl := List.length_eq_zero_iff.mp (Nat.le_zero.mp enough)
      exact ⟨rfl, rfl⟩
  | succ fuel ih =>
      rw [rowsUpTo]
      by_cases empty : bytes = []
      · subst empty
        exact ⟨rfl, rfl⟩
      · have some : 0 < bytes.length := List.length_pos_iff.mpr empty
        have shorter : (bytes.drop 16).length ≤ fuel := by
          rw [List.length_drop]
          omega
        obtain ⟨rows, whole⟩ := ih shorter
        rw [if_neg (by simpa using empty), rowSize]
        refine ⟨?_, by rw [List.flatten_cons, whole, List.take_append_drop]⟩
        have count : (bytes.length + 15) / 16 = ((bytes.drop 16).length + 15) / 16 + 1 := by
          rw [List.length_drop]
          omega
        rw [rows, count, List.range_succ_eq_map, List.map_cons, List.map_map]
        -- The first row is cut off, so that row `i` of the rest is row `i + 1` of the whole.
        congr 1
        refine List.map_congr_left fun i _ => ?_
        show ((bytes.drop 16).drop (16 * i)).take 16 = (bytes.drop (16 * (i + 1))).take 16
        rw [List.drop_drop, Nat.mul_add, Nat.mul_one, Nat.add_comm]

/-- **The rows** are windows of sixteen bytes. -/
theorem rows_eq (bytes : List UInt8) :
    rows bytes = (List.range ((bytes.length + 15) / 16)).map fun i => (bytes.drop (16 * i)).take 16 :=
  (rowsUpTo_spec (Nat.le_refl _)).1

/-- Rows lose no byte. -/
theorem flatten_rows (bytes : List UInt8) : (rows bytes).flatten = bytes := (rowsUpTo_spec (Nat.le_refl _)).2

/-! ## Lines that are written -/

/-- The parts of the line that is written for a row. -/
def partsOf (number : Option Int64) (row : List UInt8) : LineParts where
  label := number.elim "" fun n => Digits.padLeft ' ' 5 (Digits.decimal n.toInt) ++ ": "
  field := Digits.padRight ' ' 48 (String.join (row.map fun b => Digits.hex 2 b.toNat ++ " "))
  chars := String.ofList (row.map shown)

/-- A line is made of its parts. -/
theorem line_eq (number : Option Int64) (row : List UInt8) :
    line number row = (partsOf number row).text ++ "\n" := by
  cases number with
  | none => rfl
  | some n => rfl

/-- Decimal digits are those of the standard text. -/
theorem decimal_eq_toString (n : Int) : Digits.decimal n = toString n := by
  rw [Int.toString_eq_repr]
  cases n with
  | ofNat m => rfl
  | negSucc m =>
      rw [Digits.decimal, if_pos (Int.negSucc_lt_zero m)]
      rfl

/-- A text is padded character by character. -/
theorem padLeft_eq (c : Char) (width : Nat) (s : String) :
    Digits.padLeft c width s = String.ofList (s.toList.leftpad width c) := by
  rw [← String.toList_inj, Digits.padLeft, String.toList_append, String.toList_ofList, String.toList_ofList,
    List.leftpad, String.length_toList]

/-- **Two digits of a byte**, with a blank. -/
theorem toList_hex (b : UInt8) : (Digits.hex 2 b.toNat ++ " ").toList = triple b := by
  have digits : (Digits.hex 2 b.toNat).toList = (Nat.toDigits 16 b.toNat).leftpad 2 '0' := by
    rw [Digits.hex, if_neg (Int.not_lt.mpr (Int.natCast_nonneg _)), padLeft_eq, Digits.natural,
      String.toList_ofList, String.toList_ofList, Int.natAbs_natCast]
  rw [String.toList_append, digits]
  by_cases single : b.toNat < 16
  · -- The digit of the upper half is the zero that is filled in.
    rw [Nat.toDigits_of_lt_base single, triple, Nat.div_eq_of_lt single, Nat.mod_eq_of_lt single]
    rfl
  · have upper : b.toNat / 16 < 16 := Nat.div_lt_of_lt_mul b.toNat_lt
    rw [Nat.toDigits_of_base_le (by decide) (Nat.le_of_not_lt single), Nat.toDigits_of_lt_base upper]
    rfl

/-- The character of a byte shows it. -/
theorem shownAs_shown (b : UInt8) : ShownAs b (shown b) := by
  unfold shown
  split
  · next zero => exact zero ▸ .zero
  · next nonzero =>
    split
    · next outside =>
      rw [Bool.or_eq_true, decide_eq_true_eq, decide_eq_true_eq] at outside
      refine .other nonzero fun inside => ?_
      rcases outside with low | high
      · exact absurd inside.1 (UInt8.not_le.mpr low)
      · exact absurd inside.2 (UInt8.not_le.mpr high)
    · next inside =>
      rw [Bool.or_eq_true, decide_eq_true_eq, decide_eq_true_eq, not_or, UInt8.not_lt, UInt8.not_lt] at inside
      have number : (Char.ofNat b.toNat).toNat = b.toNat :=
        Utf8.toNat_ofNat (.inl (by have := b.toNat_lt; omega))
      exact .itself inside number

/-- **The line that is written for a row shows it.** -/
theorem partsOf_shows (number : Option Int64) {row : List UInt8} (fits : row.length ≤ rowSize) :
    (partsOf number row).Shows (number.map Int64.toInt) row := by
  refine ⟨?_, ?_, ?_⟩
  · cases number with
    | none => rfl
    | some n =>
        show Digits.padLeft ' ' 5 (Digits.decimal n.toInt) ++ ": " = _
        rw [padLeft_eq, decimal_eq_toString]
        rfl
  -- Two digits and a blank for each byte, and blanks up to the end of the field.
  · have digits : (String.join (row.map fun b => Digits.hex 2 b.toNat ++ " ")).toList =
        row.flatMap triple := by
      rw [String.toList_join, List.flatMap_map]
      exact List.flatMap_congr fun b _ => toList_hex b
    have length : (row.flatMap triple).length = 3 * row.length := by
      simp [List.length_flatMap, triple, Nat.mul_comm]
    rw [map_column_field fits]
    show (Digits.padRight ' ' 48 _).toList = _
    rw [Digits.padRight, String.toList_append, String.toList_ofList, ← String.length_toList, digits, length,
      fieldWidth]
  · show List.Forall₂ ShownAs row (String.ofList (row.map shown)).toList
    rw [String.toList_ofList, List.forall₂_map_right_iff]
    exact List.forall₂_same.mpr fun b _ => shownAs_shown b

/-- The lines that are written for some bytes. -/
def linesOf (base : Option Int64) (bytes : List UInt8) : List LineParts :=
  (rows bytes).zipIdx.map fun entry => partsOf (base.map fun b => b + Int64.ofNat (rowSize * entry.2)) entry.1

/-- A dump is the text of its lines. -/
theorem dump_eq (base : Option Int64) (bytes : List UInt8) :
    dump base bytes = textOf (linesOf base bytes) := by
  rw [dump, textOf, linesOf, List.map_map]
  exact congrArg String.join (List.map_congr_left fun entry _ => line_eq _ entry.1)

/-- A row has at most sixteen bytes. -/
theorem length_of_mem_rows {bytes row : List UInt8} (mem : row ∈ rows bytes) : row.length ≤ rowSize := by
  rw [rows_eq] at mem
  obtain ⟨i, -, rfl⟩ := List.mem_map.mp mem
  exact List.length_take_le _ _

/-- **A dump is read back** as the bytes that were dumped. -/
theorem readBack_dump (base : Option Int64) (bytes : List UInt8) :
    readBack base.isSome (Utf8.bytes (dump base bytes)) = .ok bytes := by
  have shown : List.Forall₂
      (fun p row => ∃ number : Option Int, number.isSome = base.isSome ∧ p.Shows number row)
      (linesOf base bytes) ((rows bytes).zipIdx.map Prod.fst) := by
    rw [linesOf, List.forall₂_map_left_iff, List.forall₂_map_right_iff]
    refine List.forall₂_same.mpr fun entry mem => ⟨_, ?_, partsOf_shows _ ?_⟩
    · rw [Option.isSome_map, Option.isSome_map]
    · exact length_of_mem_rows (List.fst_mem_of_mem_zipIdx mem)
  rw [List.zipIdx_map_fst] at shown
  rw [dump_eq, readBack_lines (fun row mem => length_of_mem_rows mem) shown, flatten_rows]

/-- Numbers of lines are words of 64 bits. -/
theorem toInt_lineNumber (b : Int64) (i : Nat) :
    (b + Int64.ofNat (rowSize * i)).toInt = Int.bmod (b.toInt + 16 * i) Int64.size := by
  rw [Int64.toInt_add, Int64.toInt_ofNat', rowSize, Int64.size, Int.add_bmod_bmod, Int.natCast_mul]
  rfl

/-- **Line of a dump**: it shows the next sixteen bytes, or what is left of them, under their number. -/
theorem shows_of_linesOf {base : Option Int64} {bytes : List UInt8} {i : Nat} {p : LineParts}
    (h : (linesOf base bytes)[i]? = some p) :
    p.Shows (base.map fun b => Int.bmod (b.toInt + 16 * i) Int64.size)
      (bytes.extract (16 * i) (min (16 * i + 16) bytes.length)) := by
  rw [linesOf, List.getElem?_map, List.getElem?_zipIdx, Option.map_map, Option.map_eq_some_iff] at h
  obtain ⟨row, found, rfl⟩ := h
  have fits := length_of_mem_rows (List.mem_of_getElem? found)
  -- Row `i` has sixteen bytes at most, so that cutting it off at the end of the bytes changes nothing.
  have slice : row = bytes.extract (16 * i) (min (16 * i + 16) bytes.length) := by
    rw [rows_eq, List.getElem?_map, Option.map_eq_some_iff] at found
    obtain ⟨j, here, rfl⟩ := found
    obtain ⟨inside, rfl⟩ := List.getElem?_eq_some_iff.mp here
    rw [List.getElem_range, List.extract, List.take_eq_take_iff, List.length_drop]
    omega
  have shows := partsOf_shows (base.map fun b => b + Int64.ofNat (rowSize * i)) fits
  rw [Option.map_map] at shows
  have numbers : (Int64.toInt ∘ fun b => b + Int64.ofNat (rowSize * i)) =
      fun b => Int.bmod (b.toInt + 16 * i) Int64.size :=
    funext fun b => toInt_lineNumber b i
  rw [numbers] at shows
  rw [← slice]
  simpa using shows

/-! ## Windows -/

/-- **Dump of a window** that starts in the data or behind them: that of the bytes in it. -/
theorem window?_eq (data : List UInt8) {start length : Int64} (first : 0 ≤ start) (size : 0 ≤ length)
    (fits : start.toInt + length.toInt ≤ Int64.maxValue.toInt) (base : Option Int64) :
    window? data start length base =
      some (dump base (data.extract start.toInt.toNat
        (min (start.toInt + length.toInt).toNat data.length))) := by
  have first : 0 ≤ start.toInt := Int64.le_iff_toInt_le.mp first
  have size : 0 ≤ length.toInt := Int64.le_iff_toInt_le.mp size
  have stop : (start + length).toInt = start.toInt + length.toInt := by
    have last : Int64.maxValue.toInt = 2 ^ 63 - 1 := rfl
    rw [Int64.toInt_add]
    exact Int.bmod_eq_of_le_mul_two (by omega) (by omega)
  have reach : data.extract start.toInt.toNat (start.toInt + length.toInt).toNat =
      data.extract start.toInt.toNat (min (start.toInt + length.toInt).toNat data.length) := by
    rw [List.extract, List.extract, List.take_eq_take_iff, List.length_drop]
    omega
  rw [window?, stop, bytes?_of_nonneg data first, reach, Option.map_some]

/-- **Dumps are faithful.** Take any window of some data that does not start before them and whose end is a
word, and let `shown` be the data in it. The dump is made of as many lines as `shown` has rows of sixteen
bytes, the last of which may be shorter; each line ends with a newline and has no other. Line `i` shows the
bytes from `16 * i` on: their number, counted from the base in words of 64 bits, unless there are no numbers;
two digits for each byte, in forty-eight columns; and one character for each byte. Read off the hex fields
again, the bytes are `shown`. -/
theorem window?_faithful (data : List UInt8) {start length : Int64} (first : 0 ≤ start) (size : 0 ≤ length)
    (fits : start.toInt + length.toInt ≤ Int64.maxValue.toInt) (base : Option Int64) :
    let shown := data.extract start.toInt.toNat (min (start.toInt + length.toInt).toNat data.length)
    ∃ text, window? data start length base = some text ∧
      (∃ lines : List LineParts, text = String.join (lines.map fun p => p.text ++ "\n") ∧
        lines.length = (shown.length + 15) / 16 ∧
        ∀ (i : Nat) p, lines[i]? = some p → '\n' ∉ p.text.toList ∧
          p.Shows (base.map fun b => Int.bmod (b.toInt + 16 * i) Int64.size)
            (shown.extract (16 * i) (min (16 * i + 16) shown.length))) ∧
      readBack base.isSome (Utf8.bytes text) = .ok shown := by
  intro shown
  refine ⟨dump base shown, window?_eq data first size fits base,
    ⟨linesOf base shown, dump_eq base shown, ?_, ?_⟩, readBack_dump base shown⟩
  · rw [linesOf, List.length_map, List.length_zipIdx, rows_eq, List.length_map, List.length_range]
  · intro i p here
    have shows := shows_of_linesOf here
    exact ⟨fun newline => (shows.printable _ newline).ne_newline rfl, shows⟩

/-- Two lines, the second one of a single byte: a window that reaches behind the data, with letters, a zero
and bytes that are not printable, under numbers of which the second takes more than five columns. -/
theorem window?_faithful_two_lines :
    let data : List UInt8 :=
      [0xff, 0x61, 0x62, 0x63, 0x00, 0x65, 0x01, 0x20, 0x7e, 0x7f, 0x80, 0x30, 0x31, 0x32, 0x33, 0x34,
      0x35, 0x0a]
    let text := "99990:      61 62 63 00 65 01 20 7e 7f 80 30 31 32 33 34 35  abc~e? ~??012345\n" ++
      "100006:      0a                                               ?\n"
    window? data 1 100 (some 99990) = some text ∧ readBack true (Utf8.bytes text) = .ok (data.drop 1) := by
  intro data text
  have written : window? data 1 100 (some 99990) = some text := by decide +kernel
  obtain ⟨text', same, -, read⟩ :=
    window?_faithful data (show (0 : Int64) ≤ 1 by decide) (show (0 : Int64) ≤ 100 by decide)
    (by decide) (some 99990)
  obtain rfl := Option.some.inj (written.symm.trans same)
  exact ⟨written, read⟩

end HexDump

end SheetFormula
