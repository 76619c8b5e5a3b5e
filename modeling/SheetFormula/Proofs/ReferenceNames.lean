import SheetFormula.Proofs.ReferenceBounds

/-!
# Names of references

The name of a cell or a range tells which reference it stands for, although its parts are written one after
the other without anything between them. It is read from both ends: the file ends at the first closing angle
bracket, and column and row begin behind the last exclamation mark, whatever the sheet is called.

* **`unquoted?`**, **`doubled_cancel`** — a text in quotes ends at the first quote that is not doubled;
* **`span_cancel`**, **`cut_last`** — two texts that are cut at the same kind of place have equal parts;
* **`CellRef.local_injective`** — column, row and dollar signs are read off `$C5`;
* **`CellRef.qualifier_cancel`** — file and sheet are read off what stands before it;
* **`CellRef.name?_unambiguous`** — equal names come from references to the same place.
-/

namespace SheetFormula

/-! ## Quotes -/

/-- **Read a text behind its opening quote**: up to the first quote that is not doubled, with doubled quotes
undone, and what follows. The result is `none` when there is no such quote. -/
def unquoted? (q : Char) : List Char → Option (List Char × List Char)
  | [] => none
  | [c] => if c = q then some ([], []) else none
  | c :: d :: rest =>
    if c = q then
      if d = q then (unquoted? q rest).map fun r => (q :: r.1, r.2) else some ([], d :: rest)
    else (unquoted? q (d :: rest)).map fun r => (c :: r.1, r.2)

/-- A quote with none behind it closes the text. -/
theorem unquoted?_closing {q : Char} {rest : List Char} (behind : rest.head? ≠ some q) :
    unquoted? q (q :: rest) = some ([], rest) := by
  cases rest with
  | nil => simp [unquoted?]
  | cons d rest =>
      have other : d ≠ q := by simpa using behind
      simp [unquoted?, other]

/-- Two quotes stand for one. -/
theorem unquoted?_doubled_quote (q : Char) (rest : List Char) :
    unquoted? q (q :: q :: rest) = (unquoted? q rest).map fun r => (q :: r.1, r.2) := by
  simp [unquoted?]

/-- Any other character stands for itself. -/
theorem unquoted?_other {q c : Char} (other : c ≠ q) (rest : List Char) :
    unquoted? q (c :: rest) = (unquoted? q rest).map fun r => (c :: r.1, r.2) := by
  cases rest with
  | nil => simp [unquoted?, other]
  | cons d rest => simp [unquoted?, other]

/-- **A text with its quotes doubled is read back** up to its closing quote, when no further quote follows
that. -/
theorem unquoted?_doubled {q : Char} (s : List Char) {rest : List Char} (behind : rest.head? ≠ some q) :
    unquoted? q (doubled q s ++ q :: rest) = some (s, rest) := by
  induction s with
  | nil => exact unquoted?_closing behind
  | cons c s ih =>
      by_cases quote : c = q
      · subst quote
        rw [doubled_cons, if_pos rfl]
        simp only [List.cons_append, List.nil_append]
        rw [unquoted?_doubled_quote, ih, Option.map_some]
      · rw [doubled_cons, if_neg quote]
        simp only [List.cons_append, List.nil_append]
        rw [unquoted?_other quote, ih, Option.map_some]

/-- **Quoted texts end where they end**: what was quoted and what follows can be told apart. -/
theorem doubled_cancel {q : Char} {s t u v : List Char} (hu : u.head? ≠ some q) (hv : v.head? ≠ some q)
    (h : doubled q s ++ q :: u = doubled q t ++ q :: v) : s = t ∧ u = v := by
  have read := unquoted?_doubled s hu
  rw [h, unquoted?_doubled t hv] at read
  exact ⟨(Prod.mk.inj (Option.some.inj read)).1.symm, (Prod.mk.inj (Option.some.inj read)).2.symm⟩

/-- A doubled text has no characters of its own but the quote. -/
theorem mem_doubled {q c : Char} {s : List Char} (mem : c ∈ doubled q s) : c = q ∨ c ∈ s := by
  obtain ⟨d, inside, here⟩ := List.mem_flatMap.mp mem
  split at here
  · exact .inl (by simpa using here)
  · exact .inr (by simpa using (List.mem_singleton.mp here) ▸ inside)

/-! ## Cutting texts -/

section Cutting

variable {α : Type} {a a' b b' : List α}

/-- **Cut where a run of letters of one kind ends**: the parts are equal when the wholes are. -/
theorem span_cancel (p : α → Bool) (ha : ∀ c ∈ a, p c = true) (ha' : ∀ c ∈ a', p c = true)
    (hb : ∀ c, b.head? = some c → p c = false) (hb' : ∀ c, b'.head? = some c → p c = false)
    (h : a ++ b = a' ++ b') : a = a' ∧ b = b' := by
  have stops : ∀ {l : List α}, (∀ c, l.head? = some c → p c = false) → l.takeWhile p = [] := by
    intro l hl
    cases l with
    | nil => rfl
    | cons c l => simp [hl c rfl]
  have runs := congrArg (List.takeWhile p) h
  rw [List.takeWhile_append_of_pos ha, List.takeWhile_append_of_pos ha', stops hb, stops hb', List.append_nil,
    List.append_nil] at runs
  subst runs
  exact ⟨rfl, List.append_cancel_left h⟩

/-- **Cut at the first** occurrence of a letter. -/
theorem cut_first [DecidableEq α] {c : α} (ha : c ∉ a) (ha' : c ∉ a') (h : a ++ c :: b = a' ++ c :: b') :
    a = a' ∧ b = b' := by
  have other : ∀ {l : List α}, c ∉ l → ∀ d ∈ l, decide (d ≠ c) = true := by
    intro l free d mem
    exact decide_eq_true fun same => free (same ▸ mem)
  have stop : ∀ {l : List α}, ∀ d, (c :: l).head? = some d → decide (d ≠ c) = false := by
    intro l d head
    obtain rfl : c = d := by simpa using head
    simp
  obtain ⟨first, rest⟩ := span_cancel (fun d => decide (d ≠ c)) (other ha) (other ha') stop stop h
  exact ⟨first, List.tail_eq_of_cons_eq rest⟩

/-- **Cut at the last** occurrence of a letter. -/
theorem cut_last [DecidableEq α] {c : α} (hb : c ∉ b) (hb' : c ∉ b') (h : a ++ c :: b = a' ++ c :: b') :
    a = a' ∧ b = b' := by
  have backwards : b.reverse ++ c :: a.reverse = b'.reverse ++ c :: a'.reverse := by
    simpa using congrArg List.reverse h
  obtain ⟨behind, before⟩ := cut_first (by simpa using hb) (by simpa using hb') backwards
  exact ⟨List.reverse_inj.mp before, List.reverse_inj.mp behind⟩

end Cutting

/-! ## Columns and rows -/

namespace Digits

/-- The digits of a number in base ten are digits. -/
theorem not_mem_toDigits {c : Char} (h : c.isDigit = false) (n : Nat) : c ∉ Nat.toDigits 10 n := by
  intro mem
  rw [Nat.isDigit_of_mem_toDigits (by decide) (by decide) mem] at h
  cases h

/-- Numbers with the same digits are equal. -/
theorem toDigits_injective {m n : Nat} (h : Nat.toDigits 10 m = Nat.toDigits 10 n) : m = n := by
  rw [← Nat.ofDigitChars_toDigits (b := 10) (n := m) (by decide) (by decide), h,
    Nat.ofDigitChars_toDigits (by decide) (by decide)]

/-- A number that is not negative is written by its digits. -/
theorem toList_decimal_of_nonneg {n : Int} (h : 0 ≤ n) : (decimal n).toList = Nat.toDigits 10 n.toNat := by
  rw [decimal, if_neg (Int.not_lt.mpr h), natural, String.toList_ofList]
  congr 1
  omega

end Digits

namespace CellRef

/-- The mark of an absolute coordinate. -/
def dollar (relative : Bool) : List Char := if relative then [] else ['$']

/-- **Characters of column and row**, for a reference on the sheet. -/
def localChars (r : CellRef) : List Char :=
  dollar r.column.relative ++ (ColumnName.letters r.column.value.toInt.toNat ++
    (dollar r.row.relative ++ Nat.toDigits 10 (r.row.value.toInt.toNat + 1)))

/-- **A reference on the sheet** has a name for its column and row. -/
theorem localName?_eq {r : CellRef} (column : r.column.OnSheet) (row : r.row.OnSheet) :
    r.localName? = some (String.ofList r.localChars) := by
  obtain ⟨name, named⟩ := column.exists_name
  have letters := ColumnName.toList_of_name? column.1 named
  have zero : (0 : Int64).toInt = 0 := rfl
  have last : (8191 : Int64).toInt = 8191 := rfl
  have rowStart : 0 ≤ r.row.value.toInt := Int64.le_iff_toInt_le.mp row.1
  have rowLast : r.row.value.toInt ≤ 8191 := Int64.le_iff_toInt_le.mp row.2
  -- The row counted from one is still a small word.
  have counted : (r.row.value + 1).toInt = r.row.value.toInt + 1 := by
    rw [Int64.toInt_add]
    exact Int.bmod_eq_of_le_mul_two (by simp; omega) (by simp; omega)
  have digits : (r.row.value.toInt + 1).toNat = r.row.value.toInt.toNat + 1 := by omega
  have mark : ∀ relative : Bool, (if relative then "" else "$").toList = dollar relative := by decide
  rw [localName?, named, Option.map_some, Option.some.injEq, ← String.toList_inj, counted]
  simp only [String.toList_append, String.toList_ofList, letters, mark, localChars, List.append_assoc]
  rw [Digits.toList_decimal_of_nonneg (by omega), digits]

/-- A dollar sign is there or not; what follows it does not start with one. -/
theorem dollar_cancel {relative relative' : Bool} {x y : List Char} (hx : x.head? ≠ some '$')
    (hy : y.head? ≠ some '$') (h : dollar relative ++ x = dollar relative' ++ y) :
    relative = relative' ∧ x = y := by
  cases relative <;> cases relative'
  · exact ⟨rfl, List.tail_eq_of_cons_eq h⟩
  · exact absurd (congrArg List.head? h).symm hy
  · exact absurd (congrArg List.head? h) hx
  · exact ⟨rfl, h⟩

/-- **Characters that columns and rows are written with.** -/
def IsLocal (c : Char) : Prop := c = '$' ∨ ColumnName.Capital c ∨ c.isDigit = true

/-- Whether a character may stand in the name of a cell can be decided. -/
instance : DecidablePred IsLocal := fun c =>
  inferInstanceAs (Decidable (c = '$' ∨ ColumnName.Capital c ∨ c.isDigit = true))

/-- A row is written with digits and a dollar. -/
theorem mem_rowChars {relative : Bool} {n : Nat} {c : Char} (mem : c ∈ dollar relative ++ Nat.toDigits 10 n) :
    c = '$' ∨ c.isDigit = true := by
  rcases List.mem_append.mp mem with mark | digit
  · cases relative with
    | false => exact .inl (List.mem_singleton.mp mark)
    | true => cases mark
  · exact .inr (Nat.isDigit_of_mem_toDigits (by decide) (by decide) digit)

/-- The name of a cell has only characters that may stand in it. -/
theorem mem_localChars {r : CellRef} {c : Char} (mem : c ∈ r.localChars) : IsLocal c := by
  rcases List.mem_append.mp mem with mark | mem
  · rcases mem_rowChars (n := 0) (List.mem_append_left _ mark) with mark | digit
    · exact .inl mark
    · exact .inr (.inr digit)
  · rcases List.mem_append.mp mem with letter | row
    · exact .inr (.inl (ColumnName.capital_of_mem_letters _ c letter))
    · rcases mem_rowChars row with mark | digit
      · exact .inl mark
      · exact .inr (.inr digit)

/-- The name of a cell is not empty. -/
theorem localChars_ne_nil (r : CellRef) : r.localChars ≠ [] := by
  simp [localChars, ColumnName.letters_ne_nil]

/-- No row starts with a capital letter, so the letters of the column end there. -/
theorem head_rowChars {relative : Bool} {n : Nat} :
    ∀ c, (dollar relative ++ Nat.toDigits 10 n).head? = some c → decide (ColumnName.Capital c) = false := by
  intro c head
  refine decide_eq_false fun capital => ?_
  have low : 'A'.toNat ≤ c.toNat := capital.1
  rcases mem_rowChars (List.mem_of_head? head) with rfl | digit
  · exact absurd low (by decide)
  · have high : c.toNat ≤ '9'.toNat := by
      simp only [Char.isDigit, Bool.and_eq_true, decide_eq_true_eq] at digit
      exact digit.2
    exact absurd (Nat.le_trans low high) (by decide)

/-- A coordinate on the sheet is known by its number and its mark. -/
theorem coordinate_eq {c c' : Coordinate} (h : c.OnSheet) (h' : c'.OnSheet)
    (value : c.value.toInt.toNat = c'.value.toInt.toNat) (relative : c.relative = c'.relative) : c = c' := by
  have number := ColumnName.toInt_of_nonneg h.1
  have number' := ColumnName.toInt_of_nonneg h'.1
  have same : c.value = c'.value := Int64.toInt_inj.mp (by omega)
  cases c
  cases c'
  exact congrArg₂ Coordinate.mk same relative

/-- **Column and row are read off their name**: the letters end where no capital letter follows. -/
theorem local_injective {a b : CellRef} (ha : a.column.OnSheet ∧ a.row.OnSheet)
    (hb : b.column.OnSheet ∧ b.row.OnSheet) (h : a.localChars = b.localChars) :
    a.column = b.column ∧ a.row = b.row := by
  have plain : ∀ (n : Nat) (rest : List Char), (ColumnName.letters n ++ rest).head? ≠ some '$' := by
    intro n rest
    obtain ⟨c, word, letters⟩ := List.exists_cons_of_ne_nil (ColumnName.letters_ne_nil n)
    have capital := ColumnName.capital_of_mem_letters n c (by simp [letters])
    rw [letters]
    rintro ⟨⟩
    exact absurd capital (by decide)
  have digits : ∀ n : Nat, (Nat.toDigits 10 n).head? ≠ some '$' := by
    intro n head
    exact Digits.not_mem_toDigits (by decide) n (List.mem_of_head? head)
  have capital : ∀ n, ∀ c ∈ ColumnName.letters n, decide (ColumnName.Capital c) = true := by
    intro n c mem
    exact decide_eq_true (ColumnName.capital_of_mem_letters n c mem)
  -- From the left to the right: a dollar, letters, a dollar, digits. Each part ends where the next begins.
  obtain ⟨columnMark, h⟩ := dollar_cancel (plain _ _) (plain _ _) h
  obtain ⟨letters, h⟩ := span_cancel _ (capital _) (capital _) head_rowChars head_rowChars h
  obtain ⟨rowMark, h⟩ := dollar_cancel (digits _) (digits _) h
  have column := congrArg ColumnName.number letters
  rw [ColumnName.number_letters, ColumnName.number_letters] at column
  have row := Digits.toDigits_injective h
  exact ⟨coordinate_eq ha.1 hb.1 (Nat.succ.inj column) columnMark,
    coordinate_eq ha.2 hb.2 (Nat.succ.inj row) rowMark⟩

end CellRef

/-! ## Sheets and files -/

/-- **A sheet name and its quotes** tell the name: it stands in quotes when it has a quote, so a name that is
written without quotes starts with none. -/
theorem quotedSheetName_injective {name name' : String} (h : quotedSheetName name = quotedSheetName name') :
    name = name' := by
  have bare : ∀ {s : String}, (s.toList.contains '\'' || s.toList.contains ' ') = false →
      s.toList.head? ≠ some '\'' := by
    intro s free head
    have mem := List.mem_of_head? head
    simp_all
  have opened : ∀ s : String, (enclosed '\'' s).toList.head? = some '\'' := by
    intro s
    simp [enclosed]
  unfold quotedSheetName at h
  -- Both are quoted, or neither is: a name that is not quoted has no apostrophe.
  split at h <;> split at h
  · have chars := congrArg String.toList h
    simp only [enclosed, String.toList_ofList, List.cons_append, List.cons.injEq, true_and] at chars
    exact String.toList_inj.mp (doubled_cancel (by simp) (by simp) chars).1
  · next free =>
    exact absurd (h ▸ opened name) (bare (Bool.eq_false_iff.mpr free))
  · next free _ =>
    exact absurd (h ▸ opened name') (bare (Bool.eq_false_iff.mpr free))
  · exact h

/-- **Sheets or files of one name**: both are given or neither is, and given ones have the same name. -/
structure NamedId.Agree (n n' : NamedId) : Prop where
  /-- Both are given or neither. -/
  given : n.given = n'.given
  /-- The name of a given one. -/
  name : n.given = true → n.name = n'.name

namespace CellRef

/-- **A reference with a name of its own**: it is not gone, column and row stand on the sheet, a sheet has a
name that does not start with an opening angle bracket, and a file has one without a closing one. -/
structure Nameable (r : CellRef) : Prop where
  /-- It is not gone. -/
  there : r.unresolved = false
  /-- The column stands on the sheet. -/
  column : r.column.OnSheet
  /-- So does the row. -/
  row : r.row.OnSheet
  /-- The name of the sheet. -/
  sheetName : r.sheet.given = true → r.sheet.name ≠ "" ∧ r.sheet.name.toList.head? ≠ some '<'
  /-- The name of the file. -/
  fileName : r.file.given = true → r.file.name ≠ "" ∧ '>' ∉ r.file.name.toList

/-- **References to the same place**: same column and row, with the same marks, and the same sheet and
file. -/
structure Agree (a b : CellRef) : Prop where
  /-- Column, with its mark. -/
  column : a.column = b.column
  /-- Row, with its mark. -/
  row : a.row = b.row
  /-- Sheet. -/
  sheet : a.sheet.Agree b.sheet
  /-- File. -/
  file : a.file.Agree b.file

/-- The characters of the file, in double angle brackets. -/
def fileChars (r : CellRef) : List Char :=
  if r.file.given then '<' :: '<' :: (r.file.name.toList ++ ['>', '>']) else []

/-- The characters of the sheet, before an exclamation mark. -/
def sheetChars (r : CellRef) : List Char :=
  if r.sheet.given then (quotedSheetName r.sheet.name).toList ++ ['!'] else []

variable {a b : CellRef} {x y : List Char}

/-- Before a name stand its file and its sheet. -/
theorem Nameable.qualifier_eq (h : a.Nameable) : a.qualifier.toList = a.fileChars ++ a.sheetChars := by
  have sheet : a.sheet.given = true → shownName "sheet" a.sheet = a.sheet.name := fun given =>
    if_neg (h.sheetName given).1
  have file : a.file.given = true → shownName "file" a.file = a.file.name := fun given =>
    if_neg (h.fileName given).1
  have brackets : "<<".toList = ['<', '<'] ∧ ">>".toList = ['>', '>'] ∧ "!".toList = ['!'] := by decide
  obtain ⟨opening, closing, mark⟩ := brackets
  -- Names that are given are shown as they are.
  rw [qualifier, String.toList_append, fileChars, sheetChars]
  congr 1
  · split
    · next given => simp [file given, opening, closing]
    · rfl
  · split
    · next given => simp [sheet given, mark]
    · rfl

/-- **The file is read off**: it ends at the first closing bracket, and without one no opening bracket comes
first. -/
theorem file_cancel (ha : a.Nameable) (hb : b.Nameable) (hx : x.head? ≠ some '<') (hy : y.head? ≠ some '<')
    (h : a.fileChars ++ x = b.fileChars ++ y) :
    a.file.Agree b.file ∧ x = y := by
  unfold fileChars at h
  cases given : a.file.given <;> cases given' : b.file.given <;> simp only [given, given'] at h
  · exact ⟨⟨given.trans given'.symm, by simp [given]⟩, h⟩
  · exact absurd (congrArg List.head? h) hx
  · exact absurd (congrArg List.head? h).symm hy
  · have names : a.file.name.toList ++ '>' :: '>' :: x = b.file.name.toList ++ '>' :: '>' :: y := by
      simpa using h
    obtain ⟨name, behind⟩ := cut_first (ha.fileName given).2 (hb.fileName given').2 names
    exact ⟨⟨given.trans given'.symm, fun _ => String.toList_inj.mp name⟩, List.tail_eq_of_cons_eq behind⟩

/-- **The sheet is read off**: it ends at the last exclamation mark, since column and row have none. -/
theorem sheet_cancel (hx : '!' ∉ x) (hy : '!' ∉ y) (h : a.sheetChars ++ x = b.sheetChars ++ y) :
    a.sheet.Agree b.sheet ∧ x = y := by
  unfold sheetChars at h
  cases given : a.sheet.given <;> cases given' : b.sheet.given <;> simp only [given, given'] at h
  · exact ⟨⟨given.trans given'.symm, by simp [given]⟩, h⟩
  · have marked : '!' ∈ x := (show x = _ from h) ▸ by simp
    exact absurd marked hx
  · have marked : '!' ∈ y := (show _ = y from h) ▸ by simp
    exact absurd marked hy
  · have names : (quotedSheetName a.sheet.name).toList ++ '!' :: x =
        (quotedSheetName b.sheet.name).toList ++ '!' :: y := by
      simpa using h
    obtain ⟨quoted, behind⟩ := cut_last hx hy names
    exact ⟨⟨given.trans given'.symm, fun _ => quotedSheetName_injective (String.toList_inj.mp quoted)⟩,
      behind⟩

/-- **No sheet starts like a file.** -/
theorem head_sheetChars (ha : a.Nameable) (hx : x.head? ≠ some '<') :
    (a.sheetChars ++ x).head? ≠ some '<' := by
  unfold sheetChars
  split
  · next given =>
    obtain ⟨nonempty, first⟩ := ha.sheetName given
    unfold quotedSheetName
    split
    · simp [enclosed]
    · cases chars : a.sheet.name.toList with
      | nil => exact absurd (String.toList_eq_nil_iff.mp chars) nonempty
      | cons c rest => simpa [chars] using first
  · exact hx

/-- **File and sheet are read off** what stands before column and row. -/
theorem qualifier_cancel (ha : a.Nameable) (hb : b.Nameable) (hx : x.head? ≠ some '<' ∧ '!' ∉ x)
    (hy : y.head? ≠ some '<' ∧ '!' ∉ y) (h : a.qualifier.toList ++ x = b.qualifier.toList ++ y) :
    a.file.Agree b.file ∧ a.sheet.Agree b.sheet ∧ x = y := by
  rw [ha.qualifier_eq, hb.qualifier_eq, List.append_assoc, List.append_assoc] at h
  obtain ⟨file, h⟩ := file_cancel ha hb (head_sheetChars ha hx.1) (head_sheetChars hb hy.1) h
  obtain ⟨sheet, h⟩ := sheet_cancel hx.2 hy.2 h
  exact ⟨file, sheet, h⟩

/-! ## Names -/

/-- Column and row start with neither bracket and have neither mark. -/
theorem localChars_plain (r : CellRef) :
    (∀ rest, (r.localChars ++ rest).head? ≠ some '<') ∧ '!' ∉ r.localChars ∧ ':' ∉ r.localChars := by
  have absent : ∀ {c : Char}, ¬ IsLocal c → c ∉ r.localChars := fun other mem => other (mem_localChars mem)
  refine ⟨?_, absent (by decide), absent (by decide)⟩
  intro rest head
  obtain ⟨c, chars, cons⟩ := List.exists_cons_of_ne_nil r.localChars_ne_nil
  have same : c = '<' := by simpa [cons] using head
  exact absent (show ¬ IsLocal '<' by decide) (by simp [cons, same])

/-- A name is made of the qualifier and the name on the sheet. -/
theorem Nameable.name?_eq (h : a.Nameable) :
    a.name? = some (a.qualifier ++ String.ofList a.localChars) := by
  rw [name?, if_neg (by simp [h.there]), localName?_eq h.column h.row, Option.map_some]

/-- The name of a range has the qualifier of its first corner and both names on the sheet. -/
theorem Nameable.rangeName?_eq (h : a.Nameable) (h' : b.Nameable) :
    a.rangeName? b =
      some (a.qualifier ++ String.ofList a.localChars ++ ":" ++ String.ofList b.localChars) := by
  rw [rangeName?, if_neg (by simp [h.there, h'.there]), localName?_eq h.column h.row,
    localName?_eq h'.column h'.row]

/-- **Names are unambiguous.** Two references that are not gone, with columns and rows from 0 to 8191, sheet
names that do not start with an opening angle bracket and file names without a closing one, have the same name
only when they have the same column, row and dollar signs and the same sheet and file, whatever other
characters the names hold. So it is for ranges, corner by corner, when both corners of each are on one sheet
of one file. -/
theorem name?_unambiguous :
    (∀ a b : CellRef, a.Nameable → b.Nameable → a.name? = b.name? → a.Agree b) ∧
      ∀ a a' b b' : CellRef, a.Nameable → a'.Nameable → b.Nameable → b'.Nameable →
        a'.sheet = a.sheet → a'.file = a.file → b'.sheet = b.sheet → b'.file = b.file →
        a.rangeName? a' = b.rangeName? b' → a.Agree b ∧ a'.Agree b' := by
  refine ⟨?_, ?_⟩
  · intro a b ha hb h
    rw [ha.name?_eq, hb.name?_eq, Option.some.injEq, ← String.toList_inj] at h
    simp only [String.toList_append, String.toList_ofList] at h
    have plain : ∀ r : CellRef, r.localChars.head? ≠ some '<' ∧ '!' ∉ r.localChars := fun r =>
      ⟨by simpa using r.localChars_plain.1 [], r.localChars_plain.2.1⟩
    obtain ⟨file, sheet, h⟩ := qualifier_cancel ha hb (plain a) (plain b) h
    obtain ⟨column, row⟩ := local_injective ⟨ha.column, ha.row⟩ ⟨hb.column, hb.row⟩ h
    exact ⟨column, row, sheet, file⟩
  · intro a a' b b' ha ha' hb hb' sheet file sheet' file' h
    rw [ha.rangeName?_eq ha', hb.rangeName?_eq hb', Option.some.injEq, ← String.toList_inj] at h
    have colon : ":".toList = [':'] := by decide
    simp only [String.toList_append, String.toList_ofList, colon, List.append_assoc,
      List.singleton_append] at h
    -- Both corners together are what stands behind the qualifier.
    have plain : ∀ r r' : CellRef, (r.localChars ++ ':' :: r'.localChars).head? ≠ some '<' ∧
        '!' ∉ r.localChars ++ ':' :: r'.localChars := by
      intro r r'
      refine ⟨r.localChars_plain.1 _, ?_⟩
      simp [r.localChars_plain.2.1, r'.localChars_plain.2.1]
    obtain ⟨sameFile, sameSheet, h⟩ := qualifier_cancel ha hb (plain a a') (plain b b') h
    obtain ⟨first, last⟩ := cut_first a.localChars_plain.2.2 b.localChars_plain.2.2 h
    obtain ⟨column, row⟩ := local_injective ⟨ha.column, ha.row⟩ ⟨hb.column, hb.row⟩ first
    obtain ⟨column', row'⟩ := local_injective ⟨ha'.column, ha'.row⟩ ⟨hb'.column, hb'.row⟩ last
    refine ⟨⟨column, row, sameSheet, sameFile⟩, column', row', ?_, ?_⟩
    · rw [sheet, sheet']
      exact sameSheet
    · rw [file, file']
      exact sameFile

/-- A cell of another sheet of another file, and a range of two such cells. The name of the sheet has a quote,
a space, an exclamation mark and the name of a cell, and that of the file an opening bracket. -/
theorem name?_unambiguous_quoted :
    let sheet : NamedId := ⟨true, 7, "O'Brien! $A$1"⟩
    let file : NamedId := ⟨true, 1, "<a"⟩
    let first : CellRef := { column := ⟨27, false⟩, row := ⟨8191, true⟩, sheet, file }
    let last : CellRef := { column := ⟨0, true⟩, row := ⟨0, false⟩, sheet, file }
    first.name? = some "<<<a>>'O''Brien! $A$1'!$AB8192" ∧
      first.rangeName? last = some "<<<a>>'O''Brien! $A$1'!$AB8192:A$1" ∧
      (∀ b : CellRef, b.Nameable → b.name? = some "<<<a>>'O''Brien! $A$1'!$AB8192" → first.Agree b) ∧
      ∀ b b' : CellRef, b.Nameable → b'.Nameable → b'.sheet = b.sheet → b'.file = b.file →
        b.rangeName? b' = some "<<<a>>'O''Brien! $A$1'!$AB8192:A$1" → first.Agree b ∧ last.Agree b' := by
  intro sheet file first last
  have named : first.name? = some "<<<a>>'O''Brien! $A$1'!$AB8192" := by decide +kernel
  have ranged : first.rangeName? last = some "<<<a>>'O''Brien! $A$1'!$AB8192:A$1" := by decide +kernel
  have nameable : first.Nameable := by
    refine ⟨rfl, ?_, ?_, ?_, ?_⟩ <;> decide +kernel
  have nameable' : last.Nameable := by
    refine ⟨rfl, ?_, ?_, ?_, ?_⟩ <;> decide +kernel
  refine ⟨named, ranged, ?_, ?_⟩
  · intro b hb same
    exact name?_unambiguous.1 first b nameable hb (named.trans same.symm)
  · intro b b' hb hb' sheets files same
    exact name?_unambiguous.2 first last b b' nameable nameable' hb hb' rfl rfl sheets files
      (ranged.trans same.symm)

end CellRef

end SheetFormula
