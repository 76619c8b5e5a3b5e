import SheetFormula.Proofs.CarriedLexemes
import SheetFormula.Proofs.ReferenceNames
import SheetFormula.Proofs.StackShape

/-!
# Texts in a formula

The text literals of a formula can be read back from what is written, without reading anything else of it:

* **`segments?`** — the quoted segments of a text, from left to right;
* **`Unquoted`** — a text without quotes: numbers, operators and function names are (`Double.unquoted_text`,
  `Opcode.name_clean`), and names of references when their sheets and files are (`CellRef.unquoted_name`);
* **`segments?_of_texts`** — what is found in the text of a list is what its text literals say, since no text
  stands right behind another one;
* **`render?_read_back`** — so it is for one literal with anything behind it, and for every decoded formula.
-/

namespace SheetFormula

/-! ## Quoted segments -/

/-- What stands behind a quoted text is shorter. -/
theorem length_of_unquoted? {q : Char} {text content rest : List Char}
    (h : unquoted? q text = some (content, rest)) :
    rest.length < text.length := by
  fun_induction unquoted? q text generalizing content with
  | case1 => cases h
  | case2 =>
      cases h
      exact Nat.one_pos
  | case3 => cases h
  | case4 text ih =>
      obtain ⟨r, found, same⟩ := Option.map_eq_some_iff.mp h
      obtain ⟨-, rfl⟩ := Prod.mk.inj same
      exact Nat.lt_succ_of_lt (Nat.lt_succ_of_lt (ih found))
  | case5 =>
      cases h
      exact Nat.lt_succ_self _
  | case6 c d text other ih =>
      obtain ⟨r, found, same⟩ := Option.map_eq_some_iff.mp h
      obtain ⟨-, rfl⟩ := Prod.mk.inj same
      exact Nat.lt_succ_of_lt (ih found)

/-- **Quoted segments** of a text, from left to right. A segment starts at a quote that belongs to none before
it, and ends at the first quote that is not doubled; doubled ones inside stand for one. The result is `none`
when a segment does not end. -/
def segments? : List Char → Option (List String)
  | [] => some []
  | c :: rest =>
    if c = '"' then
      match found : unquoted? '"' rest with
      | none => none
      | some (content, behind) =>
        have := length_of_unquoted? found
        (segments? behind).map (String.ofList content :: ·)
    else segments? rest
  termination_by text => text.length

/-- An empty text has no segments. -/
@[simp] theorem segments?_nil : segments? [] = some [] := by rw [segments?]

/-- A character outside of quotes is passed over. -/
theorem segments?_other {c : Char} (other : c ≠ '"') (rest : List Char) :
    segments? (c :: rest) = segments? rest := by
  rw [segments?, if_neg other]

/-- A quote opens a segment. -/
theorem segments?_quote {rest content behind : List Char}
    (found : unquoted? '"' rest = some (content, behind)) :
    segments? ('"' :: rest) = (segments? behind).map (String.ofList content :: ·) := by
  rw [segments?, if_pos rfl]
  split
  · next none => cases none.symm.trans found
  · next same =>
    cases same.symm.trans found
    rfl

/-- What has no quote is passed over. -/
theorem segments?_append {text : List Char} (free : '"' ∉ text) (rest : List Char) :
    segments? (text ++ rest) = segments? rest := by
  induction text with
  | nil => rfl
  | cons c text ih =>
      have other : c ≠ '"' := fun same => free (by simp [same])
      rw [List.cons_append, segments?_other other]
      exact ih fun mem => free (List.mem_cons_of_mem _ mem)

/-- **A text literal is read back**, when no quote follows it. -/
theorem segments?_enclosed (s : String) {rest : List Char} (behind : rest.head? ≠ some '"') :
    segments? ((enclosed '"' s).toList ++ rest) = (segments? rest).map (s :: ·) := by
  have read := segments?_quote (unquoted?_doubled s.toList behind)
  rw [String.ofList_toList] at read
  rw [← read, enclosed, String.toList_ofList]
  simp

/-! ## Texts without quotes -/

/-- **A text without quotes.** -/
def Unquoted (s : String) : Prop := '"' ∉ s.toList

/-- Whether a text is free of quotes can be decided. -/
instance : DecidablePred Unquoted := fun s => inferInstanceAs (Decidable ('"' ∉ s.toList))

/-- A text in two parts is free of quotes when both of them are. -/
@[simp] theorem unquoted_append {s t : String} : Unquoted (s ++ t) ↔ Unquoted s ∧ Unquoted t := by
  simp [Unquoted]

/-- A text is free of quotes when no character is one. -/
@[simp] theorem unquoted_ofList {chars : List Char} : Unquoted (String.ofList chars) ↔ '"' ∉ chars := by
  simp [Unquoted]

namespace Digits

/-- Digits are free of quotes. -/
theorem unquoted_natural (n : Nat) : Unquoted (natural 10 n) := by
  rw [natural, unquoted_ofList]
  exact not_mem_toDigits (by decide) n

/-- So are digits with a sign. -/
theorem unquoted_decimal (n : Int) : Unquoted (decimal n) := by
  unfold decimal
  split
  · exact unquoted_append.mpr ⟨by decide, unquoted_natural _⟩
  · exact unquoted_natural _

end Digits

/-- **Decimals are written without quotes**: with digits, a point, signs and the letter of an exponent. -/
theorem Decimal.unquoted_write (f : Notation) (d : Decimal) : Unquoted (d.write f) := by
  have digits := Digits.not_mem_toDigits (c := '"') (by decide) d.coefficient
  have zeros : ∀ n, '"' ∉ List.replicate n '0' := by
    intro n mem
    exact absurd (List.mem_replicate.mp mem).2 (by decide)
  unfold write
  generalize Nat.toDigits 10 d.coefficient = chars at digits
  dsimp only
  split
  · -- With an exponent, which is filled up with zeros.
    have pointed : Unquoted (pointed chars) := by
      unfold pointed
      split
      · decide
      · exact unquoted_ofList.mpr digits
      · exact unquoted_ofList.mpr (by simpa using digits)
    have exponent : ∀ n width, Unquoted (Digits.padLeft '0' width (Digits.natural 10 n)) := by
      intro n width
      exact unquoted_append.mpr ⟨unquoted_ofList.mpr (zeros _), Digits.unquoted_natural n⟩
    have sign : ∀ place : Int, Unquoted (if place < 0 then "-" else "+") := by
      intro place
      split <;> decide
    have letter : Unquoted "e" := by decide
    simp only [scientific, unquoted_append]
    exact ⟨⟨⟨pointed, letter⟩, sign _⟩, exponent _ _⟩
  · unfold positional
    split
    · refine unquoted_append.mpr ⟨by decide, unquoted_ofList.mpr ?_⟩
      simp [zeros, digits]
    · -- Digits and zeros, cut at the point.
      have padded : ∀ n, '"' ∉ chars ++ List.replicate n '0' := by
        intro n
        simp [zeros, digits]
      refine unquoted_append.mpr ⟨unquoted_ofList.mpr fun mem => padded _ (List.mem_of_mem_take mem), ?_⟩
      split
      · decide
      · refine unquoted_append.mpr ⟨by decide,
          unquoted_ofList.mpr fun mem => padded _ (List.mem_of_mem_drop mem)⟩

/-- **Numbers are written without quotes.** -/
theorem Double.unquoted_text (bits : UInt64) : Unquoted (Double.text bits) := by
  unfold text
  split
  · decide
  · split <;> decide
  · split <;> decide
  · refine unquoted_append.mpr ⟨?_, Decimal.unquoted_write _ _⟩
    split <;> decide

namespace CellRef

/-- So is the name of a cell on its sheet. -/
theorem unquoted_localName {r : CellRef} {s : String} (h : r.localName? = some s) : Unquoted s := by
  obtain ⟨column, named, rfl⟩ := Option.map_eq_some_iff.mp h
  have letters : Unquoted column := by
    by_cases negative : r.column.value < 0
    · rw [ColumnName.name?, if_pos negative] at named
      cases named
      decide
    · intro mem
      rw [ColumnName.toList_of_name? (Int64.not_lt.mp negative) named] at mem
      exact absurd (ColumnName.capital_of_mem_letters _ _ mem) (by decide)
  have mark : ∀ relative : Bool, Unquoted (if relative then "" else "$") := by decide
  simp only [unquoted_append]
  exact ⟨⟨⟨mark _, letters⟩, mark _⟩, Digits.unquoted_decimal _⟩

/-- So is a shown name, when it is itself. -/
theorem unquoted_shownName {kind : String} (free : Unquoted kind) {n : NamedId} (name : Unquoted n.name) :
    Unquoted (shownName kind n) := by
  unfold shownName
  split
  · simp only [unquoted_append]
    exact ⟨⟨⟨⟨by decide, free⟩, by decide⟩, Digits.unquoted_decimal _⟩, by decide⟩
  · exact name

/-- **A reference without quotes**: the names of its sheet and its file have none. -/
def NamesUnquoted (r : CellRef) : Prop := Unquoted r.sheet.name ∧ Unquoted r.file.name

/-- Sheet and file are written without double quotes; single ones may be added. -/
theorem unquoted_qualifier {r : CellRef} (h : r.NamesUnquoted) : Unquoted r.qualifier := by
  -- Sheets are quoted with apostrophes, which are not the quotes of texts.
  have quoted : ∀ name : String, Unquoted name → Unquoted (quotedSheetName name) := by
    intro name free
    unfold quotedSheetName
    split
    · rw [enclosed, unquoted_ofList]
      simp only [List.cons_append, List.mem_cons, List.mem_append, List.not_mem_nil, or_false, not_or]
      refine ⟨by decide, fun mem => ?_, by decide⟩
      rcases mem_doubled mem with quote | inside
      · exact absurd quote (by decide)
      · exact free inside
    · exact free
  have file := unquoted_shownName (show Unquoted "file" by decide) h.2
  have sheet := quoted _ (unquoted_shownName (show Unquoted "sheet" by decide) h.1)
  refine unquoted_append.mpr ⟨?_, ?_⟩
  · split
    · exact unquoted_append.mpr ⟨unquoted_append.mpr ⟨by decide, file⟩, by decide⟩
    · decide
  · split
    · exact unquoted_append.mpr ⟨sheet, by decide⟩
    · decide

/-- The name of a cell is free of quotes when those of its file and sheet are. -/
theorem unquoted_name {r : CellRef} (h : r.NamesUnquoted) {s : String} (named : r.name? = some s) :
    Unquoted s := by
  unfold name? at named
  split at named
  · cases named
    decide
  · obtain ⟨place, found, rfl⟩ := Option.map_eq_some_iff.mp named
    exact unquoted_append.mpr ⟨unquoted_qualifier h, unquoted_localName found⟩

/-- So is the name of a range. -/
theorem unquoted_rangeName {first last : CellRef} (h : first.NamesUnquoted) {s : String}
    (named : first.rangeName? last = some s) : Unquoted s := by
  unfold rangeName? at named
  split at named
  · cases named
    decide
  · split at named
    · next place place' found found' =>
      cases named
      simp only [unquoted_append]
      exact ⟨⟨⟨unquoted_qualifier h, unquoted_localName found⟩, by decide⟩, unquoted_localName found'⟩
    · cases named

end CellRef

/-! ## Texts of instructions -/

namespace Instruction

/-- **Content of a text literal.** -/
def content? : Instruction → Option String
  | .text content => some content
  | _ => none

/-- Only a text has a content. -/
theorem eq_text_of_content? {i : Instruction} {content : String} (h : i.content? = some content) :
    i = .text content := by
  cases i with
  | text s =>
      cases h
      rfl
  | operator _ | function _ | cell _ | range _ _ | number _ | integer _ | unlisted _ => cases h

/-- **Clean marks**: an operator or the name of a function has a character, and no quote. -/
def Clean : Instruction → Prop
  | .operator s | .function s => s ≠ "" ∧ Unquoted s
  | _ => True

/-- **Only text literals are written with quotes**, when names have none. -/
theorem unquoted_text {i : Instruction} (clean : i.Clean) (names : ∀ ref ∈ i.refs, ref.NamesUnquoted)
    (other : i.content? = none) {s : String} (written : i.text? = some s) : Unquoted s := by
  -- Only a text literal brings in quotes, and it is none.
  cases i with
  | operator symbol | function symbol =>
      cases written
      exact clean.2
  | cell ref => exact CellRef.unquoted_name (names ref (by simp [refs])) written
  | range first last => exact CellRef.unquoted_rangeName (names first (by simp [refs])) written
  | number bits =>
      cases written
      exact Double.unquoted_text bits
  | integer value =>
      cases written
      exact Digits.unquoted_decimal _
  | text content => cases other
  | unlisted kind =>
      cases written
      decide

/-- **Behind an operand no quote follows**: what may stand there is an operator, which has a character. -/
theorem head_text {i : Instruction} (clean : i.Clean) (listed : ∀ kind, i ≠ .unlisted kind)
    (behind : i.starts = false) {s : String} (written : i.text? = some s) (rest : List Char) :
    (s.toList ++ rest).head? ≠ some '"' := by
  cases i with
  | operator symbol =>
      cases written
      obtain ⟨nonempty, free⟩ := clean
      cases chars : s.toList with
      | nil => exact absurd (String.toList_eq_nil_iff.mp chars) nonempty
      | cons c tail =>
          rintro ⟨⟩
          exact free (by simp [chars])
  | unlisted kind => exact absurd rfl (listed kind)
  | function _ | cell _ | range _ _ | number _ | integer _ | text _ => cases behind

end Instruction

/-- **Names of opcodes are clean.** -/
theorem Opcode.name_clean : ∀ o ∈ Opcode.table, o.name ≠ "" ∧ Unquoted o.name := by
  decide +kernel

/-- **The marks of a reduction are clean.** -/
theorem Reduction.clean_of_mem_marks (r : Reduction) : ∀ i ∈ r.marks, i.Clean := by
  have name := Opcode.name_clean _ r.takes.1
  have fixed : ∀ s ∈ ["(", ";", ")", "-", "NPER"], s ≠ "" ∧ Unquoted s := by decide
  simp only [List.forall_mem_cons] at fixed
  obtain ⟨opening, separator, closing, minus, periods, -⟩ := fixed
  simp only [marks, List.forall_mem_cons]
  exact ⟨name, name, opening, separator, closing, minus, periods, trivial, by simp⟩

/-- **What lexemes leave on the stack has clean marks.** -/
theorem Lexeme.run_clean {page : CodePage} {xs : List (Lexeme (Leaf CellRef))}
    {operands : List (List Instruction)}
    (acts : run (fun l => [l.instruction page]) Reduction.write xs [] = some operands) :
    ∀ list ∈ operands, ∀ i ∈ list, i.Clean := by
  refine forall_run ?_ ?_ acts (by simp)
  · intro l _ i mem
    obtain rfl := List.mem_singleton.mp mem
    cases l with
    | number | integer | text => exact trivial
    | target t => cases t <;> exact trivial
  · intro r args each
    exact r.forall_write_of_marks r.clean_of_mem_marks each

/-- The texts of a list: that of its first instruction, and those of the others. -/
theorem exists_texts_of_cons {i : Instruction} {list : List Instruction} {texts : List String}
    (written : (i :: list).mapM Instruction.text? = some texts) :
    ∃ s rest, i.text? = some s ∧ list.mapM Instruction.text? = some rest ∧ texts = s :: rest := by
  rw [List.mapM_cons] at written
  obtain ⟨s, first, written⟩ := Option.bind_eq_some_iff.mp written
  obtain ⟨rest, others, same⟩ := Option.bind_eq_some_iff.mp written
  exact ⟨s, rest, first, others, (Option.some.inj same).symm⟩

/-- **Behind an operand no quote follows**, whatever the rest of a list is. -/
theorem head_of_texts {list : List Instruction} {texts : List String}
    (written : list.mapM Instruction.text? = some texts) (clean : ∀ i ∈ list, i.Clean)
    (listed : ∀ i ∈ list, ∀ kind, i ≠ .unlisted kind)
    (behind : ∀ i rest, list = i :: rest → i.starts = false) :
    (texts.flatMap String.toList).head? ≠ some '"' := by
  cases list with
  | nil =>
      cases written
      simp
  | cons i list =>
      obtain ⟨s, rest, first, -, rfl⟩ := exists_texts_of_cons written
      rw [List.flatMap_cons]
      exact Instruction.head_text (clean i (by simp)) (listed i (by simp)) (behind i list rfl) first _

/-- **The quoted segments of a list's text are its text literals**, when marks are clean, names have no quotes
and no operand starts where one ends. -/
theorem segments?_of_texts {list : List Instruction} {texts : List String}
    (written : list.mapM Instruction.text? = some texts) (clean : ∀ i ∈ list, i.Clean)
    (listed : ∀ i ∈ list, ∀ kind, i ≠ .unlisted kind) (names : ∀ i ∈ list, ∀ ref ∈ i.refs, ref.NamesUnquoted)
    (apart : ∀ front a b behind, list = front ++ a :: b :: behind → a.ends = true → b.starts = false) :
    segments? (texts.flatMap String.toList) = some (list.filterMap Instruction.content?) := by
  induction list generalizing texts with
  | nil =>
      cases written
      simp
  | cons i list ih =>
      obtain ⟨s, rest, first, others, rfl⟩ := exists_texts_of_cons written
      have clean' : ∀ j ∈ list, j.Clean := fun j mem => clean j (List.mem_cons_of_mem _ mem)
      have listed' : ∀ j ∈ list, ∀ kind, j ≠ .unlisted kind :=
        fun j mem => listed j (List.mem_cons_of_mem _ mem)
      have behind := ih others clean' listed' (fun j mem => names j (List.mem_cons_of_mem _ mem))
        fun front a b tail same => apart (i :: front) a b tail (by rw [same]; rfl)
      rw [List.flatMap_cons]
      cases content : i.content? with
      | none =>
          have free :=
            Instruction.unquoted_text (clean i List.mem_cons_self) (names i List.mem_cons_self) content first
          rw [segments?_append free, behind, List.filterMap_cons_none content]
      | some text =>
          obtain rfl := Instruction.eq_text_of_content? content
          cases first
          -- The text ends an operand, so the next instruction starts none.
          have follows := head_of_texts others clean' listed' fun j tail same => by
            subst same
            exact apart [] _ j tail rfl rfl
          rw [segments?_enclosed text follows, behind, List.filterMap_cons_some content, Option.map_some]

/-! ## Formulas -/

section Formulas

variable {σ : Type}

/-- **Decoded formulas have clean marks.** -/
theorem Framed.decodeFormula_clean {o : Options σ} {page : CodePage} {names : σ} {data formula : List UInt8}
    {stop : Int} (framed : Framed data stop formula) {d : Decoded}
    (ok : (decodeFormula o page names data stop).outcome = .ok d) :
    ∀ i ∈ d.instructions, i.Clean := by
  obtain ⟨xs, carries⟩ := exists_carries framed ok
  exact Lexeme.run_clean (carries.run_eq framed ok) _ List.mem_cons_self

/-- **Texts can be read back.** What is written for a text literal ends where it ends: with anything behind it
that does not start with a quote, the literal and what follows are known. In the text of a decoded formula
whose sheets and files have names without quotes, the quoted segments, from left to right, are the contents of
the text literals in order. -/
theorem render?_read_back :
    (∀ s t u v : String, u.toList.head? ≠ some '"' → v.toList.head? ≠ some '"' →
        (render? [.text s]).map (· ++ u) = (render? [.text t]).map (· ++ v) → s = t ∧ u = v) ∧
      ∀ (o : Options σ) (names : σ) (data : List UInt8) (stop : Int) (d : Decoded),
        (decode o names data stop).outcome = .ok d →
        (∀ i ∈ d.instructions, ∀ ref ∈ i.refs, '"' ∉ ref.sheet.name.toList ∧ '"' ∉ ref.file.name.toList) →
        ∃ text, render? d.instructions = some text ∧
          segments? text.toList = some (d.instructions.filterMap Instruction.content?) := by
  refine ⟨?_, ?_⟩
  · intro s t u v hu hv h
    have literal : ∀ s : String, render? [.text s] = some (enclosed '"' s) := by
      intro s
      simp [render?, Instruction.text?, String.join]
    rw [literal, literal, Option.map_some, Option.map_some, Option.some.injEq, ← String.toList_inj] at h
    -- Behind the first quote, the doubled texts end at the first quote that stands alone.
    have chars : doubled '"' s.toList ++ '"' :: u.toList = doubled '"' t.toList ++ '"' :: v.toList := by
      simpa [enclosed] using h
    obtain ⟨content, behind⟩ := doubled_cancel hu hv chars
    exact ⟨String.toList_inj.mp content, String.toList_inj.mp behind⟩
  · intro o names data stop d ok free
    obtain ⟨framed, page, known⟩ := exists_framed_of_ok ok
    rw [framed.decode_eq known] at ok
    have shape := ((decodeFormula_shaped o page names data stop).1 d ok).wellShaped
    obtain ⟨text, written⟩ := exists_render ((framed.decodeFormula_safe o page names).2 d ok)
    refine ⟨text, written, ?_⟩
    obtain ⟨texts, parts, rfl⟩ := Option.map_eq_some_iff.mp written
    rw [String.toList_join]
    exact segments?_of_texts parts (framed.decodeFormula_clean ok) shape.listed free shape.apart

/-- A literal that is a quote, a cell of a sheet whose name has a single quote, and a literal that ends with a
quote. -/
theorem render?_read_back_joined :
    let o : Options Unit :=
      ⟨⟨"a", extendedWidth, .interleaved, true, "cp437"⟩, {},
        (NameTable.names { sheets := [(7, "O'Hara")] }).resolver⟩
    let formula : List UInt8 :=
      [0x06, 0x22, 0x00, 0x01, 0x02, 0x00, 0x03, 0x00, 0x07, 0x00, 0x18, 0x06, 0x61, 0x22, 0x00, 0x18]
    let d : Decoded :=
      ⟨[.text "\"", .operator "&",
        .cell { column := ⟨2, false⟩, row := ⟨3, false⟩, sheet := ⟨true, 7, "O'Hara"⟩ },
        .operator "&", .text "a\""], none, []⟩
    (decode o () formula 16).outcome = .ok d ∧
      render? d.instructions = some "\"\"\"\"&'O''Hara'!$C$4&\"a\"\"\"" ∧
      segments? "\"\"\"\"&'O''Hara'!$C$4&\"a\"\"\"".toList = some ["\"", "a\""] ∧
      ∀ t v : String, v.toList.head? ≠ some '"' →
        (render? [.text "\""]).map (· ++ "&") = (render? [.text t]).map (· ++ v) → "\"" = t ∧ "&" = v := by
  intro o formula d
  have ok : (decode o () formula 16).outcome = .ok d := by decide +kernel
  have written : render? d.instructions = some "\"\"\"\"&'O''Hara'!$C$4&\"a\"\"\"" := by decide +kernel
  have free : ∀ i ∈ d.instructions, ∀ ref ∈ i.refs,
      '"' ∉ ref.sheet.name.toList ∧ '"' ∉ ref.file.name.toList := by
    decide +kernel
  obtain ⟨literals, formulas⟩ := render?_read_back (σ := Unit)
  obtain ⟨text, found, segments⟩ := formulas o () formula 16 d ok free
  cases written.symm.trans found
  exact ⟨ok, written, segments, fun t v => literals "\"" t "&" v (by decide)⟩

end Formulas

end SheetFormula
