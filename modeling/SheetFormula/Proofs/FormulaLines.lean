import Mathlib.Data.List.Basic
import SheetFormula.FormulaFile

/-!
# What a text of formulas holds

Which lines of a text are passed over, which can be read, and what is read off them:

* **`Blank.stripped`** — bytes without the white space that they start with; `Blank.removed_eq` says that it
  decides how the bytes without any white space start;
* **`HexText.Readable`**, `HexText.bytes` — an even number of digits, and what they stand for.
  `HexText.decode_readable`, `HexText.decode_unreadable` say that only these are decoded;
* **`FormulaFile.skipped`**, `FormulaFile.Faulty`, `FormulaFile.formulas` — blank lines and comments, lines
  that cannot be read, and the formulas of all other lines;
* **`FormulaFile.parse_sound`**, `FormulaFile.parse_faulty` — reading a text gives its formulas, unless some
  line is faulty;
* **`FormulaFile.isolated`** — a text with all formula lines but one made blank.
-/

namespace SheetFormula

/-! ## White space -/

namespace Blank

/-- Pass over `skip` bytes, then over white space. -/
def strippedFrom : Nat → List UInt8 → List UInt8
  | _, [] => []
  | skip + 1, _ :: rest => strippedFrom skip rest
  | 0, b :: rest =>
    match width (b :: rest) with
    | 0 => b :: rest
    | n + 1 => strippedFrom n rest

/-- **Bytes without the white space that they start with**. -/
def stripped (bytes : List UInt8) : List UInt8 := strippedFrom 0 bytes

/-- What is kept in front stays in front. -/
theorem removedOnto_eq (kept : List UInt8) (skip : Nat) (bytes : List UInt8) :
    removedOnto kept skip bytes = kept.reverse ++ removedOnto [] skip bytes := by
  induction bytes generalizing kept skip with
  | nil => simp [removedOnto]
  | cons b rest ih =>
      cases skip with
      | succ skip => exact ih kept skip
      | zero =>
          simp only [removedOnto]
          cases width (b :: rest) with
          | zero => rw [ih (b :: kept), ih [b], List.reverse_cons, List.reverse_singleton, List.append_assoc]
          | succ n => exact ih kept n

/-- The first byte that is kept is the first one behind white space. -/
theorem removedOnto_strippedFrom (skip : Nat) (bytes : List UInt8) :
    removedOnto [] skip bytes =
      match strippedFrom skip bytes with
      | [] => []
      | b :: rest => b :: removed rest := by
  induction bytes generalizing skip with
  | nil => simp [removedOnto, strippedFrom]
  | cons b rest ih =>
      cases skip with
      | succ skip => exact ih skip
      | zero =>
          simp only [removedOnto, strippedFrom]
          cases width (b :: rest) with
          | zero => exact removedOnto_eq [b] 0 rest
          | succ n => exact ih n

/-- **How bytes without white space start**: with the first byte behind the white space in front. -/
theorem removed_eq (bytes : List UInt8) :
    removed bytes =
      match stripped bytes with
      | [] => []
      | b :: rest => b :: removed rest :=
  removedOnto_strippedFrom 0 bytes

end Blank

/-! ## Digits -/

namespace HexText

/-- **Text that stands for bytes**: an even number of digits. -/
def Readable (text : List UInt8) : Prop := text.length % 2 = 0 ∧ ∀ b ∈ text, (digit? b).isSome = true

/-- Whether a text can be read can be decided. -/
instance : DecidablePred Readable := fun text =>
  inferInstanceAs (Decidable (text.length % 2 = 0 ∧ ∀ b ∈ text, (digit? b).isSome = true))

/-- **What digits stand for**: two of them are a byte. -/
def bytes : List UInt8 → List UInt8
  | a :: b :: rest => (16 * (digit? a).getD 0 + (digit? b).getD 0) :: bytes rest
  | _ => []

/-- A text can be read two digits at a time. -/
theorem readable_cons_cons {a b : UInt8} {rest : List UInt8} :
    Readable (a :: b :: rest) ↔ (∃ high, digit? a = some high) ∧ (∃ low, digit? b = some low) ∧
      Readable rest := by
  simp only [Readable, List.length_cons, List.forall_mem_cons, Option.isSome_iff_exists]
  have parity : (rest.length + 1 + 1) % 2 = rest.length % 2 := by omega
  rw [parity]
  tauto

/-- A lone digit cannot be read. -/
theorem not_readable_singleton (a : UInt8) : ¬ Readable [a] := fun h => absurd h.1 (by simp)

/-- What can be read is read as its bytes, behind those known so far. -/
theorem decodeOnto_readable : ∀ {text : List UInt8}, Readable text → ∀ known,
    decodeOnto known text = .ok (known.reverse ++ bytes text)
  | [], _, known => by simp [decodeOnto, bytes]
  | [a], h, _ => absurd h (not_readable_singleton a)
  | a :: b :: rest, h, known => by
      obtain ⟨⟨high, ha⟩, ⟨low, hb⟩, others⟩ := readable_cons_cons.mp h
      simp only [decodeOnto, bytes, ha, hb, Option.getD_some]
      rw [decodeOnto_readable others, List.reverse_cons, List.append_assoc, List.singleton_append]

/-- What cannot be read gives an error. -/
theorem decodeOnto_unreadable :
    ∀ {text : List UInt8}, ¬ Readable text → ∀ known, ∃ e, decodeOnto known text = .error e
  | [], h, _ => absurd ⟨rfl, nofun⟩ h
  | [a], _, known => by
      unfold decodeOnto
      split
      · exact ⟨_, rfl⟩
      · exact ⟨_, rfl⟩
  | a :: b :: rest, h, known => by
      unfold decodeOnto
      split
      · exact ⟨_, rfl⟩
      · exact ⟨_, rfl⟩
      · next high low ha hb =>
        have others : ¬ Readable rest :=
          fun others => h (readable_cons_cons.mpr ⟨⟨high, ha⟩, ⟨low, hb⟩, others⟩)
        exact decodeOnto_unreadable others _

/-- **An even number of digits is decoded.** -/
theorem decode_readable {text : List UInt8} (h : Readable text) : decode text = .ok (bytes text) :=
  decodeOnto_readable h []

/-- **Nothing else is.** -/
theorem decode_unreadable {text : List UInt8} (h : ¬ Readable text) : ∃ e, decode text = .error e :=
  decodeOnto_unreadable h []

end HexText

/-! ## Lines -/

namespace FormulaFile

/-- **Lines that are passed over**: behind white space they have nothing, or a number sign. -/
def skipped (line : List UInt8) : Bool :=
  match Blank.stripped line with
  | [] => true
  | b :: _ => b == 0x23

/-- **Faulty lines**: they are too long, or are not passed over and do not stand for bytes. -/
def Faulty (line : List UInt8) : Prop :=
  lineLimit ≤ line.length ∨ skipped line = false ∧ ¬ HexText.Readable (Blank.removed line)

/-- Whether a line is faulty can be decided. -/
instance : DecidablePred Faulty := fun line =>
  inferInstanceAs (Decidable (lineLimit ≤ line.length ∨ skipped line = false ∧
    ¬ HexText.Readable (Blank.removed line)))

/-- What a line holds that is not faulty. -/
def held? (number : Nat) (line : List UInt8) : Option FormulaLine :=
  if skipped line then none else some ⟨number, HexText.bytes (Blank.removed line)⟩

/-- What lines hold, when the first one has some number. -/
def heldFrom (number : Nat) (lines : List (List UInt8)) : List FormulaLine :=
  (lines.zipIdx number).filterMap fun entry => held? entry.2 entry.1

/-- **Formulas of a text** without faulty lines. -/
def formulas (text : List UInt8) : List FormulaLine := heldFrom 1 (lines text)

/-- A line is passed over when it is blank or a comment. -/
theorem skipped_iff {line : List UInt8} :
    skipped line = true ↔ Blank.removed line = [] ∨ ∃ rest, Blank.removed line = 0x23 :: rest := by
  rw [skipped, Blank.removed_eq]
  cases Blank.stripped line with
  | nil => simp
  | cons b rest => simp

/-- What the first line holds comes first. -/
theorem heldFrom_cons (number : Nat) (line : List UInt8) (lines : List (List UInt8)) :
    heldFrom number (line :: lines) = (held? number line).toList ++ heldFrom (number + 1) lines := by
  rw [heldFrom, List.zipIdx_cons, List.filterMap_cons]
  cases held? number line with
  | none => rfl
  | some f => rfl

/-- **What is read off a line**: an error when it is faulty, else what it holds. -/
theorem parseLine_spec (number : Nat) (line : List UInt8) :
    (Faulty line → ∃ e, parseLine number line = .error e) ∧
      (¬ Faulty line → parseLine number line = .ok (held? number line)) := by
  unfold parseLine Faulty
  split
  · next long => exact ⟨fun _ => ⟨_, rfl⟩, fun fine => absurd (.inl long) fine⟩
  · next short =>
    rw [or_iff_right short]
    split
    · next blank =>
      have passed : skipped line = true := skipped_iff.mpr (.inl blank)
      simp [held?, passed]
    · next comment =>
      have passed : skipped line = true := skipped_iff.mpr (.inr ⟨_, comment⟩)
      simp [held?, passed]
    -- What is left is neither blank nor a comment, so its digits have to be read.
    · next written uncommented =>
      have kept : skipped line = false := by
        refine Bool.eq_false_iff.mpr fun passed => ?_
        rcases skipped_iff.mp passed with blank | ⟨rest, comment⟩
        · exact written blank
        · exact uncommented rest comment
      refine ⟨fun ⟨_, unreadable⟩ => ?_, fun fine => ?_⟩
      · obtain ⟨e, failed⟩ := HexText.decode_unreadable unreadable
        rw [failed]
        exact ⟨_, rfl⟩
      · have readable : HexText.Readable (Blank.removed line) := by
          by_contra unreadable
          exact fine ⟨kept, unreadable⟩
        rw [HexText.decode_readable readable, held?, kept]
        rfl

/-- Lines without a fault are all read, behind those known so far. -/
theorem parseOnto_sound {lines : List (List UInt8)} (fine : ∀ line ∈ lines, ¬ Faulty line)
    (known : List FormulaLine) (number : Nat) :
    parseOnto known number lines = .ok (known.reverse ++ heldFrom number lines) := by
  induction lines generalizing known number with
  | nil => rw [parseOnto, heldFrom, List.zipIdx_nil, List.filterMap_nil, List.append_nil]
  | cons line lines ih =>
      have others := ih fun l mem => fine l (List.mem_cons_of_mem _ mem)
      rw [parseOnto, (parseLine_spec number line).2 (fine line List.mem_cons_self), heldFrom_cons]
      cases held? number line with
      | none => exact others known (number + 1)
      | some f =>
          dsimp only
          rw [others, List.reverse_cons, List.append_assoc]
          rfl

/-- One faulty line is enough for an error. -/
theorem parseOnto_faulty {lines : List (List UInt8)} (faulty : ∃ line ∈ lines, Faulty line)
    (known : List FormulaLine) (number : Nat) : ∃ e, parseOnto known number lines = .error e := by
  induction lines generalizing known number with
  | nil => exact absurd faulty (by simp)
  | cons line lines ih =>
      rw [parseOnto]
      by_cases here : Faulty line
      · obtain ⟨e, failed⟩ := (parseLine_spec number line).1 here
        rw [failed]
        exact ⟨e, rfl⟩
      · -- The line itself can be read, so the faulty one is behind it.
        have behind : ∃ l ∈ lines, Faulty l := by
          obtain ⟨l, mem, found⟩ := faulty
          rcases List.mem_cons.mp mem with rfl | mem
          · exact absurd found here
          · exact ⟨l, mem, found⟩
        rw [(parseLine_spec number line).2 here]
        cases held? number line with
        | none => exact ih behind known (number + 1)
        | some f => exact ih behind (f :: known) (number + 1)

/-- **A text without faulty lines** is read as its formulas. -/
theorem parse_sound {text : List UInt8} (fine : ∀ line ∈ lines text, ¬ Faulty line) :
    parse text = .ok (formulas text) :=
  parseOnto_sound fine [] 1

/-- **A text with a faulty line** is not read at all. -/
theorem parse_faulty {text : List UInt8} (faulty : ∃ line ∈ lines text, Faulty line) :
    ∃ e, parse text = .error e :=
  parseOnto_faulty faulty [] 1

/-! ## Numbers of lines -/

/-- A formula has the number of its line. -/
theorem number_of_held? {number : Nat} {line : List UInt8} {f : FormulaLine}
    (h : held? number line = some f) :
    f.number = number := by
  unfold held? at h
  split at h
  · cases h
  · rw [← Option.some.inj h]

/-- No line has a number before the first one. -/
theorem le_number {number : Nat} {lines : List (List UInt8)} {f : FormulaLine}
    (mem : f ∈ heldFrom number lines) :
    number ≤ f.number := by
  obtain ⟨⟨line, k⟩, entry, held⟩ := List.mem_filterMap.mp mem
  rw [number_of_held? held]
  exact (List.le_snd_of_mem_zipIdx entry)

/-- **The number of a line tells its formula.** -/
theorem filter_number {number : Nat} {lines : List (List UInt8)} {f : FormulaLine}
    (mem : f ∈ heldFrom number lines) :
    (heldFrom number lines).filter (·.number = f.number) = [f] := by
  induction lines generalizing number with
  | nil => cases mem
  | cons line lines ih =>
      rw [heldFrom_cons] at mem ⊢
      cases held : held? number line with
      | none =>
          rw [held] at mem
          exact ih mem
      | some g =>
          have first := number_of_held? held
          rw [held, Option.toList_some, List.singleton_append, List.mem_cons] at mem
          rw [Option.toList_some, List.singleton_append]
          rcases mem with rfl | mem
          · -- All lines behind it have greater numbers.
            have none : (heldFrom (number + 1) lines).filter (·.number = f.number) = [] := by
              refine List.filter_eq_nil_iff.mpr fun g mem => ?_
              have := le_number mem
              simp only [decide_eq_true_eq]
              omega
            rw [List.filter_cons_of_pos (by simp), none]
          · have := le_number mem
            rw [List.filter_cons_of_neg (by simp only [decide_eq_true_eq]; omega), ih mem]

/-! ## Texts with one formula -/

/-- A line, made empty when it is a formula line of another number. -/
def isolatedLine (number : Nat) (line : List UInt8) (k : Nat) : List UInt8 :=
  if k = number ∨ skipped line = true then line else []

/-- **A text with its formula lines blank**, but for that of some number. -/
def isolated (number : Nat) (text : List UInt8) : List UInt8 :=
  ((lines text).zipIdx 1).flatMap fun entry => isolatedLine number entry.1 entry.2 ++ [0x0a]

/-- A piece between newlines has none. -/
theorem not_mem_of_mem_splitOn {text piece : List UInt8} (mem : piece ∈ text.splitOn 0x0a) :
    0x0a ∉ piece := by
  rw [List.splitOn_eq_splitOnP] at mem
  induction text generalizing piece with
  | nil =>
      rw [List.splitOnP_nil, List.mem_singleton] at mem
      rw [mem]
      exact List.not_mem_nil
  | cons b text ih =>
      rw [List.splitOnP_cons_eq_if_modifyHead] at mem
      split at mem
      · rcases List.mem_cons.mp mem with rfl | mem
        · exact List.not_mem_nil
        · exact ih mem
      · next other =>
        obtain ⟨first, rest, pieces⟩ :=
          List.exists_cons_of_ne_nil (List.splitOnP_ne_nil (· == (0x0a : UInt8)) text)
        rw [pieces, List.modifyHead_cons] at mem
        -- The byte joins the first piece of what follows it.
        rcases List.mem_cons.mp mem with rfl | mem
        · have clean : 0x0a ∉ first := ih (pieces ▸ List.mem_cons_self)
          exact List.not_mem_cons_of_ne_of_not_mem (fun same => other (by rw [← same]; rfl)) clean
        · exact ih (pieces ▸ List.mem_cons_of_mem _ mem)

/-- A line has no newline. -/
theorem not_mem_of_mem_lines {text line : List UInt8} (mem : line ∈ lines text) : 0x0a ∉ line := by
  unfold lines at mem
  dsimp only at mem
  split at mem
  · exact not_mem_of_mem_splitOn ((List.dropLast_sublist _).subset mem)
  · exact not_mem_of_mem_splitOn mem

/-- **Lines with their newlines** are the lines of the text that they make. -/
theorem lines_ended {ls : List (List UInt8)} (clean : ∀ l ∈ ls, 0x0a ∉ l) :
    lines (ls.flatMap (· ++ [0x0a])) = ls := by
  -- Behind the last newline there is an empty piece, which is no line.
  have pieces : (ls.flatMap (· ++ [0x0a])).splitOn 0x0a = ls ++ [[]] := by
    induction ls with
    | nil => rfl
    | cons l ls ih =>
        have first : l.splitOn 0x0a = [l] := List.splitOn_eq_singleton (clean l List.mem_cons_self)
        have others := ih fun m mem => clean m (List.mem_cons_of_mem _ mem)
        rw [List.splitOn_eq_splitOnP] at first others ⊢
        rw [List.flatMap_cons, List.append_assoc, List.singleton_append,
          List.splitOnP_append_cons _ _ (by rfl), first, others]
        rfl
  rw [lines, pieces]
  simp

/-- Isolating a line changes the others one by one. -/
theorem lines_isolated (number : Nat) (text : List UInt8) :
    lines (isolated number text) = ((lines text).zipIdx 1).map fun entry =>
      isolatedLine number entry.1 entry.2 := by
  rw [isolated, ← List.flatMap_map (fun entry : List UInt8 × Nat => isolatedLine number entry.1 entry.2)
    fun line => line ++ [0x0a]]
  refine lines_ended fun l mem => ?_
  obtain ⟨⟨line, k⟩, entry, rfl⟩ := List.mem_map.mp mem
  unfold isolatedLine
  split
  · exact not_mem_of_mem_lines (List.fst_mem_of_mem_zipIdx entry)
  · exact List.not_mem_nil

/-- Blank lines do not make a text faulty. -/
theorem isolated_fine {text : List UInt8} (fine : ∀ line ∈ lines text, ¬ Faulty line) (number : Nat) :
    ∀ line ∈ lines (isolated number text), ¬ Faulty line := by
  rw [lines_isolated]
  intro l mem
  obtain ⟨⟨line, k⟩, entry, rfl⟩ := List.mem_map.mp mem
  unfold isolatedLine
  split
  · exact fine line (List.fst_mem_of_mem_zipIdx entry)
  · decide

/-- In a text with one line isolated, what that line holds is left. -/
theorem heldFrom_isolated (number k : Nat) (lines : List (List UInt8)) :
    heldFrom k ((lines.zipIdx k).map fun entry => isolatedLine number entry.1 entry.2) =
      (heldFrom k lines).filter (·.number = number) := by
  induction lines generalizing k with
  | nil => rfl
  | cons line lines ih =>
      rw [List.zipIdx_cons, List.map_cons, heldFrom_cons, heldFrom_cons, List.filter_append, ih]
      congr 1
      dsimp only
      -- A line that is passed over holds nothing anyway; a formula line is kept or emptied by its number.
      by_cases passed : skipped line = true
      · have nothing : held? k line = none := if_pos passed
        rw [isolatedLine, if_pos (.inr passed), nothing]
        rfl
      · have something : held? k line = some ⟨k, HexText.bytes (Blank.removed line)⟩ := if_neg passed
        by_cases same : k = number
        · rw [isolatedLine, if_pos (.inl same), something]
          simp [same]
        · rw [isolatedLine, if_neg (not_or.mpr ⟨same, passed⟩), something]
          simp [same, held?, skipped, Blank.stripped, Blank.strippedFrom]

/-- **An isolated line keeps its formula**, and the others have none. -/
theorem formulas_isolated {text : List UInt8} {f : FormulaLine} (mem : f ∈ formulas text) :
    formulas (isolated f.number text) = [f] := by
  rw [formulas, lines_isolated, heldFrom_isolated]
  exact filter_number mem

end FormulaFile

end SheetFormula
