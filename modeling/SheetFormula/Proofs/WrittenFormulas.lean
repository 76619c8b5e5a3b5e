import SheetFormula.Proofs.FormulaLines

/-!
# Writing formulas down

How formulas may be written as a text, said without the reader, and that reading undoes writing:

* **`Blank.characters`** — the white-space characters; `Blank.width_character` and `Blank.exists_character`
  say that the reader knows them by their encoding, and no others;
* **`HexText.Writes`** — two digits for each byte, in either case;
* **`FormulaFile.Spaced`** — some bytes with white space anywhere between them;
* **`FormulaFile.Holds`** — a line that is blank, a comment, or the written form of a formula;
* **`FormulaFile.Written`** — a text of such lines, with newlines of either kind;
* **`FormulaFile.parse_eq_ok_iff_written`** — exactly these texts are read, and what is read off them is what
  was written.
-/

namespace SheetFormula

/-- What holds of the bytes from 0 to 255 holds of every byte. -/
theorem forall_byte {P : UInt8 → Prop} (h : ∀ n < 256, P (UInt8.ofNat n)) (b : UInt8) : P b := by
  have holds := h b.toNat b.toNat_lt
  rwa [UInt8.ofNat_toNat] at holds

/-! ## White space -/

namespace Blank

/-- **White-space characters**: tabulators and line ends, the space, next line, the no-break space, the ogham
space, the spaces of typography, line and paragraph separators, and the narrow, mathematical and ideographic
spaces. -/
def characters : List Char :=
  [0x09, 0x0a, 0x0b, 0x0c, 0x0d, 0x20, 0x85, 0xa0, 0x1680, 0x2000, 0x2001, 0x2002, 0x2003, 0x2004, 0x2005,
    0x2006, 0x2007, 0x2008, 0x2009, 0x200a, 0x2028, 0x2029, 0x202f, 0x205f, 0x3000].map Char.ofNat

/-- **Encodings of white space**. -/
def encodings : List (List UInt8) := characters.map String.utf8EncodeChar

/-- White space stays white space, with anything behind it. -/
theorem width_append {bytes : List UInt8} (whole : width bytes = bytes.length) (nonempty : bytes ≠ [])
    (rest : List UInt8) : width (bytes ++ rest) = bytes.length := by
  rcases bytes with _ | ⟨a, _ | ⟨b, _ | ⟨c, behind⟩⟩⟩
  · exact absurd rfl nonempty
  · rcases rest with _ | ⟨_, _ | ⟨_, _⟩⟩ <;> grind [width]
  · rcases rest with _ | ⟨_, _⟩ <;> grind [width]
  · exact whole

/-- A white-space character takes up some bytes. -/
theorem encode_ne_nil {c : Char} (white : c ∈ characters) : String.utf8EncodeChar c ≠ [] := by
  have all : ∀ bytes ∈ encodings, bytes ≠ [] := by decide +kernel
  exact all _ (List.mem_map_of_mem white)

/-- **White space is known by its encoding.** -/
theorem width_character {c : Char} (white : c ∈ characters) (rest : List UInt8) :
    width (String.utf8EncodeChar c ++ rest) = (String.utf8EncodeChar c).length := by
  have all : ∀ bytes ∈ encodings, width bytes = bytes.length := by decide +kernel
  exact width_append (all _ (List.mem_map_of_mem white)) (encode_ne_nil white) rest

/-- A byte that is white space by itself is a listed encoding. -/
theorem single_mem_encodings {a : UInt8} (h : isSingle a = true) : [a] ∈ encodings := by
  have all : ∀ a, isSingle a = true → [a] ∈ encodings := forall_byte (by decide +kernel)
  exact all a h

/-- So are two bytes. -/
theorem pair_mem_encodings {a b : UInt8} (h : isPair a b = true) : [a, b] ∈ encodings := by
  simp only [isPair, Bool.and_eq_true, Bool.or_eq_true, decide_eq_true_eq] at h
  obtain ⟨rfl, rfl | rfl⟩ := h
  · decide +kernel
  · decide +kernel

/-- And so are three. -/
theorem triple_mem_encodings {a b c : UInt8} (h : isTriple a b c = true) : [a, b, c] ∈ encodings := by
  -- Only behind one pair of bytes there is a choice of third bytes, and all of them are tried.
  have typography : ∀ c, isTriple 0xe2 0x80 c = true → [0xe2, 0x80, c] ∈ encodings :=
    forall_byte (by decide +kernel)
  by_cases start : a = 0xe2 ∧ b = 0x80
  · obtain ⟨rfl, rfl⟩ := start
    exact typography c h
  · simp only [isTriple, Bool.and_eq_true, Bool.or_eq_true, decide_eq_true_eq] at h
    rcases h with ((⟨⟨rfl, rfl⟩, rfl⟩ | ⟨here, -⟩) | ⟨⟨rfl, rfl⟩, rfl⟩) | ⟨⟨rfl, rfl⟩, rfl⟩
    · decide +kernel
    · exact absurd here start
    · decide +kernel
    · decide +kernel

/-- **Nothing else is taken for white space.** -/
theorem exists_character {bytes : List UInt8} (h : width bytes ≠ 0) :
    ∃ c ∈ characters, ∃ rest, bytes = String.utf8EncodeChar c ++ rest := by
  -- The bytes start with an encoding of one, two or three bytes.
  have starts : ∃ start ∈ encodings, ∃ rest, bytes = start ++ rest := by
    unfold width at h
    split at h
    · exact absurd rfl h
    · next a =>
      split_ifs at h with single
      · exact ⟨[a], single_mem_encodings single, [], rfl⟩
      · exact absurd rfl h
    · next a b =>
      split_ifs at h with single pair
      · exact ⟨[a], single_mem_encodings single, [b], rfl⟩
      · exact ⟨[a, b], pair_mem_encodings pair, [], rfl⟩
      · exact absurd rfl h
    · next a b c rest =>
      split_ifs at h with single pair triple
      · exact ⟨[a], single_mem_encodings single, b :: c :: rest, rfl⟩
      · exact ⟨[a, b], pair_mem_encodings pair, c :: rest, rfl⟩
      · exact ⟨[a, b, c], triple_mem_encodings triple, rest, rfl⟩
      · exact absurd rfl h
  obtain ⟨start, known, rest, rfl⟩ := starts
  obtain ⟨c, white, rfl⟩ := List.mem_map.mp known
  exact ⟨c, white, rest, rfl⟩

/-- **Visible characters** of one byte are not white space, nor do they start it. -/
theorem width_eq_zero {b : UInt8} (ascii : b < 0x80) (visible : isSingle b = false) (rest : List UInt8) :
    width (b :: rest) = 0 := by
  have others : ∀ b : UInt8, b < 0x80 → b ≠ 0xc2 ∧ b ≠ 0xe1 ∧ b ≠ 0xe2 ∧ b ≠ 0xe3 :=
    forall_byte (by decide +kernel)
  obtain ⟨c2, e1, e2, e3⟩ := others b ascii
  rcases rest with _ | ⟨_, _ | ⟨_, _⟩⟩ <;> simp [width, visible, isPair, isTriple, c2, e1, e2, e3]

/-- Bytes that are to be skipped may be dropped at once. -/
theorem removedOnto_drop (kept : List UInt8) (skip : Nat) (bytes : List UInt8) :
    removedOnto kept skip bytes = removedOnto kept 0 (bytes.drop skip) := by
  induction bytes generalizing skip with
  | nil => cases skip <;> rfl
  | cons b rest ih =>
      cases skip with
      | zero => rfl
      | succ skip => exact ih skip

/-- White space at the front is removed as a whole. -/
theorem removed_of_width {bytes : List UInt8} {n : Nat} (h : width bytes = n + 1) :
    removed bytes = removed (bytes.drop (n + 1)) := by
  cases bytes with
  | nil => rfl
  | cons b rest =>
      rw [removed, removedOnto, h]
      exact removedOnto_drop [] n rest

/-- **White space is removed.** -/
theorem removed_character {c : Char} (white : c ∈ characters) (rest : List UInt8) :
    removed (String.utf8EncodeChar c ++ rest) = removed rest := by
  obtain ⟨n, length⟩ := Nat.exists_eq_succ_of_ne_zero (mt List.length_eq_zero_iff.mp (encode_ne_nil white))
  rw [removed_of_width ((width_character white rest).trans length), ← Nat.succ_eq_add_one, ← length,
    List.drop_left]

/-- **Everything else is kept.** -/
theorem removed_cons {b : UInt8} {rest : List UInt8} (h : width (b :: rest) = 0) :
    removed (b :: rest) = b :: removed rest := by
  rw [removed, removedOnto, h]
  exact removedOnto_eq [b] 0 rest

end Blank

/-! ## Digits -/

namespace HexText

/-- **Digits of a value**: they may be of either case. -/
def IsDigit (value : Nat) (b : UInt8) : Prop :=
  b = UInt8.ofNat (Nat.digitChar value).toNat ∨ b = UInt8.ofNat (Nat.digitChar value).toUpper.toNat

/-- Whether a byte is a given digit can be decided. -/
instance (value : Nat) : DecidablePred (IsDigit value) := fun b =>
  inferInstanceAs (Decidable (b = UInt8.ofNat (Nat.digitChar value).toNat ∨
    b = UInt8.ofNat (Nat.digitChar value).toUpper.toNat))

/-- **Written bytes**: two digits each, that of the upper half first. -/
inductive Writes : List UInt8 → List UInt8 → Prop
  /-- No byte needs no digit. -/
  | nil : Writes [] []
  /-- One byte more. -/
  | byte {b high low : UInt8} {data digits : List UInt8} (upper : IsDigit (b.toNat / 16) high)
    (lower : IsDigit (b.toNat % 16) low) (others : Writes data digits) :
    Writes (b :: data) (high :: low :: digits)

/-- A digit is read as its value, in either case. -/
theorem digit?_eq_some_iff {b value : UInt8} :
    digit? b = some value ↔ value < 16 ∧ IsDigit value.toNat b := by
  have read : ∀ b, (digit? b).all (fun value => value < 16 ∧ IsDigit value.toNat b) = true :=
    forall_byte (by decide +kernel)
  have written : ∀ value : UInt8, value < 16 →
      digit? (UInt8.ofNat (Nat.digitChar value.toNat).toNat) = some value ∧
      digit? (UInt8.ofNat (Nat.digitChar value.toNat).toUpper.toNat) = some value :=
    forall_byte (by decide +kernel)
  constructor
  · intro digit
    have value := read b
    rw [digit] at value
    exact of_decide_eq_true value
  · rintro ⟨small, rfl | rfl⟩
    · exact (written value small).1
    · exact (written value small).2

/-- Digits can be seen. -/
theorem width_digit {b value : UInt8} (h : digit? b = some value) (rest : List UInt8) :
    Blank.width (b :: rest) = 0 := by
  have visible : ∀ b, digit? b ≠ none → b < 0x80 ∧ Blank.isSingle b = false := forall_byte (by decide +kernel)
  obtain ⟨ascii, plain⟩ := visible b (by simp [h])
  exact Blank.width_eq_zero ascii plain rest

/-- A byte is made of two digits. -/
theorem halves (b : UInt8) : b / 16 < 16 ∧ b % 16 < 16 ∧ 16 * (b / 16) + b % 16 = b := by
  have all : ∀ b : UInt8, b / 16 < 16 ∧ b % 16 < 16 ∧ 16 * (b / 16) + b % 16 = b :=
    forall_byte (by decide +kernel)
  exact all b

/-- Two digits do not overflow a byte. -/
theorem toNat_of_digits {high low : UInt8} (upper : high < 16) (lower : low < 16) :
    (16 * high + low).toNat = 16 * high.toNat + low.toNat := by
  have upper : high.toNat < 16 := UInt8.lt_iff_toNat_lt.mp upper
  have lower : low.toNat < 16 := UInt8.lt_iff_toNat_lt.mp lower
  rw [UInt8.toNat_add, UInt8.toNat_mul]
  show (16 * high.toNat % 256 + low.toNat) % 256 = 16 * high.toNat + low.toNat
  omega

/-- **Written bytes are those that the digits stand for.** -/
theorem writes_iff {data digits : List UInt8} :
    Writes data digits ↔ Readable digits ∧ bytes digits = data := by
  constructor
  · intro h
    induction h with
    | nil => exact ⟨⟨rfl, by simp⟩, rfl⟩
    | @byte b high low data digits upper lower _ ih =>
        -- The two digits of a byte are its halves.
        obtain ⟨small, small', whole⟩ := halves b
        have first : digit? high = some (b / 16) := digit?_eq_some_iff.mpr ⟨small, by rwa [UInt8.toNat_div]⟩
        have second : digit? low = some (b % 16) := digit?_eq_some_iff.mpr ⟨small', by rwa [UInt8.toNat_mod]⟩
        refine ⟨readable_cons_cons.mpr ⟨⟨_, first⟩, ⟨_, second⟩, ih.1⟩, ?_⟩
        rw [bytes, first, second, ih.2, Option.getD_some, Option.getD_some, whole]
  · rintro ⟨readable, rfl⟩
    induction digits using bytes.induct with
    | case1 a b rest ih =>
        obtain ⟨⟨high, first⟩, ⟨low, second⟩, others⟩ := readable_cons_cons.mp readable
        obtain ⟨small, upper⟩ := digit?_eq_some_iff.mp first
        obtain ⟨small', lower⟩ := digit?_eq_some_iff.mp second
        have below : low.toNat < 16 := UInt8.lt_iff_toNat_lt.mp small'
        rw [bytes, first, second, Option.getD_some, Option.getD_some]
        refine .byte ?_ ?_ (ih others)
        · rwa [toNat_of_digits small small', Nat.mul_add_div (by decide), Nat.div_eq_of_lt below]
        · rwa [toNat_of_digits small small', Nat.mul_add_mod, Nat.mod_eq_of_lt below]
    | case2 digits short =>
        rcases digits with _ | ⟨a, _ | ⟨b, rest⟩⟩
        · exact .nil
        · exact absurd readable (not_readable_singleton a)
        · exact absurd rfl (short a b rest)

end HexText

/-! ## Lines -/

namespace FormulaFile

/-- **Bytes with white space** other than newlines, in front of them, behind them and anywhere between. -/
inductive Spaced : List UInt8 → List UInt8 → Prop
  /-- Nothing at all. -/
  | nil : Spaced [] []
  /-- White space in front. -/
  | blank {kept line : List UInt8} {c : Char} (white : c ∈ Blank.characters) (inner : c ≠ '\n')
      (others : Spaced kept line) :
    Spaced kept (String.utf8EncodeChar c ++ line)
  /-- One byte in front. -/
  | byte {kept line : List UInt8} (b : UInt8) (others : Spaced kept line) : Spaced (b :: kept) (b :: line)

/-- **What a line holds**: nothing when it is blank or a comment, else a formula of one byte or more. -/
inductive Holds : Option (List UInt8) → List UInt8 → Prop
  /-- A blank line. -/
  | blank {line : List UInt8} (spaced : Spaced [] line) : Holds none line
  /-- A comment: a number sign, with white space in front and anything but newlines behind it. -/
  | comment {front behind : List UInt8} (spaced : Spaced [] front) (inner : 0x0a ∉ behind) :
    Holds none (front ++ 0x23 :: behind)
  /-- A formula, with white space anywhere between its digits. -/
  | formula {data digits line : List UInt8} (nonempty : data ≠ []) (writes : HexText.Writes data digits)
    (spaced : Spaced digits line) : Holds (some data) line

/-- **Ends of lines**. -/
inductive LineEnd where
  /-- A newline. -/
  | newline
  /-- A carriage return and a newline. -/
  | carriageReturn
  deriving DecidableEq, Repr

/-- What an end of a line has in front of its newline. -/
def LineEnd.mark : LineEnd → List UInt8
  | .newline => []
  | .carriageReturn => [0x0d]

/-- **Written lines**: what they hold, and their text. The last line may go without a newline. -/
inductive Written : List (Option (List UInt8)) → List UInt8 → Prop
  /-- No line. -/
  | nil : Written [] []
  /-- A last line without a newline. -/
  | last {held : Option (List UInt8)} {line : List UInt8} (holds : Holds held line) (there : line ≠ [])
    (short : line.length < lineLimit) : Written [held] line
  /-- A line with its newline. -/
  | line {held : Option (List UInt8)} {line : List UInt8} {helds : List (Option (List UInt8))}
      {text : List UInt8}
    (ending : LineEnd) (holds : Holds held line) (short : (line ++ ending.mark).length < lineLimit)
    (others : Written helds text) : Written (held :: helds) (line ++ ending.mark ++ 0x0a :: text)

/-- Formulas of written lines, when the first one has some number. -/
def numberedFrom (number : Nat) (helds : List (Option (List UInt8))) : List FormulaLine :=
  (helds.zipIdx number).filterMap fun entry => entry.1.map (⟨entry.2, ·⟩)

/-- **Formulas of written lines**, each with the number of its line. -/
def numbered (helds : List (Option (List UInt8))) : List FormulaLine := numberedFrom 1 helds

/-! ### White space in lines -/

/-- No other white space has a newline among its bytes. -/
theorem not_mem_newline {c : Char} (white : c ∈ Blank.characters) (inner : c ≠ '\n') :
    0x0a ∉ String.utf8EncodeChar c := by
  have all : (Blank.characters.all fun c => c = '\n' ∨ 0x0a ∉ String.utf8EncodeChar c) = true := by
    decide +kernel
  exact (of_decide_eq_true (List.all_eq_true.mp all c white)).resolve_left inner

/-- White space within a line brings in no newline. -/
theorem Spaced.not_mem {kept line : List UInt8} (h : Spaced kept line) (clean : 0x0a ∉ kept) :
    0x0a ∉ line := by
  induction h with
  | nil => exact clean
  | blank white inner _ ih =>
      rw [List.mem_append]
      exact not_or.mpr ⟨not_mem_newline white inner, ih clean⟩
  | byte b _ ih =>
      rw [List.mem_cons, not_or] at clean ⊢
      exact ⟨clean.1, ih clean.2⟩

/-- Two spaced parts make a spaced line. -/
theorem Spaced.append {kept kept' line line' : List UInt8} (h : Spaced kept line) (h' : Spaced kept' line') :
    Spaced (kept ++ kept') (line ++ line') := by
  induction h with
  | nil => exact h'
  | blank white inner _ ih =>
      rw [List.append_assoc]
      exact .blank white inner ih
  | byte b _ ih => exact .byte b ih

/-- The end of a line is white space. -/
theorem LineEnd.spaced (ending : LineEnd) : Spaced [] ending.mark := by
  cases ending with
  | newline => exact .nil
  | carriageReturn => exact .blank (c := '\r') (by decide) (by decide) .nil

/-- White space at the front is removed. -/
theorem Spaced.removed_append {front : List UInt8} (h : Spaced [] front) (rest : List UInt8) :
    Blank.removed (front ++ rest) = Blank.removed rest := by
  generalize nothing : ([] : List UInt8) = kept at h
  induction h with
  | nil => rfl
  | blank white _ _ ih => rw [List.append_assoc, Blank.removed_character white, ih nothing]
  | byte => cases nothing

/-- **White space is removed from digits.** -/
theorem Spaced.removed_digits {digits line : List UInt8} (h : Spaced digits line)
    (readable : ∀ b ∈ digits, (HexText.digit? b).isSome = true) : Blank.removed line = digits := by
  induction h with
  | nil => rfl
  | blank white _ _ ih => rw [Blank.removed_character white, ih readable]
  | byte b _ ih =>
      obtain ⟨value, digit⟩ := Option.isSome_iff_exists.mp (readable b List.mem_cons_self)
      rw [Blank.removed_cons (HexText.width_digit digit _),
        ih fun a mem => readable a (List.mem_cons_of_mem _ mem)]

/-- **Every line is what is left of it, with white space.** The induction is on the length of the line: white
space takes up to three bytes at once. -/
theorem spaced_removed (line : List UInt8) (clean : 0x0a ∉ line) : Spaced (Blank.removed line) line := by
  by_cases white : Blank.width line = 0
  · cases line with
    | nil => exact .nil
    | cons b rest =>
        rw [Blank.removed_cons white]
        exact .byte b (spaced_removed rest (List.not_mem_of_not_mem_cons clean))
  -- White space is passed over as a character, not byte by byte; what is left is shorter.
  · obtain ⟨c, known, rest, rfl⟩ := Blank.exists_character white
    have shorter : rest.length < (String.utf8EncodeChar c ++ rest).length := by
      rw [List.length_append]
      exact Nat.lt_add_of_pos_left (List.length_pos_iff.mpr (Blank.encode_ne_nil known))
    rw [List.mem_append, not_or] at clean
    rw [Blank.removed_character known]
    refine .blank known ?_ (spaced_removed rest clean.2)
    rintro rfl
    exact clean.1 (by decide)
termination_by line.length

/-- Before the first byte that is kept there is only white space. -/
theorem Spaced.exists_front {b : UInt8} {kept line : List UInt8} (h : Spaced (b :: kept) line) :
    ∃ front behind, line = front ++ b :: behind ∧ Spaced [] front := by
  generalize whole : b :: kept = all at h
  induction h with
  | nil => cases whole
  | @blank _ _ c white inner _ ih =>
      obtain ⟨front, behind, rfl, spaced⟩ := ih whole
      exact ⟨String.utf8EncodeChar c ++ front, behind, (List.append_assoc ..).symm, .blank white inner spaced⟩
  | byte =>
      cases whole
      exact ⟨[], _, rfl, .nil⟩

/-! ### Lines that hold something -/

/-- The mark at the end of a line does not change what it holds. -/
theorem Holds.append_mark {held : Option (List UInt8)} {line : List UInt8} (h : Holds held line)
    (ending : LineEnd) :
    Holds held (line ++ ending.mark) := by
  cases h with
  | blank spaced => exact .blank (spaced.append ending.spaced)
  | comment spaced inner =>
      rw [List.append_assoc, List.cons_append]
      refine .comment spaced ?_
      rw [List.mem_append, not_or]
      exact ⟨inner, ending.spaced.not_mem List.not_mem_nil⟩
  | formula nonempty writes spaced =>
      have whole := spaced.append ending.spaced
      rw [List.append_nil] at whole
      exact .formula nonempty writes whole

/-- A line that holds something, or nothing, has no newline. -/
theorem Holds.not_mem {held : Option (List UInt8)} {line : List UInt8} (h : Holds held line) :
    0x0a ∉ line := by
  cases h with
  | blank spaced => exact spaced.not_mem List.not_mem_nil
  | comment spaced inner =>
      rw [List.mem_append, List.mem_cons, not_or, not_or]
      exact ⟨spaced.not_mem List.not_mem_nil, by decide, inner⟩
  | formula _ writes spaced =>
      refine spaced.not_mem fun mem => ?_
      have digit := (HexText.writes_iff.mp writes).1.2 _ mem
      exact absurd digit (by decide)

/-- **What a line holds is read off it**, and such a line is faulty only by its length. -/
theorem Holds.read {held : Option (List UInt8)} {line : List UInt8} (h : Holds held line) :
    (Faulty line → lineLimit ≤ line.length) ∧ ∀ number, held? number line = held.map (⟨number, ·⟩) := by
  -- A line that is passed over holds nothing, and can be faulty only by its length.
  have passed (skip : skipped line = true) :
      (Faulty line → lineLimit ≤ line.length) ∧ ∀ number, held? number line = none :=
    ⟨fun faulty => faulty.elim id fun kept => absurd (skip.symm.trans kept.1) (by decide),
      fun _ => if_pos skip⟩
  cases h with
  | blank spaced =>
      have removed := spaced.removed_append []
      rw [List.append_nil] at removed
      exact passed (skipped_iff.mpr (.inl removed))
  | comment spaced _ =>
      have removed := spaced.removed_append
      refine passed (skipped_iff.mpr (.inr ⟨_, (removed _).trans (Blank.removed_cons ?_)⟩))
      exact Blank.width_eq_zero (by decide) (by decide) _
  | @formula data digits _ nonempty writes spaced =>
      obtain ⟨readable, whole⟩ := HexText.writes_iff.mp writes
      have removed : Blank.removed line = digits := spaced.removed_digits readable.2
      have kept : skipped line = false := by
        refine Bool.eq_false_iff.mpr fun skip => ?_
        rcases skipped_iff.mp skip with nothing | ⟨rest, sign⟩
        · rw [← whole, ← removed, nothing] at nonempty
          exact nonempty rfl
        · have digit := readable.2 0x23 (removed ▸ sign ▸ List.mem_cons_self)
          exact absurd digit (by decide)
      refine ⟨fun faulty => faulty.elim id fun unread => absurd (removed ▸ readable) unread.2,
        fun number => ?_⟩
      rw [held?, kept, removed, whole]
      rfl

/-- **Every line that can be read holds something.** -/
theorem exists_holds {line : List UInt8} (clean : 0x0a ∉ line) (fine : ¬ Faulty line) :
    ∃ held, Holds held line := by
  have spaced := spaced_removed line clean
  -- It is blank, or a comment, or its digits can be read.
  by_cases skip : skipped line = true
  · rcases skipped_iff.mp skip with nothing | ⟨rest, sign⟩
    · exact ⟨none, .blank (nothing ▸ spaced)⟩
    · rw [sign] at spaced
      obtain ⟨front, behind, rfl, blank⟩ := spaced.exists_front
      exact ⟨none, .comment blank fun mem => clean (List.mem_append_right _ (List.mem_cons_of_mem _ mem))⟩
  · have kept : skipped line = false := Bool.eq_false_iff.mpr skip
    have readable : HexText.Readable (Blank.removed line) := by
      by_contra unreadable
      exact fine (.inr ⟨kept, unreadable⟩)
    have writes := HexText.writes_iff.mpr ⟨readable, rfl⟩
    refine ⟨some _, .formula (fun nothing => ?_) writes spaced⟩
    rw [nothing] at writes
    generalize left : Blank.removed line = digits at writes
    cases writes
    exact skip (skipped_iff.mpr (.inl left))

/-! ### Texts -/

/-- The first line ends at the first newline. -/
theorem lines_line {line : List UInt8} (clean : 0x0a ∉ line) (text : List UInt8) :
    lines (line ++ 0x0a :: text) = line :: lines text := by
  have pieces : (line ++ 0x0a :: text).splitOn 0x0a = line :: text.splitOn 0x0a := by
    have first : line.splitOn 0x0a = [line] := List.splitOn_eq_singleton clean
    rw [List.splitOn_eq_splitOnP] at first ⊢
    rw [List.splitOnP_append_cons _ _ (by rfl), first, List.singleton_append, List.splitOn_eq_splitOnP]
  have nonempty : text.splitOn 0x0a ≠ [] := by
    rw [List.splitOn_eq_splitOnP]
    exact List.splitOnP_ne_nil _ _
  rw [lines, lines, pieces, List.getLast?_cons_of_ne_nil nonempty]
  split
  · rw [List.dropLast_cons_of_ne_nil nonempty]
  · rfl

/-- The last line needs no newline. -/
theorem lines_last {line : List UInt8} (clean : 0x0a ∉ line) (there : line ≠ []) : lines line = [line] := by
  rw [lines, List.splitOn_eq_singleton clean]
  simp [there]

/-- The first line has the first number. -/
theorem numberedFrom_cons (number : Nat) (held : Option (List UInt8)) (helds : List (Option (List UInt8))) :
    numberedFrom number (held :: helds) = (held.map (⟨number, ·⟩)).toList ++
      numberedFrom (number + 1) helds := by
  rw [numberedFrom, List.zipIdx_cons, List.filterMap_cons]
  cases held with
  | none => rfl
  | some data => rfl

/-- **Written lines have no fault**, and hold what was written. -/
theorem Written.read {helds : List (Option (List UInt8))} {text : List UInt8} (h : Written helds text) :
    (∀ line ∈ lines text, ¬ Faulty line) ∧ ∀ number,
      heldFrom number (lines text) = numberedFrom number helds := by
  induction h with
  | nil => exact ⟨by decide, fun _ => rfl⟩
  | last holds there short =>
      obtain ⟨long, held⟩ := holds.read
      rw [lines_last holds.not_mem there]
      refine ⟨fun l mem faulty => ?_, fun number => ?_⟩
      · rw [List.mem_singleton.mp mem] at faulty
        exact absurd (long faulty) (Nat.not_le.mpr short)
      · rw [heldFrom_cons, numberedFrom_cons, held]
        rfl
  -- The mark at its end is white space, so that it belongs to the line.
  | @line held line helds text ending holds short _ ih =>
      have holds := holds.append_mark ending
      obtain ⟨long, held⟩ := holds.read
      rw [lines_line holds.not_mem]
      refine ⟨fun l mem faulty => ?_, fun number => ?_⟩
      · rcases List.mem_cons.mp mem with rfl | mem
        · exact absurd (long faulty) (Nat.not_le.mpr short)
        · exact ih.1 l mem faulty
      · rw [heldFrom_cons, numberedFrom_cons, held, ih.2]

/-- **Every text without fault is written.** The induction takes one line off the text. -/
theorem exists_written (text : List UInt8) (fine : ∀ line ∈ lines text, ¬ Faulty line) :
    ∃ helds, Written helds text := by
  by_cases more : 0x0a ∈ text
  -- The first line ends at the first newline, and the others are fewer bytes.
  · obtain ⟨line, rest, rfl, clean⟩ := List.eq_append_cons_of_mem more
    rw [lines_line clean, List.forall_mem_cons] at fine
    obtain ⟨held, holds⟩ := exists_holds clean fine.1
    have shorter : rest.length < (line ++ 0x0a :: rest).length := by
      rw [List.length_append, List.length_cons]
      omega
    obtain ⟨helds, others⟩ := exists_written rest fine.2
    have short : (line ++ LineEnd.newline.mark).length < lineLimit := by
      rw [LineEnd.mark, List.append_nil]
      exact Nat.not_le.mp fun long => fine.1 (.inl long)
    have written := Written.line .newline holds short others
    rw [LineEnd.mark, List.append_nil] at written
    exact ⟨_, written⟩
  · by_cases there : text = []
    · exact ⟨[], there ▸ .nil⟩
    · rw [lines_last more there, List.forall_mem_singleton] at fine
      obtain ⟨held, holds⟩ := exists_holds more fine
      exact ⟨[held], .last holds there (Nat.not_le.mp fun long => fine (.inl long))⟩
termination_by text.length

/-- **Reading undoes writing.** A text is read exactly when its lines are written ones, and then what is read
are the formulas that were written, each with the number of its line; nor does a line hold two things. -/
theorem parse_eq_ok_iff_written :
    (∀ text fs, parse text = .ok fs ↔ ∃ helds, Written helds text ∧ fs = numbered helds) ∧
      ∀ line held held', Holds held line → Holds held' line → held = held' := by
  refine ⟨fun text fs => ⟨fun h => ?_, ?_⟩, fun line held held' h h' => ?_⟩
  · have fine : ∀ line ∈ lines text, ¬ Faulty line := by
      intro line mem faulty
      obtain ⟨e, failed⟩ := parse_faulty ⟨line, mem, faulty⟩
      rw [failed] at h
      cases h
    obtain ⟨helds, written⟩ := exists_written text fine
    rw [parse_sound fine] at h
    exact ⟨helds, written, (Except.ok.inj h).symm.trans (written.read.2 1)⟩
  · rintro ⟨helds, written, rfl⟩
    rw [parse_sound written.read.1, formulas, written.read.2 1, numbered]
  -- What a line holds is read off it, so there is only one answer.
  · have same := (h.read.2 0).symm.trans (h'.read.2 0)
    exact Option.map_injective (fun data data' same => congrArg FormulaLine.data same) same

/-- A comment behind a space, an empty line, a byte with a no-break space between its digits, and digits of
both cases without a newline. -/
theorem parse_eq_ok_iff_written_mixed :
    parse [0x20, 0x23, 0x41, 0x0d, 0x0a, 0x0a, 0x30, 0xc2, 0xa0, 0x35, 0x0d, 0x0a, 0x66, 0x46] =
      .ok [⟨3, [0x05]⟩, ⟨4, [0xff]⟩] := by
  have comment : Holds none ([0x20] ++ 0x23 :: [0x41]) :=
    .comment (.blank (c := ' ') (by decide) (by decide) .nil) (by decide)
  have spaced : Holds (some [0x05]) [0x30, 0xc2, 0xa0, 0x35] :=
    .formula (by decide) (.byte (by decide) (by decide) .nil)
      (.byte _ (.blank (c := Char.ofNat 0xa0) (by decide) (by decide) (.byte _ .nil)))
  have cases : Holds (some [0xff]) [0x66, 0x46] :=
    .formula (by decide) (.byte (by decide) (by decide) .nil) (.byte _ (.byte _ .nil))
  have written := Written.line .carriageReturn comment (by decide) <|
    .line .newline (.blank .nil) (by decide) <|
    .line .carriageReturn spaced (by decide) <| .last cases (by decide) (by decide)
  exact (parse_eq_ok_iff_written.1 _ _).mpr ⟨_, written, rfl⟩

end FormulaFile

end SheetFormula
