import Mathlib.Data.List.Induction
import SheetFormula.Render

/-!
# Columns and their names

Names of columns number the columns: read as a number without a zero digit, `A` for 1 up to `Z` for 26, a name
tells its column, and every word of at most eight capital letters is a name.

* **`ColumnName.letters_of_lt`**, **`ColumnName.letters_of_le`** — the letters of a column are those of the
  column before its last letter, and that letter;
* **`ColumnName.number`** — the number of a word, with `ColumnName.number_letters` and
  `ColumnName.letters_number`, the two ways round;
* **`ColumnName.room`**, **`ColumnName.length_letters_le_iff`** — how many columns some letters are enough
  for, and how many letters a column takes;
* **`ColumnName.Before`** — shorter words come first, and words of one length in alphabetical order;
* **`ColumnName.name?_numbers`** — the names of columns are a numbering that keeps the order.
-/

namespace SheetFormula

namespace ColumnName

/-! ## Letters -/

/-- **A capital letter.** -/
def Capital (c : Char) : Prop := 'A' ≤ c ∧ c ≤ 'Z'

/-- Whether a character is a capital can be decided. -/
instance : DecidablePred Capital := fun _ => instDecidableAnd

/-- **Value of a letter**: `A` is 1 and `Z` is 26. -/
def digit (c : Char) : Nat := c.toNat - 'A'.toNat + 1

/-- The letters of the digits below 26 are capital letters, each with the next value. -/
theorem letter_spec : ∀ d < 26, Capital (letter d) ∧ digit (letter d) = d + 1 := by
  decide

/-- A capital letter stands as far behind the first one as its value says. -/
theorem toNat_of_capital {c : Char} (h : Capital c) : c.toNat = 'A'.toNat + (digit c - 1) := by
  have low : 'A'.toNat ≤ c.toNat := h.1
  rw [digit, Nat.add_sub_cancel]
  omega

/-- **Every capital letter is the letter of its value.** -/
theorem letter_digit {c : Char} (h : Capital c) : digit c - 1 < 26 ∧ letter (digit c - 1) = c := by
  have value := toNat_of_capital h
  have high : c.toNat ≤ 'Z'.toNat := h.2
  have ends : 'A'.toNat = 65 ∧ 'Z'.toNat = 90 := by decide
  refine ⟨by omega, ?_⟩
  rw [letter, ← value, Char.ofNat_toNat]

/-- The letters come in the order of their digits. -/
theorem letter_lt_letter {d e : Nat} (h : d < e) (small : e < 26) : letter d < letter e := by
  obtain ⟨capital, value⟩ := letter_spec d (by omega)
  obtain ⟨capital', value'⟩ := letter_spec e small
  have lt : (letter d).toNat < (letter e).toNat := by
    rw [toNat_of_capital capital, toNat_of_capital capital', value, value']
    omega
  exact lt

/-! ## Letters of a column -/

/-- What stands behind the letters of a column stays there. -/
theorem lettersOnto_append (fuel column : Nat) (tail rest : List Char) :
    lettersOnto fuel column (tail ++ rest) = lettersOnto fuel column tail ++ rest := by
  induction fuel generalizing column tail with
  | zero => rfl
  | succ fuel ih =>
      rw [lettersOnto, lettersOnto]
      by_cases single : column < 26
      · rw [if_pos single, if_pos single]
        rfl
      · rw [if_neg single, if_neg single]
        exact ih (column / 26 - 1) (letter (column % 26) :: tail)

/-- **Fuel that is enough does not show**: every step goes on with a smaller column. -/
theorem lettersOnto_fuel {fuel fuel' column : Nat} (enough : column ≤ fuel) (enough' : column ≤ fuel')
    (tail : List Char) :
    lettersOnto fuel column tail = lettersOnto fuel' column tail := by
  -- Only the column `0` may be left without fuel, and there the first branch would be taken anyway.
  induction fuel generalizing fuel' column tail with
  | zero =>
      obtain rfl : column = 0 := by omega
      cases fuel' with
      | zero => rfl
      | succ fuel' => rfl
  | succ fuel ih =>
      cases fuel' with
      | zero =>
          obtain rfl : column = 0 := by omega
          rfl
      | succ fuel' =>
          rw [lettersOnto, lettersOnto]
          by_cases single : column < 26
          · rw [if_pos single, if_pos single]
          · rw [if_neg single, if_neg single]
            exact ih (by omega) (by omega) _

/-- **One letter** names the columns below 26. -/
theorem letters_of_lt {column : Nat} (h : column < 26) : letters column = [letter column] := by
  rw [letters, lettersOnto_fuel (Nat.le_refl column) (Nat.le_succ column), lettersOnto, if_pos h]

/-- **The last letter** is the remainder, and the letters before it name the column before it. -/
theorem letters_of_le {column : Nat} (h : 26 ≤ column) :
    letters column = letters (column / 26 - 1) ++ [letter (column % 26)] := by
  rw [letters, lettersOnto_fuel (Nat.le_refl column) (Nat.le_succ column), lettersOnto, if_neg (by omega),
    ← List.nil_append [letter (column % 26)], lettersOnto_append, letters]
  congr 1
  exact lettersOnto_fuel (by omega) (Nat.le_refl _) []

/-- Every column has a letter. -/
theorem letters_ne_nil (column : Nat) : letters column ≠ [] := by
  by_cases single : column < 26
  · rw [letters_of_lt single]
    exact List.cons_ne_nil _ _
  · rw [letters_of_le (Nat.le_of_not_lt single)]
    exact List.append_ne_nil_of_right_ne_nil _ (List.cons_ne_nil _ _)

/-- **The letters of a column are capital letters.** -/
theorem capital_of_mem_letters (column : Nat) : ∀ c ∈ letters column, Capital c := by
  induction column using Nat.strongRecOn with
  | _ column ih =>
    intro c mem
    by_cases single : column < 26
    · rw [letters_of_lt single, List.mem_singleton] at mem
      exact mem ▸ (letter_spec column single).1
    · rw [letters_of_le (Nat.le_of_not_lt single), List.mem_append, List.mem_singleton] at mem
      rcases mem with before | rfl
      · exact ih (column / 26 - 1) (by omega) c before
      · exact (letter_spec _ (Nat.mod_lt _ (by decide))).1

/-! ## Numbers of words -/

/-- **Number of a word**: base 26 with the digits 1 to 26, most significant first. -/
def number (word : List Char) : Nat := word.foldl (fun n c => 26 * n + digit c) 0

/-- The empty word is zero. -/
@[simp] theorem number_nil : number [] = 0 := rfl

/-- One more letter counts up to twenty-six for each step of those before it. -/
@[simp] theorem number_concat (word : List Char) (c : Char) :
    number (word ++ [c]) = 26 * number word + digit c := by
  rw [number, List.foldl_append]
  rfl

/-- A word with a letter is not zero. -/
theorem number_pos {word : List Char} (h : word ≠ []) : 0 < number word := by
  rcases List.eq_nil_or_concat word with rfl | ⟨front, c, rfl⟩
  · exact absurd rfl h
  · rw [List.concat_eq_append, number_concat, digit]
    omega

/-- **The name of a column tells the column**: counted from one, it is the number of its letters. -/
theorem number_letters (column : Nat) : number (letters column) = column + 1 := by
  induction column using Nat.strongRecOn with
  | _ column ih =>
    by_cases single : column < 26
    · rw [letters_of_lt single, ← List.nil_append [letter column], number_concat, number_nil,
        (letter_spec column single).2]
      omega
    · -- The carry: the letters before the last one count from one as well.
      rw [letters_of_le (Nat.le_of_not_lt single), number_concat, ih (column / 26 - 1) (by omega),
        (letter_spec _ (Nat.mod_lt _ (by decide))).2]
      omega

/-- **Every word of capital letters names the column of its number.** -/
theorem letters_number {word : List Char} (nonempty : word ≠ []) (capital : ∀ c ∈ word, Capital c) :
    letters (number word - 1) = word := by
  -- By the last letter: it is the remainder, and the word before it is empty or names the quotient.
  induction word using List.reverseRecOn with
  | nil => exact absurd rfl nonempty
  | append_singleton front c ih =>
      obtain ⟨small, back⟩ := letter_digit (capital c (by simp))
      have pos : 0 < digit c := Nat.succ_pos _
      rw [number_concat]
      by_cases first : front = []
      · subst first
        rw [number_nil, Nat.mul_zero, Nat.zero_add, letters_of_lt small, back, List.nil_append]
      · have many := number_pos first
        have quotient : (26 * number front + digit c - 1) / 26 - 1 = number front - 1 := by omega
        have remainder : (26 * number front + digit c - 1) % 26 = digit c - 1 := by omega
        rw [letters_of_le (by omega), quotient, remainder, back,
          ih first fun d mem => capital d (List.mem_append_left _ mem)]

/-! ## Lengths -/

/-- **Room of some letters**: how many columns have names of at most `k` letters. -/
def room : Nat → Nat
  | 0 => 0
  | k + 1 => 26 * (room k + 1)

/-- **How many letters a column takes**: at most as many as there is room for it. -/
theorem length_letters_le_iff (k column : Nat) : (letters column).length ≤ k ↔ column < room k := by
  induction k generalizing column with
  | zero =>
      have some := List.length_pos_iff.mpr (letters_ne_nil column)
      rw [room]
      omega
  | succ k ih =>
      by_cases single : column < 26
      · rw [letters_of_lt single, room, List.length_singleton]
        omega
      · -- The column has room when, with one letter less, the one before its last letter has.
        rw [letters_of_le (Nat.le_of_not_lt single), List.length_append, List.length_singleton,
          Nat.add_le_add_iff_right, ih, room]
        omega

/-- The letters of a larger column are no fewer. -/
theorem length_letters_mono {column column' : Nat} (h : column ≤ column') :
    (letters column).length ≤ (letters column').length := by
  rw [length_letters_le_iff]
  exact Nat.lt_of_le_of_lt h ((length_letters_le_iff _ _).mp (Nat.le_refl _))

/-! ## Order -/

/-- Words that differ keep their order with anything behind them, when they are equally long. -/
theorem append_lt_append {word word' : List Char} (h : word < word') (length : word.length = word'.length)
    (rest rest' : List Char) : word ++ rest < word' ++ rest' := by
  induction word generalizing word' with
  | nil =>
      obtain rfl : word' = [] := List.length_eq_zero_iff.mp length.symm
      exact absurd h (List.lt_irrefl [])
  | cons c word ih =>
      cases word' with
      | nil => cases length
      | cons c' word' =>
          rw [List.cons_append, List.cons_append, List.cons_lt_cons_iff]
          rcases List.cons_lt_cons_iff.mp h with first | ⟨same, later⟩
          · exact .inl first
          · exact .inr ⟨same, ih later (Nat.succ.inj length)⟩

/-- **Among words of one length** the columns follow the alphabet. -/
theorem letters_lt_letters {column column' : Nat} (h : column < column')
    (length : (letters column).length = (letters column').length) : letters column < letters column' := by
  induction column' using Nat.strongRecOn generalizing column with
  | _ column' ih =>
    by_cases single' : column' < 26
    · rw [letters_of_lt single', letters_of_lt (Nat.lt_trans h single'), List.cons_lt_cons_iff]
      exact .inl (letter_lt_letter h single')
    · rw [letters_of_le (Nat.le_of_not_lt single'), List.length_append, List.length_singleton] at length
      by_cases single : column < 26
      · -- One letter against at least two.
        have more := List.length_pos_iff.mpr (letters_ne_nil (column' / 26 - 1))
        rw [letters_of_lt single, List.length_singleton] at length
        omega
      · rw [letters_of_le (Nat.le_of_not_lt single), List.length_append, List.length_singleton,
          Nat.add_right_cancel_iff] at length
        rw [letters_of_le (Nat.le_of_not_lt single), letters_of_le (Nat.le_of_not_lt single')]
        -- The letters before the last ones decide, unless they are the same.
        by_cases before : column / 26 - 1 < column' / 26 - 1
        · exact append_lt_append (ih _ (by omega) before length) length _ _
        · have same : column / 26 - 1 = column' / 26 - 1 := by omega
          have last : letter (column % 26) < letter (column' % 26) :=
            letter_lt_letter (by omega) (Nat.mod_lt _ (by decide))
          rw [same]
          exact List.append_left_lt (List.cons_lt_cons_iff.mpr (.inl last))

/-- **Order of names**: shorter ones first, and those of one length in alphabetical order. -/
def Before (name name' : String) : Prop :=
  name.length < name'.length ∨ name.length = name'.length ∧ name < name'

/-- **The order of the columns** is that of their names. -/
theorem letters_before {column column' : Nat} (h : column < column') :
    Before (String.ofList (letters column)) (String.ofList (letters column')) := by
  rw [Before, String.length_ofList, String.length_ofList, String.lt_iff, String.toList_ofList,
    String.toList_ofList]
  rcases Nat.lt_or_eq_of_le (length_letters_mono (Nat.le_of_lt h)) with shorter | same
  · exact .inl shorter
  · exact .inr ⟨same, letters_lt_letters h same⟩

/-! ## Names -/

/-- **A word that can be a name**: one to eight capital letters. -/
structure IsName (name : String) : Prop where
  /-- There is a letter. -/
  nonempty : name.toList ≠ []
  /-- There are at most eight. -/
  short : name.length ≤ maxLetters
  /-- All of them are capital letters. -/
  capital : ∀ c ∈ name.toList, Capital c

/-- So many columns have a name of at most eight letters. -/
theorem room_eq : room maxLetters = 217180147158 := by decide

/-- **A column that is not negative** has the word of its letters for a name, when there is room for it. -/
theorem name?_of_nonneg {column : Int64} (h : 0 ≤ column) :
    name? column =
      if column.toInt.toNat < room maxLetters then some (String.ofList (letters column.toInt.toNat))
        else none := by
  rw [name?, if_neg (Int64.not_lt.mpr h)]
  simp only [length_letters_le_iff]

/-- Columns that are not negative, as numbers. -/
theorem toInt_of_nonneg {column : Int64} (h : 0 ≤ column) : (column.toInt.toNat : Int) = column.toInt := by
  have zero : (0 : Int64).toInt = 0 := rfl
  rw [Int64.le_iff_toInt_le, zero] at h
  exact Int.toNat_of_nonneg h

/-- The last column with a name is the last one that there is room for. -/
theorem le_last_iff {column : Int64} (h : 0 ≤ column) :
    column ≤ 217180147157 ↔ column.toInt.toNat < room maxLetters := by
  have last : (217180147157 : Int64).toInt = 217180147157 := by decide
  have value := toInt_of_nonneg h
  rw [Int64.le_iff_toInt_le, last, room_eq]
  omega

/-- **A column with a name is named by its letters.** -/
theorem toList_of_name? {column : Int64} (h : 0 ≤ column) {name : String} (named : name? column = some name) :
    name.toList = letters column.toInt.toNat := by
  rw [name?_of_nonneg h] at named
  split at named
  · rw [← Option.some.inj named, String.toList_ofList]
  · cases named

/-- **Every word that can be a name is the name of a column.** -/
theorem IsName.exists_column {name : String} (h : IsName name) :
    ∃ column : Int64, (0 ≤ column ∧ column ≤ 217180147157) ∧ name? column = some name := by
  have back := letters_number h.nonempty h.capital
  have fits : number name.toList - 1 < room maxLetters := by
    rw [← length_letters_le_iff, back, String.length_toList]
    exact h.short
  -- Eight letters stay far below the largest word, so the number is not changed by making it one.
  have small := fits
  rw [room_eq] at small
  have value : (Int64.ofNat (number name.toList - 1)).toInt = (number name.toList - 1 : Nat) :=
    Int64.toInt_ofNat_of_lt (by omega)
  have nonneg : 0 ≤ Int64.ofNat (number name.toList - 1) := by
    have zero : (0 : Int64).toInt = 0 := rfl
    rw [Int64.le_iff_toInt_le, value, zero]
    omega
  refine ⟨Int64.ofNat (number name.toList - 1), ⟨nonneg, (le_last_iff nonneg).mpr ?_⟩, ?_⟩
  · rwa [value, Int.toNat_natCast]
  · rw [name?_of_nonneg nonneg, value, Int.toNat_natCast, if_pos fits, back, String.ofList_toList]

/-- **A name belongs to one column only.** -/
theorem eq_of_name? {column column' : Int64} (h : 0 ≤ column) (h' : 0 ≤ column') {name : String}
    (named : name? column = some name) (named' : name? column' = some name) : column = column' := by
  have same : letters column.toInt.toNat = letters column'.toInt.toNat :=
    (toList_of_name? h named).symm.trans (toList_of_name? h' named')
  have numbers := congrArg number same
  rw [number_letters, number_letters] at numbers
  have value := toInt_of_nonneg h
  have value' := toInt_of_nonneg h'
  exact Int64.toInt_inj.mp (by omega)

/-- **Names number the columns.** A column that is not behind `ZZZZZZZZ` has a name of one to eight capital
letters, and read with the values 1 to 26 in base 26 it is the column counted from one. Each word of one to
eight capital letters is the name of exactly one of these columns. A later column has a later name, where
shorter names come first and names of one length stand in alphabetical order. A column behind `ZZZZZZZZ` takes
more than eight letters and has no name. -/
theorem name?_numbers :
    (∀ column : Int64, 0 ≤ column → column ≤ 217180147157 →
        ∃ name, name? column = some name ∧ IsName name ∧ (number name.toList : Int) = column.toInt + 1) ∧
      (∀ name, IsName name → ∃! column : Int64, (0 ≤ column ∧ column ≤ 217180147157) ∧
        name? column = some name) ∧
      (∀ column column' : Int64, 0 ≤ column → column < column' → column' ≤ 217180147157 →
        ∃ name name', name? column = some name ∧ name? column' = some name' ∧ Before name name') ∧
      ∀ column : Int64, 217180147157 < column →
        name? column = none ∧ maxLetters < (letters column.toInt.toNat).length := by
  -- Up to the last column, the name is the letters of the column.
  have named : ∀ column : Int64, 0 ≤ column → column ≤ 217180147157 →
      name? column = some (String.ofList (letters column.toInt.toNat)) := by
    intro column nonneg last
    rw [name?_of_nonneg nonneg, if_pos ((le_last_iff nonneg).mp last)]
  refine ⟨?_, ?_, ?_, ?_⟩
  · intro column nonneg last
    refine ⟨_, named column nonneg last, ⟨?_, ?_, ?_⟩, ?_⟩
    · rw [String.toList_ofList]
      exact letters_ne_nil _
    · rw [String.length_ofList, length_letters_le_iff]
      exact (le_last_iff nonneg).mp last
    · rw [String.toList_ofList]
      exact capital_of_mem_letters _
    · rw [String.toList_ofList, number_letters, Int.natCast_succ, toInt_of_nonneg nonneg]
  · intro name isName
    obtain ⟨column, range, found⟩ := isName.exists_column
    refine ⟨column, ⟨range, found⟩, ?_⟩
    rintro column' ⟨range', found'⟩
    exact eq_of_name? range'.1 range.1 found' found
  · intro column column' nonneg later last
    have nonneg' : 0 ≤ column' := Int64.le_trans nonneg (Int64.le_of_lt later)
    have values : column.toInt.toNat < column'.toInt.toNat := by
      have := toInt_of_nonneg nonneg
      have := toInt_of_nonneg nonneg'
      have := Int64.lt_iff_toInt_lt.mp later
      omega
    exact ⟨_, _, named column nonneg (Int64.le_trans (Int64.le_of_lt later) last), named column' nonneg' last,
      letters_before values⟩
  · intro column behind
    have nonneg : 0 ≤ column := Int64.le_trans (by decide) (Int64.le_of_lt behind)
    have full : ¬ column.toInt.toNat < room maxLetters := fun fits =>
      Int64.not_lt.mpr ((le_last_iff nonneg).mpr fits) behind
    refine ⟨?_, ?_⟩
    · rw [name?_of_nonneg nonneg, if_neg full]
    · rwa [← Nat.not_le, length_letters_le_iff]

/-- The last name of two letters and the first of three, the last one of all, a word with its column, and the
column behind all names. -/
theorem name?_numbers_boundaries :
    (name? 701 = some "ZZ" ∧ name? 702 = some "AAA" ∧ Before "ZZ" "AAA") ∧
      (name? 217180147157 = some "ZZZZZZZZ" ∧ (number "ZZZZZZZZ".toList : Int) = 217180147158) ∧
      (∃! column : Int64, (0 ≤ column ∧ column ≤ 217180147157) ∧ name? column = some "AZ") ∧
      name? 217180147158 = none := by
  obtain ⟨numbers, words, order, behind⟩ := name?_numbers
  have two : name? 701 = some "ZZ" := by decide +kernel
  have three : name? 702 = some "AAA" := by decide +kernel
  have eight : name? 217180147157 = some "ZZZZZZZZ" := by decide +kernel
  obtain ⟨_, _, found, found', before⟩ := order 701 702 (by decide) (by decide) (by decide)
  obtain ⟨_, last, -, value⟩ := numbers 217180147157 (by decide) (by decide)
  have capital : Capital 'A' ∧ Capital 'Z' := by decide
  obtain rfl := Option.some.inj (two.symm.trans found)
  obtain rfl := Option.some.inj (three.symm.trans found')
  obtain rfl := Option.some.inj (eight.symm.trans last)
  exact ⟨⟨two, three, before⟩, ⟨eight, value⟩, words "AZ" ⟨by decide, by decide, by simpa using capital⟩,
    (behind 217180147158 (by decide)).1⟩

end ColumnName

end SheetFormula
