import Mathlib.Tactic.SplitIfs
import SheetFormula.Proofs.Flattening

/-!
# The shape of instruction lists

What every list that the decoder composes looks like when it is read from left to right:

* **`WellShaped`** — brackets match, function names stand before brackets, separators stand inside of them,
  and operands are never next to each other;
* **`Sign`**, **`Phase`**, **`scan`** — a reader that keeps the bracket depth and what may come next;
* **`Scans`** — a list is read as one operand from any depth. Unlike `WellShaped` this is kept by composition
  (`Reduction.write_scans`), since it says what a list may stand behind;
* **`Scans.wellShaped`** — what is read as one operand is well-shaped.
-/

namespace SheetFormula

/-! ## Well-shaped lists -/

/-- **Bracket depth** behind some instructions: opening brackets less closing ones. -/
def bracketDepth (list : List Instruction) : Int :=
  (list.count (.operator "(") : Int) - list.count (.operator ")")

namespace Instruction

/-- **An operand may end** with this instruction: an operand or a closing bracket. -/
def ends (i : Instruction) : Bool := i.isOperand || i = .operator ")"

/-- **An operand may start** with this instruction, signs apart: an operand, a function name or an opening
bracket. -/
def starts : Instruction → Bool
  | .function _ => true
  | i => i.isOperand || i = .operator "("

end Instruction

/-- **A well-shaped list**. -/
structure WellShaped (list : List Instruction) : Prop where
  /-- There is at least one instruction. -/
  nonempty : list ≠ []
  /-- No bracket is closed that was not opened. -/
  nonnegative : ∀ front, front <+: list → 0 ≤ bracketDepth front
  /-- Every bracket is closed. -/
  balanced : bracketDepth list = 0
  /-- A function name stands before an opening bracket. -/
  called : ∀ front name behind, list = front ++ .function name :: behind →
    behind.head? = some (.operator "(")
  /-- A separator stands in brackets. -/
  separated : ∀ front behind, list = front ++ .operator ";" :: behind → 1 ≤ bracketDepth front
  /-- Where an operand may end, none starts. -/
  apart : ∀ front a b behind, list = front ++ a :: b :: behind → a.ends = true → b.starts = false
  /-- The last instruction ends an operand. -/
  ending : ∃ i, list.getLast? = some i ∧ i.ends = true
  /-- Every instruction is of a listed kind. -/
  listed : ∀ i ∈ list, ∀ kind, i ≠ .unlisted kind

/-! ## Reading from left to right -/

/-- **Sign of an instruction**: what it does to the reader. -/
inductive Sign where
  /-- A whole operand. -/
  | operand
  /-- The name of a function. -/
  | function
  /-- The opening bracket. -/
  | opening
  /-- The closing bracket. -/
  | closing
  /-- The separator of arguments. -/
  | separator
  /-- Any other operator. -/
  | operator
  deriving DecidableEq, Repr

/-- **Sign of an instruction** of a listed kind. -/
def Instruction.sign? : Instruction → Option Sign
  | .operator symbol =>
    if symbol = "(" then some .opening
    else if symbol = ")" then some .closing
    else if symbol = ";" then some .separator
    else some .operator
  | .function _ => some .function
  | .cell _ | .range _ _ | .number _ | .integer _ | .text _ => some .operand
  | .unlisted _ => none

/-- **Phase of reading**: what may come next. -/
inductive Phase where
  /-- An operand. -/
  | expecting
  /-- An operand, or the end of brackets without one. -/
  | opened
  /-- The brackets of a function. -/
  | named
  /-- Anything that goes on behind an operand. -/
  | complete
  deriving DecidableEq, Repr

/-- **Read a sign** at a depth, in a phase. -/
def Sign.read (depth : Nat) : Phase → Sign → Option (Nat × Phase)
  | .expecting, .operand | .opened, .operand => some (depth, .complete)
  | .expecting, .function | .opened, .function => some (depth, .named)
  | .expecting, .opening | .opened, .opening | .named, .opening => some (depth + 1, .opened)
  | .opened, .closing | .complete, .closing => if depth = 0 then none else some (depth - 1, .complete)
  | .complete, .separator => if depth = 0 then none else some (depth, .expecting)
  | .expecting, .operator | .opened, .operator | .complete, .operator => some (depth, .expecting)
  | _, _ => none

/-- **Read an instruction**. -/
def scanOne (s : Nat × Phase) (i : Instruction) : Option (Nat × Phase) := i.sign?.bind (Sign.read s.1 s.2)

/-- **Read instructions** from left to right. -/
def scan : Nat × Phase → List Instruction → Option (Nat × Phase)
  | s, [] => some s
  | s, i :: list => (scanOne s i).bind (scan · list)

/-- A list is scanned from where the scan of the list before it ends. -/
theorem scan_append (s : Nat × Phase) (a b : List Instruction) :
    scan s (a ++ b) = (scan s a).bind (scan · b) := by
  induction a generalizing s with
  | nil => rfl
  | cons i a ih =>
      rw [List.cons_append, scan, scan, Option.bind_assoc]
      exact congrArg _ (funext ih)

/-- A list is read up to any place, and from there on. -/
theorem scan_split {s t : Nat × Phase} {a b : List Instruction} (h : scan s (a ++ b) = some t) :
    ∃ u, scan s a = some u ∧ scan u b = some t := by
  rw [scan_append, Option.bind_eq_some_iff] at h
  exact h

/-- The first instruction is read, and then the others. -/
theorem scan_cons {s t : Nat × Phase} {i : Instruction} {list : List Instruction}
    (h : scan s (i :: list) = some t) : ∃ u, scanOne s i = some u ∧ scan u list = some t := by
  rw [scan, Option.bind_eq_some_iff] at h
  exact h

/-! ## Reading operands -/

/-- **A list is read as one operand** from any depth, where one is expected. -/
def Scans (list : List Instruction) : Prop :=
  ∀ depth phase, phase = .expecting ∨ phase = .opened → scan (depth, phase) list = some (depth, .complete)

/-- A single operand. -/
theorem scans_operand {i : Instruction} (h : i.isOperand = true) : Scans [i] := by
  have sign : i.sign? = some .operand := by cases i <;> simp_all [Instruction.isOperand, Instruction.sign?]
  rintro depth _ (rfl | rfl) <;> simp [scan, scanOne, sign, Sign.read]

/-- **A sign in front** of an operand. -/
theorem Scans.prefixed {text : String} (sign : (Instruction.operator text).sign? = some .operator)
    {a : List Instruction} (h : Scans a) : Scans (.operator text :: a) := by
  have rest := fun depth => h depth .expecting (.inl rfl)
  rintro depth _ (rfl | rfl) <;> simp [scan, scanOne, sign, Sign.read, rest]

/-- **An operator between** two operands. -/
theorem Scans.joined {text : String} (sign : (Instruction.operator text).sign? = some .operator)
    {a b : List Instruction} (ha : Scans a) (hb : Scans b) : Scans (a ++ .operator text :: b) := by
  intro depth phase start
  rw [scan_append, ha depth phase start, Option.bind_some]
  simp [scan, scanOne, sign, Sign.read, hb depth .expecting (.inl rfl)]

/-- Arguments with separators between them are read behind an opening bracket, up to the closing one. -/
theorem scan_arguments {args : List (List Instruction)} (h : ∀ a ∈ args, Scans a) {phase : Phase}
    (start : args ≠ [] ∧ phase = .expecting ∨ phase = .opened) (depth : Nat) :
    scan (depth + 1, phase) (List.intercalate [.operator ";"] args ++ [.operator ")"]) =
      some (depth, .complete) := by
  -- Only the bracket that was opened last may be closed at once: behind a separator an operand has to follow.
  induction args generalizing phase with
  | nil =>
      obtain ⟨some, -⟩ | rfl := start
      · exact absurd rfl some
      · rfl
  | cons a args ih =>
      have first := h a List.mem_cons_self (depth + 1) phase (start.imp And.right id)
      cases args with
      | nil =>
          rw [List.intercalate_singleton, scan_append, first, Option.bind_some]
          rfl
      | cons b args =>
          have others := ih (fun c hc => h c (List.mem_cons_of_mem _ hc)) (.inl ⟨by simp, rfl⟩)
          rw [List.intercalate_cons_cons, List.append_assoc, List.append_assoc, scan_append, first,
            Option.bind_some]
          exact others

/-- **Operands in brackets** are read as one operand, also behind a function name. -/
theorem scan_bracketed {args : List (List Instruction)} (h : ∀ a ∈ args, Scans a) {phase : Phase}
    (start : phase ≠ .complete) (depth : Nat) :
    scan (depth, phase) (bracketed args) = some (depth, .complete) := by
  have inside := scan_arguments h (.inr rfl) depth
  have opening : scanOne (depth, phase) (.operator "(") = some (depth + 1, .opened) := by
    cases phase with
    | complete => exact absurd rfl start
    | expecting => rfl
    | opened => rfl
    | named => rfl
  rw [bracketed, List.cons_append, scan, opening, Option.bind_some, inside]

/-- Operands in brackets are read as one operand. -/
theorem scans_bracketed {args : List (List Instruction)} (h : ∀ a ∈ args, Scans a) :
    Scans (bracketed args) := by
  rintro depth _ (rfl | rfl) <;> exact scan_bracketed h (by simp) depth

/-- **A call** is read as one operand. -/
theorem scans_call (name : String) {args : List (List Instruction)} (h : ∀ a ∈ args, Scans a) :
    Scans (.function name :: bracketed args) := by
  have brackets := fun depth => scan_bracketed h (show Phase.named ≠ .complete by simp) depth
  rintro depth _ (rfl | rfl)
  · exact brackets depth
  · exact brackets depth

/-- **Operators are no brackets**: what stands before or between operands is neither a bracket nor a
separator. -/
theorem Opcode.sign_of_manner : ∀ o ∈ Opcode.table, o.manner = .before ∨ o.manner = .between →
    (Instruction.operator o.name).sign? = some .operator := by
  decide +kernel

/-- **Written forms are read as one operand** when their operands are. -/
theorem Reduction.write_scans {r : Reduction} {args : List (List Instruction)}
    (length : args.length = r.operands) (h : ∀ a ∈ args, Scans a) : Scans (r.write args) := by
  have sign := Opcode.sign_of_manner _ r.takes.1
  have minus : (Instruction.operator "-").sign? = some .operator := by decide
  have zero : Scans [.integer 0] := scans_operand rfl
  -- Each manner of writing has a lemma about scanning what it makes.
  cases fits length with
  | before manner a =>
      rw [write_before manner]
      exact (h a List.mem_cons_self).prefixed (sign (.inl manner))
  | between manner a b =>
      rw [write_between manner]
      exact (h a List.mem_cons_self).joined (sign (.inr manner)) (h b (by simp))
  | grouped manner a =>
      rw [write_grouped manner]
      exact scans_bracketed h
  | term manner pmt rate fv =>
      rw [write_term manner]
      simp only [List.forall_mem_cons] at h
      obtain ⟨hpmt, hrate, hfv, -⟩ := h
      refine scans_call _ ?_
      simp only [List.forall_mem_cons]
      exact ⟨hrate, hpmt.prefixed minus, zero, hfv, by simp⟩
  | compoundTerm manner rate fv pv =>
      rw [write_compoundTerm manner]
      simp only [List.forall_mem_cons] at h
      obtain ⟨hrate, hfv, hpv, -⟩ := h
      refine scans_call _ ?_
      simp only [List.forall_mem_cons]
      exact ⟨hrate, zero, hpv.prefixed minus, hfv, by simp⟩
  | call manner args =>
      rw [write_call manner]
      exact scans_call _ h

/-! ## What reading checks -/

/-- **Signs tell instructions apart** as far as the shape of a list does. -/
theorem Instruction.sign_spec {i : Instruction} {sign : Sign} (h : i.sign? = some sign) :
    (sign = .opening ↔ i = .operator "(") ∧ (sign = .closing ↔ i = .operator ")") ∧
      (i.ends = true ↔ sign = .operand ∨ sign = .closing) ∧
      (i.starts = true ↔ sign = .operand ∨ sign = .function ∨ sign = .opening) := by
  cases i with
  | operator symbol =>
      -- Brackets and separators have signs of their own.
      by_cases opening : symbol = "("
      · subst opening
        cases h
        decide
      by_cases closing : symbol = ")"
      · subst closing
        cases h
        decide
      by_cases separator : symbol = ";"
      · subst separator
        cases h
        decide
      · rw [sign?, if_neg opening, if_neg closing, if_neg separator] at h
        cases h
        simp [ends, starts, isOperand, opening, closing]
  | unlisted kind => cases h
  | _ =>
      cases h
      simp [ends, starts, isOperand]

/-- **What reading a sign can do**, by what the sign is. -/
theorem Sign.read_spec {sign : Sign} {depth : Nat} {phase : Phase} {t : Nat × Phase}
    (h : sign.read depth phase = some t) :
    (t.1 : Int) = depth + (if sign = .opening then 1 else 0) - (if sign = .closing then 1 else 0) ∧
      (t.2 = .complete ↔ sign = .operand ∨ sign = .closing) ∧
      (phase = .complete → ¬ (sign = .operand ∨ sign = .function ∨ sign = .opening)) ∧
      (phase = .named → sign = .opening) ∧ (sign = .function → t.2 = .named) ∧
      (sign = .separator → 1 ≤ depth) := by
  cases phase <;> cases sign <;> grind [Sign.read]

/-- **What reading an instruction can do.** -/
theorem scanOne_spec {s t : Nat × Phase} {i : Instruction} (h : scanOne s i = some t) :
    (i.ends = true ↔ t.2 = .complete) ∧ (s.2 = .complete → i.starts = false) ∧
      (s.2 = .named → i = .operator "(") ∧ (∀ name, i = .function name → t.2 = .named) ∧
      (i = .operator ";" → 1 ≤ s.1) ∧ ∀ kind, i ≠ .unlisted kind := by
  rw [scanOne, Option.bind_eq_some_iff] at h
  obtain ⟨sign, hsign, read⟩ := h
  -- What the sign tells about the instruction, and what reading the sign does.
  obtain ⟨opening, closing, ends, starts⟩ := Instruction.sign_spec hsign
  obtain ⟨-, complete, behind, named, function, separator⟩ := Sign.read_spec read
  refine ⟨ends.trans complete.symm, ?_, fun h => opening.mp (named h), ?_, ?_, ?_⟩
  · intro phase
    rw [Bool.eq_false_iff, Ne, starts]
    exact behind phase
  · rintro name rfl
    exact function (Option.some.inj hsign).symm
  · rintro rfl
    exact separator (Option.some.inj hsign).symm
  · rintro kind rfl
    cases hsign

/-- **The reader keeps the bracket depth.** -/
theorem bracketDepth_of_scan {s t : Nat × Phase} {list : List Instruction} (h : scan s list = some t) :
    bracketDepth list = (t.1 : Int) - s.1 := by
  induction list generalizing s with
  | nil =>
      obtain rfl := Option.some.inj h
      simp [bracketDepth]
  | cons i list ih =>
      obtain ⟨u, first, others⟩ := scan_cons h
      have rest := ih others
      rw [scanOne, Option.bind_eq_some_iff] at first
      obtain ⟨sign, hsign, read⟩ := first
      obtain ⟨opening, closing, -⟩ := Instruction.sign_spec hsign
      -- The depth goes up at an opening bracket and down at a closing one.
      have change := (Sign.read_spec read).1
      simp only [bracketDepth, List.count_cons, beq_iff_eq] at rest ⊢
      simp only [opening, closing] at change
      split_ifs at change ⊢ <;> omega

/-- **What is read as one operand is well-shaped.** -/
theorem Scans.wellShaped {list : List Instruction} (h : Scans list) : WellShaped list := by
  have whole := h 0 .expecting (.inl rfl)
  -- Every property speaks of some place in the list: split the reading there, and look at one or two steps.
  refine ⟨?_, ?_, ?_, ?_, ?_, ?_, ?_, ?_⟩
  · rintro rfl
    cases whole
  · rintro front ⟨behind, rfl⟩
    obtain ⟨u, here, -⟩ := scan_split whole
    rw [bracketDepth_of_scan here]
    omega
  · rw [bracketDepth_of_scan whole]
    rfl
  · rintro front name behind rfl
    obtain ⟨u, -, rest⟩ := scan_split whole
    obtain ⟨v, read, rest⟩ := scan_cons rest
    have named := (scanOne_spec read).2.2.2.1 name rfl
    -- Only the bracket is read behind the name, and the list cannot end there.
    cases behind with
    | nil =>
        obtain rfl := Option.some.inj rest
        cases named
    | cons i behind =>
        obtain ⟨w, next, -⟩ := scan_cons rest
        rw [(scanOne_spec next).2.2.1 named]
        rfl
  · rintro front behind rfl
    obtain ⟨u, here, rest⟩ := scan_split whole
    obtain ⟨v, read, -⟩ := scan_cons rest
    have inside := (scanOne_spec read).2.2.2.2.1 rfl
    rw [bracketDepth_of_scan here]
    omega
  · rintro front a b behind rfl ends
    obtain ⟨u, -, rest⟩ := scan_split whole
    obtain ⟨v, read, rest⟩ := scan_cons rest
    obtain ⟨w, next, -⟩ := scan_cons rest
    exact (scanOne_spec next).2.1 ((scanOne_spec read).1.mp ends)
  · rcases List.eq_nil_or_concat list with rfl | ⟨front, i, rfl⟩
    · cases whole
    · rw [List.concat_eq_append] at whole
      obtain ⟨u, -, rest⟩ := scan_split whole
      obtain ⟨v, read, rest⟩ := scan_cons rest
      obtain rfl := Option.some.inj rest
      exact ⟨i, by simp, (scanOne_spec read).1.mpr rfl⟩
  · intro i mem
    obtain ⟨front, behind, rfl⟩ := List.append_of_mem mem
    obtain ⟨u, -, rest⟩ := scan_split whole
    obtain ⟨v, read, -⟩ := scan_cons rest
    exact (scanOne_spec read).2.2.2.2.2

end SheetFormula
