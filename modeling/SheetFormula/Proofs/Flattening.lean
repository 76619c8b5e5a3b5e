import Mathlib.Data.List.Basic
import SheetFormula.Proofs.Expression

/-!
# The instruction list of a tree

How a decoded tree reads in infix order, said opcode by opcode and without the shapes of the decoder:

* **`Manner`**, **`Opcode.manner`** — which opcodes are written before or between their operands, as a
  grouping, or as a call, and the two term functions that are written as a function of periods;
* **`Reduction.write`** — the list of a reduction from the lists of its operands;
* **`Expression.flatten`** — the list of a tree.

The main statement is `Reduction.write_spec`: what the decoder composes for a reduction is its written form.
For proofs by manner, `Reduction.fits` spells out the operands, and there is one equation for each manner.
-/

namespace SheetFormula

/-! ## Manners of writing -/

/-- **Manner of writing** a reduction. -/
inductive Manner where
  /-- The operator, then its operand. -/
  | before
  /-- The operator between two operands. -/
  | between
  /-- The operand in brackets. -/
  | grouped
  /-- The term of an annuity, as a function of periods. -/
  | term
  /-- The term of a compounded sum, as a function of periods. -/
  | compoundTerm
  /-- The name, then the operands in brackets. -/
  | call
  deriving DecidableEq, Repr

/-- **Manner of an opcode**: two signs stand before their operand, the operators from `+` to `>` and the
text operator between theirs; the rest are calls, but for the bracket and the two term functions. -/
def Opcode.manner (o : Opcode) : Manner :=
  if o.code = 0x08 ∨ o.code = 0x17 then .before
  else if 0x09 ≤ o.code ∧ o.code ≤ 0x13 ∨ o.code = 0x18 then .between
  else if o.code = 0x04 then .grouped
  else if o.code = 0x75 then .term
  else if o.code = 0x76 then .compoundTerm
  else .call

/-- **Operands in brackets**, with semicolons between them. -/
def bracketed (args : List (List Instruction)) : List Instruction :=
  .operator "(" :: List.intercalate [.operator ";"] args ++ [.operator ")"]

/-- **Written form of a reduction** whose operands are written as `args`. -/
def Reduction.write (r : Reduction) (args : List (List Instruction)) : List Instruction :=
  match r.opcode.manner, args with
  | .before, [a] => .operator r.opcode.name :: a
  | .between, [a, b] => a ++ .operator r.opcode.name :: b
  | .grouped, args => bracketed args
  | .term, [pmt, rate, fv] =>
    .function "NPER" :: bracketed [rate, .operator "-" :: pmt, [.integer 0], fv]
  | .compoundTerm, [rate, fv, pv] =>
    .function "NPER" :: bracketed [rate, [.integer 0], .operator "-" :: pv, fv]
  | _, args => .function r.opcode.name :: bracketed args

/-- **Instruction list of a tree** whose leaves are single instructions. -/
def Expression.flatten {α : Type} (leaf : α → Instruction) : Expression α → List Instruction :=
  Expression.fold (fun a => [leaf a]) Reduction.write

/-! ## What the decoder composes -/

/-- Arguments are separated by putting the separator between them. -/
theorem separated_eq_intercalate (args : List (List Instruction)) :
    separated args = List.intercalate [.operator argSep] args := by
  induction args with
  | nil => rfl
  | cons a args ih =>
      cases args with
      | nil => simp [List.intercalate]
      | cons b args =>
          rw [separated_cons_cons, ih, List.intercalate_cons_cons, List.append_assoc,
            List.singleton_append]

/-- A call is the name, if it is not the grouping bracket, and the operands in brackets. -/
theorem applied_eq (name : String) (args : List (List Instruction)) :
    applied name args = (if name = "(" then [] else [.function name]) ++ bracketed args := by
  rw [applied, separated_eq_intercalate, bracketed, openParen, closeParen, argSep, List.append_assoc]

/-- **Manners and shapes**: for every reduction of the table the manner of writing fixes the shape, and the
name or operand count where it matters. -/
theorem Opcode.shape_of_manner : ∀ o ∈ Opcode.table,
    (o.manner = .before → o.shape = .prefixOp) ∧
    (o.manner = .between → o.shape = .infixOp) ∧
    (o.manner = .grouped → o.shape = .call ∧ o.name = "(") ∧
    (o.manner = .term → o.shape = .call ∧ o.name = "TERM" ∧ o.role = .reduce 3) ∧
    (o.manner = .compoundTerm → o.shape = .call ∧ o.name = "CTERM" ∧ o.role = .reduce 3) ∧
    (o.manner = .call → o.role ≠ .terminator →
      o.shape = .call ∧ o.name ≠ "(" ∧ o.name ≠ "TERM" ∧ o.name ≠ "CTERM") := by
  decide +kernel

/-- Only the two term functions become functions of periods. -/
theorem periods?_eq_none {name : String} (term : name ≠ "TERM") (compoundTerm : name ≠ "CTERM")
    (args : List (List Instruction)) : periods? name args = none := by
  unfold periods?
  split
  · rw [if_neg term, if_neg compoundTerm]
  · rfl

/-- No reduction is the terminator. -/
theorem Opcode.Takes.role_ne_terminator {o : Opcode} {n : Nat} (h : o.Takes n) :
    o.role ≠ .terminator := by
  rcases h.2 with h | ⟨h, -⟩ <;> simp [h]

/-- A listed count is the only one that is taken. -/
theorem Opcode.Takes.eq_of_role {o : Opcode} {n k : Nat} (h : o.Takes n) (hk : o.role = .reduce k) :
    n = k := by
  rcases h.2 with h | ⟨h, -⟩ <;> simp_all

/-- **What the decoder composes is the written form.** A term function is composed as a function of
periods, everything else by its shape; neither can fail on as many operands as the reduction takes. -/
theorem Reduction.write_spec (r : Reduction) {args : List (List Instruction)}
    (h : args.length = r.operands) :
    (if r.opcode.shape = .call then periods? r.opcode.name args else none) = some (r.write args) ∨
      (if r.opcode.shape = .call then periods? r.opcode.name args else none) = none ∧
        r.opcode.shape.compose? r.opcode.name args = some (r.write args) := by
  obtain ⟨before, between, grouped, term, compoundTerm, call⟩ := Opcode.shape_of_manner _ r.takes.1
  obtain ⟨roleBefore, roleBetween⟩ := Opcode.role_of_shape r.takes.1
  unfold write
  -- Operators and term functions take a fixed number of operands, which spells the list out.
  cases hm : r.opcode.manner with
  | before =>
      have one := r.takes.eq_of_role (roleBefore (before hm))
      obtain ⟨a, rfl⟩ := List.length_eq_one_iff.mp (h.trans one)
      right
      rw [before hm]
      exact ⟨rfl, rfl⟩
  | between =>
      have two := r.takes.eq_of_role (roleBetween (between hm))
      obtain ⟨a, b, rfl⟩ := List.length_eq_two.mp (h.trans two)
      right
      rw [between hm]
      exact ⟨rfl, rfl⟩
  | grouped =>
      obtain ⟨shape, name⟩ := grouped hm
      right
      rw [shape, name, if_pos rfl, periods?_eq_none (by decide) (by decide), Shape.compose?, applied_eq]
      exact ⟨rfl, rfl⟩
  | term =>
      obtain ⟨shape, name, role⟩ := term hm
      obtain ⟨a, b, c, rfl⟩ := List.length_eq_three.mp (h.trans (r.takes.eq_of_role role))
      left
      rw [shape, name, if_pos rfl, periods?, if_pos rfl, applied_eq]
      rfl
  | compoundTerm =>
      obtain ⟨shape, name, role⟩ := compoundTerm hm
      obtain ⟨a, b, c, rfl⟩ := List.length_eq_three.mp (h.trans (r.takes.eq_of_role role))
      left
      rw [shape, name, if_pos rfl, periods?, if_neg (by decide), if_pos rfl, applied_eq]
      rfl
  | call =>
      obtain ⟨shape, notGrouping, notTerm, notCompoundTerm⟩ := call hm r.takes.role_ne_terminator
      right
      rw [shape, if_pos rfl, periods?_eq_none notTerm notCompoundTerm, Shape.compose?, applied_eq,
        if_neg notGrouping]
      exact ⟨rfl, rfl⟩

/-! ## What a written form consists of -/

/-- What holds of brackets, separators and the operands holds of the operands in brackets. -/
theorem forall_bracketed {P : Instruction → Prop} (marks : ∀ text ∈ ["(", ";", ")"], P (.operator text))
    {args : List (List Instruction)} (h : ∀ a ∈ args, ∀ i ∈ a, P i) : ∀ i ∈ bracketed args, P i := by
  -- Between the brackets stand the arguments and separators.
  have between : ∀ i ∈ List.intercalate [.operator ";"] args, P i := by
    induction args with
    | nil => simp [List.intercalate]
    | cons a args ih =>
        have others := ih fun b hb => h b (List.mem_cons_of_mem _ hb)
        cases args with
        | nil => simpa [List.intercalate] using h
        | cons b args =>
            intro i hi
            rw [List.intercalate_cons_cons, List.mem_append, List.mem_append, List.mem_singleton] at hi
            rcases hi with (hi | rfl) | hi
            · exact h a List.mem_cons_self i hi
            · exact marks ";" (by simp)
            · exact others i hi
  intro i hi
  rw [bracketed, List.mem_append, List.mem_cons, List.mem_singleton] at hi
  rcases hi with (rfl | hi) | rfl
  · exact marks "(" (by simp)
  · exact between i hi
  · exact marks ")" (by simp)

/-- **What a reduction may add** to its operands: its name, brackets and separators, and what the term
functions need. -/
def Reduction.marks (r : Reduction) : List Instruction :=
  [.operator r.opcode.name, .function r.opcode.name, .operator "(", .operator ";", .operator ")",
    .operator "-", .function "NPER", .integer 0]

/-- **A written form consists of its operands and its marks.** -/
theorem Reduction.forall_write_of_marks {P : Instruction → Prop} (r : Reduction) (marks : ∀ i ∈ r.marks, P i)
    {args : List (List Instruction)} (h : ∀ a ∈ args, ∀ i ∈ a, P i) : ∀ i ∈ r.write args, P i := by
  simp only [Reduction.marks, List.forall_mem_cons] at marks
  obtain ⟨operator, function, opening, separator, closing, minus, periods, zero, -⟩ := marks
  have brackets : ∀ text ∈ ["(", ";", ")"], P (.operator text) := by
    simp [opening, separator, closing]
  have negated : ∀ a ∈ args, ∀ i ∈ Instruction.operator "-" :: a, P i := by
    intro a ha
    exact List.forall_mem_cons.mpr ⟨minus, h a ha⟩
  have zeros : ∀ i ∈ [Instruction.integer 0], P i := List.forall_mem_singleton.mpr zero
  -- One case for each manner of writing, in its order.
  unfold write
  split
  · exact List.forall_mem_cons.mpr ⟨operator, h _ List.mem_cons_self⟩
  · next a b _ =>
    refine List.forall_mem_append.mpr ⟨h a List.mem_cons_self, ?_⟩
    exact List.forall_mem_cons.mpr ⟨operator, h b (by simp)⟩
  · exact forall_bracketed brackets h
  · next pmt rate fv _ =>
    refine List.forall_mem_cons.mpr ⟨periods, forall_bracketed brackets ?_⟩
    have rateHolds := h rate (by simp)
    have fvHolds := h fv (by simp)
    rintro a ha
    simp only [List.mem_cons, List.not_mem_nil, or_false] at ha
    rcases ha with rfl | rfl | rfl | rfl
    exacts [rateHolds, negated pmt (by simp), zeros, fvHolds]
  · next rate fv pv _ =>
    refine List.forall_mem_cons.mpr ⟨periods, forall_bracketed brackets ?_⟩
    have rateHolds := h rate (by simp)
    have fvHolds := h fv (by simp)
    rintro a ha
    simp only [List.mem_cons, List.not_mem_nil, or_false] at ha
    rcases ha with rfl | rfl | rfl | rfl
    exacts [rateHolds, zeros, negated pv (by simp), fvHolds]
  · exact List.forall_mem_cons.mpr ⟨function, forall_bracketed brackets h⟩

/-- **A written form consists of its operands**, operators, function names and zeros. -/
theorem Reduction.forall_write {P : Instruction → Prop} (operator : ∀ text, P (.operator text))
    (function : ∀ name, P (.function name)) (zero : P (.integer 0)) (r : Reduction)
    {args : List (List Instruction)} (h : ∀ a ∈ args, ∀ i ∈ a, P i) : ∀ i ∈ r.write args, P i :=
  r.forall_write_of_marks (by simp [marks, operator, function, zero]) h

/-! ## The operands of each manner -/

/-- **Operand counts by manner**: everything but a call takes a fixed number. -/
theorem Opcode.role_of_manner : ∀ o ∈ Opcode.table,
    (o.manner = .before → o.role = .reduce 1) ∧
    (o.manner = .between → o.role = .reduce 2) ∧
    (o.manner = .grouped → o.role = .reduce 1) ∧
    (o.manner = .term → o.role = .reduce 3) ∧
    (o.manner = .compoundTerm → o.role = .reduce 3) := by
  decide +kernel

namespace Reduction

/-- **Operands that fit a reduction**, spelled out by its manner. -/
inductive Fits {α : Type} (r : Reduction) : List α → Prop
  | before (manner : r.opcode.manner = .before) (a : α) : Fits r [a]
  | between (manner : r.opcode.manner = .between) (a b : α) : Fits r [a, b]
  | grouped (manner : r.opcode.manner = .grouped) (a : α) : Fits r [a]
  | term (manner : r.opcode.manner = .term) (pmt rate fv : α) : Fits r [pmt, rate, fv]
  | compoundTerm (manner : r.opcode.manner = .compoundTerm) (rate fv pv : α) : Fits r [rate, fv, pv]
  | call (manner : r.opcode.manner = .call) (args : List α) : Fits r args

/-- As many operands as a reduction takes fit it. -/
theorem fits {α : Type} {r : Reduction} {args : List α} (h : args.length = r.operands) : r.Fits args := by
  obtain ⟨before, between, grouped, term, compoundTerm⟩ := Opcode.role_of_manner _ r.takes.1
  -- The manner fixes the number of operands, except for calls.
  cases hm : r.opcode.manner with
  | before =>
      obtain ⟨a, rfl⟩ := List.length_eq_one_iff.mp (h.trans (r.takes.eq_of_role (before hm)))
      exact .before hm a
  | between =>
      obtain ⟨a, b, rfl⟩ := List.length_eq_two.mp (h.trans (r.takes.eq_of_role (between hm)))
      exact .between hm a b
  | grouped =>
      obtain ⟨a, rfl⟩ := List.length_eq_one_iff.mp (h.trans (r.takes.eq_of_role (grouped hm)))
      exact .grouped hm a
  | term =>
      obtain ⟨a, b, c, rfl⟩ := List.length_eq_three.mp (h.trans (r.takes.eq_of_role (term hm)))
      exact .term hm a b c
  | compoundTerm =>
      obtain ⟨a, b, c, rfl⟩ := List.length_eq_three.mp (h.trans (r.takes.eq_of_role (compoundTerm hm)))
      exact .compoundTerm hm a b c
  | call => exact .call hm args

variable {r : Reduction}

/-- An operator of one operand stands before it. -/
theorem write_before (h : r.opcode.manner = .before) (a : List Instruction) :
    r.write [a] = .operator r.opcode.name :: a := by
  simp only [write, h]

/-- An operator of two operands stands between them. -/
theorem write_between (h : r.opcode.manner = .between) (a b : List Instruction) :
    r.write [a, b] = a ++ .operator r.opcode.name :: b := by
  simp only [write, h]

/-- A group is its operand in brackets. -/
theorem write_grouped (h : r.opcode.manner = .grouped) (args : List (List Instruction)) :
    r.write args = bracketed args := by
  simp only [write, h]

/-- A term of payments is written as a number of periods, with the payment negated. -/
theorem write_term (h : r.opcode.manner = .term) (pmt rate fv : List Instruction) :
    r.write [pmt, rate, fv] =
      .function "NPER" :: bracketed [rate, .operator "-" :: pmt, [.integer 0], fv] := by
  simp only [write, h]

/-- So is a compound term, with its present value negated. -/
theorem write_compoundTerm (h : r.opcode.manner = .compoundTerm) (rate fv pv : List Instruction) :
    r.write [rate, fv, pv] =
      .function "NPER" :: bracketed [rate, [.integer 0], .operator "-" :: pv, fv] := by
  simp only [write, h]

/-- Any other function stands before its arguments in brackets. -/
theorem write_call (h : r.opcode.manner = .call) (args : List (List Instruction)) :
    r.write args = .function r.opcode.name :: bracketed args := by
  simp only [write, h]

end Reduction

end SheetFormula
