import SheetFormula.Proofs.Arithmetic
import SheetFormula.Proofs.UniqueReading

/-!
# The negated argument of a term function

The two term functions become a function of periods, with a minus in front of one argument. The argument is a
flat list by then, and the minus binds to its first term:

* **`Tree`** — expression trees of integer arithmetic, and `Tree.flat`, their instruction lists. Operators
  stand between their operands without brackets, so that the list of a tree need not have the value of the
  tree;
* **`Tree.exists_terms`** — every such list is a sum;
* **`periods?_negates_first_term`** — what the arguments of the call are, and which value the negated one has.
-/

namespace SheetFormula.Arithmetic

/-- **Expression tree of integer arithmetic**. -/
inductive Tree where
  /-- An integer. -/
  | integer (n : Int16)
  /-- A sign before an operand. -/
  | negative (e : Tree)
  /-- Brackets around an operand. -/
  | grouped (e : Tree)
  /-- The sum of two operands. -/
  | plus (a b : Tree)
  /-- The difference of two operands. -/
  | minus (a b : Tree)
  /-- The product of two operands. -/
  | times (a b : Tree)
  deriving DecidableEq, Repr

namespace Tree

/-- The brackets around an operand. -/
def grouping : Reduction := ⟨⟨0x04, "(", .reduce 1⟩, 1, by decide, .inl rfl⟩

/-- The plus between operands. -/
def addition : Reduction := ⟨⟨0x09, "+", .reduce 2⟩, 2, by decide, .inl rfl⟩

/-- The minus between operands. -/
def subtraction : Reduction := ⟨⟨0x0a, "-", .reduce 2⟩, 2, by decide, .inl rfl⟩

/-- The product sign between operands. -/
def multiplication : Reduction := ⟨⟨0x0b, "*", .reduce 2⟩, 2, by decide, .inl rfl⟩

/-- The tree as one of opcodes. -/
def expression : Tree → Expression Int16
  | .integer n => .leaf n
  | .negative e => .apply .minus [e.expression]
  | .grouped e => .apply grouping [e.expression]
  | .plus a b => .apply addition [a.expression, b.expression]
  | .minus a b => .apply subtraction [a.expression, b.expression]
  | .times a b => .apply multiplication [a.expression, b.expression]

/-- **Instruction list of a tree**. -/
def flat (e : Tree) : List Instruction := e.expression.flatten .integer

/-- A negative tree is written with a sign before it. -/
theorem flat_negative (e : Tree) : e.negative.flat = .operator "-" :: e.flat :=
  Expression.flatten_before _ (show Reduction.minus.opcode.manner = .before from rfl) _

/-- A grouped tree is written in brackets. -/
theorem flat_grouped (e : Tree) : e.grouped.flat = .operator "(" :: e.flat ++ [.operator ")"] := by
  rw [flat, expression, Expression.flatten_apply, Reduction.write_grouped rfl]
  exact congrArg (_ :: · ++ _) List.intercalate_singleton

/-- A sum is written with a plus in the middle. -/
theorem flat_plus (a b : Tree) : (a.plus b).flat = a.flat ++ .operator "+" :: b.flat :=
  Expression.flatten_between _ (show addition.opcode.manner = .between from rfl) _ _

/-- A difference is written with a minus in the middle. -/
theorem flat_minus (a b : Tree) : (a.minus b).flat = a.flat ++ .operator "-" :: b.flat :=
  Expression.flatten_between _ (show subtraction.opcode.manner = .between from rfl) _ _

/-- A product is written with an asterisk in the middle. -/
theorem flat_times (a b : Tree) : (a.times b).flat = a.flat ++ .operator "*" :: b.flat :=
  Expression.flatten_between _ (show multiplication.opcode.manner = .between from rfl) _ _

/-- **The list of a tree is a sum.** -/
theorem exists_terms (e : Tree) : ∃ vs, Terms e.flat vs := by
  -- Every constructor of a tree has a lemma about the sums it makes.
  induction e with
  | integer n => exact ⟨_, .single (.factor (.integer n))⟩
  | negative e ih =>
      obtain ⟨vs, h⟩ := ih
      obtain ⟨first, rest, -, negated⟩ := h.negated
      exact ⟨_, flat_negative e ▸ negated⟩
  | grouped e ih =>
      obtain ⟨vs, h⟩ := ih
      exact ⟨_, flat_grouped e ▸ Terms.single (.factor (.grouped h))⟩
  | plus a b iha ihb =>
      obtain ⟨vs, h⟩ := iha
      obtain ⟨vs', h'⟩ := ihb
      exact ⟨_, flat_plus a b ▸ h.plus_terms h'⟩
  | minus a b iha ihb =>
      obtain ⟨vs, h⟩ := iha
      obtain ⟨vs', h'⟩ := ihb
      obtain ⟨first, rest, -, whole⟩ := h.minus_terms h'
      exact ⟨_, flat_minus a b ▸ whole⟩
  | times a b iha ihb =>
      obtain ⟨vs, h⟩ := iha
      obtain ⟨vs', h'⟩ := ihb
      obtain ⟨before, last, first, rest, -, -, whole⟩ := h.times_terms h'
      exact ⟨_, flat_times a b ▸ whole⟩

end Tree

/-- **The negated argument of a term function has only its first term negated.** Let an argument be the list
of a tree, with the terms `first` and `rest` in the usual reading. Both functions become a call of periods
whose other arguments are the rate, zero and the future value as they were. The argument itself, `first +
rest.sum`, becomes `-first + rest.sum`; that is its negation just when the terms behind the first cancel out,
as they do where there are none. -/
theorem periods?_negates_first_term (amount rate fv : Tree) :
    periods? "TERM" [amount.flat, rate.flat, fv.flat] =
        some (applied "NPER" [rate.flat, prefixed "-" amount.flat, [.integer 0], fv.flat]) ∧
      periods? "CTERM" [rate.flat, fv.flat, amount.flat] =
        some (applied "NPER" [rate.flat, [.integer 0], prefixed "-" amount.flat, fv.flat]) ∧
      ∃ first rest, Terms amount.flat (first :: rest) ∧ value? amount.flat = some (first + rest.sum) ∧
        value? (prefixed "-" amount.flat) = some (-first + rest.sum) ∧
        (value? (prefixed "-" amount.flat) = (value? amount.flat).map (- ·) ↔ rest.sum = 0) := by
  obtain ⟨vs, terms⟩ := amount.exists_terms
  obtain ⟨first, rest, rfl, negated⟩ := terms.negated
  have before : value? amount.flat = some (first + rest.sum) := by rw [terms.value?_eq, List.sum_cons]
  have after : value? (prefixed "-" amount.flat) = some (-first + rest.sum) := by
    rw [prefixed, negated.value?_eq, List.sum_cons]
  refine ⟨rfl, rfl, first, rest, terms, before, after, ?_⟩
  rw [before, after, Option.map_some, Option.some_inj]
  omega

/-- The sum of one and two as the payment: its value is three, and the argument of the call has the value
one. -/
theorem periods?_one_plus_two :
    let amount : Tree := .plus (.integer 1) (.integer 2)
    periods? "TERM" [amount.flat, [.integer 5], [.integer 7]] =
        some [.function "NPER", .operator "(", .integer 5, .operator ";", .operator "-", .integer 1,
          .operator "+", .integer 2, .operator ";", .integer 0, .operator ";", .integer 7, .operator ")"] ∧
      value? amount.flat = some 3 ∧
      value? [.operator "-", .integer 1, .operator "+", .integer 2] = some 1 := by
  decide

end SheetFormula.Arithmetic
