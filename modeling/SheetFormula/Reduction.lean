import SheetFormula.Instruction
import SheetFormula.Opcode

/-!
# Reductions

The operands of a formula that are not yet part of a larger one are kept on a stack, each as an instruction
list. A reduction puts the lists of its operands together into one. Main definitions:

* `OperandStack` — the lists, the top one first, with their number;
* `OperandStack.push`, `OperandStack.popN` — put one on, take several off;
* `applied`, `prefixed` — the list of a function call, and of an operand with an operator in front;
* `Shape.compose?` — the list of a reduction of some shape;
* `periods?` — the two payment-term functions as one function of periods.
-/

namespace SheetFormula

/-! ## The operand stack -/

/-- **Operand stack**: instruction lists, the top one first, and how many there are. -/
structure OperandStack where
  /-- The lists, the top one first. -/
  items : List (List Instruction) := []
  /-- How many there are. -/
  depth : Nat := 0
  /-- The number is right. -/
  depth_eq : depth = items.length := by rfl

namespace OperandStack

/-- No operands. -/
def empty : OperandStack := {}

/-- **Put a list on top**. -/
def push (s : OperandStack) (list : List Instruction) : OperandStack :=
  ⟨list :: s.items, s.depth + 1, by simp [s.depth_eq]⟩

/-- **Take `n` lists off**: those lists from the bottom to the top, which is the order of arguments, and what
is left. The result is `none` when there are fewer, and for a negative number. -/
def popN (s : OperandStack) (n : Int) : Option (List (List Instruction) × OperandStack) :=
  if 0 ≤ n ∧ n ≤ s.depth then
    some ((s.items.take n.toNat).reverse, ⟨s.items.drop n.toNat, s.depth - n.toNat, by simp [s.depth_eq]⟩)
  else none

/-- **Lists from the bottom to the top**. -/
def toList (s : OperandStack) : List (List Instruction) := s.items.reverse

/-- There is nothing on the empty stack. -/
@[simp] theorem items_empty : empty.items = [] := rfl

/-- What is put on stands on top. -/
@[simp] theorem items_push (s : OperandStack) (list : List Instruction) :
    (s.push list).items = list :: s.items := rfl

/-- What is put on is the last one from the bottom. -/
@[simp] theorem toList_push (s : OperandStack) (list : List Instruction) :
    (s.push list).toList = s.toList ++ [list] := by simp [toList]

/-- Stacks with the same lists are the same. -/
theorem ext_items {s t : OperandStack} (h : s.items = t.items) : s = t := by
  obtain ⟨items, depth, rfl⟩ := s
  obtain ⟨items', depth', rfl⟩ := t
  simp only at h
  subst h
  rfl

/-- Taking off succeeds exactly when there are enough lists; what is taken off stood on top of what is
left. -/
theorem popN_eq_some_iff {s t : OperandStack} {n : Nat} {args : List (List Instruction)} :
    s.popN n = some (args, t) ↔ s.toList = t.toList ++ args ∧ args.length = n := by
  unfold popN toList
  constructor
  · intro h
    split at h
    · next hn =>
      simp only [Int.toNat_natCast, Option.some.injEq, Prod.mk.injEq] at h
      obtain ⟨rfl, rfl⟩ := h
      refine ⟨?_, ?_⟩
      · rw [← List.reverse_append, List.take_append_drop]
      · rw [s.depth_eq] at hn
        simp only [List.length_reverse, List.length_take]
        omega
    · simp at h
  · rintro ⟨h, rfl⟩
    have hi : s.items = args.reverse ++ t.items := by
      have := congrArg List.reverse h
      simpa using this
    have hl : args.length ≤ s.depth := by
      rw [s.depth_eq, hi]
      simp
    rw [if_pos (by omega)]
    simp only [Int.toNat_natCast, Option.some.injEq, Prod.mk.injEq]
    refine ⟨by simp [hi], ext_items (by simp [hi])⟩

/-- Taking off fails exactly when there are too few lists. -/
theorem popN_eq_none_iff {s : OperandStack} {n : Nat} : s.popN n = none ↔ s.depth < n := by
  unfold popN
  by_cases enough : n ≤ s.depth
  · rw [if_pos (by omega)]
    simp only [reduceCtorEq, false_iff]
    omega
  · rw [if_neg (by omega)]
    simp only [true_iff]
    omega

end OperandStack

/-! ## Composition -/

/-- **Arguments with separators** between them. -/
def separated : List (List Instruction) → List Instruction
  | [] => []
  | [arg] => arg
  | arg :: args => arg ++ .operator argSep :: separated args

/-- **Call**: the name, then the arguments in brackets. The grouping bracket is a call without a name. -/
def applied (name : String) (args : List (List Instruction)) : List Instruction :=
  (if name = openParen then [] else [.function name]) ++
    .operator openParen :: separated args ++ [.operator closeParen]

/-- **Operator in front** of an operand. -/
def prefixed (op : String) (arg : List Instruction) : List Instruction := .operator op :: arg

/-- **Compose a reduction**. Operators take their operands from the front and leave the others; the result is
`none` when there are too few. Everything else is a call. -/
def Shape.compose? (shape : Shape) (name : String) (args : List (List Instruction)) :
    Option (List Instruction) :=
  match shape with
  | .prefixOp =>
    match args with
    | a :: _ => some (prefixed name a)
    | [] => none
  | .infixOp =>
    match args with
    | a :: b :: _ => some (a ++ .operator name :: b)
    | _ => none
  | .terminator | .call => some (applied name args)

/-- **Number of periods**: the function that the two term functions become. -/
def periodsName : String := "NPER"

/-- The operand zero. -/
def zeroOperand : List Instruction := [.integer 0]

/-- **Term functions as periods**: `TERM(pmt; rate; fv)` is `NPER(rate; -pmt; 0; fv)`, and
`CTERM(rate; fv; pv)` is `NPER(rate; 0; -pv; fv)`. No other function and no other number of arguments has
such a form. -/
def periods? (name : String) (args : List (List Instruction)) : Option (List Instruction) :=
  match args with
  | [a, b, c] =>
    if name = "TERM" then some (applied periodsName [b, prefixed "-" a, zeroOperand, c])
    else if name = "CTERM" then some (applied periodsName [a, zeroOperand, prefixed "-" c, b])
    else none
  | _ => none

/-- Without arguments there is nothing to separate. -/
@[simp] theorem separated_nil : separated [] = [] := rfl

/-- Nor is there with one. -/
@[simp] theorem separated_singleton (arg : List Instruction) : separated [arg] = arg := rfl

/-- A separator stands between the first argument and the others. -/
@[simp] theorem separated_cons_cons (a b : List Instruction) (args : List (List Instruction)) :
    separated (a :: b :: args) = a ++ .operator argSep :: separated (b :: args) := rfl

end SheetFormula
