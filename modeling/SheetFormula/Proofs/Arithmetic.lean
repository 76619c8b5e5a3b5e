import SheetFormula.Instruction
import Mathlib.Algebra.BigOperators.Group.List.Basic
import Mathlib.Algebra.Ring.Int.Defs

/-!
# Integer arithmetic in infix order

Instruction lists of integers, brackets, signs and the operators `+`, `-` and `*`, read with the usual
precedence: a sign binds tightest, then `*`, then `+` and `-`, from left to right.

* **`Factor`**, `Product`, `Terms` — the grammar: what a list is and which value it has. A sum has the values
  of its terms, in order and with their signs;
* **`value?`** — the value of a list, read from left to right by `Reader.step`;
* **`Terms.value?_eq`** — the value of a sum is the sum of its terms;
* **`Terms.plus_terms`**, `minus_terms`, `times_terms`, `Terms.negated` — what operators make of sums that
  stand beside them without brackets.
-/

namespace SheetFormula.Arithmetic

/-! ## Grammar -/

mutual

/-- **A factor and its value**: an integer, a factor with a sign, or a sum in brackets. -/
inductive Factor : List Instruction → Int → Prop
  | integer (n : Int16) : Factor [.integer n] n.toInt
  | negated {l : List Instruction} {v : Int} (h : Factor l v) : Factor (.operator "-" :: l) (-v)
  | grouped {l : List Instruction} {vs : List Int} (h : Terms l vs) :
      Factor (.operator "(" :: l ++ [.operator ")"]) vs.sum

/-- **A product and its value**. -/
inductive Product : List Instruction → Int → Prop
  | factor {l : List Instruction} {v : Int} (h : Factor l v) : Product l v
  | times {l l' : List Instruction} {v v' : Int} (h : Product l v) (h' : Factor l' v') :
      Product (l ++ .operator "*" :: l') (v * v')

/-- **A sum and the values of its terms**; a term behind a minus counts with the sign. -/
inductive Terms : List Instruction → List Int → Prop
  | single {l : List Instruction} {v : Int} (h : Product l v) : Terms l [v]
  | plus {l l' : List Instruction} {vs : List Int} {v : Int} (h : Terms l vs) (h' : Product l' v) :
      Terms (l ++ .operator "+" :: l') (vs ++ [v])
  | minus {l l' : List Instruction} {vs : List Int} {v : Int} (h : Terms l vs) (h' : Product l' v) :
      Terms (l ++ .operator "-" :: l') (vs ++ [-v])

end

/-! ## Reading from left to right -/

/-- **What has been read between two brackets**. -/
structure Level where
  /-- Sum of the terms that are complete. -/
  done : Int := 0
  /-- Product of the factors and signs of the term that is being read. -/
  product : Int := 1
  deriving DecidableEq, Repr

/-- The value of a level when its term is complete. -/
def Level.total (level : Level) : Int := level.done + level.product

/-- One more factor. -/
def Level.times (level : Level) (v : Int) : Level := { level with product := level.product * v }

/-- **Reader**: the level it is in, and those around it from the inside out. -/
inductive Reader where
  /-- A factor comes next. -/
  | expecting (level : Level) (outer : List Level)
  /-- A factor has been read. -/
  | after (level : Level) (outer : List Level)
  deriving DecidableEq, Repr

/-- **Read one instruction**. It is `none` where no such instruction can stand. -/
def Reader.step : Reader → Instruction → Option Reader
  | .expecting level outer, .integer n => some (.after (level.times n.toInt) outer)
  | .expecting level outer, .operator text =>
    -- A sign may be counted into the whole term, since the value is the same wherever in a product it stands.
    if text = "-" then some (.expecting (level.times (-1)) outer)
    else if text = "(" then some (.expecting {} (level :: outer))
    else none
  | .after level outer, .operator text =>
    if text = "+" then some (.expecting { done := level.total } outer)
    else if text = "-" then some (.expecting { done := level.total, product := -1 } outer)
    else if text = "*" then some (.expecting level outer)
    else if text = ")" then
      match outer with
      | around :: outer => some (.after (around.times level.total) outer)
      | [] => none
    else none
  | _, _ => none

/-- **Read a list**. -/
def Reader.run (s : Reader) (l : List Instruction) : Option Reader := l.foldlM step s

/-- **Value of an instruction list**, if it is a sum. -/
def value? (l : List Instruction) : Option Int :=
  match Reader.run (.expecting {} []) l with
  | some (.after level []) => some level.total
  | _ => none

/-- What is read in two goes is read from where the first one ends. -/
theorem Reader.run_append {s s' : Reader} {l : List Instruction} (h : s.run l = some s')
    (l' : List Instruction) :
    s.run (l ++ l') = s'.run l' := by
  rw [run, List.foldlM_append, ← run, h]
  rfl

/-- An instruction is read by one step. -/
theorem Reader.run_cons {s s' : Reader} {i : Instruction} (h : s.step i = some s') (l : List Instruction) :
    s.run (i :: l) = s'.run l := by
  rw [run, List.foldlM_cons, h]
  rfl

/-- Two factors of a term are multiplied to one. -/
@[simp] theorem Level.times_times (level : Level) (v w : Int) :
    (level.times v).times w = level.times (v * w) := by
  rw [times, times, times, mul_assoc]

mutual

/-- Reading a factor multiplies the term by it. -/
theorem Factor.run {l : List Instruction} {v : Int} (level : Level) (outer : List Level) :
    Factor l v → Reader.run (.expecting level outer) l = some (.after (level.times v) outer)
  | .integer n => rfl
  | .negated h => by
      rw [Reader.run_cons rfl, h.run, Level.times_times, neg_one_mul]
  | .grouped h => by
      -- The bracket opens a level of its own, and the total of that level is the factor.
      obtain ⟨inner, read, total⟩ := h.run (level :: outer)
      rw [List.cons_append, Reader.run_cons rfl, Reader.run_append read, ← total]
      rfl

/-- So does reading a product. -/
theorem Product.run {l : List Instruction} {v : Int} (level : Level) (outer : List Level) :
    Product l v → Reader.run (.expecting level outer) l = some (.after (level.times v) outer)
  | .factor h => h.run level outer
  | .times h h' => by
      rw [Reader.run_append (h.run level outer), Reader.run_cons rfl, h'.run, Level.times_times]

/-- Reading a sum from the start of a level ends with its value. -/
theorem Terms.run {l : List Instruction} {vs : List Int} (outer : List Level) :
    Terms l vs → ∃ level, Reader.run (.expecting {} outer) l = some (.after level outer) ∧
      level.total = vs.sum
  | .single h => ⟨_, h.run {} outer, by simp [Level.total, Level.times]⟩
  | .plus h h' => by
      obtain ⟨level, read, total⟩ := h.run outer
      refine ⟨_, by rw [Reader.run_append read, Reader.run_cons rfl, h'.run], ?_⟩
      simp [Level.total, Level.times, ← total]
  | .minus h h' => by
      obtain ⟨level, read, total⟩ := h.run outer
      refine ⟨_, by rw [Reader.run_append read, Reader.run_cons rfl, h'.run], ?_⟩
      simp [Level.total, Level.times, ← total]

end

variable {l l' : List Instruction} {v v' : Int} {vs : List Int}

/-- **The value of a sum** is the sum of its terms. -/
theorem Terms.value?_eq (h : Terms l vs) : value? l = some vs.sum := by
  obtain ⟨level, read, total⟩ := h.run []
  rw [value?, read]
  exact congrArg some total

example :
    value? [.integer 1, .operator "-", .integer 2, .operator "*", .operator "-", .operator "(", .integer 3,
    .operator "+", .integer 4, .operator ")"] = some 15 := by decide

/-! ## Operators beside sums -/

/-- **What stands before a sum reaches its first term only.** When it makes a sum of every product behind it,
by `f` of the product's value, then also of every sum, by `f` of the first term. -/
theorem Terms.behind (front : List Instruction) (before : List Int) (f : Int → Int)
    (product : ∀ {l v}, Product l v → Terms (front ++ l) (before ++ [f v])) :
    ∀ {l vs}, Terms l vs → ∃ first rest, vs = first :: rest ∧ Terms (front ++ l) (before ++ f first :: rest)
  | _, _, .single h => ⟨_, [], rfl, product h⟩
  | _, _, .plus h h' => by
      obtain ⟨first, rest, rfl, whole⟩ := h.behind front before f product
      refine ⟨first, _, List.cons_append, ?_⟩
      rw [← List.append_assoc, ← List.cons_append, ← List.append_assoc]
      exact whole.plus h'
  | _, _, .minus h h' => by
      obtain ⟨first, rest, rfl, whole⟩ := h.behind front before f product
      refine ⟨first, _, List.cons_append, ?_⟩
      rw [← List.append_assoc, ← List.cons_append, ← List.append_assoc]
      exact whole.minus h'

/-- A sign before a product negates it. -/
theorem Product.negated : ∀ {l v}, Product l v → Product (.operator "-" :: l) (-v)
  | _, _, .factor h => .factor (.negated h)
  | _, _, .times h h' => by
      rw [← List.cons_append, ← neg_mul]
      exact h.negated.times h'

/-- A product of products is a product. -/
theorem Product.times_product (h : Product l v) :
    ∀ {l' v'}, Product l' v' → Product (l ++ .operator "*" :: l') (v * v')
  | _, _, .factor h' => h.times h'
  | _, _, .times h₁ h₂ => by
      rw [← List.cons_append, ← List.append_assoc, ← mul_assoc]
      exact (h.times_product h₁).times h₂

/-- **A sign before a sum** negates its first term and no other. -/
theorem Terms.negated (h : Terms l vs) :
    ∃ first rest, vs = first :: rest ∧ Terms (.operator "-" :: l) (-first :: rest) :=
  h.behind [.operator "-"] [] (- ·) fun h => .single h.negated

/-- **A plus between sums** joins their terms. -/
theorem Terms.plus_terms (h : Terms l vs) {vs' : List Int} (h' : Terms l' vs') :
    Terms (l ++ .operator "+" :: l') (vs ++ vs') := by
  obtain ⟨first, rest, rfl, whole⟩ := h'.behind (l ++ [.operator "+"]) vs id
    fun h' => by simpa using h.plus h'
  simpa using whole

/-- **A minus between sums** negates the first term behind it and no other. -/
theorem Terms.minus_terms (h : Terms l vs) {vs' : List Int} (h' : Terms l' vs') :
    ∃ first rest, vs' = first :: rest ∧ Terms (l ++ .operator "-" :: l') (vs ++ -first :: rest) := by
  obtain ⟨first, rest, same, whole⟩ := h'.behind (l ++ [.operator "-"]) vs (- ·)
    fun h' => by simpa using h.minus h'
  exact ⟨first, rest, same, by simpa using whole⟩

/-- A product behind a sum multiplies its last term. -/
theorem Terms.times_product : ∀ {l vs}, Terms l vs → ∃ before last, vs = before ++ [last] ∧
    ∀ {l' v'}, Product l' v' → Terms (l ++ .operator "*" :: l') (before ++ [last * v'])
  | _, _, .single h => ⟨[], _, rfl, fun h' => .single (h.times_product h')⟩
  | _, _, .plus h h₁ => by
      refine ⟨_, _, rfl, fun h' => ?_⟩
      rw [List.append_assoc]
      exact h.plus (h₁.times_product h')
  | _, _, .minus h h₁ => by
      refine ⟨_, _, rfl, fun h' => ?_⟩
      rw [List.append_assoc, neg_mul]
      exact h.minus (h₁.times_product h')

/-- **A product sign between sums** multiplies the two terms beside it. -/
theorem Terms.times_terms (h : Terms l vs) {vs' : List Int} (h' : Terms l' vs') :
    ∃ before last first rest, vs = before ++ [last] ∧ vs' = first :: rest ∧
      Terms (l ++ .operator "*" :: l') (before ++ last * first :: rest) := by
  obtain ⟨before, last, same, product⟩ := h.times_product
  obtain ⟨first, rest, same', whole⟩ := h'.behind (l ++ [.operator "*"]) before (last * ·)
    fun h' => by simpa using product h'
  exact ⟨before, last, first, rest, same, same', by simpa using whole⟩

end SheetFormula.Arithmetic
