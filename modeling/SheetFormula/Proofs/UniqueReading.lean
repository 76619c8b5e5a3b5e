import Mathlib.Data.List.Pairwise
import SheetFormula.Proofs.CarriedLexemes
import SheetFormula.Proofs.InstructionShape

/-!
# Unique reading of delimited trees

An instruction list says which tree it is the list of, as long as the operands of operators have brackets or a
name of their own:

* **`Expression.Atomic`**, **`Expression.Delimited`** — trees that are no bare operators, and trees whose
  operators have only such operands;
* **`Expression.Readable`** — what reading needs of that: only the first operand of an operator between two
  has to be atomic;
* **`Expression.Legible`** — a tree can be cancelled from the front of its list: whatever other readable tree
  the list may start with is the same one. Atomic trees are told apart whatever follows them, other trees
  before a separator or a closing bracket;
* **`Expression.Readable.legible`** — readable trees are legible, by induction, with one lemma for each way in
  which a tree is written;
* **`decode_delimited_iff`** — delimited trees are decoded to the same list only if they are the same.
-/

namespace SheetFormula

namespace Expression

variable {α β : Type}

/-! ## Delimited trees -/

/-- **Replace the leaves** of a tree. -/
def map (f : α → β) : Expression α → Expression β := fold (fun a => .leaf (f a)) .apply

/-- A reduction is mapped argument by argument. -/
theorem map_apply (f : α → β) (r : Reduction) (args : List (Expression α)) :
    (apply r args).map f = .apply r (args.map (map f)) :=
  fold_apply r args

/-- **Atomic tree**: a leaf, a call or a grouping. -/
def Atomic : Expression α → Prop
  | .leaf _ => True
  | .apply r _ => r.opcode.manner ≠ .before ∧ r.opcode.manner ≠ .between

/-- **Delimited tree**: every operand of an operator in it is atomic. -/
inductive Delimited : Expression α → Prop
  | leaf (a : α) : Delimited (.leaf a)
  | apply {r : Reduction} {args : List (Expression α)}
      (operands : r.opcode.manner = .before ∨ r.opcode.manner = .between → ∀ e ∈ args, e.Atomic)
      (all : ∀ e ∈ args, Delimited e) : Delimited (.apply r args)

/-- **Readable tree**: well-formed, and the first operand of an operator between two is atomic. -/
inductive Readable : Expression α → Prop
  | leaf (a : α) : Readable (.leaf a)
  | apply {r : Reduction} {args : List (Expression α)} (length : args.length = r.operands)
      (first : r.opcode.manner = .between → ∀ e ∈ args.head?, e.Atomic)
      (all : ∀ e ∈ args, Readable e) : Readable (.apply r args)

/-- Delimited trees are readable. -/
theorem WellFormed.readable {e : Expression α} (h : e.WellFormed) (delimited : e.Delimited) :
    e.Readable := by
  induction h with
  | leaf a => exact .leaf a
  | @apply r args length all ih =>
      cases delimited with
      | apply operands delimited =>
          refine .apply length (fun manner e mem => ?_) fun e mem => ih e mem (delimited e mem)
          exact operands (.inr manner) e (List.mem_of_mem_head? mem)

/-- Replacing leaves keeps trees atomic. -/
theorem Atomic.map {e : Expression α} (h : e.Atomic) (f : α → β) : (e.map f).Atomic := by
  cases e with
  | leaf a => exact h
  | apply r args =>
      rw [map_apply]
      exact h

/-- Replacing leaves keeps trees readable. -/
theorem Readable.map {e : Expression α} (h : e.Readable) (f : α → β) : (e.map f).Readable := by
  induction h with
  | leaf a => exact .leaf (f a)
  | @apply r args length first all ih =>
      rw [map_apply]
      refine .apply (by rw [List.length_map, length]) (fun manner e mem => ?_) fun e mem => ?_
      · rw [List.head?_map, Option.mem_def, Option.map_eq_some_iff] at mem
        obtain ⟨a, head, rfl⟩ := mem
        exact (first manner a head).map f
      · obtain ⟨a, here, rfl⟩ := List.mem_map.mp mem
        exact ih a here

/-- A reduction is flattened to its written form. -/
theorem flatten_apply (leaf : α → Instruction) (r : Reduction) (args : List (Expression α)) :
    (apply r args).flatten leaf = r.write (args.map (flatten leaf)) :=
  fold_apply r args

/-- With its operator before the operand. -/
theorem flatten_before (leaf : α → Instruction) {r : Reduction} (manner : r.opcode.manner = .before)
    (u : Expression α) :
    (apply r [u]).flatten leaf = .operator r.opcode.name :: u.flatten leaf := by
  rw [flatten_apply, List.map_singleton, Reduction.write_before manner]

/-- With its operator between the operands. -/
theorem flatten_between (leaf : α → Instruction) {r : Reduction} (manner : r.opcode.manner = .between)
    (u v : Expression α) :
    (apply r [u, v]).flatten leaf = u.flatten leaf ++ .operator r.opcode.name :: v.flatten leaf := by
  rw [flatten_apply, List.map_cons, List.map_singleton, Reduction.write_between manner]

/-- The list of a tree with replaced leaves. -/
theorem flatten_map (leaf : β → Instruction) (f : α → β) {e : Expression α} (h : e.WellFormed) :
    (e.map f).flatten leaf = e.flatten (leaf ∘ f) := by
  induction h with
  | leaf a => rfl
  | @apply r args length all ih =>
      rw [map_apply, flatten_apply, flatten_apply, List.map_map]
      exact congrArg r.write (List.map_congr_left ih)

end Expression

/-! ## Lists of trees over operands -/

/-- **Operand**: an instruction that stands for itself. -/
abbrev Operand : Type := { i : Instruction // i.isOperand = true }

namespace Expression

/-- **Instruction list of a tree over operands**. -/
def list : Expression Operand → List Instruction := flatten Subtype.val

/-- The list of a reduction is its written form. -/
theorem list_apply (r : Reduction) (args : List (Expression Operand)) :
    (apply r args).list = r.write (args.map list) :=
  flatten_apply _ r args

/-- An operator of one operand is listed before it. -/
theorem list_before {r : Reduction} (manner : r.opcode.manner = .before) (u : Expression Operand) :
    (apply r [u]).list = .operator r.opcode.name :: u.list :=
  flatten_before _ manner u

/-- An operator of two operands is listed between them. -/
theorem list_between {r : Reduction} (manner : r.opcode.manner = .between) (u v : Expression Operand) :
    (apply r [u, v]).list = u.list ++ .operator r.opcode.name :: v.list :=
  flatten_between _ manner u v

/-- **The ways to write a readable tree**: as an atomic one, with an operator before an operand, or with one
behind an atomic operand. -/
theorem Readable.cases {e : Expression Operand} (h : e.Readable) :
    e.Atomic ∨
      (∃ r u, e = .apply r [u] ∧ r.opcode.manner = .before ∧ 1 = r.operands ∧ u.Readable) ∨
      ∃ r u v, e = .apply r [u, v] ∧ r.opcode.manner = .between ∧ 2 = r.operands ∧
        u.Atomic ∧ u.Readable ∧ v.Readable := by
  cases h with
  | leaf a => exact .inl trivial
  | @apply r args length first all =>
      cases Reduction.fits length with
      | before manner u => exact .inr (.inl ⟨r, u, rfl, manner, length, all u List.mem_cons_self⟩)
      | between manner u v =>
          exact .inr (.inr ⟨r, u, v, rfl, manner, length, first manner u rfl, all u List.mem_cons_self,
            all v (by simp)⟩)
      | grouped manner _ | term manner _ _ _ | compoundTerm manner _ _ _ | call manner _ =>
          exact .inl ⟨by rw [manner]; decide, by rw [manner]; decide⟩

end Expression

/-- The sign that turns an operand into its negative. -/
def Reduction.minus : Reduction := ⟨⟨0x08, "-", .reduce 1⟩, 1, by decide, .inl rfl⟩

/-- The operand zero. -/
def Operand.zero : Operand := ⟨.integer 0, rfl⟩

/-- **Layout of an atomic reduction**: the name before its brackets, and the arguments in them. Those of the
term functions are an operand with a sign and a zero, besides operands as they are. -/
inductive Reduction.Layout (r : Reduction) (name : Option String) :
    List (Expression Operand) → List (Expression Operand) → Prop
  | grouped (manner : r.opcode.manner = .grouped) (named : name = none) (u : Expression Operand) :
      Layout r name [u] [u]
  | term (manner : r.opcode.manner = .term) (named : name = some "NPER") (pmt rate fv : Expression Operand) :
      Layout r name [pmt, rate, fv] [rate, .apply minus [pmt], .leaf .zero, fv]
  | compoundTerm (manner : r.opcode.manner = .compoundTerm) (named : name = some "NPER")
      (rate fv pv : Expression Operand) :
      Layout r name [rate, fv, pv] [rate, .leaf .zero, .apply minus [pv], fv]
  | call (manner : r.opcode.manner = .call) (named : name = some r.opcode.name)
      (args : List (Expression Operand)) : Layout r name args args

/-- **An atomic reduction is written by its layout**: the name, and the arguments in brackets. -/
theorem Expression.exists_layout {r : Reduction} {args : List (Expression Operand)}
    (length : args.length = r.operands) (atomic : (apply r args).Atomic) :
    ∃ name items, r.Layout name args items ∧
      (apply r args).list = (name.map Instruction.function).toList ++ bracketed (items.map list) := by
  rw [list_apply]
  cases Reduction.fits length with
  | before manner u => exact absurd manner atomic.1
  | between manner u v => exact absurd manner atomic.2
  | grouped manner u => exact ⟨_, _, .grouped manner rfl u, Reduction.write_grouped manner _⟩
  | term manner pmt rate fv => exact ⟨_, _, .term manner rfl pmt rate fv, Reduction.write_term manner _ _ _⟩
  | compoundTerm manner rate fv pv =>
      exact ⟨_, _, .compoundTerm manner rfl rate fv pv, Reduction.write_compoundTerm manner _ _ _⟩
  | call manner args => exact ⟨_, _, .call manner rfl args, Reduction.write_call manner _⟩

/-- What holds of the operands holds of the arguments, if it goes with the sign and holds of zero. -/
theorem Reduction.Layout.forall_items {P : Expression Operand → Prop} (sign : ∀ u, P u → P (.apply minus [u]))
    (zero : P (.leaf .zero)) {r : Reduction} {name : Option String} {args items : List (Expression Operand)}
    (h : r.Layout name args items) (all : ∀ e ∈ args, P e) : ∀ e ∈ items, P e := by
  cases h with
  | grouped manner named u => exact all
  | term manner named pmt rate fv =>
      simp only [List.forall_mem_cons] at all ⊢
      obtain ⟨hpmt, hrate, hfv, none⟩ := all
      exact ⟨hrate, sign pmt hpmt, zero, hfv, none⟩
  | compoundTerm manner named rate fv pv =>
      simp only [List.forall_mem_cons] at all ⊢
      obtain ⟨hrate, hfv, hpv, none⟩ := all
      exact ⟨hrate, zero, sign pv hpv, hfv, none⟩
  | call manner named args => exact all

/-! ## What the table tells apart -/

/-- **Opcodes of one name** are written in different manners. -/
theorem Opcode.pairwise_manner_ne :
    Opcode.table.Pairwise fun o o' => o.name = o'.name → o.manner ≠ o'.manner := by
  decide +kernel

/-- **Manner and name tell opcodes apart.** -/
theorem Opcode.eq_of_name {o o' : Opcode} (mem : o ∈ Opcode.table) (mem' : o' ∈ Opcode.table)
    (manner : o.manner = o'.manner) (name : o.name = o'.name) : o = o' := by
  have symm : Std.Symm fun o o' : Opcode => o.name = o'.name → o.manner ≠ o'.manner :=
    ⟨fun o o' apart name => (apart name.symm).symm⟩
  by_contra different
  exact Opcode.pairwise_manner_ne.forall mem mem' different name manner

/-- No call has the name of the function of periods. -/
theorem Opcode.call_name_ne : ∀ o ∈ Opcode.table, o.manner = .call → o.name ≠ "NPER" := by
  decide +kernel

/-- No operand starts with a sign. -/
theorem Reduction.starts_operator {r : Reduction} (manner : r.opcode.manner = .before) :
    (Instruction.operator r.opcode.name).starts = false := by
  have sign := Opcode.sign_of_manner _ r.takes.1 (.inl manner)
  rw [Bool.eq_false_iff, Ne, (Instruction.sign_spec sign).2.2.2]
  simp

/-- **Layouts tell atomic reductions apart**, also the two term functions, whose zeros stand in different
places. -/
theorem Reduction.Layout.unique {r r' : Reduction} {name : Option String}
    {args args' items : List (Expression Operand)} (h : r.Layout name args items)
    (h' : r'.Layout name args' items) : r.opcode = r'.opcode ∧ args = args' := by
  obtain ⟨-, -, bracket, term, compoundTerm, -⟩ := Opcode.shape_of_manner _ r.takes.1
  obtain ⟨-, -, bracket', term', compoundTerm', -⟩ := Opcode.shape_of_manner _ r'.takes.1
  have periods := Opcode.call_name_ne _ r.takes.1
  have periods' := Opcode.call_name_ne _ r'.takes.1
  have same := Opcode.eq_of_name r.takes.1 r'.takes.1
  -- The name tells the manner: both term functions become one name that no call has.
  cases h with
  | grouped manner named u =>
      cases h' with
      | grouped manner' named' =>
          exact ⟨same (manner.trans manner'.symm) ((bracket manner).2.trans (bracket' manner').2.symm), rfl⟩
      | call manner' named' => cases named.symm.trans named'
  | term manner named pmt rate fv =>
      cases h' with
      | term manner' named' =>
          exact ⟨same (manner.trans manner'.symm) ((term manner).2.1.trans (term' manner').2.1.symm), rfl⟩
      | call manner' named' =>
          exact absurd (Option.some.inj (named'.symm.trans named)) (periods' manner')
  | compoundTerm manner named rate fv pv =>
      cases h' with
      | compoundTerm manner' named' =>
          exact ⟨same (manner.trans manner'.symm)
            ((compoundTerm manner).2.1.trans (compoundTerm' manner').2.1.symm), rfl⟩
      | call manner' named' =>
          exact absurd (Option.some.inj (named'.symm.trans named)) (periods' manner')
  | call manner named args =>
      cases h' with
      | grouped manner' named' => cases named.symm.trans named'
      | term manner' named' | compoundTerm manner' named' =>
          exact absurd (Option.some.inj (named.symm.trans named')) (periods manner)
      | call manner' named' =>
          exact ⟨same (manner.trans manner'.symm) (Option.some.inj (named.symm.trans named')), rfl⟩

namespace Expression

/-- Reductions of one opcode with the same operands are the same tree. -/
theorem apply_congr {r r' : Reduction} {args args' : List (Expression Operand)}
    (length : args.length = r.operands) (length' : args'.length = r'.operands)
    (same : r.opcode = r'.opcode) (args_eq : args = args') : apply r args = apply r' args' := by
  subst args_eq
  obtain ⟨opcode, operands, takes⟩ := r
  obtain ⟨opcode', operands', takes'⟩ := r'
  obtain rfl : opcode = opcode' := same
  obtain rfl : operands = operands' := length.symm.trans length'
  rfl

/-! ## Cancelling a tree from the front of a list -/

/-- **Where a tree stops**: nothing follows, or a separator or a closing bracket. -/
def Stops (k : List Instruction) : Prop :=
  ∀ i ∈ k.head?, i.sign? = some .separator ∨ i.sign? = some .closing

/-- **A legible tree** can be cancelled from the front of a list: no other readable tree stands there. Atomic
trees are told apart whatever follows, other trees when they stop. -/
def Legible (e : Expression Operand) : Prop :=
  ∀ e', e'.Readable → ∀ k k', e.Atomic ∧ e'.Atomic ∨ Stops k ∧ Stops k' →
    e.list ++ k = e'.list ++ k' → e = e' ∧ k = k'

/-- No tree stops before an operator. -/
theorem not_stops_operator {r : Reduction} (manner : r.opcode.manner = .between) (k : List Instruction) :
    ¬ Stops (.operator r.opcode.name :: k) := by
  intro stops
  have sign := Opcode.sign_of_manner _ r.takes.1 (.inr manner)
  rcases stops _ rfl with other | other
  · cases sign.symm.trans other
  · cases sign.symm.trans other

/-- An atomic tree starts an operand. -/
theorem Readable.starts_of_atomic {e : Expression Operand} (h : e.Readable) (atomic : e.Atomic) :
    ∃ i rest, e.list = i :: rest ∧ i.starts = true := by
  cases h with
  | leaf a =>
      refine ⟨a.val, [], rfl, ?_⟩
      unfold Instruction.starts
      split
      · rfl
      · rw [a.property, Bool.true_or]
  | @apply r args length first all =>
      obtain ⟨name, items, -, written⟩ := exists_layout length atomic
      cases name with
      | none => exact ⟨_, _, written, rfl⟩
      | some name => exact ⟨_, _, written, rfl⟩

/-- An atomic tree is told from what starts no operand. -/
theorem Readable.ne_cons {e : Expression Operand} (h : e.Readable) (atomic : e.Atomic) {i : Instruction}
    (other : i.starts = false) (k k' : List Instruction) : e.list ++ k ≠ i :: k' := by
  obtain ⟨j, rest, written, starts⟩ := h.starts_of_atomic atomic
  rw [written, List.cons_append]
  intro same
  rw [(List.cons.inj same).1, other] at starts
  cases starts

/-- No tree starts with a closing bracket. -/
theorem Readable.ne_closing {e : Expression Operand} (h : e.Readable) (k k' : List Instruction) :
    e.list ++ k ≠ .operator ")" :: k' := by
  rcases h.cases with atomic | ⟨r, u, rfl, manner, -, -⟩ | ⟨r, u, v, rfl, manner, -, atomic, readable, -⟩
  · exact h.ne_cons atomic rfl k k'
  · rw [list_before manner, List.cons_append]
    intro same
    have sign := Opcode.sign_of_manner _ r.takes.1 (.inl manner)
    rw [(List.cons.inj same).1] at sign
    cases sign
  · rw [list_between manner, List.append_assoc]
    exact readable.ne_cons atomic rfl _ k'

/-! ## Arguments -/

/-- **The arguments behind the first one**, up to the closing bracket, and what follows. -/
def closing (args : List (Expression Operand)) (k : List Instruction) : List Instruction :=
  match args with
  | [] => .operator ")" :: k
  | e :: es => .operator ";" :: (e.list ++ closing es k)

/-- An argument ends where the next one begins, or at the bracket. -/
theorem stops_closing (args : List (Expression Operand)) (k : List Instruction) : Stops (closing args k) := by
  cases args with
  | nil =>
      rintro i ⟨⟩
      exact .inr rfl
  | cons e es =>
      rintro i ⟨⟩
      exact .inl rfl

/-- Arguments in brackets are the first one and those behind it. -/
theorem bracketed_append (e : Expression Operand) (es : List (Expression Operand)) (k : List Instruction) :
    bracketed ((e :: es).map list) ++ k = .operator "(" :: (e.list ++ closing es k) := by
  induction es generalizing e with
  | nil => simp [bracketed, closing]
  | cons e' es ih =>
      have others := ih e'
      simp only [List.map_cons, bracketed, List.cons_append, List.append_assoc, List.nil_append,
        List.intercalate_cons_cons, List.cons.injEq, true_and] at others ⊢
      rw [others, closing]

/-- **Legible arguments behind the first one** can be cancelled. -/
theorem closing_cancel {es es' : List (Expression Operand)} (legible : ∀ e ∈ es, e.Legible)
    (readable : ∀ e ∈ es', e.Readable) {k k' : List Instruction} (h : closing es k = closing es' k') :
    es = es' ∧ k = k' := by
  -- The first instruction tells whether there is another argument, and each argument stops at the next one.
  induction es generalizing es' with
  | nil =>
      cases es' with
      | nil => exact ⟨rfl, (List.cons.inj h).2⟩
      | cons e' es' => simp [closing] at h
  | cons e es ih =>
      cases es' with
      | nil => simp [closing] at h
      | cons e' es' =>
          obtain ⟨rfl, rest⟩ := legible e List.mem_cons_self e' (readable e' List.mem_cons_self) _ _
            (.inr ⟨stops_closing es k, stops_closing es' k'⟩) (List.cons.inj h).2
          obtain ⟨rfl, same⟩ := ih (fun e mem => legible e (List.mem_cons_of_mem _ mem))
            (fun e mem => readable e (List.mem_cons_of_mem _ mem)) rest
          exact ⟨rfl, same⟩

/-- **Legible arguments in brackets** can be cancelled. -/
theorem bracketed_cancel {es es' : List (Expression Operand)}
    (legible : ∀ e ∈ es, e.Readable ∧ e.Legible) (readable : ∀ e ∈ es', e.Readable) {k k' : List Instruction}
    (h : bracketed (es.map list) ++ k = bracketed (es'.map list) ++ k') : es = es' ∧ k = k' := by
  have empty : ∀ l, bracketed (([] : List (Expression Operand)).map list) ++ l =
      .operator "(" :: .operator ")" :: l := fun l => rfl
  -- Behind the opening bracket there is a first argument or the closing bracket, on both sides alike.
  cases es with
  | nil =>
      cases es' with
      | nil => exact ⟨rfl, List.append_cancel_left h⟩
      | cons e' es' =>
          rw [empty, bracketed_append] at h
          exact absurd (List.cons.inj h).2.symm ((readable e' List.mem_cons_self).ne_closing _ _)
  | cons e es =>
      cases es' with
      | nil =>
          rw [empty, bracketed_append] at h
          exact absurd (List.cons.inj h).2 ((legible e List.mem_cons_self).1.ne_closing _ _)
      | cons e' es' =>
          rw [bracketed_append, bracketed_append] at h
          have closed : closing (e :: es) k = closing (e' :: es') k' := by
            rw [closing, closing, (List.cons.inj h).2]
          exact closing_cancel (fun e mem => (legible e mem).2) readable closed

/-- The name before brackets can be cancelled. -/
theorem heading_cancel {name name' : Option String} {a b : List Instruction}
    {args args' : List (List Instruction)}
    (h : (name.map Instruction.function).toList ++ bracketed args ++ a =
      (name'.map Instruction.function).toList ++ bracketed args' ++ b) :
    name = name' ∧ bracketed args ++ a = bracketed args' ++ b := by
  cases name with
  | none =>
      cases name' with
      | none => exact ⟨rfl, h⟩
      | some name' => simp [bracketed] at h
  | some name =>
      cases name' with
      | none => simp [bracketed] at h
      | some name' =>
          obtain ⟨same, rest⟩ := List.cons.inj h
          exact ⟨congrArg some (Instruction.function.inj same), rest⟩

/-! ## Readable trees are legible -/

/-- **Atomic trees are legible** when they are told apart from atomic trees. -/
theorem Readable.legible_of_atomic {e : Expression Operand} (h : e.Readable) (atomic : e.Atomic)
    (cancel : ∀ e', e'.Readable → e'.Atomic → ∀ k k', e.list ++ k = e'.list ++ k' → e = e' ∧ k = k') :
    e.Legible := by
  intro e' readable k k' stops same
  rcases readable.cases with
    atomic' | ⟨r, u, rfl, manner, -, -⟩ | ⟨r, u, v, rfl, manner, -, atomic', readable', -⟩
  · exact cancel e' readable atomic' k k' same
  · rw [list_before manner] at same
    exact absurd same (h.ne_cons atomic (Reduction.starts_operator manner) _ _)
  · -- The tree would go on behind its first operand, where the other one stops.
    rw [list_between manner, List.append_assoc] at same
    obtain ⟨-, rfl⟩ := cancel u readable' atomic' _ _ same
    rcases stops with ⟨-, bare⟩ | ⟨stops, -⟩
    · exact absurd manner bare.2
    · exact absurd stops (not_stops_operator manner _)

/-- A leaf is legible. -/
theorem legible_leaf (a : Operand) : (leaf a).Legible := by
  refine (Readable.leaf a).legible_of_atomic trivial fun e' readable atomic k k' same => ?_
  cases readable with
  | leaf b =>
      obtain ⟨value, rest⟩ := List.cons.inj same
      exact ⟨congrArg leaf (Subtype.ext value), rest⟩
  -- Anything else starts with a name or a bracket, which is no operand.
  | @apply r args length first all =>
      obtain ⟨name, items, -, written⟩ := exists_layout length atomic
      have operand := a.property
      rw [written] at same
      cases name with
      | none | some name =>
          rw [(List.cons.inj same).1] at operand
          cases operand

/-- **An operator before a legible operand.** -/
theorem legible_before {r : Reduction} (manner : r.opcode.manner = .before) (length : 1 = r.operands)
    {u : Expression Operand} (legible : u.Legible) : (apply r [u]).Legible := by
  intro e' readable k k' stops same
  replace stops := stops.resolve_left fun atomic => atomic.1.1 manner
  rw [list_before manner] at same
  rcases readable.cases with
    atomic | ⟨r', u', rfl, manner', length', readable'⟩ | ⟨r', u', v', rfl, manner', -, atomic, readable', -⟩
  · exact absurd same.symm (readable.ne_cons atomic (Reduction.starts_operator manner) _ _)
  · rw [list_before manner'] at same
    obtain ⟨name, operand⟩ := List.cons.inj same
    obtain ⟨rfl, rest⟩ := legible u' readable' k k' (.inr stops) operand
    have opcode := Opcode.eq_of_name r.takes.1 r'.takes.1 (manner.trans manner'.symm)
      (Instruction.operator.inj name)
    exact ⟨apply_congr length length' opcode rfl, rest⟩
  · -- An operator in between would have an atomic tree before it, and that starts with no sign.
    rw [list_between manner', List.append_assoc] at same
    exact absurd same.symm (readable'.ne_cons atomic (Reduction.starts_operator manner) _ _)

/-- **An operator between legible operands**, the first one atomic. -/
theorem legible_between {r : Reduction} (manner : r.opcode.manner = .between) (length : 2 = r.operands)
    {u v : Expression Operand} (atomic : u.Atomic) (readable : u.Readable) (legible : u.Legible)
    (legible' : v.Legible) : (apply r [u, v]).Legible := by
  intro e' readable' k k' stops same
  replace stops := stops.resolve_left fun atomic => atomic.1.2 manner
  rw [list_between manner, List.append_assoc] at same
  rcases readable'.cases with
    atomic' | ⟨r', u', rfl, manner', -, -⟩ |
    ⟨r', u', v', rfl, manner', length', atomic', readableU, readableV⟩
  · obtain ⟨-, rest⟩ := legible e' readable' _ _ (.inl ⟨atomic, atomic'⟩) same
    exact absurd (rest ▸ stops.2) (not_stops_operator manner _)
  · rw [list_before manner'] at same
    exact absurd same (readable.ne_cons atomic (Reduction.starts_operator manner') _ _)
  · -- The first operands are the same, then the operators, and then what is left.
    rw [list_between manner', List.append_assoc] at same
    obtain ⟨rfl, behind⟩ := legible u' readableU _ _ (.inl ⟨atomic, atomic'⟩) same
    obtain ⟨name, operand⟩ := List.cons.inj behind
    obtain ⟨rfl, rest⟩ := legible' v' readableV k k' (.inr stops) operand
    have opcode := Opcode.eq_of_name r.takes.1 r'.takes.1 (manner.trans manner'.symm)
      (Instruction.operator.inj name)
    exact ⟨apply_congr length length' opcode rfl, rest⟩

/-- A readable operand with a sign. -/
theorem readable_minus {u : Expression Operand} (h : u.Readable) : (apply .minus [u]).Readable :=
  .apply rfl (fun manner => by cases manner) fun e mem => List.mem_singleton.mp mem ▸ h

/-- **An atomic reduction of legible operands.** -/
theorem legible_atomic {r : Reduction} {args : List (Expression Operand)} (h : (apply r args).Readable)
    (atomic : (apply r args).Atomic) (legible : ∀ e ∈ args, e.Legible) : (apply r args).Legible := by
  refine h.legible_of_atomic atomic fun e' readable' atomic' k k' same => ?_
  cases readable' with
  | leaf a =>
      obtain ⟨rest, rfl⟩ := legible_leaf a _ h k' k (.inl ⟨trivial, atomic⟩) same.symm
      exact ⟨rest.symm, rfl⟩
  | @apply r' args' length' first' readable' =>
      cases h with
      | apply length first readable =>
          obtain ⟨name, items, layout, written⟩ := exists_layout length atomic
          obtain ⟨name', items', layout', written'⟩ := exists_layout length' atomic'
          rw [written, written'] at same
          obtain ⟨rfl, brackets⟩ := heading_cancel same
          -- The arguments in the brackets are legible, with a sign or a zero among them as well.
          have arguments := layout.forall_items (P := fun e => e.Readable ∧ e.Legible)
            (fun u hu => ⟨readable_minus hu.1, legible_before rfl rfl hu.2⟩) ⟨.leaf _, legible_leaf _⟩
            fun e mem => ⟨readable e mem, legible e mem⟩
          have arguments' := layout'.forall_items (fun u => readable_minus) (.leaf _) readable'
          obtain ⟨rfl, rest⟩ := bracketed_cancel arguments arguments' brackets
          obtain ⟨opcode, operands⟩ := layout.unique layout'
          exact ⟨apply_congr length length' opcode operands, rest⟩

/-- **Readable trees are legible.** -/
theorem Readable.legible {e : Expression Operand} (h : e.Readable) : e.Legible := by
  induction h with
  | leaf a => exact legible_leaf a
  | @apply r args length first all ih =>
      have readable : (Expression.apply r args).Readable := .apply length first all
      rcases readable.cases with atomic | ⟨r, u, same, manner, one, -⟩ |
        ⟨r, u, v, same, manner, two, atomic, readableU, -⟩
      · exact legible_atomic readable atomic ih
      · cases same
        exact legible_before manner one (ih u List.mem_cons_self)
      · cases same
        exact legible_between manner two atomic readableU (ih u List.mem_cons_self) (ih v (by simp))

/-- **Lists tell readable trees apart.** -/
theorem Readable.list_injective {e e' : Expression Operand} (h : e.Readable) (h' : e'.Readable)
    (same : e.list = e'.list) : e = e' := by
  have stops : Stops [] := by
    rintro i ⟨⟩
  exact (h.legible e' h' [] [] (.inr ⟨stops, stops⟩) (by rw [same])).1

end Expression

/-! ## Decoded trees -/

/-- **Operand of a leaf** whose texts are in a code page. -/
def Leaf.operand (page : CodePage) (l : Leaf CellRef) : Operand :=
  ⟨l.instruction page, l.isOperand_instruction page⟩

/-- **Data encode a tree** when the formula before their end carries its stream, in the layout of the variant.
The references of the tree are those that the formula refers to. -/
structure Encodes {σ : Type} (o : Options σ) (names : σ) (page : CodePage) (data : List UInt8) (stop : Int)
    (e : Expression (Leaf CellRef)) : Prop where
  /-- The code page of the variant. -/
  known : CodePage.ofName? o.variant.charset = some page
  /-- The end is no negative number. -/
  start : 0 ≤ stop
  /-- The end is not behind the data. -/
  inside : stop ≤ data.length
  /-- The tree has all its operands. -/
  wellFormed : e.WellFormed
  /-- The formula carries the stream of the tree. -/
  carries : Carries o names (data.take stop.toNat) e.stream

section Encodes

variable {σ τ : Type} {o : Options σ} {names : σ} {page : CodePage} {data : List UInt8} {stop : Int}
  {e : Expression (Leaf CellRef)}

/-- **An encoded tree is decoded** to the list of the tree over operands. -/
theorem Encodes.exists_ok (h : Encodes o names page data stop e) :
    ∃ d, (decode o names data stop).outcome = .ok d ∧ d.instructions = (e.map (Leaf.operand page)).list := by
  have acts := Lexeme.run_stream (fun l => [l.instruction page]) Reduction.write h.wellFormed [] []
  rw [List.append_nil] at acts
  have framed : Framed data stop (data.take stop.toNat) := ⟨h.start, h.inside, rfl⟩
  obtain ⟨d, ok, list⟩ := h.carries.exists_ok framed acts
  refine ⟨d, ?_, ?_⟩
  · rw [framed.decode_eq h.known, ok]
  · rw [list, Expression.list, Expression.flatten_map _ _ h.wellFormed]
    rfl

/-- **The bytes of a tree encode it** in line, with its references resolved from left to right. -/
theorem encodes_bytes (layout : o.variant.layout = .interleaved)
    (known : CodePage.ofName? o.variant.charset = some page) {e : Expression (Leaf o.Ref)} (h : e.WellFormed)
    (names : σ) : Encodes o names page e.bytes e.bytes.length
      (e.traverse (Leaf.traverse fun ref => o.reference ref.val) names).1 where
  known := known
  start := Int.natCast_nonneg _
  inside := Int.le_refl _
  wellFormed := h.traverse _ names
  carries := by
    have bare : .terminator ∉ e.stream := by
      have acts := Lexeme.run_stream Expression.leaf Expression.apply h [] []
      rw [List.append_nil] at acts
      exact Lexeme.terminator_not_mem_of_run acts
    have carries : Carries o names e.bytes (threaded o.resolved e.stream names).1 :=
      .inline layout bare (by rw [List.append_nil, Expression.flatMap_stream _ h]; rfl) (.inl rfl)
    rw [Int.toNat_natCast, List.take_length]
    rwa [Options.resolved, Expression.threaded_stream _ h] at carries

/-- **Delimited trees are read in one way.** Data that encode delimited trees are decoded. The lists are the
same exactly if the trees are: the same opcodes with as many operands, and in the same places leaves that are
decoded to the same instructions. -/
theorem decode_delimited_iff {o' : Options τ} {names' : τ} {page' : CodePage} {data' : List UInt8}
    {stop' : Int} {e' : Expression (Leaf CellRef)} (h : Encodes o names page data stop e)
    (h' : Encodes o' names' page' data' stop' e') (delimited : e.Delimited) (delimited' : e'.Delimited) :
    ∃ d d', (decode o names data stop).outcome = .ok d ∧ (decode o' names' data' stop').outcome = .ok d' ∧
      (d.instructions = d'.instructions ↔ e.map (Leaf.operand page) = e'.map (Leaf.operand page')) := by
  obtain ⟨d, ok, list⟩ := h.exists_ok
  obtain ⟨d', ok', list'⟩ := h'.exists_ok
  refine ⟨d, d', ok, ok', ?_⟩
  rw [list, list']
  constructor
  · have readable := (h.wellFormed.readable delimited).map (Leaf.operand page)
    have readable' := (h'.wellFormed.readable delimited').map (Leaf.operand page')
    exact readable.list_injective readable'
  · intro same
    rw [same]

/-- The term of an annuity and the term of a compounded sum over two integers and a zero: in both lists a zero
and a negative stand behind the rate, in one order and in the other. -/
theorem decode_delimited_terms :
    ∃ d d', (decode ⟨.wk1, {}, Names.none.resolver⟩ ()
        [0x05, 0x01, 0x00, 0x05, 0x02, 0x00, 0x05, 0x00, 0x00, 0x75] 10).outcome = .ok d ∧
      (decode ⟨.wk1, {}, Names.none.resolver⟩ ()
        [0x05, 0x02, 0x00, 0x05, 0x00, 0x00, 0x05, 0x01, 0x00, 0x76] 10).outcome = .ok d' ∧
      d.instructions ≠ d'.instructions := by
  let o : Options Unit := ⟨.wk1, {}, Names.none.resolver⟩
  let e : Expression (Leaf o.Ref) := .apply ⟨⟨0x75, "TERM", .reduce 3⟩, 3, by decide, .inl rfl⟩
    [.leaf (.integer 1), .leaf (.integer 2), .leaf (.integer 0)]
  let e' : Expression (Leaf o.Ref) := .apply ⟨⟨0x76, "CTERM", .reduce 3⟩, 3, by decide, .inl rfl⟩
    [.leaf (.integer 2), .leaf (.integer 0), .leaf (.integer 1)]
  have leaves : ∀ (r : Reduction) (a b c : Leaf o.Ref), 3 = r.operands →
      (Expression.apply r [.leaf a, .leaf b, .leaf c]).WellFormed := by
    intro r a b c three
    refine .apply three ?_
    simp only [List.forall_mem_cons]
    exact ⟨.leaf a, .leaf b, .leaf c, by simp⟩
  have delimited : ∀ (r : Reduction) (a b c : Leaf CellRef),
      (Expression.apply r [.leaf a, .leaf b, .leaf c]).Delimited := by
    intro r a b c
    refine .apply (fun _ => ?_) ?_
    · simp only [List.forall_mem_cons]
      exact ⟨trivial, trivial, trivial, by simp⟩
    · simp only [List.forall_mem_cons]
      exact ⟨.leaf a, .leaf b, .leaf c, by simp⟩
  have page := CodePage.ofName?_name .cp437
  have encodes := encodes_bytes (o := o) (e := e) rfl page (leaves _ _ _ _ rfl) ()
  have encodes' := encodes_bytes (o := o) (e := e') rfl page (leaves _ _ _ _ rfl) ()
  obtain ⟨d, d', ok, ok', same⟩ :=
    decode_delimited_iff encodes encodes' (delimited _ _ _ _) (delimited _ _ _ _)
  refine ⟨d, d', ok, ok', fun equal => ?_⟩
  have trees := same.mp equal
  injection trees with opcode
  injection opcode with opcode
  exact absurd opcode (by decide)

end Encodes

end SheetFormula
