import SheetFormula.Opcode
import SheetFormula.Reduction

/-!
# Expression trees and their postfix form

A formula is an expression tree; its opcode stream is the tree in postfix order. This file gives both sides
and the stack discipline between them, for leaves of any kind:

* **`Reduction`** — a valid opcode together with the number of operands it takes;
* **`Expression`** — trees of reductions, with `Expression.fold` and `Expression.WellFormed`;
* **`Lexeme`** — one unit of a postfix stream; `Lexeme.run` runs a stream on a stack of values, and
  `Lexeme.depthAfter` only counts how many there are;
* **`Expression.stream`** — the stream of a tree. `Lexeme.run_stream` says that it leaves the value of
  the tree on the stack, `Lexeme.run_eq_some_singleton_iff` that nothing else leaves a single value;
* **`Expression.encode`** — the stream of a tree as a list of bytes, or of anything else;
* **`Expression.traverse`** — a tree with its leaves replaced in stream order, by a function that keeps a
  state.
-/

namespace SheetFormula

/-! ## Reductions and trees -/

/-- **An opcode takes `n` operands** when it is listed as a reduction of exactly that many, or as one whose
count is a byte of its own. -/
def Opcode.Takes (o : Opcode) (n : Nat) : Prop :=
  o ∈ Opcode.table ∧ (o.role = .reduce n ∨ o.role = .reduceCounted ∧ n < 256)

/-- **A reduction**: a valid opcode and the number of operands it takes. -/
structure Reduction where
  /-- The opcode. -/
  opcode : Opcode
  /-- How many operands it takes. -/
  operands : Nat
  /-- The opcode does take that many. -/
  takes : opcode.Takes operands

/-- **An expression tree**: a leaf, or a reduction applied to its operands from left to right. -/
inductive Expression (α : Type) where
  /-- An operand that stands for itself. -/
  | leaf (a : α)
  /-- A reduction of operands. -/
  | apply (r : Reduction) (args : List (Expression α))

namespace Expression

variable {α β : Type}

mutual

/-- **Fold of a tree**: its value when leaves and reductions are given values. -/
def fold (leaf : α → β) (node : Reduction → List β → β) : Expression α → β
  | .leaf a => leaf a
  | .apply r args => node r (foldAll leaf node args)

/-- The folds of several trees. -/
def foldAll (leaf : α → β) (node : Reduction → List β → β) : List (Expression α) → List β
  | [] => []
  | e :: es => e.fold leaf node :: foldAll leaf node es

end

variable {leaf : α → β} {node : Reduction → List β → β}

/-- Trees of a list are folded one by one. -/
theorem foldAll_eq_map (es : List (Expression α)) : foldAll leaf node es = es.map (fold leaf node) := by
  induction es with
  | nil => rfl
  | cons e es ih => rw [foldAll, ih, List.map_cons]

/-- A leaf is folded to its value. -/
theorem fold_leaf (a : α) : (Expression.leaf a).fold leaf node = leaf a := rfl

/-- A reduction is folded to the value of its folded arguments. -/
theorem fold_apply (r : Reduction) (args : List (Expression α)) :
    (Expression.apply r args).fold leaf node = node r (args.map (fold leaf node)) := by
  rw [fold, foldAll_eq_map]

/-- **Well-formed tree**: every reduction in it has exactly as many operands as it takes. -/
inductive WellFormed : Expression α → Prop
  | leaf (a : α) : WellFormed (.leaf a)
  | apply {r : Reduction} {args : List (Expression α)} (length : args.length = r.operands)
      (all : ∀ e ∈ args, WellFormed e) : WellFormed (.apply r args)

end Expression

/-! ## Postfix streams -/

/-- **Lexeme**: one unit of a postfix stream. -/
inductive Lexeme (α : Type) where
  /-- An operand. -/
  | leaf (a : α)
  /-- A reduction of the operands before it. -/
  | reduce (r : Reduction)
  /-- The end of the formula. -/
  | terminator

namespace Lexeme

variable {α β γ : Type}

/-- **Effect of a lexeme** on a stack of values, the top one first: a leaf is put on, a reduction replaces
its operands by their value. It is `none` when there are too few of them, and for the terminator. -/
def act (leaf : α → β) (node : Reduction → List β → β) (stack : List β) : Lexeme α → Option (List β)
  | .leaf a => some (leaf a :: stack)
  | .reduce r =>
    if r.operands ≤ stack.length then
      some (node r (stack.take r.operands).reverse :: stack.drop r.operands)
    else none
  | .terminator => none

/-- **Run a stream** on a stack. -/
def run (leaf : α → β) (node : Reduction → List β → β) : List (Lexeme α) → List β → Option (List β)
  | [], stack => some stack
  | x :: xs, stack => (x.act leaf node stack).bind (run leaf node xs)

/-- **Effect on the depth**: how many values there are after a lexeme when there were `d` before. -/
def depth (d : Nat) : Lexeme α → Option Nat
  | .leaf _ => some (d + 1)
  | .reduce r => if r.operands ≤ d then some (d - r.operands + 1) else none
  | .terminator => none

/-- **Depth after a stream** that starts with `d` values. -/
def depthAfter : List (Lexeme α) → Nat → Option Nat
  | [], d => some d
  | x :: xs, d => (x.depth d).bind (depthAfter xs)

variable {leaf : α → β} {node : Reduction → List β → β}

/-- A reduction of exactly the operands on top. -/
theorem act_reduce (r : Reduction) (args stack : List β) (h : args.length = r.operands) :
    (Lexeme.reduce r).act leaf node (args.reverse ++ stack) = some (node r args :: stack) := by
  have enough : r.operands ≤ (args.reverse ++ stack).length := by
    rw [List.length_append, List.length_reverse]
    omega
  have top : (args.reverse ++ stack).take r.operands = args.reverse :=
    List.take_left' (by rw [List.length_reverse, h])
  have below : (args.reverse ++ stack).drop r.operands = stack :=
    List.drop_left' (by rw [List.length_reverse, h])
  rw [act, if_pos enough, top, below, List.reverse_reverse]

/-- The depth is the number of values. -/
theorem length_act (leaf : α → β) (node : Reduction → List β → β) (x : Lexeme α) (stack : List β) :
    (x.act leaf node stack).map List.length = x.depth stack.length := by
  cases x with
  | leaf a => rfl
  | reduce r =>
      rw [act, depth]
      by_cases h : r.operands ≤ stack.length
      · rw [if_pos h, if_pos h, Option.map_some, List.length_cons, List.length_drop]
      · rw [if_neg h, if_neg h, Option.map_none]
  | terminator => rfl

/-- **The depth counter follows every run**, whatever the values are. -/
theorem length_run (leaf : α → β) (node : Reduction → List β → β) (xs : List (Lexeme α))
    (stack : List β) :
    (run leaf node xs stack).map List.length = depthAfter xs stack.length := by
  induction xs generalizing stack with
  | nil => rfl
  | cons x xs ih =>
      rw [run, depthAfter, ← length_act leaf node]
      cases x.act leaf node stack with
      | none => rfl
      | some stack' => exact ih stack'

/-- **What holds of the leaves and is kept by reductions** holds of every value that a run leaves. -/
theorem forall_run {P : β → Prop} {xs : List (Lexeme α)} (leaves : ∀ a, .leaf a ∈ xs → P (leaf a))
    (nodes : ∀ r args, (∀ b ∈ args, P b) → P (node r args)) {stack stack' : List β}
    (h : run leaf node xs stack = some stack') (start : ∀ b ∈ stack, P b) : ∀ b ∈ stack', P b := by
  induction xs generalizing stack with
  | nil =>
      rw [run, Option.some.injEq] at h
      exact h ▸ start
  | cons x xs ih =>
      rw [run, Option.bind_eq_some_iff] at h
      obtain ⟨middle, hx, hxs⟩ := h
      -- It is enough that one act keeps the property.
      refine ih (fun a ha => leaves a (List.mem_cons_of_mem _ ha)) hxs ?_
      cases x with
      | leaf a =>
          rw [act, Option.some.injEq] at hx
          subst hx
          intro b hb
          rcases List.mem_cons.mp hb with rfl | hb
          · exact leaves a List.mem_cons_self
          · exact start b hb
      | reduce r =>
          simp only [act, Option.ite_none_right_eq_some, Option.some.injEq] at hx
          obtain ⟨-, rfl⟩ := hx
          intro b hb
          rcases List.mem_cons.mp hb with rfl | hb
          · exact nodes r _ fun c hc => start c (List.mem_of_mem_take (List.mem_reverse.mp hc))
          · exact start b (List.mem_of_mem_drop hb)
      | terminator => simp [act] at hx

end Lexeme

/-! ## The stream of a tree -/

namespace Expression

variable {α β : Type}

/-- **Postfix stream of a tree**: the streams of the operands from left to right, then the reduction. -/
def stream : Expression α → List (Lexeme α) :=
  fold (fun a => [.leaf a]) fun r parts => parts.flatten ++ [.reduce r]

/-- **Encoding of a tree** by codes of its lexemes: the operands from left to right, then the reduction. -/
def encode (code : Lexeme α → List β) : Expression α → List β :=
  fold (fun a => code (.leaf a)) fun r parts => parts.flatten ++ code (.reduce r)

/-- The stream of a leaf is one lexeme. -/
theorem stream_leaf (a : α) : (Expression.leaf a).stream = [.leaf a] := rfl

/-- The stream of a reduction has its arguments in order, then the reduction. -/
theorem stream_apply (r : Reduction) (args : List (Expression α)) :
    (Expression.apply r args).stream = args.flatMap stream ++ [.reduce r] := by
  rw [stream, fold_apply, List.flatMap_def]

/-- A tree is encoded lexeme by lexeme of its stream. -/
theorem flatMap_stream (code : Lexeme α → List β) {e : Expression α} (h : e.WellFormed) :
    e.stream.flatMap code = e.encode code := by
  induction h with
  | leaf a => rw [stream_leaf, List.flatMap_singleton, encode, fold_leaf]
  | @apply r args length all ih =>
      have parts : args.map (List.flatMap code ∘ stream) = args.map (encode code) :=
        List.map_congr_left ih
      rw [stream_apply, List.flatMap_append, List.flatMap_singleton, List.flatMap_assoc,
        List.flatMap_def, encode, fold_apply, ← encode]
      exact congrArg (fun parts => parts.flatten ++ code (.reduce r)) parts

end Expression

namespace Lexeme

open Expression (stream fold WellFormed)

variable {α β : Type} {leaf : α → β} {node : Reduction → List β → β}

/-- **Running the streams of several trees**, each of which leaves its value, leaves all values. -/
theorem run_flatMap_stream {es : List (Expression α)}
    (h : ∀ e ∈ es, ∀ xs stack,
      run leaf node (e.stream ++ xs) stack = run leaf node xs (e.fold leaf node :: stack))
    (xs : List (Lexeme α)) (stack : List β) :
    run leaf node (es.flatMap stream ++ xs) stack =
      run leaf node xs ((es.map (fold leaf node)).reverse ++ stack) := by
  induction es generalizing stack with
  | nil => rfl
  | cons e es ih =>
      have first := h e List.mem_cons_self
      have others : ∀ e ∈ es, ∀ xs stack,
          run leaf node (e.stream ++ xs) stack = run leaf node xs (e.fold leaf node :: stack) :=
        fun e he => h e (List.mem_cons_of_mem _ he)
      rw [List.flatMap_cons, List.append_assoc, first, ih others, List.map_cons, List.reverse_cons,
        List.append_assoc, List.singleton_append]

/-- **A tree's stream leaves its value**, whatever is on the stack before and whatever follows. -/
theorem run_stream (leaf : α → β) (node : Reduction → List β → β) {e : Expression α}
    (h : e.WellFormed) (xs : List (Lexeme α)) (stack : List β) :
    run leaf node (e.stream ++ xs) stack = run leaf node xs (e.fold leaf node :: stack) := by
  induction h generalizing xs stack with
  | leaf a => rfl
  | @apply r args length all ih =>
      -- The streams of the operands leave their values, and those are what the reduction finds on top.
      have operands : (args.map (fold leaf node)).length = r.operands := by
        rw [List.length_map, length]
      rw [Expression.stream_apply, List.append_assoc, run_flatMap_stream ih, List.singleton_append,
        run, act_reduce r _ stack operands, Expression.fold_apply, Option.bind_some]

/-- **A run on trees keeps the stream**: the trees on the stack are those whose streams were read. -/
theorem run_trees {xs : List (Lexeme α)} {stack stack' : List (Expression α)}
    (h : run Expression.leaf Expression.apply xs stack = some stack')
    (wellFormed : ∀ e ∈ stack, e.WellFormed) :
    (∀ e ∈ stack', e.WellFormed) ∧
      stack'.reverse.flatMap stream = stack.reverse.flatMap stream ++ xs := by
  induction xs generalizing stack with
  | nil =>
      rw [run, Option.some.injEq] at h
      subst h
      exact ⟨wellFormed, (List.append_nil _).symm⟩
  | cons x xs ih =>
      rw [run, Option.bind_eq_some_iff] at h
      obtain ⟨middle, hx, hxs⟩ := h
      -- One lexeme puts one tree on the stack, whose stream ends with that lexeme.
      have step : (∀ e ∈ middle, e.WellFormed) ∧
          middle.reverse.flatMap stream = stack.reverse.flatMap stream ++ [x] := by
        cases x with
        | leaf a =>
            simp only [act, Option.some.injEq] at hx
            subst hx
            refine ⟨?_, by simp [Expression.stream_leaf]⟩
            rintro e (_ | ⟨_, he⟩)
            · exact .leaf a
            · exact wellFormed e he
        | reduce r =>
            simp only [act, Option.ite_none_right_eq_some, Option.some.injEq] at hx
            obtain ⟨enough, rfl⟩ := hx
            refine ⟨?_, ?_⟩
            · rintro e (_ | ⟨_, he⟩)
              · refine .apply ?_ ?_
                · rw [List.length_reverse, List.length_take]
                  omega
                · intro e he
                  exact wellFormed e (List.mem_of_mem_take (List.mem_reverse.mp he))
              · exact wellFormed e (List.mem_of_mem_drop he)
            · -- From the bottom up, the operands are the last trees of the stack.
              have parts : stack.reverse =
                  (stack.drop r.operands).reverse ++ (stack.take r.operands).reverse := by
                rw [← List.reverse_append, List.take_append_drop]
              rw [parts, List.reverse_cons]
              simp [Expression.stream_apply]
        | terminator => simp [act] at hx
      obtain ⟨all, streams⟩ := ih hxs step.1
      refine ⟨all, ?_⟩
      rw [streams, step.2, List.append_assoc, List.singleton_append]

/-- **A stream of depth one is the stream of a tree.** -/
theorem exists_stream {xs : List (Lexeme α)} (h : depthAfter xs 0 = some 1) :
    ∃ e : Expression α, e.WellFormed ∧ e.stream = xs := by
  -- Run the stream on the trees themselves: the counter says that a single one is left.
  have counted := length_run Expression.leaf Expression.apply xs []
  rw [List.length_nil, h, Option.map_eq_some_iff] at counted
  obtain ⟨stack, hrun, hlength⟩ := counted
  obtain ⟨e, rfl⟩ := List.length_eq_one_iff.mp hlength
  obtain ⟨all, streams⟩ := run_trees hrun (by simp)
  exact ⟨e, all e List.mem_cons_self, by simpa using streams⟩

/-- **Exactly the streams of trees leave a single value**, and it is the value of the tree. -/
theorem run_eq_some_singleton_iff {xs : List (Lexeme α)} {b : β} :
    run leaf node xs [] = some [b] ↔
      ∃ e : Expression α, e.WellFormed ∧ e.stream = xs ∧ e.fold leaf node = b := by
  constructor
  · -- Only the number of values matters for there being a tree; its value is then the one left.
    intro h
    have counted := length_run leaf node xs []
    rw [h, Option.map_some, List.length_nil, List.length_singleton] at counted
    obtain ⟨e, he, rfl⟩ := exists_stream counted.symm
    have value := run_stream leaf node he [] []
    rw [List.append_nil, h, run, Option.some.injEq] at value
    exact ⟨e, he, rfl, (List.singleton_inj.mp value).symm⟩
  · rintro ⟨e, he, rfl, rfl⟩
    have value := run_stream leaf node he [] []
    rwa [List.append_nil, run] at value

end Lexeme

/-! ## Replacing leaves in stream order -/

section Threading

variable {α β σ : Type}

/-- **Thread a state** through a list: each element is replaced, and hands a state on to the next. -/
def threaded (f : α → σ → β × σ) : List α → σ → List β × σ
  | [], s => ([], s)
  | a :: as, s =>
    match f a s with
    | (b, s) =>
      match threaded f as s with
      | (bs, s) => (b :: bs, s)

/-- Nothing is threaded through an empty list. -/
theorem threaded_nil (f : α → σ → β × σ) (s : σ) : threaded f [] s = ([], s) := rfl

/-- The state behind the first element goes on to the others. -/
theorem threaded_cons (f : α → σ → β × σ) (a : α) (as : List α) (s : σ) :
    threaded f (a :: as) s =
      ((f a s).1 :: (threaded f as (f a s).2).1, (threaded f as (f a s).2).2) := rfl

/-- The state behind the first part goes on to the second. -/
theorem threaded_append (f : α → σ → β × σ) (as as' : List α) (s : σ) :
    threaded f (as ++ as') s =
      ((threaded f as s).1 ++ (threaded f as' (threaded f as s).2).1,
        (threaded f as' (threaded f as s).2).2) := by
  induction as generalizing s with
  | nil => rfl
  | cons a as ih => rw [List.cons_append, threaded_cons, ih, threaded_cons, List.cons_append]

/-- Each element gives one result. -/
theorem length_threaded (f : α → σ → β × σ) (as : List α) (s : σ) :
    (threaded f as s).1.length = as.length := by
  induction as generalizing s with
  | nil => rfl
  | cons a as ih => rw [threaded_cons, List.length_cons, List.length_cons, ih]

/-- What a threaded list holds was made from an element, in some state. -/
theorem exists_of_mem_threaded {f : α → σ → β × σ} {as : List α} {s : σ} {b : β}
    (h : b ∈ (threaded f as s).1) : ∃ a ∈ as, ∃ s', (f a s').1 = b := by
  induction as generalizing s with
  | nil => simp [threaded_nil] at h
  | cons a as ih =>
      rw [threaded_cons, List.mem_cons] at h
      obtain rfl | h := h
      · exact ⟨a, List.mem_cons_self, s, rfl⟩
      · obtain ⟨a', ha', found⟩ := ih h
        exact ⟨a', List.mem_cons_of_mem _ ha', found⟩

/-- **Replace the leaf** of a lexeme. -/
def Lexeme.traverse (f : α → σ → β × σ) : Lexeme α → σ → Lexeme β × σ
  | .leaf a, s => (.leaf (f a s).1, (f a s).2)
  | .reduce r, s => (.reduce r, s)
  | .terminator, s => (.terminator, s)

/-- **Replace the leaves** of a tree from left to right, handing a state on from each to the next. -/
def Expression.traverse (f : α → σ → β × σ) : Expression α → σ → Expression β × σ :=
  Expression.fold (fun a s => (.leaf (f a s).1, (f a s).2)) fun r parts s =>
    (.apply r (threaded (fun part => part) parts s).1, (threaded (fun part => part) parts s).2)

/-- Elements can be made on the way. -/
theorem threaded_map {γ : Type} (f : α → σ → β × σ) (g : γ → α) (cs : List γ) (s : σ) :
    threaded f (cs.map g) s = threaded (fun c => f (g c)) cs s := by
  induction cs generalizing s with
  | nil => rfl
  | cons c cs ih => rw [List.map_cons, threaded_cons, threaded_cons, ih]

/-- A reduction is traversed argument by argument. -/
theorem Expression.traverse_apply (f : α → σ → β × σ) (r : Reduction) (args : List (Expression α))
    (s : σ) :
    (Expression.apply r args).traverse f s =
      (.apply r (threaded (traverse f) args s).1, (threaded (traverse f) args s).2) := by
  rw [traverse, fold_apply, threaded_map]

/-- The stream of several trees with replaced leaves, when each tree obeys the law. -/
theorem threaded_flatMap_stream {f : α → σ → β × σ} {es : List (Expression α)}
    (h : ∀ e ∈ es, ∀ s, threaded (Lexeme.traverse f) e.stream s =
      ((e.traverse f s).1.stream, (e.traverse f s).2)) (s : σ) :
    threaded (Lexeme.traverse f) (es.flatMap Expression.stream) s =
      ((threaded (Expression.traverse f) es s).1.flatMap Expression.stream,
        (threaded (Expression.traverse f) es s).2) := by
  induction es generalizing s with
  | nil => rfl
  | cons e es ih =>
      have others := ih fun e he => h e (List.mem_cons_of_mem _ he)
      rw [List.flatMap_cons, threaded_append, h e List.mem_cons_self, others, threaded_cons,
        List.flatMap_cons]

/-- **Replacing the leaves of a tree replaces those of its stream**, in order. -/
theorem Expression.threaded_stream (f : α → σ → β × σ) {e : Expression α} (h : e.WellFormed) (s : σ) :
    threaded (Lexeme.traverse f) e.stream s = ((e.traverse f s).1.stream, (e.traverse f s).2) := by
  induction h generalizing s with
  | leaf a => rfl
  | @apply r args length all ih =>
      rw [stream_apply, threaded_append, threaded_flatMap_stream ih, traverse_apply, stream_apply]
      rfl

/-- A tree with replaced leaves is as well-formed as before. -/
theorem Expression.WellFormed.traverse (f : α → σ → β × σ) {e : Expression α} (h : e.WellFormed)
    (s : σ) : (e.traverse f s).1.WellFormed := by
  induction h generalizing s with
  | leaf a => exact .leaf _
  | @apply r args length all ih =>
      rw [traverse_apply]
      refine .apply (by rw [length_threaded, length]) ?_
      intro e he
      obtain ⟨a, ha, s', rfl⟩ := exists_of_mem_threaded he
      exact ih a ha s'

/-- Replacing leaves leaves the depth alone. -/
theorem Lexeme.depthAfter_threaded (f : α → σ → β × σ) (xs : List (Lexeme α)) (s : σ) (d : Nat) :
    Lexeme.depthAfter (threaded (Lexeme.traverse f) xs s).1 d = Lexeme.depthAfter xs d := by
  induction xs generalizing s d with
  | nil => rfl
  | cons x xs ih =>
      have same : ((x.traverse f s).1).depth d = x.depth d := by cases x <;> rfl
      rw [threaded_cons, depthAfter, depthAfter, same]
      cases x.depth d with
      | none => rfl
      | some d' => exact ih _ d'

/-- **Exactly the streams of trees leave a single value** after their leaves were replaced, and it is the
value of the tree with its leaves replaced. -/
theorem Lexeme.run_threaded_iff {γ : Type} {leaf : β → γ} {node : Reduction → List γ → γ}
    {f : α → σ → β × σ} {xs : List (Lexeme α)} {s : σ} {c : γ} :
    run leaf node (threaded (Lexeme.traverse f) xs s).1 [] = some [c] ↔
      ∃ e : Expression α, e.WellFormed ∧ e.stream = xs ∧ (e.traverse f s).1.fold leaf node = c := by
  constructor
  · intro h
    -- The depth does not depend on the leaves, so the lexemes are the stream of a tree.
    have counted := length_run leaf node (threaded (Lexeme.traverse f) xs s).1 []
    rw [h, depthAfter_threaded] at counted
    obtain ⟨e, he, rfl⟩ := exists_stream counted.symm
    have value := run_stream leaf node (he.traverse f s) [] []
    rw [Expression.threaded_stream f he] at h
    rw [List.append_nil, h, run, Option.some.injEq] at value
    exact ⟨e, he, rfl, (List.singleton_inj.mp value).symm⟩
  · rintro ⟨e, he, rfl, rfl⟩
    have value := run_stream leaf node (he.traverse f s) [] []
    rw [Expression.threaded_stream f he]
    rwa [List.append_nil, run] at value

end Threading

end SheetFormula
