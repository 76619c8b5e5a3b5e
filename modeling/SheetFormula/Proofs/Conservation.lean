import Mathlib.Algebra.Order.Group.Multiset
import Mathlib.Tactic.Abel
import SheetFormula.Proofs.CarriedLexemes

/-!
# Conservation of operands

Decoding a formula loses, repeats and invents nothing:

* **`Lexeme.run_gathers`** — what is gathered from the values on a stack, from the bottom up, is what was
  gathered from the lexemes, in whatever sense reductions keep it: as lists, or up to order;
* **`Reduction.own`**, **`Reduction.write_perm`**, **`Reduction.write_ordered`** — a written form holds its
  operands and what the reduction adds of its own; only the term functions change the order;
* **`decode_conserves_operands`** — the operands and function names of a decoded formula are those of the
  lexemes it was read from.
-/

namespace SheetFormula

/-! ## Gathering along a run -/

/-- **What reductions keep, runs keep.** The sense in which something is kept is a relation that goes with
appending, such as equality or being a permutation. -/
theorem Lexeme.run_gathers {α β γ : Type} {leaf : α → β} {node : Reduction → List β → β}
    (R : List γ → List γ → Prop) (refl : ∀ a, R a a) (trans : ∀ a b c, R a b → R b c → R a c)
    (append : ∀ a a' b, R a a' → R (b ++ a) (b ++ a')) (behind : ∀ a a' b, R a a' → R (a ++ b) (a' ++ b))
    (gather : β → List γ) (own : Lexeme α → List γ) (leaves : ∀ a, gather (leaf a) = own (.leaf a))
    {xs : List (Lexeme α)}
    (nodes : ∀ r, .reduce r ∈ xs → ∀ args : List β, args.length = r.operands →
      R (gather (node r args)) (args.flatMap gather ++ own (.reduce r)))
    {stack stack' : List β} (h : run leaf node xs stack = some stack') :
    R (stack'.reverse.flatMap gather) (stack.reverse.flatMap gather ++ xs.flatMap own) := by
  induction xs generalizing stack with
  | nil =>
      rw [run, Option.some.injEq] at h
      subst h
      simpa using refl _
  | cons x xs ih =>
      rw [run, Option.bind_eq_some_iff] at h
      obtain ⟨middle, act, rest⟩ := h
      have others := ih (fun r hr => nodes r (List.mem_cons_of_mem _ hr)) rest
      -- One lexeme adds its own to what lies on the stack.
      have step : R (middle.reverse.flatMap gather) (stack.reverse.flatMap gather ++ own x) := by
        cases x with
        | leaf a =>
            rw [Lexeme.act, Option.some.injEq] at act
            subst act
            simpa [leaves] using refl _
        | reduce r =>
            simp only [Lexeme.act, Option.ite_none_right_eq_some, Option.some.injEq] at act
            obtain ⟨enough, rfl⟩ := act
            have length : (stack.take r.operands).reverse.length = r.operands := by
              rw [List.length_reverse, List.length_take]
              omega
            have parts : stack.reverse =
                (stack.drop r.operands).reverse ++ (stack.take r.operands).reverse := by
              rw [← List.reverse_append, List.take_append_drop]
            rw [parts, List.reverse_cons, List.flatMap_append, List.flatMap_append, List.append_assoc,
              List.flatMap_singleton]
            exact append _ _ _ (nodes r List.mem_cons_self _ length)
        | terminator => cases act
      rw [List.flatMap_cons, ← List.append_assoc]
      exact trans _ _ _ others (behind _ _ _ step)

/-! ## What a written form holds -/

/-- What is gathered from operands in brackets is gathered from the operands. -/
theorem filterMap_bracketed {β : Type} {pick : Instruction → Option β}
    (operator : ∀ text, pick (.operator text) = none) (args : List (List Instruction)) :
    (bracketed args).filterMap pick = args.flatMap (List.filterMap pick) := by
  have between : (List.intercalate [.operator ";"] args).filterMap pick =
      args.flatMap (List.filterMap pick) := by
    induction args with
    | nil => rfl
    | cons a args ih =>
        cases args with
        | nil => simp [List.intercalate]
        | cons b args =>
            rw [List.intercalate_cons_cons, List.filterMap_append, List.filterMap_append, ih,
              List.flatMap_cons]
            simp [operator]
  rw [bracketed, List.filterMap_append, List.filterMap_cons_none (operator _), between]
  simp [operator]

namespace Reduction

/-- **What a reduction adds of its own**, operators apart: the name of a call, and the zero of a term
function. -/
def own (r : Reduction) : List Instruction :=
  match r.opcode.manner with
  | .before | .between | .grouped => []
  | .term | .compoundTerm => [.function "NPER", .integer 0]
  | .call => [.function r.opcode.name]

variable {β : Type} (pick : Instruction → Option β) {r : Reduction} {args : List (List Instruction)}

/-- **A written form holds its operands and its own**, in some order. -/
theorem write_perm (operator : ∀ text, pick (.operator text) = none) (h : args.length = r.operands) :
    ((r.write args).filterMap pick).Perm
      (args.flatMap (List.filterMap pick) ++ r.own.filterMap pick) := by
  cases fits h with
  | before manner a => simp [write_before manner, own, manner, operator]
  | between manner a b => simp [write_between manner, own, manner, operator]
  | grouped manner a =>
      simp [write_grouped manner, own, manner, filterMap_bracketed operator]
  | term manner pmt rate fv =>
      have added : r.own = [.function "NPER"] ++ [.integer 0] := by rw [own, manner]; rfl
      -- Up to order, appending lists is adding multisets.
      rw [write_term manner, added, ← List.singleton_append, List.filterMap_append,
        filterMap_bracketed operator, List.filterMap_append]
      simp only [List.flatMap_cons, List.flatMap_nil, List.filterMap_cons_none (operator _),
        ← Multiset.coe_eq_coe, ← Multiset.coe_add, Multiset.coe_nil]
      abel
  | compoundTerm manner rate fv pv =>
      have added : r.own = [.function "NPER"] ++ [.integer 0] := by rw [own, manner]; rfl
      rw [write_compoundTerm manner, added, ← List.singleton_append, List.filterMap_append,
        filterMap_bracketed operator, List.filterMap_append]
      simp only [List.flatMap_cons, List.flatMap_nil, List.filterMap_cons_none (operator _),
        ← Multiset.coe_eq_coe, ← Multiset.coe_add, Multiset.coe_nil]
      abel
  | call manner args =>
      rw [write_call manner, own, manner, ← List.singleton_append, List.filterMap_append,
        filterMap_bracketed operator]
      exact List.perm_append_comm

/-- **Only term functions change the order**: any other written form holds what its operands hold, as they
hold it, function names apart. -/
theorem write_ordered (operator : ∀ text, pick (.operator text) = none)
    (function : ∀ name, pick (.function name) = none) (h : args.length = r.operands)
    (term : r.opcode.manner ≠ .term) (compoundTerm : r.opcode.manner ≠ .compoundTerm) :
    (r.write args).filterMap pick = args.flatMap (List.filterMap pick) := by
  cases fits h with
  | before manner a => simp [write_before manner, operator]
  | between manner a b => simp [write_between manner, operator]
  | grouped manner a => rw [write_grouped manner, filterMap_bracketed operator]
  | term manner pmt rate fv => exact absurd manner term
  | compoundTerm manner rate fv pv => exact absurd manner compoundTerm
  | call manner args =>
      rw [write_call manner, List.filterMap_cons_none (function _), filterMap_bracketed operator]

end Reduction

/-! ## Operands and names of lexemes -/

/-- **Name of a function** instruction. -/
def Instruction.functionName? : Instruction → Option String
  | .function name => some name
  | _ => none

namespace Lexeme

/-- **Operand that a lexeme puts on the stack**, when it is a literal or a reference. -/
def operand? (page : CodePage) : Lexeme (Leaf CellRef) → Option Instruction
  | .leaf l => some (l.instruction page)
  | _ => none

variable {α : Type}

/-- **Term function**: one of the two that are written as a function of periods. -/
def isTerm : Lexeme α → Bool
  | .reduce r => r.opcode.name = "TERM" || r.opcode.name = "CTERM"
  | _ => false

/-- **Function name of a lexeme**: the name of a call other than the grouping bracket. The term functions are
called by the name of the function of periods. -/
def callName? (x : Lexeme α) : Option String :=
  match x with
  | .reduce r =>
    if r.opcode.shape = .call ∧ r.opcode.name ≠ "(" then
      some (if x.isTerm then "NPER" else r.opcode.name)
    else none
  | _ => none

/-- **What a lexeme adds** to the instructions, operators apart. -/
def own (leaf : α → Instruction) : Lexeme α → List Instruction
  | .leaf a => [leaf a]
  | .reduce r => r.own
  | .terminator => []

end Lexeme

/-- Only the two term functions are called so. -/
theorem Opcode.manner_of_name : ∀ o ∈ Opcode.table, o.name = "TERM" ∨ o.name = "CTERM" →
    o.manner = .term ∨ o.manner = .compoundTerm := by
  decide +kernel

/-- **What a reduction adds, by its name and shape.** -/
theorem Reduction.own_eq (α : Type) (r : Reduction) :
    r.own = ((Lexeme.reduce r : Lexeme α).callName?.map Instruction.function).toList ++
      if (Lexeme.reduce r : Lexeme α).isTerm then [.integer 0] else [] := by
  obtain ⟨before, between, grouped, term, compoundTerm, call⟩ := Opcode.shape_of_manner _ r.takes.1
  -- Which functions are term functions can be told by their names.
  have named := Opcode.manner_of_name _ r.takes.1
  unfold own Lexeme.callName? Lexeme.isTerm
  cases hm : r.opcode.manner with
  | before =>
      have plain : ¬ (r.opcode.name = "TERM" ∨ r.opcode.name = "CTERM") := by simpa [hm] using named
      simp [before hm, not_or.mp plain]
  | between =>
      have plain : ¬ (r.opcode.name = "TERM" ∨ r.opcode.name = "CTERM") := by simpa [hm] using named
      simp [between hm, not_or.mp plain]
  | grouped => simp [grouped hm]
  | term => simp [term hm]
  | compoundTerm => simp [compoundTerm hm]
  | call => simp [call hm r.takes.role_ne_terminator]

/-! ## Decoded formulas -/

section Decoded

variable {σ : Type} {o : Options σ} {page : CodePage} {xs : List (Lexeme (Leaf CellRef))}
  {list : List Instruction}

/-- **What one operand holds was added by the lexemes** that left it, for whatever is picked. -/
theorem Lexeme.run_perm {β : Type} (pick : Instruction → Option β)
    (operator : ∀ text, pick (.operator text) = none)
    (h : run (fun l => [l.instruction page]) Reduction.write xs [] = some [list]) :
    (list.filterMap pick).Perm
      (xs.flatMap fun x => (x.own (Leaf.instruction page)).filterMap pick) := by
  have gathered := run_gathers List.Perm (fun a => .refl a) (fun _ _ _ => .trans)
    (fun _ _ b same => same.append_left b) (fun _ _ b same => same.append_right b)
    (List.filterMap pick) (fun x => (x.own (Leaf.instruction page)).filterMap pick)
    (fun _ => rfl) (fun r _ args length => Reduction.write_perm pick operator length) h
  simpa using gathered

/-- **Without term functions the order is kept**: the operands stand as the lexemes brought them. -/
theorem Lexeme.run_ordered (plain : ∀ x ∈ xs, x.isTerm = false)
    (h : run (fun l => [l.instruction page]) Reduction.write xs [] = some [list]) :
    list.filter Instruction.isOperand = xs.filterMap (Lexeme.operand? page) := by
  have gathered := run_gathers Eq (fun _ => rfl) (fun _ _ _ => Eq.trans)
    (fun _ _ b same => congrArg (b ++ ·) same) (fun _ _ b same => congrArg (· ++ b) same)
    (List.filter Instruction.isOperand) (fun x => (x.operand? page).toList) ?_ ?_ h
  · rw [List.filterMap_eq_flatMap_toList]
    simpa using gathered
  · intro l
    exact List.filter_cons_of_pos (l.isOperand_instruction page)
  -- A reduction that is no term function keeps its arguments in order.
  · intro r mem args length
    have notTerm : ¬ (r.opcode.name = "TERM" ∨ r.opcode.name = "CTERM") := by
      simpa [Lexeme.isTerm] using plain _ mem
    obtain ⟨-, -, -, term, compoundTerm, -⟩ := Opcode.shape_of_manner _ r.takes.1
    have ordered := Reduction.write_ordered (Option.guard Instruction.isOperand) (fun _ => rfl)
      (fun _ => rfl) length (fun manner => notTerm (.inl (term manner).2.1))
      fun manner => notTerm (.inr (compoundTerm manner).2.1)
    rw [List.filterMap_eq_filter] at ordered
    rw [ordered]
    exact (List.append_nil _).symm

/-- **Operands that lexemes add**: those they put on the stack, and a zero for each term function. -/
theorem Lexeme.perm_own_operands (page : CodePage) (xs : List (Lexeme (Leaf CellRef))) :
    (xs.flatMap fun x => (x.own (Leaf.instruction page)).filter Instruction.isOperand).Perm
      (xs.filterMap (Lexeme.operand? page) ++ List.replicate (xs.countP Lexeme.isTerm) (.integer 0)) := by
  induction xs with
  | nil => exact .refl _
  | cons x xs ih =>
      rw [List.flatMap_cons]
      refine (ih.append_left _).trans ?_
      cases x with
      | leaf l => simp [own, operand?, isTerm, l.isOperand_instruction page]
      | reduce r =>
          -- Of what a reduction brings itself, the zero of a term function is the only operand.
          have names : ∀ name : Option String,
              (name.map Instruction.function).toList.filter Instruction.isOperand = [] := by
            rintro (_ | name) <;> rfl
          rw [own, r.own_eq (Leaf CellRef), List.filter_append, names, List.nil_append,
            List.filterMap_cons_none rfl, List.countP_cons]
          cases (Lexeme.reduce r : Lexeme (Leaf CellRef)).isTerm with
          | false => exact .refl _
          | true =>
              rw [if_pos rfl, if_pos rfl, List.replicate_succ]
              show (.integer 0 :: (xs.filterMap (operand? page) ++ _)).Perm _
              exact List.perm_middle.symm
      | terminator => exact .refl _

/-- **Function names that lexemes add**: those of the calls. -/
theorem Lexeme.own_functionNames (page : CodePage) (xs : List (Lexeme (Leaf CellRef))) :
    (xs.flatMap fun x => (x.own (Leaf.instruction page)).filterMap Instruction.functionName?) =
      xs.filterMap Lexeme.callName? := by
  have each : ∀ x : Lexeme (Leaf CellRef),
      (x.own (Leaf.instruction page)).filterMap Instruction.functionName? = x.callName?.toList := by
    intro x
    rcases x with (_ | _ | _ | (_ | _)) | r | _
    case reduce =>
      rw [own, r.own_eq (Leaf CellRef), List.filterMap_append]
      cases (Lexeme.reduce r : Lexeme (Leaf CellRef)).callName? <;>
        cases (Lexeme.reduce r : Lexeme (Leaf CellRef)).isTerm <;> rfl
    all_goals rfl
  rw [List.filterMap_eq_flatMap_toList]
  simp only [each]

/-- **No operand is lost, repeated or invented.** What is decoded was read as lexemes before the end or the
terminator, in the layout of the variant. The operands of the instructions are those that the lexemes put on
the stack, and a zero for each term function. The function names are those of the calls other than the
grouping bracket, with the name of the function of periods for the term functions. Without term functions the
operands stand in the order in which they were read. -/
theorem decode_conserves_operands (o : Options σ) (names : σ) (data : List UInt8) (stop : Int) {d : Decoded}
    (ok : (decode o names data stop).outcome = .ok d) :
    ∃ page, CodePage.ofName? o.variant.charset = some page ∧
      (∃ xs, Carries o names (data.take stop.toNat) xs) ∧
      ∀ xs, Carries o names (data.take stop.toNat) xs →
        (d.instructions.filter Instruction.isOperand).Perm
            (xs.filterMap (Lexeme.operand? page) ++
              List.replicate (xs.countP Lexeme.isTerm) (.integer 0)) ∧
          (d.instructions.filterMap Instruction.functionName?).Perm (xs.filterMap Lexeme.callName?) ∧
          ((∀ x ∈ xs, x.isTerm = false) →
            d.instructions.filter Instruction.isOperand = xs.filterMap (Lexeme.operand? page)) := by
  obtain ⟨framed, page, known⟩ := exists_framed_of_ok ok
  rw [framed.decode_eq known] at ok
  refine ⟨page, known, exists_carries framed ok, fun xs carries => ?_⟩
  have run := carries.run_eq framed ok
  refine ⟨?_, ?_, fun plain => ?_⟩
  · have operands := Lexeme.run_perm (Option.guard Instruction.isOperand) (fun _ => rfl) run
    simp only [List.filterMap_eq_filter] at operands
    exact operands.trans (Lexeme.perm_own_operands page xs)
  · have functions := Lexeme.run_perm Instruction.functionName? (fun _ => rfl) run
    rwa [Lexeme.own_functionNames] at functions
  · exact Lexeme.run_ordered plain run

/-- The term of an annuity over an integer, a cell and a text: its operands change places, and a zero is
added. -/
theorem decode_conserves_operands_term :
    ∃ d, (decode ⟨.wk1, {}, Names.none.resolver⟩ ()
        [0x05, 0x05, 0x00, 0x01, 0x00, 0x00, 0x02, 0x00, 0x06, 0x61, 0x00, 0x75, 0x03] 13).outcome = .ok d ∧
      (d.instructions.filter Instruction.isOperand).Perm
        [.integer 5, .cell { row := ⟨2, false⟩ }, .text "a", .integer 0] ∧
      (d.instructions.filterMap Instruction.functionName?).Perm ["NPER"] := by
  let o : Options Unit := ⟨.wk1, {}, Names.none.resolver⟩
  let ys : List (Lexeme (Leaf o.Ref)) :=
    [.leaf (.integer 5), .leaf (.target (.cell ⟨⟨0, 2, none⟩, Options.accepts_of_axes _ rfl (by decide)⟩)),
      .leaf (.text ⟨[0x61], by decide⟩), .reduce ⟨⟨0x75, "TERM", .reduce 3⟩, 3, by decide, .inl rfl⟩]
  have bytes : ys.flatMap Lexeme.bytes ++ [0x03] =
      [0x05, 0x05, 0x00, 0x01, 0x00, 0x00, 0x02, 0x00, 0x06, 0x61, 0x00, 0x75, 0x03] := by decide +kernel
  -- The bytes are those of the lexemes, so that these are what the formula carries.
  have carries : Carries o () (ys.flatMap Lexeme.bytes ++ [0x03]) (threaded o.resolved ys ()).1 :=
    .inline rfl (by simp [ys]) rfl (.inr ⟨[], rfl⟩)
  have framed := framed_whole (ys.flatMap Lexeme.bytes ++ [0x03])
  have run : Lexeme.run (fun l => [l.instruction .cp437]) Reduction.write
      (threaded o.resolved ys ()).1 [] = some [_] := rfl
  obtain ⟨d, ok, -⟩ := carries.exists_ok framed run
  rw [← framed.decode_eq (o := o) (CodePage.ofName?_name .cp437)] at ok
  obtain ⟨page, known, -, all⟩ := decode_conserves_operands o () _ _ ok
  obtain rfl : CodePage.cp437 = page := Option.some.inj ((CodePage.ofName?_name .cp437).symm.trans known)
  rw [framed.bytes] at all
  obtain ⟨operands, functions, -⟩ := all _ carries
  have brought : (threaded o.resolved ys ()).1.filterMap (Lexeme.operand? .cp437) ++
      List.replicate ((threaded o.resolved ys ()).1.countP Lexeme.isTerm) (.integer 0) =
      [.integer 5, .cell { row := ⟨2, false⟩ }, .text "a", .integer 0] := by decide +kernel
  have called : (threaded o.resolved ys ()).1.filterMap Lexeme.callName? = ["NPER"] := by decide +kernel
  rw [bytes] at ok
  rw [brought] at operands
  rw [called] at functions
  exact ⟨d, ok, operands, functions⟩

end Decoded

end SheetFormula
