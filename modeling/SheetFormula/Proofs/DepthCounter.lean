import Mathlib.Data.List.Induction
import SheetFormula.Proofs.CarriedLexemes

/-!
# The depth counter

Whether lexemes are a formula, and with which error they are none, is decided by counting operands:

* **`Lexeme.tally`** — the depth after some lexemes, as a sum: an operand counts one, a reduction counts one
  less its operands;
* **`Lexeme.Served`** — every reduction among some lexemes finds its operands, by that sum;
* **`Lexeme.outline`** — a lexeme without the value of its literal or reference;
* **`decode_depth_counter`** — decoding lexemes with references in line follows the counter, with every error
  it comes to, and so it does not depend on values.
-/

namespace SheetFormula

/-! ## Counting -/

namespace Lexeme

variable {α : Type}

/-- **Change of depth** by a lexeme: an operand is put on, a reduction replaces its operands by one. -/
def gain : Lexeme α → Int
  | .leaf _ => 1
  | .reduce r => 1 - r.operands
  | .terminator => 0

/-- **Depth after lexemes**, from zero on: each of them changes it. -/
def tally (xs : List (Lexeme α)) : Int := xs.foldl (fun depth x => depth + x.gain) 0

/-- **Lexemes are served** when the depth before each reduction among them covers its operands. -/
def Served (xs : List (Lexeme α)) : Prop :=
  ∀ before r behind, xs = before ++ .reduce r :: behind → (r.operands : Int) ≤ tally before

/-- One more lexeme adds its gain. -/
theorem tally_concat (xs : List (Lexeme α)) (x : Lexeme α) : tally (xs ++ [x]) = tally xs + x.gain :=
  List.foldl_append

/-- No lexeme asks for operands when there is none. -/
theorem served_nil : Served ([] : List (Lexeme α)) := by
  intro before r behind parts
  simp at parts

/-- One more lexeme is served when it is no reduction of more operands than there are. -/
theorem served_concat_iff {xs : List (Lexeme α)} {x : Lexeme α} :
    Served (xs ++ [x]) ↔ Served xs ∧ ∀ r, x = .reduce r → (r.operands : Int) ≤ tally xs := by
  constructor
  · intro h
    refine ⟨?_, ?_⟩
    · rintro before r behind rfl
      exact h before r (behind ++ [x]) (by simp)
    · rintro r rfl
      exact h xs r [] rfl
  · rintro ⟨served, last⟩ before r behind parts
    -- The reduction is the last lexeme, or it stands among those before.
    rcases List.eq_nil_or_concat behind with rfl | ⟨behind, y, rfl⟩
    · obtain ⟨rfl, same⟩ := List.append_inj' parts rfl
      exact last r (List.singleton_inj.mp same)
    · have shift : xs ++ [x] = (before ++ .reduce r :: behind) ++ [y] := by simpa using parts
      obtain ⟨rfl, -⟩ := List.append_inj' shift rfl
      exact served before r behind rfl

/-- **Lexemes are served, or there is a first one that is not.** -/
theorem served_cases (xs : List (Lexeme α)) :
    Served xs ∨ ∃ before r behind, xs = before ++ .reduce r :: behind ∧ Served before ∧
      tally before < r.operands := by
  induction xs using List.reverseRecOn with
  | nil => exact .inl served_nil
  | append_singleton xs x ih =>
      rcases ih with served | ⟨before, r, behind, rfl, served, few⟩
      · by_cases last : ∀ r, x = .reduce r → (r.operands : Int) ≤ tally xs
        · exact .inl (served_concat_iff.mpr ⟨served, last⟩)
        · simp only [not_forall, Int.not_le] at last
          obtain ⟨r, rfl, few⟩ := last
          exact .inr ⟨xs, r, [], rfl, served, few⟩
      · exact .inr ⟨before, r, behind ++ [x], by simp, served, few⟩

/-- The depth behind one more lexeme is counted from the depth before it. -/
theorem depthAfter_concat (xs : List (Lexeme α)) (x : Lexeme α) (d : Nat) :
    depthAfter (xs ++ [x]) d = (depthAfter xs d).bind fun d' => x.depth d' := by
  induction xs generalizing d with
  | nil =>
      rw [List.nil_append, depthAfter, depthAfter, Option.bind_some]
      cases x.depth d <;> rfl
  | cons y xs ih =>
      rw [List.cons_append, depthAfter, depthAfter]
      cases y.depth d with
      | none => rfl
      | some d' => exact ih d'

/-- **Served lexemes have the depth that the sum says**, and it is zero only where there are none. -/
theorem depthAfter_of_served {xs : List (Lexeme α)} (bare : .terminator ∉ xs) (served : Served xs) :
    ∃ d : Nat, depthAfter xs 0 = some d ∧ tally xs = d ∧ (d = 0 ↔ xs = []) := by
  -- From the end, since what serves a reduction is the sum over all lexemes before it.
  induction xs using List.reverseRecOn with
  | nil => exact ⟨0, rfl, rfl, by simp⟩
  | append_singleton xs x ih =>
      rw [List.mem_append, not_or] at bare
      obtain ⟨served, last⟩ := served_concat_iff.mp served
      obtain ⟨d, depth, sum, -⟩ := ih bare.1 served
      rw [depthAfter_concat, depth, Option.bind_some, tally_concat, sum]
      cases x with
      | leaf a => exact ⟨d + 1, rfl, rfl, by simp⟩
      | reduce r =>
          have enough : r.operands ≤ d := by
            have := last r rfl
            omega
          refine ⟨d - r.operands + 1, if_pos enough, ?_, by simp⟩
          simp only [gain]
          omega
      | terminator => exact absurd (List.mem_singleton.mpr rfl) bare.2

/-! ## Outlines -/

variable {ρ : Type}

/-- **Outline of a lexeme**: of an operand only its opcode is kept. -/
def outline : Lexeme (Leaf ρ) → Lexeme Opcode
  | .leaf l => .leaf l.opcode
  | .reduce r => .reduce r
  | .terminator => .terminator

/-- The tally is seen in the outline. -/
theorem tally_outline (xs : List (Lexeme (Leaf ρ))) : tally (xs.map outline) = tally xs := by
  have same : ∀ x : Lexeme (Leaf ρ), x.outline.gain = x.gain := by
    intro x
    cases x <;> rfl
  rw [tally, tally, List.foldl_map]
  simp only [same]

/-- The opcode that an outline keeps. -/
def outlineCode : Lexeme Opcode → UInt8
  | .leaf o => o.code
  | .reduce r => r.opcode.code
  | .terminator => 0x03

/-- So is the code of each lexeme. -/
theorem outlineCode_outline (x : Lexeme (Leaf ρ)) : x.outline.outlineCode = x.opcode.code := by
  cases x <;> rfl

/-- A terminator shows in the outlines. -/
theorem terminator_not_mem_of_outline {xs ys : List (Lexeme (Leaf ρ))} (bare : .terminator ∉ ys)
    (same : xs.map outline = ys.map outline) : .terminator ∉ xs := by
  intro mem
  have shown : (.terminator : Lexeme Opcode) ∈ ys.map outline := same ▸ List.mem_map_of_mem (f := outline) mem
  obtain ⟨y, hy, here⟩ := List.mem_map.mp shown
  cases y with
  | leaf l => cases here
  | reduce r => cases here
  | terminator => exact bare hy

/-- **Lexemes with one outline are split alike** at a reduction. -/
theorem exists_split_of_outline {before behind xs : List (Lexeme (Leaf ρ))} {r : Reduction}
    (same : xs.map outline = (before ++ .reduce r :: behind).map outline) :
    ∃ before' behind', xs = before' ++ .reduce r :: behind' ∧ before'.map outline = before.map outline := by
  rw [List.map_append, List.map_cons, List.map_eq_append_iff] at same
  obtain ⟨before', others, rfl, front, back⟩ := same
  obtain ⟨x, behind', rfl, here, -⟩ := List.map_eq_cons_iff.mp back
  cases x with
  | leaf l => cases here
  | reduce r' =>
      obtain rfl := Lexeme.reduce.inj here
      exact ⟨before', behind', rfl, front⟩
  | terminator => cases here

/-- **Whether lexemes are served shows in their outlines.** -/
theorem Served.of_outline {xs ys : List (Lexeme (Leaf ρ))} (served : Served xs)
    (same : xs.map outline = ys.map outline) : Served ys := by
  rintro before r behind rfl
  obtain ⟨before', behind', rfl, front⟩ := exists_split_of_outline same
  have enough := served before' r behind' rfl
  rwa [← tally_outline, front, tally_outline] at enough

end Lexeme

/-! ## Decoding by the counter -/

section Decoding

open Lexeme (tally Served outline)

variable {σ : Type} {o : Options σ} {page : CodePage}

/-- **Machine at the start of a formula** with its references in line. -/
def Machine.inline (c : Cursor) (names : σ) : Machine σ := { source := ⟨c, .inline, none, ⟨names, []⟩⟩ }

/-- Resolving references keeps every opcode. -/
theorem Options.opcode_resolved (o : Options σ) (ys : List (Lexeme (Leaf o.Ref))) (s : σ) :
    (threaded o.resolved ys s).1.map Lexeme.opcode = ys.map Lexeme.opcode := by
  induction ys generalizing s with
  | nil => rfl
  | cons y ys ih =>
      rw [threaded_cons, List.map_cons, List.map_cons, ih]
      rcases y with (_ | _ | _ | (_ | _)) | _ | _ <;> rfl

/-- **Served lexemes are run through**, and leave as many operands as the counter says. -/
theorem exists_run_of_served {ys : List (Lexeme (Leaf o.Ref))} (bare : .terminator ∉ ys)
    (served : Served ys) (names : σ) (page : CodePage) :
    ∃ operands, Lexeme.run (fun l => [l.instruction page]) Reduction.write
        (threaded o.resolved ys names).1 [] = some operands ∧ tally ys = operands.length ∧
      (operands.length = 0 ↔ ys = []) := by
  obtain ⟨d, depth, sum, none⟩ := Lexeme.depthAfter_of_served bare served
  have counted := Lexeme.length_run (fun l => [l.instruction page]) Reduction.write
    (threaded o.resolved ys names).1 []
  rw [Options.resolved, Lexeme.depthAfter_threaded, List.length_nil, depth, Option.map_eq_some_iff] at counted
  obtain ⟨operands, run, rfl⟩ := counted
  exact ⟨operands, run, sum, none⟩

/-- **The first reduction without its operands is reported**, whatever follows it. -/
theorem rejects_underflow (layout : o.variant.layout = .interleaved) (page : CodePage) (names : σ)
    {before : List (Lexeme (Leaf o.Ref))} (bare : .terminator ∉ before) (served : Served before)
    {r : Reduction} (few : tally before < r.operands) {rest data : List UInt8} {stop : Int}
    (framed : Framed data stop
      (before.flatMap Lexeme.bytes ++ ((Lexeme.reduce r : Lexeme (Leaf o.Ref)).bytes ++ rest))) :
    Rejects (decodeFormula o page names data stop).outcome
      { kind := .stackUnderflow, opcode := r.opcode.code.toNat, needed := r.operands,
        available := tally before, offset := (before.flatMap Lexeme.bytes).length } := by
  obtain ⟨operands, run, sum, -⟩ := exists_run_of_served bare served names page
  have reads : ReadsAll o ⟨.ofData data stop, .inline, names⟩ _ _ :=
    readsAll_inline_iff.mpr ⟨before, _, framed.rest_eq, rfl, rfl⟩
  have next : Reads o ⟨(Cursor.ofData data stop).skip (before.flatMap Lexeme.bytes).length, .inline,
      (threaded o.resolved before names).2⟩ (.reduce r) _ :=
    .inline (.reduce r) (Cursor.rest_skip_of_append framed.rest_eq) rfl
  -- The tally is the depth of the stack, which is too small for the reduction.
  have short : operands.length < r.operands := by omega
  have opened := TokenSource.ofCursor_interleaved layout (.ofData data stop) ⟨names, []⟩
  have stopped :=
    Machine.ends_underflow (m := .inline (.ofData data stop) names) framed.whole reads run next short
  have place : ((Cursor.ofData data stop).skip (before.flatMap Lexeme.bytes).length).pos =
      (before.flatMap Lexeme.bytes).length := Nat.zero_add _
  rw [place] at stopped
  rw [sum]
  exact rejects_of_ends framed opened stopped

/-- **The last opcode** of lexemes, with or without a terminator behind them. -/
def lastCode {ρ : Type} (ys : List (Lexeme (Leaf ρ))) (ending : List UInt8) : Option UInt8 :=
  ((ys.map fun y => y.opcode.code) ++ ending).getLast?

/-- **Served lexemes are run to their end**, and the run is finished there. -/
theorem exists_ends_of_served (page : CodePage) (names : σ) {ys : List (Lexeme (Leaf o.Ref))}
    (bare : .terminator ∉ ys) (served : Served ys) {ending : List UInt8}
    (ends : ending = [] ∨ ending = [0x03]) {data : List UInt8} {stop : Int}
    (framed : Framed data stop (ys.flatMap Lexeme.bytes ++ ending)) :
    ∃ (m : Machine σ) (terminated : Bool), tally ys = m.stack.items.length ∧
      (m.stack.items.length = 0 ↔ ys = []) ∧ m.last = lastCode ys ending ∧
      m.source.code.pos = (ys.flatMap Lexeme.bytes ++ ending).length ∧
      Machine.Ends o page (.inline (.ofData data stop) names) (m.finish terminated).1 := by
  obtain ⟨operands, run, sum, nothing⟩ := exists_run_of_served bare served names page
  have reads : ReadsAll o ⟨.ofData data stop, .inline, names⟩ _ _ :=
    readsAll_inline_iff.mpr ⟨ys, ending, framed.rest_eq, rfl, rfl⟩
  have behind := Cursor.rest_skip_of_append framed.rest_eq
  -- Resolving references does not change opcodes, so the last one is known from the lexemes.
  have codes : (threaded o.resolved ys names).1.getLast?.map (fun x => x.opcode.code) =
      (ys.map fun y => y.opcode.code).getLast? := by
    have same := congrArg (List.map Opcode.code) (o.opcode_resolved ys names)
    rw [List.map_map, List.map_map] at same
    rw [← List.getLast?_map]
    exact congrArg List.getLast? same
  rw [sum, List.length_append]
  obtain rfl | rfl := ends
  · obtain ⟨m, feed, rfl, last, ends⟩ := Machine.exists_ends_exhausted
      (m := .inline (.ofData data stop) names) framed.whole reads run behind
    refine ⟨m, false, rfl, nothing, ?_, ?_, ends⟩
    · rw [last, codes, lastCode, List.append_nil]
      exact Option.or_none
    · have pos := congrArg (fun f : Feed σ => f.code.pos) feed
      simpa [TokenSource.feed, Cursor.ofData, Cursor.skip] using pos
  · obtain ⟨m, feed, rfl, last, ends⟩ := Machine.exists_ends_terminated
      (m := .inline (.ofData data stop) names) framed.whole reads run
      (reads_terminator_iff.mpr ⟨[], behind, rfl⟩)
    refine ⟨m, true, rfl, nothing, ?_, ?_, ends⟩
    · rw [last, lastCode, List.getLast?_append]
      rfl
    · have pos := congrArg (fun f : Feed σ => f.code.pos) feed
      simpa [TokenSource.feed, Cursor.ofData, Cursor.skip] using pos

/-- **The end of served lexemes is decoded, or reported**, by how many operands there are. -/
theorem verdict_of_served (layout : o.variant.layout = .interleaved) (page : CodePage) (names : σ)
    {ys : List (Lexeme (Leaf o.Ref))} (bare : .terminator ∉ ys) (served : Served ys) {ending : List UInt8}
    (ends : ending = [] ∨ ending = [0x03]) {data : List UInt8} {stop : Int}
    (framed : Framed data stop (ys.flatMap Lexeme.bytes ++ ending)) :
    (tally ys = 1 → ∃ d, (decodeFormula o page names data stop).outcome = .ok d) ∧
      (1 < tally ys → Rejects (decodeFormula o page names data stop).outcome
        { kind := .excessOperands, opcode := opcodeNumber (lastCode ys ending), available := tally ys,
          offset := (ys.flatMap Lexeme.bytes ++ ending).length }) ∧
      (ys = [] → Rejects (decodeFormula o page names data stop).outcome
        { kind := .stackUnderflow, opcode := opcodeNumber (lastCode ys ending), needed := 1,
          available := 0, offset := (ys.flatMap Lexeme.bytes ++ ending).length }) ∧
      (tally ys = 0 ↔ ys = []) ∧ 0 ≤ tally ys := by
  obtain ⟨m, terminated, sum, nothing, last, pos, ended⟩ :=
    exists_ends_of_served page names bare served ends framed
  have opened := TokenSource.ofCursor_interleaved layout (.ofData data stop) ⟨names, []⟩
  rw [sum]
  refine ⟨?_, ?_, ?_, ?_, ?_⟩
  -- One operand is a formula, several are too many, and none is an underflow.
  · intro one
    obtain ⟨list, single⟩ := List.length_eq_one_iff.mp (Int.ofNat_inj.mp one)
    rw [Machine.finish_single single] at ended
    exact ⟨_, (outcome_eq_ok_iff opened).mpr ended⟩
  · intro many
    have some : m.stack.items ≠ [] := by
      rintro none
      simp [none] at many
    rw [Machine.finish_error (by omega), if_neg some, last, pos] at ended
    exact rejects_of_ends framed opened ended
  · intro none
    have empty := List.length_eq_zero_iff.mp (nothing.mpr none)
    rw [Machine.finish_error (by simp [empty]), if_pos empty, last, pos] at ended
    exact rejects_of_ends framed opened ended
  · rw [← nothing]
    omega
  · omega

/-- **The same verdict**: both are decoded, or both are rejected with reports that differ only by the
position. -/
inductive SameVerdict : Except Failure Decoded → Except Failure Decoded → Prop
  | decoded (d d' : Decoded) : SameVerdict (.ok d) (.ok d')
  | rejected {outcome outcome' : Except Failure Decoded} {report report' : ErrorReport}
      (rejects : Rejects outcome report) (rejects' : Rejects outcome' report')
      (same : report' = { report with offset := report'.offset }) : SameVerdict outcome outcome'

/-- Lexemes with one outline have one last opcode. -/
theorem lastCode_outline {ρ : Type} {xs ys : List (Lexeme (Leaf ρ))}
    (same : xs.map outline = ys.map outline) (ending : List UInt8) :
    lastCode xs ending = lastCode ys ending := by
  have codes : ∀ zs : List (Lexeme (Leaf ρ)),
      (zs.map fun z => z.opcode.code) = (zs.map outline).map Lexeme.outlineCode := by
    intro zs
    rw [List.map_map]
    exact List.map_congr_left fun z _ => z.outlineCode_outline.symm
  rw [lastCode, lastCode, codes, codes, same]

/-- **Outlines decide**: lexemes that differ only in values have the same verdict. -/
theorem sameVerdict_of_outline (layout : o.variant.layout = .interleaved) (page : CodePage)
    (names names' : σ) {ys ys' : List (Lexeme (Leaf o.Ref))} (bare : .terminator ∉ ys)
    (bare' : .terminator ∉ ys') (same : ys'.map outline = ys.map outline) {ending : List UInt8}
    (ends : ending = [] ∨ ending = [0x03]) {data data' : List UInt8} {stop stop' : Int}
    (framed : Framed data stop (ys.flatMap Lexeme.bytes ++ ending))
    (framed' : Framed data' stop' (ys'.flatMap Lexeme.bytes ++ ending)) :
    SameVerdict (decodeFormula o page names data stop).outcome
      (decodeFormula o page names' data' stop').outcome := by
  have sums : tally ys' = tally ys := by rw [← Lexeme.tally_outline, same, Lexeme.tally_outline]
  rcases Lexeme.served_cases ys with served | ⟨before, r, behind, rfl, served, few⟩
  · obtain ⟨one, many, none, zero, pos⟩ := verdict_of_served layout page names bare served ends framed
    obtain ⟨one', many', none', zero', -⟩ :=
      verdict_of_served layout page names' bare' (served.of_outline same.symm) ends framed'
    rcases (show tally ys = 0 ∨ tally ys = 1 ∨ 1 < tally ys by omega) with here | here | here
    · refine .rejected (none (zero.mp here)) (none' (zero'.mp (sums.trans here))) ?_
      rw [lastCode_outline same]
    · obtain ⟨d, ok⟩ := one here
      obtain ⟨d', ok'⟩ := one' (sums.trans here)
      rw [ok, ok']
      exact .decoded d d'
    · refine .rejected (many here) (many' (sums ▸ here)) ?_
      rw [lastCode_outline same, sums]
  · -- The other lexemes lack operands at the same place.
    obtain ⟨before', behind', rfl, front⟩ := Lexeme.exists_split_of_outline same
    have sums : tally before' = tally before := by
      rw [← Lexeme.tally_outline, front, Lexeme.tally_outline]
    rw [List.mem_append, not_or] at bare bare'
    rw [List.flatMap_append, List.flatMap_cons, List.append_assoc, List.append_assoc] at framed framed'
    have first := rejects_underflow layout page names bare.1 served few framed
    have second :=
      rejects_underflow layout page names' bare'.1 (served.of_outline front.symm) (sums ▸ few) framed'
    refine .rejected first second ?_
    rw [sums]

/-- **The depth counter decides.** Take lexemes without a terminator, each with its references in line. Where
a reduction is the first one to lack operands, decoding stops at it, whatever follows, and the error tells its
opcode, how many operands it needs and how many there are. Where none does, the lexemes up to their end or to
a terminator are decoded exactly when the depth is one; a larger depth is an excess of as many operands, and
the only other error is the lack of an operand when there are no lexemes at all. Lexemes that differ only in
literals and references come to the same verdict, up to the position of an error. -/
theorem decode_depth_counter (o : Options σ) {page : CodePage}
    (layout : o.variant.layout = .interleaved)
    (known : CodePage.ofName? o.variant.charset = some page) (names : σ)
    (ys : List (Lexeme (Leaf o.Ref))) (bare : .terminator ∉ ys) :
    (∀ before r behind, ys = before ++ .reduce r :: behind → Served before →
        tally before < r.operands → ∀ rest data stop,
        Framed data stop ((before ++ [Lexeme.reduce r]).flatMap Lexeme.bytes ++ rest) →
        Rejects (decode o names data stop).outcome
          { kind := .stackUnderflow, opcode := r.opcode.code.toNat, needed := r.operands,
            available := tally before, offset := (before.flatMap Lexeme.bytes).length }) ∧
      (Served ys → ∀ ending, ending = [] ∨ ending = [0x03] → ∀ data stop,
        Framed data stop (ys.flatMap Lexeme.bytes ++ ending) →
        ((∃ d, (decode o names data stop).outcome = .ok d) ↔ tally ys = 1) ∧
          (1 < tally ys → ∃ opcode offset, Rejects (decode o names data stop).outcome
            { kind := .excessOperands, opcode, available := tally ys, offset }) ∧
          ((∃ opcode offset, Rejects (decode o names data stop).outcome
            { kind := .stackUnderflow, opcode, needed := 1, available := 0, offset }) ↔ ys = [])) ∧
      ∀ names' (ys' : List (Lexeme (Leaf o.Ref))), ys'.map outline = ys.map outline →
        ∀ ending, ending = [] ∨ ending = [0x03] → ∀ data stop data' stop',
        Framed data stop (ys.flatMap Lexeme.bytes ++ ending) →
        Framed data' stop' (ys'.flatMap Lexeme.bytes ++ ending) →
        SameVerdict (decode o names data stop).outcome (decode o names' data' stop').outcome := by
  refine ⟨?_, ?_, ?_⟩
  · rintro before r behind rfl served few rest data stop framed
    rw [framed.decode_eq known]
    rw [List.flatMap_append, List.flatMap_singleton, List.append_assoc] at framed
    rw [List.mem_append, not_or] at bare
    exact rejects_underflow layout page names bare.1 served few framed
  -- The three verdicts exclude each other, so that each of them can be told from the tally.
  · intro served ending ends data stop framed
    rw [framed.decode_eq known]
    obtain ⟨one, many, none, zero, pos⟩ := verdict_of_served layout page names bare served ends framed
    refine ⟨⟨?_, one⟩, fun here => ⟨_, _, many here⟩, ⟨?_, fun here => ⟨_, _, none here⟩⟩⟩
    · rintro ⟨d, ok⟩
      by_contra other
      rcases (show tally ys = 0 ∨ 1 < tally ys by omega) with here | here
      · exact (none (zero.mp here)).ne_ok d ok
      · exact (many here).ne_ok d ok
    · rintro ⟨opcode, offset, rejects⟩
      by_contra some
      rcases (show tally ys = 1 ∨ 1 < tally ys by have := mt zero.mp some; omega) with here | here
      · obtain ⟨d, ok⟩ := one here
        exact rejects.ne_ok d ok
      · exact absurd (congrArg ErrorReport.kind (rejects.report_eq (many here))) (by simp)
  · intro names' ys' same ending ends data stop data' stop' framed framed'
    rw [framed.decode_eq known, framed'.decode_eq known]
    exact sameVerdict_of_outline layout page names names' bare
      (Lexeme.terminator_not_mem_of_outline bare same) same ends framed framed'

/-- The sum of three operands where there are two, with more bytes behind it, and an operator that finds an
integer and the result of a function without arguments. -/
theorem decode_depth_counter_sum :
    Rejects (decode ⟨.wk1, {}, Names.none.resolver⟩ ()
        [0x05, 0x01, 0x00, 0x05, 0x02, 0x00, 0x50, 0x03, 0x09, 0xff] 10).outcome
      { kind := .stackUnderflow, opcode := 0x50, needed := 3, available := 2, offset := 6 } ∧
    ∃ d, (decode ⟨.wk1, {}, Names.none.resolver⟩ ()
        [0x05, 0x01, 0x00, 0x1f, 0x09, 0x03] 6).outcome = .ok d := by
  let o : Options Unit := ⟨.wk1, {}, Names.none.resolver⟩
  let one : Lexeme (Leaf o.Ref) := .leaf (.integer 1)
  let two : Lexeme (Leaf o.Ref) := .leaf (.integer 2)
  let sum : Reduction := ⟨⟨0x50, "SUM", .reduceCounted⟩, 3, by decide, .inr ⟨rfl, by decide⟩⟩
  let na : Reduction := ⟨⟨0x1f, "NA", .reduce 0⟩, 0, by decide, .inl rfl⟩
  let plus : Reduction := ⟨⟨0x09, "+", .reduce 2⟩, 2, by decide, .inl rfl⟩
  have counted := decode_depth_counter o rfl (CodePage.ofName?_name .cp437) ()
  have first : Served [one] := Lexeme.served_concat_iff.mpr ⟨Lexeme.served_nil, by simp [one]⟩
  have both : Served ([one] ++ [two]) := Lexeme.served_concat_iff.mpr ⟨first, by simp [two]⟩
  have added : Served ([one] ++ [.reduce na] ++ [.reduce plus]) := by
    refine Lexeme.served_concat_iff.mpr ⟨Lexeme.served_concat_iff.mpr ⟨first, ?_⟩, ?_⟩
    · rintro r ⟨⟩
      decide
    · rintro r ⟨⟩
      decide
  refine ⟨?_, ?_⟩
  · exact (counted [one, two, .reduce sum] (by simp [one, two])).1 [one, two] sum [] rfl both (by decide)
      [0x09, 0xff] _ _ ⟨by decide, by decide, by decide +kernel⟩
  · exact ((counted [one, .reduce na, .reduce plus] (by simp [one])).2.1 added [0x03] (.inr rfl) _ _
      ⟨by decide, by decide, by decide +kernel⟩).1.mpr (by decide)

end Decoding

end SheetFormula
