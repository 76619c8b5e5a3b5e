import SheetFormula.Command.Run
import SheetFormula.Proofs.AcceptedProfile
import SheetFormula.Proofs.BatchOutcome
import SheetFormula.Proofs.FormulaLines
import SheetFormula.Proofs.Safety

/-!
# The output of the command, line by line

What the command writes about the formulas of standard input:

* **`decodeBatch_going`** — a batch that nobody cancels reports each job as if it were alone, with no cache;
* **`Listing.block`** — the block of a formula line: a function of the line, the format and the circumstances.
  The command never lacks one (`Listing.block?_eq`);
* **`Command.Outcome.ofLines`**, `Command.run_eq` — what the command leaves, in terms of the blocks;
* **`Command.run_blocks`** — its output is line-local, in order, and all or nothing.
-/

namespace SheetFormula

variable {σ : Type}

/-! ## Batches that nobody cancels -/

namespace Batch

variable {p : Plan σ}

/-- Only its cancellation cancels a batch. -/
theorem step_done (s : State σ) {e : Event} (kept : e ≠ .cancel) : (step p s e).done = s.done := by
  -- No handler but that of a cancellation touches the mark.
  cases e with
  | launch =>
      show (launch p s).done = s.done
      unfold launch
      split
      · rfl
      · split <;> rfl
  | assign =>
      show (assign p s).done = s.done
      unfold assign
      split <;> rfl
  | check i =>
      show (check i s).done = s.done
      unfold check
      split
      · split <;> rfl
      · rfl
  | complete i =>
      show (complete p i s).done = s.done
      unfold complete
      split <;> rfl
  | cancel => exact absurd rfl kept

/-- **A schedule without a cancellation** cancels nothing. -/
theorem run_done {events : List Event} (kept : .cancel ∉ events) (s : State σ) :
    (run p s events).done = s.done := by
  induction events generalizing s with
  | nil => rfl
  | cons e events ih =>
      obtain ⟨first, others⟩ := not_or.mp (List.mem_cons.not.mp kept)
      exact (ih others (step p s e)).trans (step_done s (Ne.symm first))

/-- Jobs that run one after the other are not cancelled. -/
theorem cancel_not_mem_inOrder (n : Nat) : .cancel ∉ inOrder n := by
  simp [inOrder]

section Steady

variable {R : σ → Unit → Prop} {names : σ} {assignment : Names}
  (related : Resolver.Relates R p.options.resolver assignment.resolver) (answers : R names ())

include related answers

/-- **Whatever the schedule**, a batch that nobody cancels has the reports that the assignment gives. -/
theorem entries_going {events : List Event} (kept : .cancel ∉ events)
    (finished : settled p (run p (start p false names) events) = true) :
    entries p (run p (start p false names) events) =
      p.jobs.toList.map fun job => some (job.run (p.options.withResolver assignment.resolver) ()).1 := by
  rw [(concludes related answers false events finished).going (run_done kept _)]
  exact List.map_congr_left fun job _ => congrArg some (job.run_named related answers).1

/-- **A batch that nobody cancels** reports each job as the assignment does. -/
theorem decodeBatch_going :
    (decodeBatch p false names).reports =
        p.jobs.toList.map (fun job => (job.run (p.options.withResolver assignment.resolver) ()).1) ∧
      (decodeBatch p false names).canceled = false := by
  have finished := settled_inOrder p false names
  have concluded := concludes related answers false _ finished
  have entered := entries_going related answers (cancel_not_mem_inOrder p.jobs.size) finished
  refine ⟨?_, Bool.eq_false_iff.mpr fun cut => ?_⟩
  · apply List.map_injective_iff.mpr fun _ _ => Option.some.inj
    rw [List.map_map]
    exact concluded.map_reports.trans entered
  · -- A batch that is cut short has an entry that tells so, and no job is reported like that.
    have told := concluded.cut_iff.mp cut
    rw [entered] at told
    obtain ⟨job, -, canceled⟩ := List.mem_map.mp told
    exact job.run_ne_canceled _ _ (Option.some.inj canceled)

end Steady

end Batch

/-! ## Blocks -/

namespace Listing

/-- **Report of a formula** that is decoded by itself, with no cache. -/
def report (o : Options Unit) (data : List UInt8) : JobReport :=
  ((⟨data, data.length, o.position⟩ : Job).run o ()).1

/-- **Block of a formula line**. -/
def block (format : Format) (dump : Bool) (o : Options Unit) (line : FormulaLine) : String :=
  (block? format dump line (report o line.data)).getD ""

/-- **Whether a formula line fails**. -/
def fails (o : Options Unit) (line : FormulaLine) : Bool := failed (report o line.data)

/-- A job is never reported with an access out of range, and a formula that it reports has a text. -/
theorem report_safe (o : Options Unit) (data : List UInt8) :
    (report o data).outcome ≠ .error (.failed .fault) ∧
      ∀ d, (report o data).outcome = .ok d → ∃ text, render? d.instructions = some text := by
  have safe := decode_onSheet { o with position := o.position } () data data.length
  unfold report Job.run
  dsimp only
  generalize decode { o with position := o.position } () data data.length = run at safe ⊢
  obtain ⟨failure | decoded, log, names⟩ := run
  · refine ⟨fun fault => safe.1 ?_, nofun⟩
    rw [JobError.failed.inj (Except.error.inj fault)]
  · refine ⟨nofun, fun d same => ?_⟩
    rw [← Except.ok.inj same]
    exact exists_render (safe.2 decoded rfl)

/-- A formula that has a text can be listed in each format. -/
theorem exists_result (format : Format) (number : Nat) {d : Decoded}
    (rendered : ∃ text, render? d.instructions = some text) :
    ∃ text, result? format number d = some text := by
  obtain ⟨text, rendered⟩ := rendered
  unfold result?
  cases format with
  | text =>
      rw [rendered]
      cases d.warning <;> exact ⟨_, rfl⟩
  | instructions => cases d.warning <;> exact ⟨_, rfl⟩

/-- **Every formula line has a block.** -/
theorem block?_eq (format : Format) (dump : Bool) (o : Options Unit) (line : FormulaLine) :
    block? format dump line (report o line.data) = some (block format dump o line) := by
  have shown : ∃ text, outcome? format line.number (report o line.data).outcome = some text := by
    obtain ⟨unfaulted, rendered⟩ := report_safe o line.data
    unfold outcome?
    split
    · next d decoded => exact exists_result format line.number (rendered d decoded)
    · next fault => exact absurd fault unfaulted
    · exact ⟨_, rfl⟩
  obtain ⟨text, shown⟩ := shown
  rw [block, block?, shown]
  rfl

/-- **The text of a listing** is made of one block for each line. -/
theorem text?_eq (format : Format) (dump : Bool) (o : Options Unit) (lines : List FormulaLine) :
    text? format dump lines (lines.map fun line => report o line.data) =
      some (String.join (lines.map (block format dump o))) := by
  have blocks : ((lines.zip (lines.map fun line => report o line.data)).mapM fun entry =>
      block? format dump entry.1 entry.2) = some (lines.map (block format dump o)) := by
    induction lines with
    | nil => rfl
    | cons line lines ih =>
        rw [List.map_cons, List.zip_cons_cons, List.mapM_cons, ih]
        dsimp only
        rw [block?_eq]
        rfl
  show (((lines.zip _).mapM fun entry => block? format dump entry.1 entry.2).bind fun blocks =>
    some (String.join blocks)) = _
  rw [blocks, Option.bind_some]

end Listing

/-! ## The command -/

namespace Command

/-- Circumstances are those that a profile describes. -/
theorem options?_of_circumstances {p : Profile} {o : Options Profile.NameState}
    (known : circumstances p = .ok o) :
    p.options? = some o := by
  unfold circumstances at known
  split at known
  · next described => rw [described, Except.ok.inj known]
  · cases known

/-- **Outcome of formula lines**: their blocks, and in strict mode whether one of them fails. -/
def Outcome.ofLines (strict dump : Bool) (format : Format) (o : Options Unit) (lines : List FormulaLine) :
    Outcome where
  status := if strict && lines.any (Listing.fails o) then 1 else 0
  out := String.join (lines.map (Listing.block format dump o))

/-- **Listing of formula lines** when nobody cancels it. -/
theorem listing_eq (s : Settings) (format : Format) {p : Profile} {o : Options Profile.NameState}
    (known : circumstances p = .ok o) (lines : List FormulaLine) :
    listing s format o p.cache false lines =
      some (.ofLines s.strict s.dump format (o.withResolver p.names.names.resolver) lines) := by
  obtain ⟨R, related, answers⟩ := Profile.exists_related (options?_of_circumstances known)
  obtain ⟨reports, going⟩ :=
    Batch.decodeBatch_going (p := batch o s.jobs lines) related answers
  have reported : (decodeBatch (batch o s.jobs lines) false p.cache).reports =
      lines.map fun line => Listing.report (o.withResolver p.names.names.resolver) line.data := by
    rw [reports, batch, List.map_map]
    rfl
  rw [listing, going, reported, if_neg Bool.false_ne_true, Listing.text?_eq, Option.map_some, List.any_map]
  rfl

section Valid

variable (around : Surroundings) {argv : List String} {s : Settings} {format : Format} {p : Profile}
  {o : Options Profile.NameState} (asked : request argv = .ok (.decode s format "-"))
  (described : profile around.folder s = .ok p) (known : circumstances p = .ok o)
  (going : around.canceled = false)

include asked described known going

/-- **What the command leaves** about the formulas of standard input. -/
theorem run_eq :
    run around argv =
      match FormulaFile.parse around.input with
      | .error e => some (.ofError (.formulas e))
      | .ok lines =>
          some (.ofLines s.strict s.dump format (o.withResolver p.names.names.resolver) lines) := by
  -- With a profile and a variant at hand, only the text can still be faulty.
  have prepared : prepare around s "-" =
      match FormulaFile.parse around.input with
      | .error e => .error (.formulas e)
      | .ok lines => .ok (p, o, lines) := by
    unfold prepare formulaText formulaLines
    rw [described]
    simp only [bind, Except.bind, known, if_pos]
    cases FormulaFile.parse around.input <;> rfl
  rw [run, asked]
  dsimp only
  rw [answer, prepared]
  cases FormulaFile.parse around.input with
  | error e => rfl
  | ok lines =>
      dsimp only
      rw [going, listing_eq s format known lines]

end Valid

/-- **The output of the command is line-local, in order, and all or nothing.** Take any argument list that
asks for a listing of standard input in a known format, any folder where the profile and the variant can be
found, any text, and nobody who cancels. If some line of the text is faulty, nothing is written to standard
output and the status is one. Otherwise the output is the blocks of the formula lines, in order, and the
status tells in strict mode whether a formula failed. The block of a line is a function of its number, its
bytes, the format, the variant, the position and the names; it is all that is written when the other formula
lines are blank, and it is made of the report that every schedule of workers ends with. Neither the number of
workers nor the size of the cache shows. -/
theorem run_blocks {around : Surroundings} {argv : List String} {s : Settings} {format : Format} {p : Profile}
    {o : Options Profile.NameState} (asked : request argv = .ok (.decode s format "-"))
    (described : profile around.folder s = .ok p) (known : circumstances p = .ok o)
    (going : around.canceled = false) :
    let plain := o.withResolver p.names.names.resolver
    let formulas := FormulaFile.formulas around.input
    ((∃ line ∈ FormulaFile.lines around.input, FormulaFile.Faulty line) →
        ∃ outcome, run around argv = some outcome ∧ outcome.status = 1 ∧ outcome.out = "") ∧
      ((∀ line ∈ FormulaFile.lines around.input, ¬ FormulaFile.Faulty line) →
        run around argv = some
            { status := if s.strict && formulas.any (Listing.fails plain) then 1 else 0
              out := String.join (formulas.map (Listing.block format s.dump plain)) } ∧
          (∀ f ∈ formulas, run { around with input := FormulaFile.isolated f.number around.input } argv = some
            { status := if s.strict && Listing.fails plain f then 1 else 0
              out := Listing.block format s.dump plain f }) ∧
          ∀ events, .cancel ∉ events →
            let plan := batch o s.jobs formulas
            let ended := Batch.run plan (Batch.start plan false p.cache) events
            Batch.settled plan ended = true →
              Batch.entries plan ended = formulas.map fun f => some (Listing.report plain f.data)) ∧
      ∀ around' argv' jobs size, request argv' = .ok (.decode { s with jobs } format "-") →
        profile around'.folder { s with jobs } = .ok { p with cacheSize := size } →
        around'.input = around.input → around'.canceled = false → run around' argv' = run around argv := by
  intro plain formulas
  have left := run_eq around asked described known going
  refine ⟨fun faulty => ?_, fun fine => ⟨?_, fun f mem => ?_, fun events kept => ?_⟩, ?_⟩
  · obtain ⟨e, failed⟩ := FormulaFile.parse_faulty faulty
    rw [failed] at left
    exact ⟨_, left, rfl, rfl⟩
  · rw [FormulaFile.parse_sound fine] at left
    exact left
  · have alone :=
      run_eq { around with input := FormulaFile.isolated f.number around.input } asked described known going
    rw [FormulaFile.parse_sound (FormulaFile.isolated_fine fine f.number),
      FormulaFile.formulas_isolated mem] at alone
    simpa [Outcome.ofLines] using alone
  · intro plan ended finished
    obtain ⟨R, related, answers⟩ := Profile.exists_related (options?_of_circumstances known)
    rw [Batch.entries_going (p := plan) related answers kept finished]
    show ((formulas.map _).toArray.toList).map _ = _
    rw [List.map_map]
    rfl
  · intro around' argv' jobs size asked' described' input going'
    -- Neither setting shows in the circumstances, so the same blocks stand on both sides.
    rw [left, run_eq around' asked' described' (o := o) known going', input]

/-- Two formulas and a comment in strict mode, with two workers: the first formula is an integer, the second
one has an opcode that is not known. With a lone digit behind them, none of it is listed. -/
theorem run_blocks_strict :
    let folder : Folder := { read := fun path => .error (.missing path) }
    let text : List UInt8 := Utf8.bytes "05 01 00 03\n# comment\nff\n"
    run { folder, input := text } ["-strict", "-j", "2", "-"] = some
        { status := 1, out := "1: 1\n3: error: wkfmla: unknown opcode 0xff at offset 0\n" } ∧
      ∃ outcome, run { folder, input := text ++ [0x30] } ["-strict", "-j", "2", "-"] = some outcome ∧
        outcome.status = 1 ∧ outcome.out = "" := by
  intro folder text
  have asked : request ["-strict", "-j", "2", "-"] =
      .ok (.decode { strict := true, jobs := 2 } .text "-") := by
    decide +kernel
  have described : profile folder { strict := true, jobs := 2 } = .ok { variant := "wk1" } := rfl
  have fine : ∀ line ∈ FormulaFile.lines text, ¬ FormulaFile.Faulty line := by decide +kernel
  have faulty : ∃ line ∈ FormulaFile.lines (text ++ [0x30]), FormulaFile.Faulty line := by decide +kernel
  refine ⟨(((run_blocks asked described rfl rfl).2.1 fine).1).trans ?_,
    (run_blocks asked described rfl rfl).1 faulty⟩
  decide +kernel

end Command

end SheetFormula
