import SheetFormula.Batch
import SheetFormula.Proofs.LockstepRun

/-!
# Batches under any schedule

What can happen to a batch, event by event, and what holds of it along every run:

* **`Job.run_named`**, `Job.run_answered` — when names answer by a fixed assignment, the report of a job is
  the one that the assignment gives, and does not depend on the moment;
* **`Batch.Step`**, **`Batch.step_spec`**, **`Batch.run_induction`** — what an event can do, and induction on
  it;
* **`Batch.Tallied`** — the counters fit the stages of the jobs, which get their workers in order;
* **`Batch.busy_le`** — there are no more workers than the limit allows;
* **`Batch.Told`** — only a cancelled batch is broken off or given up, and what is reported is the truth.
-/

namespace SheetFormula

variable {σ : Type}

/-! ## Jobs -/

/-- A job that was decoded is not reported as cancelled. -/
theorem Job.run_ne_canceled (job : Job) (o : Options σ) (names : σ) : (job.run o names).1 ≠ .canceled := by
  unfold Job.run
  generalize decode { o with position := job.position } names job.data job.stop = run
  obtain ⟨failure | decoded, log, names'⟩ := run
  · intro same
    cases congrArg JobReport.outcome same
  · intro same
    cases congrArg JobReport.outcome same

/-- **A job is reported as by the assignment** that its names answer by. -/
theorem Job.run_named {R : σ → Unit → Prop} {o : Options σ} {names : Names}
    (related : Resolver.Relates R o.resolver names.resolver) {s : σ} (h : R s ()) (job : Job) :
    (job.run o s).1 = (job.run (o.withResolver names.resolver) ()).1 ∧ R (job.run o s).2 () := by
  obtain ⟨outcome, log, next⟩ :=
    decode_answered (o := { o with position := job.position }) related h job.data job.stop
  rw [show Options.withResolver { o with position := job.position } names.resolver =
    { o.withResolver names.resolver with position := job.position } from rfl] at outcome log
  unfold Job.run
  -- The two runs differ in the names only, and a report has none.
  generalize decode { o with position := job.position } s job.data job.stop = run at outcome log next ⊢
  generalize decode { o.withResolver names.resolver with position := job.position } ()
    job.data job.stop = run' at outcome log ⊢
  obtain ⟨result, entries, s₁⟩ := run
  obtain ⟨result', entries', s₁'⟩ := run'
  obtain rfl : result = result' := outcome
  obtain rfl : entries = entries' := log
  cases result <;> exact ⟨rfl, next⟩

/-- **A job is reported alike** whenever it runs, when its names answer by a fixed assignment. -/
theorem Job.run_answered {R : σ → Unit → Prop} {o : Options σ} {names : Names}
    (related : Resolver.Relates R o.resolver names.resolver) {s s' : σ} (h : R s ()) (h' : R s' ())
    (job : Job) :
    (job.run o s).1 = (job.run o s').1 ∧ R (job.run o s).2 () := by
  obtain ⟨once, next⟩ := job.run_named related h
  exact ⟨once.trans (job.run_named related h').1.symm, next⟩

namespace Batch

variable {p : Plan σ} {s s' : State σ}

/-! ## What an event can do -/

/-- **What an event can do to a batch**. -/
inductive Step (p : Plan σ) (s : State σ) : State σ → Prop
  /-- Nothing. -/
  | stay : Step p s s
  /-- Launching is broken off. -/
  | close (more : s.launched < p.jobs.size) (stopping : s.stopping = true) :
      Step p s { s with closed := true }
  /-- The next job is launched. -/
  | launch (more : s.launched < p.jobs.size) (going : s.stopping = false) :
      Step p s { s with launched := s.launched + 1 }
  /-- The launched job gets a worker. -/
  | assign (pending : s.assigned < s.launched) (free : room p s = true) :
      Step p s { s with
        assigned := s.assigned + 1
        busy := s.busy + 1
        stages := s.stages.setIfInBounds s.assigned .waiting }
  /-- A worker gives up. -/
  | giveUp {i : Nat} (here : s.stages[i]? = some .waiting) (stopping : s.stopping = true) :
      Step p s { s.leave i .canceled with gaveUp := true }
  /-- A worker starts to decode. -/
  | decode {i : Nat} (here : s.stages[i]? = some .waiting) (going : s.stopping = false) :
      Step p s { s with stages := s.stages.setIfInBounds i .decoding }
  /-- A worker has decoded its job. -/
  | complete {i : Nat} {job : Job} (planned : p.jobs[i]? = some job) (here : s.stages[i]? = some .decoding) :
      Step p s { s.leave i (job.run p.options s.names).1 with names := (job.run p.options s.names).2 }
  /-- The batch is cancelled. -/
  | cancel : Step p s { s with done := true }

/-- **Every event does one of these.** -/
theorem step_spec (p : Plan σ) (s : State σ) (e : Event) : Step p s (step p s e) := by
  cases e with
  | launch =>
      show Step p s (launch p s)
      unfold launch
      split
      · exact .stay
      · next unblocked =>
        -- Launching is neither over nor in want of a worker.
        simp only [Bool.or_eq_true, decide_eq_true_eq, not_or, Nat.not_le] at unblocked
        split
        · next stopping => exact .close unblocked.1.2 stopping
        · next going => exact .launch unblocked.1.2 (Bool.not_eq_true _ ▸ going)
  | assign =>
      show Step p s (assign p s)
      unfold assign
      split
      · next free =>
        simp only [Bool.and_eq_true, decide_eq_true_eq] at free
        exact .assign free.1 free.2
      · exact .stay
  | check i =>
      show Step p s (check i s)
      unfold check
      split
      · next here =>
        split
        · next stopping => exact .giveUp here stopping
        · next going => exact .decode here (Bool.not_eq_true _ ▸ going)
      · exact .stay
  | complete i =>
      show Step p s (complete p i s)
      unfold complete
      split
      · next job planned here => exact .complete planned here
      · exact .stay
  | cancel => exact .cancel

/-- **What every event keeps, a run keeps.** -/
theorem run_induction {P : State σ → Prop} (keeps : ∀ {s s'}, P s → Step p s s' → P s') (start : P s)
    (events : List Event) : P (run p s events) := by
  induction events generalizing s with
  | nil => exact start
  | cons e events ih => exact ih (keeps start (step_spec p s e))

/-! ## Moving a job on -/

section Moved

variable {xs : Array Stage} {i : Nat} {old : Stage} (here : xs[i]? = some old) (new : Stage)

include here

/-- Moving a job on changes its own stage only. -/
theorem getElem?_moved (j : Nat) : (xs.setIfInBounds i new)[j]? = if i = j then some new else xs[j]? := by
  have inside := (Array.getElem?_eq_some_iff.mp here).1
  rw [Array.getElem?_setIfInBounds, if_pos inside]

/-- The number of stages of some kind changes by the one that is moved on. -/
theorem countP_moved (f : Stage → Bool) :
    (xs.setIfInBounds i new).countP f + (f old).toNat = xs.countP f + (f new).toNat := by
  obtain ⟨inside, value⟩ := Array.getElem?_eq_some_iff.mp here
  have counted : f old = true → 0 < xs.countP f := by
    intro kind
    exact Array.countP_pos_iff.mpr ⟨old, Array.mem_iff_getElem?.mpr ⟨i, here⟩, kind⟩
  rw [Array.setIfInBounds, dif_pos inside, Array.countP_set, value]
  cases kind : f old <;> cases f new <;> simp_all

/-- A job is given up by the move of an active one, or it was before. -/
theorem canceled_moved_iff (unfinished : ∀ r, old ≠ .finished r) :
    .finished .canceled ∈ xs.setIfInBounds i new ↔ new = .finished .canceled ∨ .finished .canceled ∈ xs := by
  simp only [Array.mem_iff_getElem?, getElem?_moved here]
  constructor
  · rintro ⟨j, found⟩
    split at found
    · exact .inl (Option.some.inj found)
    · exact .inr ⟨j, found⟩
  · rintro (rfl | ⟨j, found⟩)
    · exact ⟨i, if_pos rfl⟩
    · refine ⟨j, ?_⟩
      rw [if_neg ?_, found]
      rintro rfl
      exact unfinished _ (Option.some.inj (here.symm.trans found))

end Moved

/-! ## Workers -/

/-- At the start no job has a worker. -/
theorem start_absent {canceled : Bool} {names : σ} {i : Nat} {stage : Stage}
    (found : (start p canceled names).stages[i]? = some stage) : stage = .absent :=
  (Array.mem_replicate.mp (Array.mem_iff_getElem?.mpr ⟨i, found⟩)).2

/-- **The counters of a batch are right**: jobs have workers in order, and as many as there are workers are
active. -/
structure Tallied (p : Plan σ) (s : State σ) : Prop where
  /-- Every job has a stage. -/
  size : s.stages.size = p.jobs.size
  /-- Only jobs of the batch are launched. -/
  launched : s.launched ≤ p.jobs.size
  /-- Only launched jobs have had a worker. -/
  assigned : s.assigned ≤ s.launched
  /-- The others have not. -/
  absent : ∀ {i stage}, s.stages[i]? = some stage → (stage = .absent ↔ s.assigned ≤ i)
  /-- Active jobs have the workers. -/
  busy : s.busy = s.stages.countP Stage.active

namespace Tallied

/-- The counts are right at the start. -/
theorem start (p : Plan σ) (canceled : Bool) (names : σ) : Tallied p (Batch.start p canceled names) where
  size := Array.size_replicate
  launched := Nat.zero_le _
  assigned := Nat.le_refl _
  absent found := iff_of_true (start_absent found) (Nat.zero_le _)
  busy := by
    show 0 = (Array.replicate p.jobs.size Stage.absent).countP Stage.active
    rw [Array.countP_replicate]
    rfl

/-- The job that waits for a worker has had none. -/
theorem next_absent (h : Tallied p s) (pending : s.assigned < s.launched) :
    s.stages[s.assigned]? = some .absent := by
  have launched := h.launched
  have size := h.size
  have inside : s.assigned < s.stages.size := by omega
  have found := Array.getElem?_eq_getElem inside
  rw [(h.absent found).mpr (Nat.le_refl _)] at found
  exact found

/-- The stages stay in order when a job with a worker is moved on to a stage where it has or had one. -/
theorem absent_moved (h : Tallied p s) {i : Nat} {old : Stage} (here : s.stages[i]? = some old)
    (before : old ≠ .absent) (new : Stage) (behind : new ≠ .absent) {j : Nat} {stage : Stage}
    (found : (s.stages.setIfInBounds i new)[j]? = some stage) : stage = .absent ↔ s.assigned ≤ j := by
  rw [getElem?_moved here] at found
  split at found
  · next same =>
    subst same
    obtain rfl := Option.some.inj found
    have early := (h.absent here).not.mp before
    exact ⟨fun absent => absurd absent behind, fun late => absurd late early⟩
  · exact h.absent found

/-- When a worker leaves there is one active job less. -/
theorem busy_leave (h : Tallied p s) {i : Nat} {old : Stage} (here : s.stages[i]? = some old)
    (active : old.active = true) (report : JobReport) :
    s.busy - 1 = (s.stages.setIfInBounds i (.finished report)).countP Stage.active := by
  have counted := countP_moved here (.finished report) Stage.active
  have finished : (Stage.finished report).active = false := rfl
  rw [active, finished, ← h.busy, Bool.toNat_true, Bool.toNat_false] at counted
  omega

/-- **Events keep the counters right.** -/
theorem step (h : Tallied p s) (step : Step p s s') : Tallied p s' := by
  have size : ∀ i stage, (s.stages.setIfInBounds i stage).size = p.jobs.size := by
    intro i stage
    rw [Array.size_setIfInBounds, h.size]
  cases step with
  | stay | cancel => exact ⟨h.size, h.launched, h.assigned, h.absent, h.busy⟩
  | close => exact ⟨h.size, h.launched, h.assigned, h.absent, h.busy⟩
  | launch more => exact ⟨h.size, more, Nat.le_succ_of_le h.assigned, h.absent, h.busy⟩
  | assign pending =>
      -- The job that gets the worker is the first one that has had none.
      have here := h.next_absent pending
      refine ⟨size _ _, h.launched, pending, ?_, ?_⟩
      · intro j stage found
        dsimp only at found ⊢
        rw [getElem?_moved here] at found
        split at found
        · next same =>
          obtain rfl := Option.some.inj found
          exact ⟨nofun, fun late => by omega⟩
        · next different =>
          rw [h.absent found]
          omega
      · have counted := countP_moved here .waiting Stage.active
        show s.busy + 1 = _
        rw [h.busy]
        exact counted.symm
  | giveUp here =>
      refine ⟨size _ _, h.launched, h.assigned, h.absent_moved here nofun (.finished _) nofun, ?_⟩
      exact h.busy_leave here rfl _
  | decode here =>
      refine ⟨size _ _, h.launched, h.assigned, h.absent_moved here nofun .decoding nofun, ?_⟩
      exact h.busy.trans (Nat.add_right_cancel (countP_moved here .decoding Stage.active)).symm
  | complete planned here =>
      refine ⟨size _ _, h.launched, h.assigned, h.absent_moved here nofun (.finished _) nofun, ?_⟩
      exact h.busy_leave here rfl _

/-- **Without workers every job that had one is over.** -/
theorem exists_finished (h : Tallied p s) (idle : s.busy = 0) {i : Nat} (early : i < s.assigned) :
    ∃ report, s.stages[i]? = some (.finished report) := by
  have assigned := h.assigned
  have launched := h.launched
  have size := h.size
  have inside : i < s.stages.size := by omega
  have found := Array.getElem?_eq_getElem inside
  have none := Array.countP_eq_zero.mp (h.busy.symm.trans idle) _ (Array.mem_iff_getElem?.mpr ⟨i, found⟩)
  have present := (h.absent found).not.mpr (by omega)
  generalize s.stages[i] = stage at found none present
  cases stage with
  | absent => exact absurd rfl present
  | waiting | decoding => exact absurd rfl none
  | finished report => exact ⟨report, found⟩

end Tallied

/-- **The limit is kept**: with a positive limit there are never more workers. -/
theorem busy_le (limited : 0 < p.limit.toInt) (canceled : Bool) (names : σ) (events : List Event) :
    (run p (start p canceled names) events).busy ≤ p.limit.toInt := by
  refine run_induction (P := fun s : State σ => s.busy ≤ p.limit.toInt) ?_ (Int.le_of_lt limited) events
  intro s s' kept step
  cases step with
  | stay | close | launch | decode | cancel => exact kept
  | assign pending free =>
      simp only [room, Bool.or_eq_true, decide_eq_true_eq] at free
      show ((s.busy + 1 : Nat) : Int) ≤ _
      omega
  | giveUp | complete =>
      show ((s.busy - 1 : Nat) : Int) ≤ _
      omega

/-! ## Reports -/

/-- **A batch is told truly**: it is broken off only when it is cancelled, workers give up only then, and the
reports are those of decoding or of jobs that were given up. -/
structure Told (p : Plan σ) (R : σ → Unit → Prop) (names : σ) (s : State σ) : Prop where
  /-- Launching is broken off in a cancelled batch only. -/
  closed : s.closed = true → s.done = true
  /-- Workers give up in a cancelled batch only. -/
  done : s.gaveUp = true → s.done = true
  /-- Workers that gave up have left a report. -/
  gaveUp : s.gaveUp = true ↔ .finished .canceled ∈ s.stages
  /-- The reports of the others are those of decoding. -/
  report : ∀ {i : Nat} {job : Job} {r : JobReport}, p.jobs[i]? = some job →
    s.stages[i]? = some (.finished r) →
    r = (job.run p.options names).1 ∨ r = .canceled
  /-- The names answer as they did. -/
  names : R s.names ()

namespace Told

variable {R : σ → Unit → Prop} {names : σ}

/-- Nothing has been told at the start. -/
theorem start (answers : R names ()) (canceled : Bool) : Told p R names (Batch.start p canceled names) where
  closed := nofun
  done := nofun
  gaveUp := ⟨nofun, fun mem => by cases (Array.mem_replicate.mp mem).2⟩
  report _ found := by cases start_absent found
  names := answers

/-- A batch that is to stop is cancelled. -/
theorem stopping (h : Told p R names s) (stopping : s.stopping = true) : s.done = true := by
  rcases Bool.or_eq_true_iff.mp stopping with done | gaveUp
  · exact done
  · exact h.done gaveUp

/-- When a job moves on with a proper report, all reports are still proper. -/
theorem report_moved (h : Told p R names s) {i : Nat} {old : Stage} (here : s.stages[i]? = some old)
    (new : Stage) (reported : ∀ job r, p.jobs[i]? = some job → new = .finished r →
      r = (job.run p.options names).1 ∨ r = .canceled)
    {j : Nat} {job : Job} {r : JobReport} (planned : p.jobs[j]? = some job)
    (found : (s.stages.setIfInBounds i new)[j]? = some (.finished r)) :
    r = (job.run p.options names).1 ∨ r = .canceled := by
  rw [getElem?_moved here] at found
  split at found
  · next same =>
    subst same
    exact reported job r planned (Option.some.inj found)
  · exact h.report planned found

/-- **Events keep a batch told truly.** -/
theorem step {assignment : Names} (related : Resolver.Relates R p.options.resolver assignment.resolver)
    (answers : R names ()) (tallied : Tallied p s) (h : Told p R names s) (step : Step p s s') :
    Told p R names s' := by
  cases step with
  | stay => exact h
  | cancel => exact ⟨fun _ => rfl, fun _ => rfl, h.gaveUp, h.report, h.names⟩
  | close more stopping => exact ⟨fun _ => h.stopping stopping, h.done, h.gaveUp, h.report, h.names⟩
  | launch => exact ⟨h.closed, h.done, h.gaveUp, h.report, h.names⟩
  | assign pending =>
      have here := tallied.next_absent pending
      refine ⟨h.closed, h.done, ?_, h.report_moved here .waiting fun _ _ _ => nofun, h.names⟩
      exact h.gaveUp.trans ((canceled_moved_iff here .waiting nofun).trans (or_iff_right nofun)).symm
  | giveUp here stopping =>
      refine ⟨h.closed, fun _ => h.stopping stopping, ?_, h.report_moved here (.finished .canceled) ?_,
        h.names⟩
      · exact ⟨fun _ => (canceled_moved_iff here (.finished .canceled) nofun).mpr (.inl rfl), fun _ => rfl⟩
      · intro job r planned same
        exact .inr (Stage.finished.inj same).symm
  | decode here going =>
      refine ⟨h.closed, h.done, ?_, h.report_moved here .decoding fun _ _ _ => nofun, h.names⟩
      exact h.gaveUp.trans ((canceled_moved_iff here .decoding nofun).trans (or_iff_right nofun)).symm
  | @complete i job planned here =>
      -- The names answer as at the start, so the report is the one that decoding gives there.
      obtain ⟨same, next⟩ := job.run_answered related h.names answers
      refine ⟨h.closed, h.done, ?_,
        h.report_moved here (.finished (job.run p.options s.names).1) ?_, next⟩
      · have decoded : Stage.finished (job.run p.options s.names).1 ≠ .finished .canceled :=
          fun same => job.run_ne_canceled _ _ (Stage.finished.inj same)
        exact h.gaveUp.trans ((canceled_moved_iff here _ nofun).trans (or_iff_right decoded)).symm
      · intro job' r planned' reported
        obtain rfl := Option.some.inj (planned.symm.trans planned')
        obtain rfl := Stage.finished.inj reported
        exact .inl same

end Told

end Batch

end SheetFormula
