import SheetFormula.Proofs.BatchSchedule

/-!
# Outcomes of batches

What a batch comes to, whatever the order of its events:

* **`Batch.exists_settled`** — from wherever it stands, a batch can come to its end;
* **`Batch.Sequential`** — with a limit of one, jobs are decoded one after the other;
* **`Batch.exists_report`**, **`Batch.cut_iff`**, **`Batch.entries_of_going`**, **`Batch.canceled_behind`** —
  the entries of a settled batch, and whether it was cut short;
* **`Batch.settled_inOrder`** — the jobs in order are a schedule that comes to its end;
* **`Batch.Concludes`**, **`Batch.run_concludes`** — the outcomes of batches under any schedule.
-/

namespace SheetFormula

variable {σ : Type}

namespace Batch

variable {p : Plan σ} {s s' : State σ}

/-! ## Coming to an end -/

/-- Whether the worker of a job has not looked yet. -/
def Stage.unchecked : Stage → Bool
  | .waiting => true
  | _ => false

/-- **Work ahead** of a batch: what can still happen to its jobs, cancelling apart. -/
def ahead (p : Plan σ) (s : State σ) : Nat :=
  (!s.closed).toNat + 4 * (p.jobs.size - s.launched) + 3 * (s.launched - s.assigned) + s.busy +
    s.stages.countP Stage.unchecked

/-- A batch with a worker goes on with it. -/
theorem exists_less_of_busy (h : Tallied p s) (busy : s.busy ≠ 0) :
    ∃ e, ahead p (step p s e) < ahead p s := by
  obtain ⟨stage, mem, active⟩ := Array.countP_pos_iff.mp (Nat.pos_of_ne_zero (h.busy ▸ busy))
  obtain ⟨i, here⟩ := Array.mem_iff_getElem?.mp mem
  cases stage with
  | absent | finished _ => cases active
  | waiting =>
      -- Its worker looks; then it leaves or starts to decode.
      refine ⟨.check i, ?_⟩
      show ahead p (check i s) < _
      unfold check
      rw [here]
      dsimp only
      split
      · have fewer := countP_moved here (.finished .canceled) Stage.unchecked
        simp only [ahead, State.leave]
        simp only [Stage.unchecked, Bool.toNat_true, Bool.toNat_false] at fewer
        omega
      · have fewer := countP_moved here .decoding Stage.unchecked
        simp only [ahead]
        simp only [Stage.unchecked, Bool.toNat_true, Bool.toNat_false] at fewer
        omega
  | decoding =>
      -- Its worker leaves with the report.
      have planned : ∃ job, p.jobs[i]? = some job := by
        have inside := (Array.getElem?_eq_some_iff.mp here).1
        rw [h.size] at inside
        exact ⟨_, Array.getElem?_eq_getElem inside⟩
      obtain ⟨job, planned⟩ := planned
      refine ⟨.complete i, ?_⟩
      show ahead p (complete p i s) < _
      unfold complete
      rw [planned, here]
      dsimp only
      have same := countP_moved here (.finished (job.run p.options s.names).1) Stage.unchecked
      simp only [ahead, State.leave]
      simp only [Stage.unchecked, Bool.toNat_false] at same
      omega

/-- **A batch that is not settled can go on**, with less work ahead. -/
theorem exists_less (h : Tallied p s) (unsettled : settled p s = false) :
    ∃ e, ahead p (step p s e) < ahead p s := by
  by_cases busy : s.busy = 0
  · by_cases pending : s.assigned < s.launched
    · -- Without workers there is room for one.
      have free : room p s = true := by
        unfold room
        rw [busy, Bool.or_eq_true, decide_eq_true_eq, decide_eq_true_eq]
        omega
      have more := countP_moved (h.next_absent pending) .waiting Stage.unchecked
      refine ⟨.assign, ?_⟩
      show ahead p (assign p s) < _
      rw [assign, if_pos (by rw [free, decide_eq_true pending]; rfl)]
      simp only [ahead]
      simp only [Stage.unchecked, Bool.toNat_true, Bool.toNat_false] at more
      omega
    · have assigned := h.assigned
      have launched := h.launched
      have caught : s.assigned = s.launched := by omega
      refine ⟨.launch, ?_⟩
      simp only [settled, busy, caught, beq_self_eq_true, Bool.and_true, Bool.or_eq_false_iff,
        beq_eq_false_iff_ne] at unsettled
      have going : ¬(s.closed || decide (p.jobs.size ≤ s.launched) || decide (s.assigned < s.launched)) =
          true := by
        rw [unsettled.1, Bool.false_or, Bool.or_eq_true, decide_eq_true_eq, decide_eq_true_eq]
        omega
      show ahead p (launch p s) < _
      rw [launch, if_neg going]
      split
      · simp only [ahead, unsettled.1, Bool.not_false, Bool.not_true, Bool.toNat_true, Bool.toNat_false]
        omega
      · simp only [ahead]
        omega
  · exact exists_less_of_busy h busy

/-- **Every batch can come to its end**, from wherever it stands. -/
theorem exists_settled (h : Tallied p s) : ∃ events, settled p (run p s events) = true := by
  induction work : ahead p s using Nat.strongRecOn generalizing s with
  | ind n ih =>
      subst work
      cases finished : settled p s with
      | true => exact ⟨[], finished⟩
      | false =>
          obtain ⟨e, less⟩ := exists_less h finished
          obtain ⟨events, settled⟩ := ih _ less (h.step (step_spec p s e)) rfl
          exact ⟨e :: events, settled⟩

/-! ## Cancelled from the start -/

/-- **Nothing is launched in a batch that is cancelled** before. -/
theorem launched_of_canceled (p : Plan σ) (names : σ) (events : List Event) :
    (run p (start p true names) events).done = true ∧ (run p (start p true names) events).launched = 0 := by
  refine run_induction (P := fun s => s.done = true ∧ s.launched = 0) ?_ ⟨rfl, rfl⟩ events
  rintro s s' ⟨done, launched⟩ step
  cases step with
  | stay | close | assign | giveUp | decode | complete => exact ⟨done, launched⟩
  | cancel => exact ⟨rfl, launched⟩
  | launch more going =>
      rw [State.stopping, done, Bool.true_or] at going
      cases going

/-! ## One after the other -/

/-- **An undecoded job** has no worker that decodes it, and was given up if it had one before. -/
def Stage.Undecoded : Stage → Prop
  | .absent | .waiting => True
  | .decoding => False
  | .finished report => report = .canceled

/-- **Jobs are decoded one after the other**: those before a job with a worker are over, and behind one that
was given up none is decoded. -/
structure Sequential (s : State σ) : Prop where
  /-- The jobs before it are over. -/
  finished : ∀ {i j : Nat} {stage : Stage}, i < j → s.stages[j]? = some stage → stage ≠ .absent →
    ∃ r, s.stages[i]? = some (.finished r)
  /-- The jobs behind it are not decoded. -/
  canceled : ∀ {i j : Nat} {stage : Stage}, i < j → s.stages[i]? = some (.finished .canceled) →
    s.stages[j]? = some stage → stage.Undecoded

namespace Sequential

/-- It is so at the start, where no job has begun. -/
theorem start (p : Plan σ) (canceled : Bool) (names : σ) : Sequential (Batch.start p canceled names) := by
  refine ⟨fun _ found present => absurd (start_absent found) present, fun _ found => ?_⟩
  cases start_absent found

/-- Moving on an active job keeps those before it over. -/
theorem finished_moved (h : Sequential s) {k : Nat} {old : Stage} (here : s.stages[k]? = some old)
    (active : old.active = true) (new : Stage) {i j : Nat} {stage : Stage} (before : i < j)
    (found : (s.stages.setIfInBounds k new)[j]? = some stage) (present : stage ≠ .absent) :
    ∃ r, (s.stages.setIfInBounds k new)[i]? = some (.finished r) := by
  -- The job that moves was active, so the jobs before it were finished already.
  have finished : ∃ r, s.stages[i]? = some (.finished r) := by
    rw [getElem?_moved here] at found
    split at found
    · next same =>
      subst same
      refine h.finished before here ?_
      rintro rfl
      cases active
    · exact h.finished before found present
  obtain ⟨r, finished⟩ := finished
  refine ⟨r, ?_⟩
  rw [getElem?_moved here, if_neg ?_, finished]
  rintro rfl
  obtain rfl := Option.some.inj (here.symm.trans finished)
  cases active

/-- Behind an active job nothing has a worker. -/
theorem absent_behind (h : Sequential s) {k : Nat} {old : Stage} (here : s.stages[k]? = some old)
    (active : old.active = true) {j : Nat} {stage : Stage} (behind : k < j)
    (found : s.stages[j]? = some stage) :
    stage = .absent := by
  by_contra present
  obtain ⟨r, finished⟩ := h.finished behind found present
  obtain rfl := Option.some.inj (here.symm.trans finished)
  cases active

/-- **Moving on a job** keeps those behind a job that was given up from being decoded: when it is given up
itself, none is decoded behind it, and behind one that was it is not decoded. -/
theorem canceled_moved (h : Sequential s) {k : Nat} {old : Stage} (here : s.stages[k]? = some old)
    (new : Stage)
    (givenUp : new = .finished .canceled → ∀ {j stage}, k < j → s.stages[j]? = some stage → stage.Undecoded)
    (behind : ∀ {i}, i < k → s.stages[i]? = some (.finished .canceled) → new.Undecoded) {i j : Nat}
    {stage : Stage} (before : i < j)
    (canceled : (s.stages.setIfInBounds k new)[i]? = some (.finished .canceled))
    (found : (s.stages.setIfInBounds k new)[j]? = some stage) : stage.Undecoded := by
  rw [getElem?_moved here] at canceled found
  split at found
  · next same =>
    subst same
    obtain rfl := Option.some.inj found
    rw [if_neg (by omega)] at canceled
    exact behind before canceled
  · split at canceled
    · next same =>
      subst same
      exact givenUp (Option.some.inj canceled) before found
    · exact h.canceled before canceled found

/-- **With a limit of one** the jobs stay one after the other. -/
theorem step {R : σ → Unit → Prop} {names : σ} (one : p.limit = 1) (tallied : Tallied p s)
    (told : Told p R names s) (h : Sequential s) (step : Step p s s') : Sequential s' := by
  cases step with
  | stay | close | launch | cancel => exact ⟨h.finished, h.canceled⟩
  | assign pending free =>
      have here := tallied.next_absent pending
      have idle : s.busy = 0 := by
        have limit : p.limit.toInt = 1 := by rw [one]; rfl
        simp only [room, limit, Bool.or_eq_true, decide_eq_true_eq] at free
        omega
      refine ⟨?_, h.canceled_moved here .waiting (fun same => by cases same) fun _ _ => trivial⟩
      intro i j stage before found present
      dsimp only at found ⊢
      -- The job is the first one without a worker, and no other one is busy.
      have early : i < s.assigned := by
        rw [getElem?_moved here] at found
        split at found
        · omega
        · have := (tallied.absent found).not.mp present
          omega
      obtain ⟨r, finished⟩ := tallied.exists_finished idle early
      exact ⟨r, by rw [getElem?_moved here, if_neg (by omega), finished]⟩
  | giveUp here stopping =>
      refine ⟨h.finished_moved here rfl _, h.canceled_moved here (.finished .canceled)
        (fun _ j stage behind found => ?_) fun _ _ => rfl⟩
      -- The others have had no worker, since this one was active.
      obtain rfl := h.absent_behind here rfl behind found
      exact trivial
  | decode here going =>
      refine ⟨h.finished_moved here rfl _, h.canceled_moved here .decoding (fun same => by cases same)
        fun {i} _ canceled => ?_⟩
      -- A job that was given up has stopped the batch.
      have gaveUp := told.gaveUp.mpr (Array.mem_iff_getElem?.mpr ⟨i, canceled⟩)
      rw [State.stopping, gaveUp, Bool.or_true] at going
      cases going
  | complete planned here =>
      refine ⟨h.finished_moved here rfl _, h.canceled_moved here _ (fun same => ?_) fun before canceled => ?_⟩
      · exact absurd (Stage.finished.inj same) (Job.run_ne_canceled _ _ _)
      · -- No job is decoded behind one that was given up.
        exact (h.canceled before canceled here).elim

end Sequential

/-! ## Entries of a settled batch -/

/-- There is an entry for each job. -/
theorem getElem?_entries {i : Nat} (inside : i < p.jobs.size) : (entries p s)[i]? = some (entry p s i) := by
  rw [entries, List.getElem?_map, List.getElem?_range inside, Option.map_some]

/-- **What is settled**: launching was broken off or all jobs are launched, all of these have had a worker,
and no worker is left. -/
theorem settled_iff : settled p s = true ↔
    (s.closed = true ∨ s.launched = p.jobs.size) ∧ s.assigned = s.launched ∧ s.busy = 0 := by
  simp only [settled, Bool.and_eq_true, Bool.or_eq_true, beq_iff_eq, and_assoc]

section Settled

variable {R : σ → Unit → Prop} {names : σ} (finished : settled p s = true) (told : Told p R names s)
  (tallied : Tallied p s)

include finished

/-- **A launched job has left a report.** -/
theorem exists_entry (tallied : Tallied p s) {i : Nat} (early : i < s.launched) :
    ∃ report, s.stages[i]? = some (.finished report) ∧ entry p s i = some report := by
  obtain ⟨-, assigned, idle⟩ := settled_iff.mp finished
  obtain ⟨report, found⟩ := tallied.exists_finished idle (show i < s.assigned by omega)
  refine ⟨report, found, ?_⟩
  rw [entry, if_pos early, found]

include told

/-- **A job that was not launched is entered as cancelled**: the batch was cut short before it. -/
theorem entry_unlaunched {i : Nat} (late : s.launched ≤ i) (inside : i < p.jobs.size) :
    cut p s = true ∧ entry p s i = some .canceled := by
  obtain ⟨closed | all, -⟩ := settled_iff.mp finished
  · have short : cut p s = true := by
      rw [cut, told.closed closed, decide_eq_true (by omega), Bool.true_and, Bool.or_true]
    refine ⟨short, ?_⟩
    rw [entry, if_neg (by omega), if_pos short]
  · omega

include tallied

/-- **Every entry is that of decoding or of a cancelled job.** -/
theorem exists_report {i : Nat} {job : Job} (planned : p.jobs[i]? = some job) :
    ∃ report, (entries p s)[i]? = some (some report) ∧
      (report = (job.run p.options names).1 ∨ report = .canceled) := by
  have inside := (Array.getElem?_eq_some_iff.mp planned).1
  rw [getElem?_entries inside]
  by_cases early : i < s.launched
  · obtain ⟨report, found, entered⟩ := exists_entry finished tallied early
    exact ⟨report, by rw [entered], told.report planned found⟩
  · obtain ⟨-, entered⟩ := entry_unlaunched finished told (Nat.le_of_not_lt early) inside
    exact ⟨.canceled, by rw [entered], .inr rfl⟩

/-- **A batch is cut short exactly when some job is entered as cancelled.** -/
theorem cut_iff : cut p s = true ↔ some .canceled ∈ entries p s := by
  constructor
  · intro short
    have known := short
    rw [cut, Bool.or_eq_true, Bool.and_eq_true, decide_eq_true_eq] at known
    rcases known with gaveUp | ⟨more, -⟩
    · -- The worker that gave up has left its report.
      obtain ⟨i, found⟩ := Array.mem_iff_getElem?.mp (told.gaveUp.mp gaveUp)
      have early : i < s.launched := by
        have worked := (tallied.absent found).not.mp nofun
        have assigned := tallied.assigned
        omega
      have launched := tallied.launched
      obtain ⟨report, left, entered⟩ := exists_entry finished tallied early
      obtain rfl := Stage.finished.inj (Option.some.inj (found.symm.trans left))
      refine List.mem_iff_getElem?.mpr ⟨i, ?_⟩
      rw [getElem?_entries (by omega), entered]
    · -- The first job that was not launched is entered as cancelled.
      refine List.mem_iff_getElem?.mpr ⟨s.launched, ?_⟩
      rw [getElem?_entries more, (entry_unlaunched finished told (Nat.le_refl _) more).2]
  · intro mem
    obtain ⟨i, -, entered⟩ := List.mem_map.mp mem
    by_cases early : i < s.launched
    · obtain ⟨report, found, entered'⟩ := exists_entry finished tallied early
      obtain rfl := Option.some.inj (entered.symm.trans entered')
      have gaveUp := told.gaveUp.mpr (Array.mem_iff_getElem?.mpr ⟨i, found⟩)
      rw [cut, gaveUp, Bool.true_or]
    · rw [entry, if_neg early] at entered
      split at entered
      · assumption
      · cases entered

/-- **A batch that was not cancelled is decoded** as a whole. -/
theorem entries_of_going (going : s.done = false) :
    entries p s = p.jobs.toList.map fun job => some (job.run p.options names).1 := by
  -- Nobody gave up, so no entry says that its job was cancelled.
  have whole : cut p s = false := by
    have none : s.gaveUp = false := by
      by_contra gaveUp
      rw [told.done (by simpa using gaveUp)] at going
      cases going
    rw [cut, none, going, Bool.and_false, Bool.or_false]
  have uncanceled : some .canceled ∉ entries p s := by
    rw [← cut_iff finished told tallied, whole]
    exact Bool.false_ne_true
  refine List.ext_getElem? fun i => ?_
  have listed : p.jobs.toList[i]? = p.jobs[i]? := Array.getElem?_toList
  rw [List.getElem?_map, listed]
  cases planned : p.jobs[i]? with
  | none =>
      rw [Array.getElem?_eq_none_iff] at planned
      rw [Option.map_none, List.getElem?_eq_none_iff, entries, List.length_map, List.length_range]
      exact planned
  | some job =>
      obtain ⟨report, found, rfl | rfl⟩ := exists_report finished told tallied planned
      · exact found
      · exact absurd (List.mem_iff_getElem?.mpr ⟨i, found⟩) uncanceled

/-- **One after the other**, all jobs behind a cancelled one are cancelled. -/
theorem canceled_behind (sequential : Sequential s) {i j : Nat} (before : i < j) (inside : j < p.jobs.size)
    (canceled : (entries p s)[i]? = some (some .canceled)) : (entries p s)[j]? = some (some .canceled) := by
  rw [getElem?_entries inside]
  by_cases early : j < s.launched
  · obtain ⟨report, found, entered⟩ := exists_entry finished tallied early
    obtain ⟨report', found', entered'⟩ := exists_entry finished tallied (show i < s.launched by omega)
    rw [getElem?_entries (by omega), entered'] at canceled
    obtain rfl := Option.some.inj (Option.some.inj canceled)
    have undecoded : report = .canceled := sequential.canceled before found' found
    rw [entered, undecoded]
  · rw [(entry_unlaunched finished told (Nat.le_of_not_lt early) inside).2]

end Settled

/-! ## Jobs in order -/

/-- **A batch is idle** behind some jobs in order: they are over, unless launching was broken off. -/
structure Idle (k : Nat) (s : State σ) : Prop where
  /-- The jobs are launched. -/
  launched : s.closed = true ∨ s.launched = k
  /-- They have had a worker. -/
  assigned : s.assigned = s.launched
  /-- No worker is left. -/
  busy : s.busy = 0

namespace Idle

variable {k : Nat}

/-- Without workers nothing is active. -/
theorem stage_ne (h : Idle k s) (tallied : Tallied p s) {i : Nat} {stage : Stage}
    (active : stage.active = true) :
    s.stages[i]? ≠ some stage := by
  intro found
  have none :=
    Array.countP_eq_zero.mp (tallied.busy.symm.trans h.busy) _ (Array.mem_iff_getElem?.mpr ⟨i, found⟩)
  exact none active

/-- **Without a launched job** nothing happens. -/
theorem run_rest (h : Idle k s) (tallied : Tallied p s) (i : Nat) :
    run p s [.assign, .check i, .complete i] = s := by
  -- None of the three events finds a job to work on.
  have assigned : assign p s = s := by
    rw [assign, if_neg]
    rw [h.assigned, decide_eq_false (Nat.lt_irrefl _), Bool.false_and]
    exact Bool.false_ne_true
  have checked : check i s = s := by
    unfold check
    split
    · next found => exact absurd found (h.stage_ne tallied rfl)
    · rfl
  have completed : complete p i s = s := by
    unfold complete
    split
    · next found => exact absurd found (h.stage_ne tallied rfl)
    · rfl
  show complete p i (check i (assign p s)) = s
  rw [assigned, checked, completed]

/-- **A launched job gets a worker, is checked and completed** when nothing stops the batch. -/
theorem run_launched (h : Idle k s) (tallied : Tallied p s) (launched : s.launched = k)
    (more : k < p.jobs.size) (going : s.stopping = false) :
    Idle (k + 1) (run p { s with launched := s.launched + 1 } [.assign, .check k, .complete k]) := by
  obtain ⟨job, planned⟩ : ∃ job, p.jobs[k]? = some job := ⟨_, Array.getElem?_eq_getElem more⟩
  have assigned : s.assigned = k := h.assigned.trans launched
  have inside : k < s.stages.size := by rw [tallied.size]; exact more
  obtain ⟨old, here⟩ : ∃ old, s.stages[k]? = some old := ⟨_, Array.getElem?_eq_getElem inside⟩
  -- Without other workers there is room, and nothing stops the batch before the check.
  have free : (decide (s.assigned < s.launched + 1) && room p { s with launched := s.launched + 1 }) =
    true := by
    simp only [room, h.busy, Bool.and_eq_true, Bool.or_eq_true, decide_eq_true_eq]
    omega
  have waiting : (s.stages.setIfInBounds k .waiting)[k]? = some .waiting := by
    rw [getElem?_moved here, if_pos rfl]
  have decoding : ((s.stages.setIfInBounds k .waiting).setIfInBounds k .decoding)[k]? = some .decoding := by
    rw [getElem?_moved waiting, if_pos rfl]
  have stays : ¬State.stopping { s with
      launched := s.launched + 1
      assigned := k + 1
      busy := s.busy + 1
      stages := s.stages.setIfInBounds k .waiting } = true := by
    rw [State.stopping] at going ⊢
    rw [going]
    exact Bool.false_ne_true
  show Idle (k + 1) (complete p k (check k (assign p { s with launched := s.launched + 1 })))
  rw [assign, if_pos free]
  dsimp only
  rw [assigned, check]
  dsimp only
  rw [waiting]
  dsimp only
  rw [if_neg stays, complete]
  dsimp only
  rw [planned, decoding]
  refine ⟨.inr ?_, ?_, ?_⟩
  · show s.launched + 1 = k + 1
    rw [launched]
  · show k + 1 = s.launched + 1
    rw [launched]
  · show s.busy + 1 - 1 = 0
    rw [h.busy]

/-- **The next job** is over behind its events, or launching is broken off. -/
theorem run_next (h : Idle k s) (tallied : Tallied p s) (more : k < p.jobs.size) :
    Idle (k + 1) (run p s [.launch, .assign, .check k, .complete k]) := by
  show Idle (k + 1) (run p (launch p s) [.assign, .check k, .complete k])
  unfold launch
  split
  -- Launching is over, or it is broken off here, or the job runs to its end.
  · next blocked =>
    rw [h.run_rest tallied]
    rw [h.assigned, decide_eq_false (Nat.lt_irrefl _), Bool.or_false, Bool.or_eq_true,
      decide_eq_true_eq] at blocked
    refine ⟨?_, h.assigned, h.busy⟩
    rcases h.launched with closed | launched
    · exact .inl closed
    · exact .inl (blocked.resolve_right (by omega))
  · next ready =>
    have launched : s.launched = k := by
      rw [Bool.or_eq_true, Bool.or_eq_true] at ready
      exact h.launched.resolve_left fun closed => ready (.inl (.inl closed))
    split
    · have idle : Idle k { s with closed := true } := ⟨.inl rfl, h.assigned, h.busy⟩
      rw [idle.run_rest ⟨tallied.size, tallied.launched, tallied.assigned, tallied.absent, tallied.busy⟩]
      exact ⟨.inl rfl, h.assigned, h.busy⟩
    · next going => exact h.run_launched tallied launched more (Bool.not_eq_true _ ▸ going)

end Idle

/-- **Jobs in order come to an end.** -/
theorem settled_inOrder (p : Plan σ) (canceled : Bool) (names : σ) :
    settled p (run p (start p canceled names) (inOrder p.jobs.size)) = true := by
  have tallied : ∀ events, Tallied p (run p (start p canceled names) events) :=
    run_induction (fun h step => h.step step) (Tallied.start p canceled names)
  -- By induction on the jobs: behind the events of each of them the batch is idle again.
  have idle : ∀ k ≤ p.jobs.size, Idle k (run p (start p canceled names) (inOrder k)) := by
    intro k
    induction k with
    | zero => exact fun _ => ⟨.inr rfl, rfl, rfl⟩
    | succ k ih =>
        intro more
        have next := (ih (Nat.le_of_succ_le more)).run_next (tallied _) more
        have events : inOrder (k + 1) = inOrder k ++ [.launch, .assign, .check k, .complete k] := by
          rw [inOrder, List.range_succ, List.flatMap_append, List.flatMap_singleton, inOrder]
        rw [events, run, List.foldl_append]
        exact next
  obtain ⟨launched, assigned, busy⟩ := idle _ (Nat.le_refl _)
  exact settled_iff.mpr ⟨launched, assigned, busy⟩

/-! ## Any schedule -/

/-- **What a batch has come to** when it is settled. -/
structure Concludes (p : Plan σ) (names : σ) (canceled : Bool) (s : State σ) : Prop where
  /-- There is an entry for each job. -/
  length : (entries p s).length = p.jobs.size
  /-- It holds the report of decoding the job, or tells that the batch was cancelled. -/
  entry : ∀ (i : Nat) (job : Job), p.jobs[i]? = some job → ∃ report, (entries p s)[i]? = some (some report) ∧
    (report = (job.run p.options names).1 ∨ report = .canceled)
  /-- The batch was cut short exactly when some entry tells so. -/
  cut_iff : cut p s = true ↔ some .canceled ∈ entries p s
  /-- A batch that was never cancelled is decoded as a whole. -/
  going : s.done = false → entries p s = p.jobs.toList.map fun job => some (job.run p.options names).1
  /-- In a batch that was cancelled before, nothing is decoded. -/
  canceled : canceled = true → entries p s = List.replicate p.jobs.size (some .canceled)
  /-- With a limit of one, nothing is decoded behind a job that was not. -/
  sequential : p.limit = 1 → ∀ i j, i < j → j < p.jobs.size → (entries p s)[i]? = some (some .canceled) →
    (entries p s)[j]? = some (some .canceled)

/-- No entry is left empty, so the reports of a batch are its entries. -/
theorem Concludes.map_reports {names : σ} {canceled : Bool} (h : Concludes p names canceled s) :
    ((entries p s).filterMap id).map some = entries p s := by
  have filled : ∀ e ∈ entries p s, (id e).map some = some e := by
    intro e mem
    obtain ⟨i, there⟩ := List.mem_iff_getElem?.mp mem
    have inside : i < p.jobs.size := h.length ▸ (List.getElem?_eq_some_iff.mp there).1
    obtain ⟨report, told, -⟩ := h.entry i _ (Array.getElem?_eq_getElem inside)
    rw [told, Option.some.injEq] at there
    rw [← there, id, Option.map_some]
  rw [List.map_filterMap, List.filterMap_congr filled, List.filterMap_some]

section Schedules

variable {R : σ → Unit → Prop} {names : σ} {assignment : Names}
  (related : Resolver.Relates R p.options.resolver assignment.resolver) (answers : R names ())

include related answers

/-- **Along every schedule** the counters are right and the batch is told truly. With a limit of one, jobs are
decoded one after the other. -/
theorem run_spec (canceled : Bool) (events : List Event) :
    Tallied p (run p (start p canceled names) events) ∧
      Told p R names (run p (start p canceled names) events) ∧
      (p.limit = 1 → Sequential (run p (start p canceled names) events)) := by
  refine run_induction (P := fun s => Tallied p s ∧ Told p R names s ∧ (p.limit = 1 → Sequential s)) ?_
    ⟨.start p canceled names, .start answers canceled, fun _ => .start p canceled names⟩ events
  rintro s s' ⟨tallied, told, sequential⟩ step
  exact ⟨tallied.step step, told.step related answers tallied step,
    fun one => (sequential one).step one tallied told step⟩

/-- **However a batch is scheduled**, once it has settled it concludes. -/
theorem concludes (canceled : Bool) (events : List Event)
    (finished : settled p (run p (start p canceled names) events) = true) :
    Concludes p names canceled (run p (start p canceled names) events) := by
  obtain ⟨tallied, told, sequential⟩ := run_spec related answers canceled events
  refine ⟨?_, fun i job => exists_report finished told tallied, cut_iff finished told tallied,
    entries_of_going finished told tallied, ?_,
    fun one i j => canceled_behind finished told tallied (sequential one)⟩
  · rw [entries, List.length_map, List.length_range]
  · rintro rfl
    -- No job was launched, so each of them is entered as cancelled.
    have unlaunched := (launched_of_canceled p names events).2
    refine List.eq_replicate_iff.mpr ⟨by rw [entries, List.length_map, List.length_range], fun e mem => ?_⟩
    obtain ⟨i, inside, rfl⟩ := List.mem_map.mp mem
    exact (entry_unlaunched finished told (unlaunched ▸ Nat.zero_le i) (List.mem_range.mp inside)).2

end Schedules

end Batch

end SheetFormula
