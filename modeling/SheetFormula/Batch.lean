import SheetFormula.Decode

/-!
# Batches

Several formulas are decoded under shared circumstances. Jobs are launched in order and handed over to
workers, of which there may be few; each worker looks whether the batch is to stop and then decodes. The batch
may be cancelled at any moment. Main definitions:

* `Job`, `JobReport` — a formula to decode and what became of it;
* `Batch.Plan`, `Batch.State` — a batch to run and how far it has come, with a `Batch.Stage` for each job;
* `Batch.Event`, `Batch.step`, `Batch.run` — what can happen to a batch, in any order;
* `Batch.settled`, `Batch.entries`, `Batch.cut` — when nothing is running any more, what is entered for each
  job, and whether the batch was cut short;
* `decodeBatch` — all jobs one after the other.
-/

namespace SheetFormula

variable {σ : Type}

/-- **A formula to decode**: its data, where it ends, and its owner. -/
structure Job where
  /-- The data. -/
  data : List UInt8
  /-- Where the formula ends. -/
  stop : Int
  /-- Its owner. -/
  position : Position
  deriving DecidableEq, Repr

/-- **Why a job has no formula**. -/
inductive JobError where
  /-- Decoding failed. -/
  | failed (failure : Failure)
  /-- The batch was cancelled before the job ran. -/
  | canceled
  deriving DecidableEq, Repr

/-- The message of a cancelled batch. -/
def canceledMessage : String := "context canceled"

/-- **Message of a job error**. -/
def JobError.message : JobError → String
  | .failed failure => failure.message
  | .canceled => canceledMessage

/-- **What became of a job**, with its log. -/
structure JobReport where
  /-- The formula, or why there is none. -/
  outcome : Except JobError Decoded
  /-- The log of the job. -/
  log : List LogEntry := []

/-- The report of a job that was cancelled. -/
def JobReport.canceled : JobReport := { outcome := .error .canceled }

/-- **Run a job**: decode it for its own owner. -/
def Job.run (job : Job) (o : Options σ) (names : σ) : JobReport × σ :=
  match decode { o with position := job.position } names job.data job.stop with
  | ⟨.ok decoded, log, names⟩ => (⟨.ok decoded, log⟩, names)
  | ⟨.error failure, log, names⟩ => (⟨.error (.failed failure), log⟩, names)

namespace Batch

/-- **Stage of a job**. -/
inductive Stage where
  /-- It has no worker. -/
  | absent
  /-- Its worker has not looked whether the batch is to stop. -/
  | waiting
  /-- Its worker decodes. -/
  | decoding
  /-- Its worker is gone and has left a report. -/
  | finished (report : JobReport)

/-- Whether a job has a worker. -/
def Stage.active : Stage → Bool
  | .waiting | .decoding => true
  | .absent | .finished _ => false

/-- **State of a batch**. -/
structure State (σ : Type) where
  /-- How many jobs are launched. -/
  launched : Nat := 0
  /-- How many of them were handed over to a worker. -/
  assigned : Nat := 0
  /-- How many workers there are. -/
  busy : Nat := 0
  /-- Whether launching was broken off. -/
  closed : Bool := false
  /-- Whether the batch is cancelled. -/
  done : Bool := false
  /-- Whether a worker has given up. -/
  gaveUp : Bool := false
  /-- The stages, by job. -/
  stages : Array Stage
  /-- State of the names. -/
  names : σ

/-- **What can happen to a batch**. -/
inductive Event where
  /-- The next job is about to be launched. -/
  | launch
  /-- The launched job gets a worker. -/
  | assign
  /-- The worker of a job looks whether the batch is to stop. -/
  | check (job : Nat)
  /-- The worker of a job has decoded it. -/
  | complete (job : Nat)
  /-- The batch is cancelled. -/
  | cancel
  deriving DecidableEq, Repr

/-- **A batch to run**: the circumstances, the jobs, and how many may be under way (any number when it is not
positive). -/
structure Plan (σ : Type) where
  /-- The circumstances. -/
  options : Options σ
  /-- The jobs. -/
  jobs : Array Job
  /-- How many jobs may be under way. -/
  limit : Int64

/-- Whether the batch is to stop: it is cancelled, or a worker has given up. -/
def State.stopping (s : State σ) : Bool := s.done || s.gaveUp

/-- **Launch** the next job, once the one before it has a worker. A batch that is to stop launches no more. -/
def launch (p : Plan σ) (s : State σ) : State σ :=
  if s.closed || p.jobs.size ≤ s.launched || s.assigned < s.launched then s
  else if s.stopping then { s with closed := true }
  else { s with launched := s.launched + 1 }

/-- Whether there may be one worker more. -/
def room (p : Plan σ) (s : State σ) : Bool := p.limit.toInt ≤ 0 || s.busy < p.limit.toInt

/-- **Assign** a worker to the launched job when there may be one worker more, also when the batch is to stop
by now. -/
def assign (p : Plan σ) (s : State σ) : State σ :=
  if s.assigned < s.launched && room p s then
    { s with
      assigned := s.assigned + 1
      busy := s.busy + 1
      stages := s.stages.setIfInBounds s.assigned .waiting }
  else s

/-- Enter the report of a job; its worker is gone. -/
def State.leave (s : State σ) (i : Nat) (report : JobReport) : State σ :=
  { s with stages := s.stages.setIfInBounds i (.finished report), busy := s.busy - 1 }

/-- **Check** of a worker: in a batch that is to stop the job is not decoded any more. -/
def check (i : Nat) (s : State σ) : State σ :=
  match s.stages[i]? with
  | some .waiting =>
    if s.stopping then { s.leave i .canceled with gaveUp := true }
    else { s with stages := s.stages.setIfInBounds i .decoding }
  | _ => s

/-- **Completion** of a job, also when the batch is to stop by now. -/
def complete (p : Plan σ) (i : Nat) (s : State σ) : State σ :=
  match p.jobs[i]?, s.stages[i]? with
  | some job, some .decoding =>
    match job.run p.options s.names with
    | (report, names) => { s.leave i report with names }
  | _, _ => s

/-- **One event**. What cannot happen yet, or any more, has no effect. -/
def step (p : Plan σ) (s : State σ) : Event → State σ
  | .launch => launch p s
  | .assign => assign p s
  | .check i => check i s
  | .complete i => complete p i s
  | .cancel => { s with done := true }

/-- **Start** of a batch; it may be cancelled already. -/
def start (p : Plan σ) (canceled : Bool) (names : σ) : State σ where
  done := canceled
  stages := Array.replicate p.jobs.size .absent
  names := names

/-- **Run of a batch** through some events. -/
def run (p : Plan σ) (s : State σ) (events : List Event) : State σ := events.foldl (step p) s

/-! ## The end of a batch -/

/-- **A settled batch**: launching is over and no worker is left. -/
def settled (p : Plan σ) (s : State σ) : Bool :=
  (s.closed || s.launched == p.jobs.size) && s.assigned == s.launched && s.busy == 0

/-- **A batch is cut short** when a worker has given up, and otherwise when it is cancelled with jobs that
were not launched. -/
def cut (p : Plan σ) (s : State σ) : Bool := s.gaveUp || (decide (s.launched < p.jobs.size) && s.done)

/-- **Entry of a job**: the report that its worker left. The entries of jobs that were not launched stay
empty, unless the batch was cut short. -/
def entry (p : Plan σ) (s : State σ) (i : Nat) : Option JobReport :=
  if i < s.launched then
    match s.stages[i]? with
    | some (.finished report) => some report
    | _ => none
  else if cut p s then some .canceled
  else none

/-- **Entries of all jobs**, in order. -/
def entries (p : Plan σ) (s : State σ) : List (Option JobReport) := (List.range p.jobs.size).map (entry p s)

/-- **Events in order**, for `n` jobs that are each launched when the one before it is over. -/
def inOrder (n : Nat) : List Event :=
  (List.range n).flatMap fun i => [.launch, .assign, .check i, .complete i]

end Batch

/-- **Outcome of a batch**. -/
structure BatchRun (σ : Type) where
  /-- A report per job, in order. -/
  reports : List JobReport
  /-- Whether some job did not run. -/
  canceled : Bool
  /-- State of the names. -/
  names : σ

/-- **Decode a batch**: the jobs are decoded one after the other. -/
def decodeBatch (p : Batch.Plan σ) (canceled : Bool) (names : σ) : BatchRun σ :=
  let s := Batch.run p (Batch.start p canceled names) (Batch.inOrder p.jobs.size)
  ⟨(Batch.entries p s).filterMap id, Batch.cut p s, s.names⟩

end SheetFormula
