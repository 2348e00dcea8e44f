/-
  The run a tick of the scheduler makes, and its end (`services/scheduler.py`,
  `_maybe_finalize_scheduled_job_run`).

  1. **Runs** — a run closes with the counts of its jobs' ends, and a notification if any failed.

  2. **Evaluations** — whoever ends a job of a run looks at the run afterwards, in the same session:
     it reads the jobs of the run, goes on if none is open, fetches the run, and closes it.

  3. **Steps** — a tick that makes a run with its jobs, a step of the parties with the evaluations it
     leaves behind, and the stages of an evaluation, one query or commit each.
-/
import RiseSun.Backend.Scheduler
import RiseSun.Backend.Sessions

namespace RiseSun.Backend

open Machine

variable {V : Type}

/-! ## Runs -/

inductive RunStatus
  | running
  | succeeded
  | partialFailure
  | failed
  deriving DecidableEq, Repr

structure ScheduledJobRun where
  scheduledJobId : Int
  status : RunStatus := .running
  metersTotal : Nat := 0
  metersSucceeded : Nat := 0
  metersFailed : Nat := 0
  finishedAt : Option Int := none
  deriving DecidableEq, Repr

/-- A notification that jobs of a run failed. -/
structure Notification where
  message : String
  scheduledJobId : Int
  runId : Int
  succeeded : Nat
  failed : Nat
  deriving DecidableEq, Repr

/-- How many jobs ended in which way. -/
structure Tally where
  succeeded : Nat
  failed : Nat
  total : Nat
  deriving DecidableEq, Repr

def Tally.of (statuses : List JobStatus) : Tally :=
  ⟨statuses.count .succeeded, statuses.count .failed, statuses.length⟩

def Tally.outcome (tally : Tally) : RunStatus :=
  if tally.failed = 0 then .succeeded
  else if tally.succeeded = 0 then .failed
  else .partialFailure

/-- Where no job is open, a run has succeeded iff all its jobs have, and has failed iff it had jobs and
    all of them have; of a partial failure there are jobs of both kinds. -/
theorem Tally.outcome_of {statuses : List JobStatus} (hdone : ∀ s ∈ statuses, s.isTerminal = true) :
    ((Tally.of statuses).outcome = .succeeded ↔ ∀ s ∈ statuses, s = .succeeded) ∧
    ((Tally.of statuses).outcome = .failed ↔ statuses ≠ [] ∧ ∀ s ∈ statuses, s = .failed) ∧
    ((Tally.of statuses).outcome = .partialFailure ↔
      .succeeded ∈ statuses ∧ .failed ∈ statuses) := by
  have hkinds : ∀ s ∈ statuses, s = .succeeded ∨ s = .failed := by
    intro s hs
    have hterminal := hdone s hs
    cases s with
    | queued | running => cases hterminal
    | succeeded => exact .inl rfl
    | failed => exact .inr rfl
  have hnone : ∀ kind : JobStatus, statuses.count kind = 0 ↔ kind ∉ statuses :=
    fun _ => List.count_eq_zero
  unfold Tally.outcome Tally.of
  by_cases hfailed : statuses.count .failed = 0
  · -- nothing failed, so everything succeeded
    have hall : ∀ s ∈ statuses, s = .succeeded := fun s hs =>
      (hkinds s hs).resolve_right fun h => (hnone _).mp hfailed (h ▸ hs)
    rw [if_pos hfailed]
    refine ⟨⟨fun _ => hall, fun _ => rfl⟩, ⟨fun h => (by cases h), fun ⟨hsome, h⟩ => ?_⟩,
      ⟨fun h => (by cases h), fun h => absurd h.2 ((hnone _).mp hfailed)⟩⟩
    obtain ⟨s, hs⟩ := List.exists_mem_of_ne_nil statuses hsome
    cases (hall s hs).symm.trans (h s hs)
  have hbad : JobStatus.failed ∈ statuses := not_not.mp fun h => hfailed ((hnone _).mpr h)
  rw [if_neg hfailed]
  by_cases hsucceeded : statuses.count .succeeded = 0
  · have hall : ∀ s ∈ statuses, s = .failed := fun s hs =>
      (hkinds s hs).resolve_left fun h => (hnone _).mp hsucceeded (h ▸ hs)
    rw [if_pos hsucceeded]
    exact ⟨⟨fun h => (by cases h), fun h => (by cases h _ hbad)⟩,
      ⟨fun _ => ⟨List.ne_nil_of_mem hbad, hall⟩, fun _ => rfl⟩,
      ⟨fun h => (by cases h), fun h => absurd h.1 ((hnone _).mp hsucceeded)⟩⟩
  · have hgood : JobStatus.succeeded ∈ statuses := not_not.mp fun h => hsucceeded ((hnone _).mpr h)
    rw [if_neg hsucceeded]
    exact ⟨⟨fun h => (by cases h), fun h => (by cases h _ hbad)⟩,
      ⟨fun h => (by cases h), fun h => (by cases h.2 _ hgood)⟩, ⟨fun _ => ⟨hgood, hbad⟩, fun _ => rfl⟩⟩

def ScheduledJobRun.close (tally : Tally) (now : Int) (run : ScheduledJobRun) : ScheduledJobRun :=
  { run with
    status := tally.outcome
    metersSucceeded := tally.succeeded
    metersFailed := tally.failed
    finishedAt := some now }

/-- `name` is that of the schedule, if it is still there. -/
def failureNotification (name : Option String) (runId : Int) (run : ScheduledJobRun)
    (tally : Tally) : Notification where
  message := s!"Расписание «{name.getD (toString run.scheduledJobId)}»: {tally.failed} из " ++
    s!"{tally.total} задач завершились с ошибкой"
  scheduledJobId := run.scheduledJobId
  runId := runId
  succeeded := tally.succeeded
  failed := tally.failed

/-- The jobs of a run. -/
def siblings (jobs : Table Int (Job V)) (runId : Int) : List (Int × Job V) :=
  jobs.rows.filter fun r => r.2.scheduledJobRunId = some runId

def scheduledChild (jobType : JobType) (runId createdAt : Int) (pair : Int × Payload) : Job V where
  jobType := jobType
  meterId := pair.1
  payload := pair.2
  createdAt := createdAt
  scheduledJobRunId := some runId

/-! ## Evaluations -/

inductive EvaluationStage
  | due
  /-- No job of the run is open. -/
  | counted (tally : Tally)
  /-- The run was fetched, and is `RUNNING`. -/
  | closing (tally : Tally)
  deriving DecidableEq, Repr

structure Evaluation where
  session : DbSession
  runId : Int
  stage : EvaluationStage := .due
  deriving DecidableEq, Repr

/-- The runs whose evaluation follows an action: one for each job it ends. -/
def evaluates (s : JobState V) (a : JobAction V) : List Int :=
  (ends a).filterMap fun id => (s.jobs.get id).bind (·.scheduledJobRunId)

/-! ## Steps -/

structure RunsState (V : Type) where
  core : JobState V
  runs : Table Int ScheduledJobRun := ⟨[], List.nodup_nil⟩
  /-- The statuses of the jobs each session has loaded. -/
  copies : RowCache DbSession Int JobStatus := .empty
  evaluations : List Evaluation := []
  notifications : List Notification := []

inductive RunsAction (V : Type)
  /-- The commit of a tick. -/
  | trigger (ids : List Int) (runId scheduledJobId createdAt : Int) (jobType : JobType)
      (pairs : List (Int × Payload))
  | job (session : DbSession) (a : JobAction V)
  /-- A report comes to a job that its session has loaded as another job's sibling. -/
  | reportCopy (request : Nat) (hold : Hold) (meterId : Int)
  | evaluateSelect (evaluation : Evaluation)
  | evaluateGet (evaluation : Evaluation)
  | evaluateCommit (evaluation : Evaluation) (name : Option String) (now : Int)
  | restart (now : Int)

/-- A report that selects a job has not loaded it. -/
def selectsNew (copies : RowCache DbSession Int JobStatus) (session : DbSession) :
    JobAction V → Bool
  | .reportSelect hold _ => copies session hold.jobId = none
  | _ => true

/-- What an evaluation's session reads of the jobs of its run. -/
def RunsState.reads (s : RunsState V) (evaluation : Evaluation) : List JobStatus :=
  (siblings s.core.jobs evaluation.runId).map fun r =>
    s.copies.seen evaluation.session r.1 r.2.status

def RunsState.replace (s : RunsState V) (evaluation : Evaluation)
    (next : Option EvaluationStage) : List Evaluation :=
  s.evaluations.erase evaluation ++ (next.map ({ evaluation with stage := · })).toList

def runsStep (values : Values V) (s : RunsState V) : RunsAction V → Option (RunsState V)
  | .trigger ids runId scheduledJobId createdAt jobType pairs =>
    if h : s.runs.get runId = none then
      if pairs ≠ [] ∧ ids.length = pairs.length then
        (exec (jobStep values) s.core (ids.zipWith (fun id pair =>
          .create id (scheduledChild jobType runId createdAt pair)) pairs)).map fun core =>
          { s with
            core := core
            runs := s.runs.insert runId { scheduledJobId := scheduledJobId,
                                          metersTotal := (pairs.map (·.1)).dedup.length } h }
      else none
    else none
  | .job session a =>
    if session.takes a ∧ madeByHand a ∧ selectsNew s.copies session a then
      (jobStep values s.core a).map fun core =>
        { s with
          core := core
          copies := (s.copies.load session (loads s.core a) s.core.status).write session (ends a)
            core.status
          evaluations := s.evaluations ++ (evaluates s.core a).map ({ session, runId := · }) }
    else none
  | .reportCopy request hold meterId =>
    match s.core.jobs.get hold.jobId, s.copies (.report request) hold.jobId with
    | some job, some status =>
      if hold ∈ s.core.holds ∧ hold.gateway ∧ hold ∉ s.core.reporting then
        some { s with
          core := if job.meterId = meterId ∧ status = .running then
              { s.core with reporting := s.core.reporting ++ [hold] }
            else s.core.drop hold }
      else none
    | _, _ => none
  | .evaluateSelect evaluation =>
    if evaluation ∈ s.evaluations ∧ evaluation.stage = .due then
      some { s with
        copies := s.copies.load evaluation.session
          ((siblings s.core.jobs evaluation.runId).map (·.1)) s.core.status
        evaluations := s.replace evaluation
          (if (s.reads evaluation).all (·.isTerminal) then some (.counted (.of (s.reads evaluation)))
          else none) }
    else none
  | .evaluateGet evaluation =>
    match evaluation.stage with
    | .counted tally =>
      if evaluation ∈ s.evaluations then
        some { s with
          evaluations := s.replace evaluation
            (if ∃ run ∈ s.runs.get evaluation.runId, run.status = .running then some (.closing tally)
            else none) }
      else none
    | _ => none
  | .evaluateCommit evaluation name now =>
    match evaluation.stage, s.runs.get evaluation.runId with
    | .closing tally, some run =>
      if evaluation ∈ s.evaluations then
        some { s with
          runs := s.runs.update evaluation.runId (·.close tally now)
          evaluations := s.replace evaluation none
          notifications := s.notifications ++
            if 0 < tally.failed then [failureNotification name evaluation.runId run tally] else [] }
      else none
    | _, _ => none
  | .restart now => some { s with
      core := restart s.core now
      copies := .empty
      evaluations := [] }

end RiseSun.Backend
