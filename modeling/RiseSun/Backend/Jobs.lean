/-
  Jobs (`models.py`, `services/job_worker.py`): their rows, the queries that claim them, and what
  finishing, requeueing, expiring and reaping do to a row.

  1. **Rows** — a job as its table has it, under its id.  Times are numbers on one clock.

  2. **Claims** — a worker asks for one job of the whole queue, the Gateway for several jobs of one
     meter; both ask for the priority types first.  Rows locked by another claim are skipped.  Rows
     created at one time come in the order of the parameter `tie`.

  3. **Ends** — the finalizers of each kind of job, and the three sweeps (requeue, expire, reap).
     Each sets some columns of a row and keeps the others.
-/
import Mathlib.Data.Prod.Lex
import Mathlib.Data.Rat.Defs
import Mathlib.Algebra.Order.Ring.Rat
import RiseSun.Lib.Table

namespace RiseSun.Backend

/-! ## Rows -/

inductive JobType
  | readCurrent
  | writeDatetime
  | writeParameter
  | readLoadProfile
  | disconnect
  | reconnect
  | readRatedCurrent
  | readRelayState
  /-- A text no handler knows. -/
  | unknown (name : String)
  deriving DecidableEq, Repr

inductive JobStatus
  | queued
  | running
  | succeeded
  | failed
  deriving DecidableEq, Repr

/-- Nothing is left to do. -/
def JobStatus.isTerminal : JobStatus → Bool
  | .queued | .running => false
  | .succeeded | .failed => true

/-- The keys of a payload that claiming reads. -/
structure Payload where
  obis : Option String := none
  classId : Option Int := none
  fromIso : Option String := none
  toIso : Option String := none
  deriving DecidableEq, Repr

structure JobError where
  code : Option String
  message : Option String
  isPartial : Option Bool := none
  deriving DecidableEq, Repr

inductive JobResult (V : Type)
  | reading (obis : String) (value : V)
  | ratedCurrent (obis : String) (amps : V)
  | loadProfile (obis : String) (rowsWritten : Nat)
  | operation (operation : String) (ok : Bool)
  | written (ok : Bool)
  deriving DecidableEq, Repr

structure Job (V : Type) where
  jobType : JobType
  meterId : Int
  status : JobStatus := .queued
  payload : Payload := {}
  result : Option (JobResult V) := none
  error : Option JobError := none
  createdAt : Int
  startedAt : Option Int := none
  finishedAt : Option Int := none
  scheduledJobRunId : Option Int := none
  deriving DecidableEq, Repr

/-- A row of `meter_readings`. -/
structure MeterReading (V : Type) where
  meterId : Int
  obisCode : String
  value : V
  readAt : Int
  deriving DecidableEq, Repr

/-- The jobs that go before everything else. -/
def priorityJobTypes : List JobType := [.disconnect, .reconnect, .readRelayState]

/-- The jobs a worker cannot do for a meter that calls home. -/
def callHomeIncompatibleJobTypes : List JobType := [.disconnect, .reconnect]

/-- The jobs that expire with the day. -/
def routineJobTypes : List JobType := [.readCurrent, .readLoadProfile, .readRatedCurrent]

def ratedCurrentObis : String := "1.1.0.6.3.ff"

def relayStateObis : String := "0.0.60.a.1.ff"

def defaultLoadProfileObis : String := "1.1.63.1.0.ff"

section Claims

variable {V : Type}

/-! ## Claims -/

/-- `ORDER BY created_at`. -/
def byCreation (tie : Int → Nat) (r : Int × Job V) : Int ×ₗ Nat :=
  toLex (r.2.createdAt, tie r.1)

/-- `ORDER BY (scheduled_job_run_id IS NULL first), created_at`. -/
def scheduledLast (tie : Int → Nat) (r : Int × Job V) : Nat ×ₗ Int ×ₗ Nat :=
  toLex (if r.2.scheduledJobRunId.isNone then 0 else 1, byCreation tie r)

/-- What a worker may take: `is_call_home` is read from the meter's row. -/
def workerMayClaim (isCallHome : Int → Bool) (locked : Int → Bool) (r : Int × Job V) : Bool :=
  r.2.status = .queued ∧ locked r.1 = false ∧
    (r.2.jobType ∉ callHomeIncompatibleJobTypes ∨ isCallHome r.2.meterId = false)

/-- The first query of `_claim_next_job`. -/
def nextPriorityJob (isCallHome : Int → Bool) (locked : Int → Bool) (tie : Int → Nat)
    (jobs : Table Int (Job V)) : List (Int × Job V) :=
  orderBy (byCreation tie) 1 (jobs.rows.filter fun r =>
    workerMayClaim isCallHome locked r ∧ r.2.jobType ∈ priorityJobTypes)

/-- The second query of `_claim_next_job`. -/
def nextJob (isCallHome : Int → Bool) (locked : Int → Bool) (tie : Int → Nat)
    (jobs : Table Int (Job V)) : List (Int × Job V) :=
  orderBy (scheduledLast tie) 1 (jobs.rows.filter (workerMayClaim isCallHome locked))

/-- The `WHERE` of both queries of `claim_due_jobs_for_meter`. -/
def isDue (locked : Int → Bool) (meterId : Int) (jobTypes : List JobType) (r : Int × Job V) : Bool :=
  r.2.meterId = meterId ∧ r.2.jobType ∈ jobTypes ∧ r.2.status = .queued ∧ locked r.1 = false

def duePriorityJobs (locked : Int → Bool) (tie : Int → Nat) (meterId : Int)
    (jobTypes : List JobType) (limit : Nat) (jobs : Table Int (Job V)) : List (Int × Job V) :=
  orderBy (byCreation tie) limit
    (jobs.rows.filter (isDue locked meterId (jobTypes.filter (· ∈ priorityJobTypes))))

def dueJobs (locked : Int → Bool) (tie : Int → Nat) (meterId : Int) (jobTypes : List JobType)
    (limit : Nat) (jobs : Table Int (Job V)) : List (Int × Job V) :=
  orderBy (scheduledLast tie) limit (jobs.rows.filter (isDue locked meterId jobTypes))

def Job.start (now : Int) (job : Job V) : Job V :=
  { job with status := .running, startedAt := some now }

/-- Set the claimed rows `RUNNING`. -/
def startAll (ids : List Int) (now : Int) (jobs : Table Int (Job V)) : Table Int (Job V) :=
  jobs.modify fun id job => if id ∈ ids then job.start now else job

theorem mem_duePriorityJobs {locked : Int → Bool} {tie : Int → Nat} {meterId : Int}
    {jobTypes : List JobType} {limit : Nat} {jobs : Table Int (Job V)} {r : Int × Job V}
    (h : r ∈ duePriorityJobs locked tie meterId jobTypes limit jobs) :
    r ∈ jobs.rows ∧ isDue locked meterId jobTypes r = true ∧ r.2.jobType ∈ priorityJobTypes := by
  obtain ⟨hmem, hdue⟩ := List.mem_filter.mp (mem_of_mem_orderBy _ h)
  obtain ⟨hmeter, htype, hrest⟩ := of_decide_eq_true hdue
  obtain ⟨hin, hpriority⟩ := List.mem_filter.mp htype
  exact ⟨hmem, decide_eq_true ⟨hmeter, hin, hrest⟩, of_decide_eq_true hpriority⟩

theorem mem_dueJobs {locked : Int → Bool} {tie : Int → Nat} {meterId : Int}
    {jobTypes : List JobType} {limit : Nat} {jobs : Table Int (Job V)} {r : Int × Job V}
    (h : r ∈ dueJobs locked tie meterId jobTypes limit jobs) :
    r ∈ jobs.rows ∧ isDue locked meterId jobTypes r = true :=
  List.mem_filter.mp (mem_of_mem_orderBy _ h)

theorem mem_nextPriorityJob {isCallHome locked : Int → Bool} {tie : Int → Nat}
    {jobs : Table Int (Job V)} {r : Int × Job V}
    (h : r ∈ nextPriorityJob isCallHome locked tie jobs) :
    r ∈ jobs.rows ∧ workerMayClaim isCallHome locked r = true := by
  obtain ⟨hmem, hmay⟩ := List.mem_filter.mp (mem_of_mem_orderBy _ h)
  exact ⟨hmem, (of_decide_eq_true hmay).1⟩

theorem mem_nextJob {isCallHome locked : Int → Bool} {tie : Int → Nat} {jobs : Table Int (Job V)}
    {r : Int × Job V} (h : r ∈ nextJob isCallHome locked tie jobs) :
    r ∈ jobs.rows ∧ workerMayClaim isCallHome locked r = true :=
  List.mem_filter.mp (mem_of_mem_orderBy _ h)

end Claims

/-! ## Ends -/

section Ends

variable {V : Type}

/-- What reading one register returned. -/
structure ReadResult (V : Type) where
  ok : Bool
  value : V
  errorCode : Option String := none
  errorMessage : Option String := none
  isPartial : Bool := false
  deriving DecidableEq, Repr

def ReadResult.error (outcome : ReadResult V) : JobError :=
  ⟨outcome.errorCode, outcome.errorMessage, some outcome.isPartial⟩

/-- The meter has not called yet: the job goes back to the queue. -/
def Job.requeue (job : Job V) : Job V := { job with status := .queued, startedAt := none }

def Job.fail (error : JobError) (now : Int) (job : Job V) : Job V :=
  { job with status := .failed, error := some error, finishedAt := some now }

def Job.succeed (result : JobResult V) (now : Int) (job : Job V) : Job V :=
  { job with status := .succeeded, result := some result, finishedAt := some now }

/-- `finalize_read_current_job`: the row, and the reading it stores; `readAt` is the time the
    transaction began, the default of the column. -/
def finalizeReadCurrentJob (job : Job V) (outcome : ReadResult V) (obis : String) (now readAt : Int) :
    Job V × Option (MeterReading V) :=
  if outcome.ok then
    (job.succeed (.reading obis outcome.value) now, some ⟨job.meterId, obis, outcome.value, readAt⟩)
  else if outcome.errorCode = some "NO_CONNECTION_YET" then (job.requeue, none)
  else (job.fail outcome.error now, none)

/-- How the backend looks at a value: as a number, which is the exact value of the float that it makes
    of it, and as a text. -/
structure Values (V : Type) where
  number : V → Option Rat
  repr : V → String

def validRatedCurrentAmps : List Rat := [5, 15 / 2, 100]

def isValidRatedCurrent (value : Rat) : Bool :=
  validRatedCurrentAmps.any fun valid => |value - valid| < 1 / 100

def finalizeReadRatedCurrentJob (values : Values V) (job : Job V) (outcome : ReadResult V)
    (now : Int) : Job V :=
  if outcome.ok then
    match values.number outcome.value with
    | some number =>
      if isValidRatedCurrent number then job.succeed (.ratedCurrent ratedCurrentObis outcome.value) now
      else job.fail ⟨some "IMPLAUSIBLE_RATED_CURRENT", some ("Получено " ++ values.repr outcome.value ++
        " — вне допустимого множества (5, 7.5, 100)"), some false⟩ now
    | none => job.fail ⟨some "UNEXPECTED_VALUE_TYPE",
        some ("Ожидалось число, получено " ++ values.repr outcome.value), some false⟩ now
  else if outcome.errorCode = some "NO_CONNECTION_YET" then job.requeue
  else job.fail outcome.error now

/-- `finalize_read_load_profile_job`: the rows written so far are kept in the result either way. -/
def finalizeReadLoadProfileJob (job : Job V) (obis : String) (rowsWritten : Nat)
    (errorInfo : Option JobError) (now : Int) : Job V :=
  match errorInfo with
  | none => job.succeed (.loadProfile obis rowsWritten) now
  | some error =>
    if error.code = some "NO_CONNECTION_YET" then
      { job.requeue with result := some (.loadProfile obis rowsWritten) }
    else { job.fail error now with result := some (.loadProfile obis rowsWritten) }

def finalizeDisconnectJob (job : Job V) (operation : String) (ok : Bool)
    (errorCode errorMessage : Option String) (now : Int) : Job V :=
  if ok then job.succeed (.operation operation ok) now
  else { job.fail ⟨errorCode, errorMessage, none⟩ now with result := some (.operation operation ok) }

/-- What a sweep for hanging jobs takes: `RUNNING` since before the cutoff. -/
def isStale (cutoff : Int) (job : Job V) : Bool :=
  job.status = .running ∧ ∃ t ∈ job.startedAt, t < cutoff

/-- What the change of the day takes: routine jobs still `QUEUED` from before the day. -/
def isExpired (dayStart : Int) (job : Job V) : Bool :=
  job.status = .queued ∧ job.jobType ∈ routineJobTypes ∧ job.createdAt < dayStart

def Job.expire (now : Int) (job : Job V) : Job V :=
  job.fail ⟨some "EXPIRED_DAY_ROLLOVER", some ("Задача осталась в очереди с прошлых суток — отменена "
    ++ "при смене суток (Asia/Bishkek), новый цикл планового опроса создаст свежую задачу для этого "
    ++ "счётчика"), none⟩ now

/-- What a restart does to a row that is still `RUNNING`. -/
def Job.reap (now : Int) (job : Job V) : Job V :=
  if job.status = .running then
    job.fail ⟨some "WORKER_RESTARTED", some ("Задача осталась в RUNNING после перезапуска Backend — "
      ++ "воркер, державший её, уже не существует"), some false⟩ now
  else job

end Ends

end RiseSun.Backend
