/-
  A worker of the job queue (`services/job_worker.py`): one session a job, from the claim to what
  follows the job's end.

  1. **Rows** — the tables a worker reads and writes.

  2. **Surroundings** — what comes from outside the database while one job is worked on: the answers of
     the meter through the Gateway, the secrets, the clock, the rows others have locked.  Each answer
     may be an exception.

  3. **Handlers** — one program for each type of job; whatever they raise goes to `recover`.

  4. **Parents** — what follows the end of a job, outside of any handler: its scheduled run, its item
     of a batch.

  5. **Workers** (`fleetStep`) — any number of them beside each other, one change or one question to
     the database at a time.
-/
import Mathlib.Logic.Function.Basic
import RiseSun.Lib.UnitOfWork
import RiseSun.Backend.EudbExport
import RiseSun.Backend.ClaimJobs
import RiseSun.Backend.Batches
import RiseSun.Backend.ScheduledRuns

namespace RiseSun.Backend

variable {V : Type}

/-! ## Rows -/

/-- What a worker reads and writes of a row of `meters`. -/
structure WorkerMeter where
  isCallHome : Bool
  lastSeenAt : Option Int := none
  lastReadAt : Option Int := none
  ratedCurrentAmps : Option Rat := none

structure ParameterWriteHistory (V : Type) where
  meterId : Int
  parameter : String
  obisCode : String
  oldValue : Option V
  /-- The bytes written. -/
  newValue : List Nat
  ok : Bool
  errorMessage : Option String
  jobId : Int

structure AuditLog where
  action : String
  meterId : Int
  ok : Bool

structure WorkerDb (V : Type) where
  jobs : Table Int (Job V)
  meters : Table Int WorkerMeter
  readings : List (MeterReading V) := []
  loadProfile : List (LoadProfileData V) := []
  writeHistory : List (ParameterWriteHistory V) := []
  auditLog : List AuditLog := []
  runs : Table Int ScheduledJobRun := ⟨[], List.nodup_nil⟩
  /-- The names of the schedules that are there. -/
  scheduleNames : Int → Option String := fun _ => none
  notifications : List Notification := []
  items : Table Int DisconnectBatchItem := ⟨[], List.nodup_nil⟩
  batches : Table Int DisconnectBatch := ⟨[], List.nodup_nil⟩

inductive WorkerError
  | valueError (text : String)
  | keyError (key : String)
  /-- What decrypting a secret or a call to the Gateway raised. -/
  | outside (text : String)
  /-- What a failed query, flush or commit raised. -/
  | database (text : String)
  | pendingRollback
  deriving DecidableEq, Repr

/-- `str(exc)`. -/
def WorkerError.text : WorkerError → String
  | .valueError text | .outside text | .database text => text
  | .keyError key => "'" ++ key ++ "'"
  | .pendingRollback => "This Session's transaction has been rolled back due to a previous exception " ++
      "during flush. To begin a new transaction with this Session, first issue Session.rollback()."

/-! ## Surroundings -/

structure WriteResult where
  ok : Bool
  errorCode : Option String := none
  errorMessage : Option String := none

/-- A row as the Gateway streams it. -/
structure ProfileStreamRow (V : Type) where
  /-- `datetime.fromisoformat`, in the zone of the meter if the text names none. -/
  timestamp : Except WorkerError Int
  values : ProfileValues V

/-- How the stream ends. -/
inductive ProfileEnd
  | finished
  | loadProfileError (code message : Option String) (isPartial : Bool)
  | raised (e : WorkerError)

structure Surroundings (V : Type) where
  now : Int
  /-- When the transaction of a reading begins. -/
  readAt : Int
  locked : Int → Bool := fun _ => false
  tie : Int → Nat := fun _ => 0
  decryptSecret : Except WorkerError Unit := .ok ()
  readRegister : String → Except WorkerError (ReadResult V)
  writeRegister : String → List Nat → Except WorkerError WriteResult := fun _ _ => .ok ⟨true, none, none⟩
  disconnectMeter : String → Except WorkerError WriteResult := fun _ => .ok ⟨true, none, none⟩
  profileRows : List (ProfileStreamRow V) := []
  profileEnd : ProfileEnd := .finished
  /-- The clock as it is written to a meter: hours, minutes, seconds; year, month, day, weekday. -/
  timeBytes : List Nat := []
  dateBytes : List Nat := []
  /-- The keys of a payload that only a write reads. -/
  parameter : Option String := none
  value : Option Nat := none

/-- A program of a worker. -/
abbrev Work (V α : Type) := Program WorkerError (WorkerDb V) α

/-! ## Handlers -/

def changeJob (jobId : Int) (f : Job V → Job V) : Work V Unit :=
  Program.change fun db => { db with jobs := db.jobs.update jobId f }

/-- What the end of a job says about its meter. -/
def JobEnd.touch (values : Values V) (now : Int) : JobEnd V → WorkerMeter → WorkerMeter
  | .readCurrent outcome .., meter =>
    if outcome.ok then { meter with lastSeenAt := some now, lastReadAt := some now } else meter
  | .ratedCurrent outcome, meter =>
    match outcome.ok, values.number outcome.value with
    | true, some number =>
      if isValidRatedCurrent number then
        { meter with ratedCurrentAmps := some number, lastSeenAt := some now }
      else { meter with lastSeenAt := some now }
    | _, _ => meter
  | .loadProfile _ _ none, meter => { meter with lastSeenAt := some now }
  | _, meter => meter

/-- The finalizers: the row of the job, the reading, the meter, and what is audited, in one commit. -/
def finalize (values : Values V) (w : Surroundings V) (jobId : Int) (job : Job V) (jobEnd : JobEnd V)
    (audited : List AuditLog) : Work V (Job V) := do
  changeJob jobId fun row => (jobEnd.apply values w.now row).1
  Program.change fun db => { db with
    readings := db.readings ++ (jobEnd.apply values w.now job).2.toList
    meters := db.meters.update job.meterId (jobEnd.touch values w.now)
    auditLog := db.auditLog ++ audited }
  Program.commit
  pure (jobEnd.apply values w.now job).1

/-- What all handlers begin with. -/
def withMeter (values : Values V) (w : Surroundings V) (jobId : Int) (job : Job V)
    (rest : Work V (Job V)) : Work V (Job V) := do
  let db ← Program.query
  match db.meters.get job.meterId with
  | none => finalize values w jobId job (.failed ⟨some "METER_NOT_FOUND",
      some ("Счётчик id=" ++ toString job.meterId ++ " не найден"), none⟩) []
  | some _ => rest

/-- A key a payload must have. -/
def require {α : Type} (key : String) : Option α → Work V α
  | some a => pure a
  | none => .raise (.keyError key)

def runReadCurrent (values : Values V) (w : Surroundings V) (jobId : Int) (job : Job V) :
    Work V (Job V) :=
  withMeter values w jobId job do
    let obis ← require "obis" job.payload.obis
    Program.ofExcept w.decryptSecret
    let outcome ← Program.ofExcept (w.readRegister obis)
    finalize values w jobId job (.readCurrent outcome obis w.readAt) []

def runReadRatedCurrent (values : Values V) (w : Surroundings V) (jobId : Int) (job : Job V) :
    Work V (Job V) :=
  withMeter values w jobId job do
    Program.ofExcept w.decryptSecret
    let outcome ← Program.ofExcept (w.readRegister ratedCurrentObis)
    finalize values w jobId job (.ratedCurrent outcome) []

def runReadRelayState (values : Values V) (w : Surroundings V) (jobId : Int) (job : Job V) :
    Work V (Job V) :=
  withMeter values w jobId job do
    Program.ofExcept w.decryptSecret
    let outcome ← Program.ofExcept (w.readRegister relayStateObis)
    finalize values w jobId job (.readCurrent outcome relayStateObis w.readAt) []

/-- An attempt to write one register: the old value is read first, and the attempt is recorded. -/
def writeEntry (w : Surroundings V) (jobId : Int) (job : Job V) (parameter obis : String)
    (valueBytes : List Nat) : Work V WriteResult := do
  let oldRead ← Program.ofExcept (w.readRegister obis)
  let outcome ← Program.ofExcept (w.writeRegister obis valueBytes)
  Program.change fun db => { db with
    writeHistory := db.writeHistory ++ [⟨job.meterId, parameter, obis,
      if oldRead.ok then some oldRead.value else none, valueBytes, outcome.ok,
      if outcome.ok then none else outcome.errorMessage, jobId⟩]
    auditLog := db.auditLog ++ [⟨"meter.write_parameter", job.meterId, outcome.ok⟩] }
  pure outcome

def datetimeTimeObis : String := "1.0.0.9.1.ff"

def datetimeDateObis : String := "1.0.0.9.2.ff"

def runWriteDatetime (values : Values V) (w : Surroundings V) (jobId : Int) (job : Job V) :
    Work V (Job V) :=
  withMeter values w jobId job do
    Program.ofExcept w.decryptSecret
    let time ← writeEntry w jobId job "datetime.time" datetimeTimeObis w.timeBytes
    let date ← writeEntry w jobId job "datetime.date" datetimeDateObis w.dateBytes
    finalize values w jobId job (.written (if time.ok ∧ date.ok then none else some ⟨some "WRITE_FAILED",
      some "Не удалось записать один или оба параметра даты/времени", none⟩)) []

/-- What `WRITABLE_INT_PARAMETERS` says of each name. -/
def writableObis : List (String × String) :=
  [("settlement_no", "1.0.0.1.0.ff"), ("available_settlement_no", "1.0.0.1.1.ff"),
    ("load_profile_interval", "1.0.0.8.4.ff"), ("display_mode_count", "1.0.60.34.1.ff"),
    ("weekend_rate_type", "1.0.60.36.8.ff")]

def runWriteParameter (values : Values V) (w : Surroundings V) (jobId : Int) (job : Job V) :
    Work V (Job V) :=
  withMeter values w jobId job do
    let parameter ← require "parameter" w.parameter
    let value ← require "value" w.value
    let obis ← require parameter (writableObis.lookup parameter)
    Program.ofExcept w.decryptSecret
    let outcome ← writeEntry w jobId job parameter obis [value]
    finalize values w jobId job (.written (if outcome.ok then none
      else some ⟨outcome.errorCode, outcome.errorMessage, none⟩)) []

def loadProfileCommitBatch : Nat := 20

/-- A row that is there already stays as it is. -/
def insertLoadProfileRow (job : Job V) (obis : String) (timestamp : Int) (values : ProfileValues V)
    (db : WorkerDb V) : WorkerDb V :=
  if db.loadProfile.any fun row =>
      row.meterId = job.meterId ∧ row.obisCode = obis ∧ row.timestamp = timestamp then db
  else { db with loadProfile := db.loadProfile ++ [⟨job.meterId, obis, timestamp, values⟩] }

/-- The loop over the stream, and how many rows it has written. -/
def insertProfileRows (jobId : Int) (job : Job V) (obis : String) :
    Nat → List (ProfileStreamRow V) → Work V Nat
  | rowsWritten, [] => pure rowsWritten
  | rowsWritten, row :: rows => do
    let timestamp ← Program.ofExcept row.timestamp
    Program.change (insertLoadProfileRow job obis timestamp row.values)
    Program.flush
    if (rowsWritten + 1) % loadProfileCommitBatch = 0 then do
      changeJob jobId fun job => { job with result := some (.loadProfile obis (rowsWritten + 1)) }
      Program.commit
    insertProfileRows jobId job obis (rowsWritten + 1) rows

/-- What the end of the stream comes to. -/
def errorInfo (rowsWritten : Nat) : ProfileEnd → Except WorkerError (Option JobError)
  | .finished => .ok none
  | .loadProfileError code message isPartial =>
    .ok (some ⟨code, message, some (isPartial || decide (0 < rowsWritten))⟩)
  | .raised e => .error e

def runReadLoadProfile (values : Values V) (w : Surroundings V) (jobId : Int) (job : Job V) :
    Work V (Job V) :=
  withMeter values w jobId job do
    Program.ofExcept w.decryptSecret
    let obis := (job.payload.obis.filter (· ≠ "")).getD defaultLoadProfileObis
    let _ ← require "from_iso" job.payload.fromIso
    let _ ← require "to_iso" job.payload.toIso
    let rowsWritten ← insertProfileRows jobId job obis 0 w.profileRows
    let error ← Program.ofExcept (errorInfo rowsWritten w.profileEnd)
    finalize values w jobId job (.loadProfile obis rowsWritten error) []

def runDisconnectOperation (operation : String) (values : Values V) (w : Surroundings V) (jobId : Int)
    (job : Job V) : Work V (Job V) :=
  withMeter values w jobId job do
    Program.ofExcept w.decryptSecret
    let outcome ← Program.ofExcept (w.disconnectMeter operation)
    finalize values w jobId job
      (.disconnect operation outcome.ok outcome.errorCode outcome.errorMessage)
      [⟨"meter." ++ operation, job.meterId, outcome.ok⟩]

/-- `_JOB_HANDLERS`. -/
def jobHandler : JobType →
    Option (Values V → Surroundings V → Int → Job V → Work V (Job V))
  | .readCurrent => some runReadCurrent
  | .writeDatetime => some runWriteDatetime
  | .writeParameter => some runWriteParameter
  | .readLoadProfile => some runReadLoadProfile
  | .disconnect => some (runDisconnectOperation "disconnect")
  | .reconnect => some (runDisconnectOperation "reconnect")
  | .readRatedCurrent => some runReadRatedCurrent
  | .readRelayState => some runReadRelayState
  | .unknown _ => none

/-- What `_process_one` tries. -/
def handleJob (values : Values V) (w : Surroundings V) (jobId : Int) (job : Job V) : Work V (Job V) :=
  match jobHandler job.jobType with
  | none => .raise (.valueError ("Неизвестный тип задачи: " ++ job.jobType.value))
  | some handler => handler values w jobId job

def workerError (e : WorkerError) : JobError := ⟨some "WORKER_ERROR", some e.text, none⟩

/-- What it does about an exception: there is no rollback. -/
def recover (w : Surroundings V) (jobId : Int) (job : Job V) (e : WorkerError) : Work V (Job V) := do
  changeJob jobId (Job.fail (workerError e) w.now)
  Program.commit
  pure (job.fail (workerError e) w.now)

/-! ## Parents -/

def closeRun (w : Surroundings V) (runId : Int) (run : ScheduledJobRun) (tally : Tally) :
    Work V Unit := do
  Program.change fun db => { db with runs := db.runs.update runId (·.close tally w.now) }
  if 0 < tally.failed then do
    let db ← Program.query
    Program.change fun db' => { db' with notifications := db'.notifications ++
      [failureNotification (db.scheduleNames run.scheduledJobId) runId run tally] }
    Program.flush
  Program.commit

/-- The session has its own job as it has left it, whatever others have made of the row since. -/
def maybeFinalizeScheduledJobRun (w : Surroundings V) (jobId : Int) (job : Job V) (runId : Int) :
    Work V Unit := do
  let db ← Program.query
  let statuses := (siblings db.jobs runId).map fun r => if r.1 = jobId then job.status else r.2.status
  if statuses.all (·.isTerminal) then do
    let db ← Program.query
    match db.runs.get runId with
    | some run => if run.status = .running then closeRun w runId run (.of statuses) else pure ()
    | none => pure ()
  else pure ()

def finalizeBatchIfComplete (w : Surroundings V) (batchPk : Int) : Work V Unit := do
  let db ← Program.query
  match closes ((itemsOf db.items batchPk).map (·.2.status)) with
  | none => pure ()
  | some status => do
    let db ← Program.query
    match db.batches.get batchPk with
    | some batch =>
      if batch.status.isOpen then
        Program.change fun db => { db with batches := db.batches.update batchPk (·.close status w.now) }
      else pure ()
    | none => pure ()

/-- The item of a job that has ended. -/
def DisconnectBatchItem.finish (job : Job V) (item : DisconnectBatchItem) : DisconnectBatchItem :=
  { item with
    status := itemOutcome job.status
    errorCode := match job.status, job.error with
      | .failed, some error => error.code
      | _, _ => item.errorCode }

/-- A job has one item at most. -/
def maybeFinalizeDisconnectBatchItem (w : Surroundings V) (jobId : Int) (job : Job V) :
    Work V Unit := do
  let db ← Program.query
  match db.items.rows.find? (fun r => r.2.jobId = some jobId) with
  | none => pure ()
  | some (itemId, item) => do
    Program.change fun db => { db with items := db.items.update itemId (·.finish job) }
    Program.flush
    finalizeBatchIfComplete w item.batchPk
    Program.commit

def finalizeParents (w : Surroundings V) (jobId : Int) (job : Job V) : Work V Unit := do
  job.scheduledJobRunId.elim (pure ()) (maybeFinalizeScheduledJobRun w jobId job)
  if isRelayJob job then maybeFinalizeDisconnectBatchItem w jobId job else pure ()

/-! ## Workers -/

def isCallHome (db : WorkerDb V) (meterId : Int) : Bool :=
  (db.meters.get meterId).any (·.isCallHome)

/-- The two queries of `_claim_next_job`. -/
def findNextJob (w : Surroundings V) : Work V (Option (Int × Job V)) := do
  let db ← Program.query
  match nextPriorityJob (isCallHome db) w.locked w.tie db.jobs with
  | r :: _ => pure (some r)
  | [] => do
    let db ← Program.query
    pure (nextJob (isCallHome db) w.locked w.tie db.jobs).head?

/-- A refresh finds the row, jobs are not deleted. -/
def claimNextJob (w : Surroundings V) : Work V (Option (Int × Job V)) := do
  match ← findNextJob w with
  | none => do
    Program.commit
    pure none
  | some (jobId, job) => do
    changeJob jobId (Job.start w.now)
    Program.commit
    let db ← Program.query
    pure (some (jobId, (db.jobs.get jobId).getD (job.start w.now)))

/-- `_process_one` from the claimed job on. -/
def processClaimed (values : Values V) (w : Surroundings V) (jobId : Int) (job : Job V) :
    Work V Unit := do
  let job ← Program.tryExcept (handleJob values w jobId job) (recover w jobId job)
  finalizeParents w jobId job

def processOne (values : Values V) (w : Surroundings V) : Work V Bool := do
  match ← claimNextJob w with
  | none => pure false
  | some (jobId, job) => do
    processClaimed values w jobId job
    pure true

/-- `requeue_stale_running_jobs`. -/
def requeueStaleRunningJobs (cutoff : Int) (db : WorkerDb V) : WorkerDb V :=
  { db with jobs := db.jobs.modify fun _ job => if isStale cutoff job then job.requeue else job }

inductive Worker (V : Type)
  | polling
  /-- In a session: what is pending in it, whether it is broken, and what is left to do. -/
  | working (pending : WorkerDb V → WorkerDb V) (broken : Bool) (rest : Work V Bool)
  /-- The exception that came out of `_process_one`, and so out of `worker_loop`. -/
  | ended (e : WorkerError)

/-- All workers of a process, and the database they share. -/
structure Fleet (V : Type) (n : Nat) where
  db : WorkerDb V
  asked : Nat := 0
  workers : Fin n → Worker V

inductive FleetAction (V : Type) (n : Nat)
  | poll (k : Fin n) (w : Surroundings V)
  | act (k : Fin n)
  | requeue (cutoff : Int)
  /-- Anyone else has written. -/
  | elsewhere (db : WorkerDb V)

variable {n : Nat}

def Fleet.unit (s : Fleet V n) (pending : WorkerDb V → WorkerDb V) (broken : Bool) :
    UnitOfWork (WorkerDb V) :=
  ⟨s.db, pending, broken, s.asked⟩

def Fleet.set (s : Fleet V n) (k : Fin n) (worker : Worker V) : Fleet V n :=
  { s with workers := Function.update s.workers k worker }

/-- One turn of a worker in its session; at the end of the program the session is closed. -/
def actIn (D : Database WorkerError (WorkerDb V)) (s : Fleet V n) (k : Fin n)
    (pending : WorkerDb V → WorkerDb V) (broken : Bool) (program : Work V Bool) : Fleet V n :=
  match program.turn D (s.unit pending broken) with
  | some (rest, u) =>
    { db := u.stored, asked := u.asked,
      workers := Function.update s.workers k (.working u.pending u.broken rest) }
  | none =>
    match program with
    | .raise e => s.set k (.ended e)
    | _ => s.set k .polling

def fleetStep (values : Values V) (D : Database WorkerError (WorkerDb V)) (s : Fleet V n) :
    FleetAction V n → Option (Fleet V n)
  | .poll k w =>
    match s.workers k with
    | .polling => some (s.set k (.working id false (processOne values w)))
    | _ => none
  | .act k =>
    match s.workers k with
    | .working pending broken rest => some (actIn D s k pending broken rest)
    | _ => none
  | .requeue cutoff => some { s with db := requeueStaleRunningJobs cutoff s.db }
  | .elsewhere db => some { s with db := db }

end RiseSun.Backend
