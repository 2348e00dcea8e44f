/-
  Jobs between the parties that write them (`services/job_worker.py`, `api/gateway_internal.py`).

  1. **Ends** — what an executor that has done a job writes into its row.

  2. **State** — the table, and what each party has read and not yet written: claims whose rows are
     locked, jobs in the hands of an executor, reports and sweeps between their query and their
     commit.  Claims are numbered, which the program does not do; so are the records of what was
     finalized and which reports were accepted.

  3. **Steps** — one query or one commit each.  A commit that would write a row locked by a claim
     waits.  The parties write by primary key, whatever the row holds by then.
-/
import RiseSun.Lib.Machine
import RiseSun.Backend.Jobs

namespace RiseSun.Backend

variable {V : Type}

/-! ## Ends -/

/-- What a handler of a worker, or an item of a report, comes to. -/
inductive JobEnd (V : Type)
  | readCurrent (outcome : ReadResult V) (obis : String) (readAt : Int)
  | ratedCurrent (outcome : ReadResult V)
  | loadProfile (obis : String) (rowsWritten : Nat) (errorInfo : Option JobError)
  | disconnect (operation : String) (ok : Bool) (errorCode errorMessage : Option String)
  | written (error : Option JobError)
  /-- The meter is gone, or an exception came out of the handler. -/
  | failed (error : JobError)
  deriving DecidableEq

/-- The row it leaves, and the reading it stores. -/
def JobEnd.apply (values : Values V) (now : Int) (job : Job V) :
    JobEnd V → Job V × Option (MeterReading V)
  | .readCurrent outcome obis readAt => finalizeReadCurrentJob job outcome obis now readAt
  | .ratedCurrent outcome => (finalizeReadRatedCurrentJob values job outcome now, none)
  | .loadProfile obis rowsWritten errorInfo =>
    (finalizeReadLoadProfileJob job obis rowsWritten errorInfo now, none)
  | .disconnect operation ok errorCode errorMessage =>
    (finalizeDisconnectJob job operation ok errorCode errorMessage now, none)
  | .written none => (job.succeed (.written true) now, none)
  | .written (some error) => ({ job.fail error now with result := some (.written false) }, none)
  | .failed error => (job.fail error now, none)

def isRelayJob (job : Job V) : Bool := job.jobType = .disconnect ∨ job.jobType = .reconnect

def operationName : JobType → Option String
  | .disconnect => some "disconnect"
  | .reconnect => some "reconnect"
  | _ => none

/-- The ends the handler of a worker can come to: `_JOB_HANDLERS`. -/
def workerMayEnd (job : Job V) : JobEnd V → Bool
  | .readCurrent _ obis _ => job.jobType = .readCurrent ∧ job.payload.obis = some obis ∨
      job.jobType = .readRelayState ∧ obis = relayStateObis
  | .ratedCurrent _ => job.jobType = .readRatedCurrent
  | .loadProfile .. => job.jobType = .readLoadProfile
  | .disconnect operation .. => operationName job.jobType = some operation
  | .written _ => job.jobType = .writeDatetime ∨ job.jobType = .writeParameter
  | .failed _ => true

/-- The ends of an item of `report_job_results`, and of `report_load_profile_results`: the Gateway
    names the OBIS code it was given. -/
def reportMayEnd (job : Job V) : JobEnd V → Bool
  | .written _ | .failed _ => false
  | outcome => workerMayEnd job outcome

/-- The columns nobody writes after the row was created. -/
structure Job.Same (job job' : Job V) : Prop where
  jobType : job'.jobType = job.jobType
  meterId : job'.meterId = job.meterId
  payload : job'.payload = job.payload
  createdAt : job'.createdAt = job.createdAt
  scheduledJobRunId : job'.scheduledJobRunId = job.scheduledJobRunId

theorem Job.Same.refl (job : Job V) : job.Same job := ⟨rfl, rfl, rfl, rfl, rfl⟩

theorem Job.Same.trans {job job' job'' : Job V} (h : job.Same job') (h' : job'.Same job'') :
    job.Same job'' :=
  ⟨h'.jobType.trans h.jobType, h'.meterId.trans h.meterId, h'.payload.trans h.payload,
    h'.createdAt.trans h.createdAt, h'.scheduledJobRunId.trans h.scheduledJobRunId⟩

theorem isRelayJob_same {job job' : Job V} (h : job.Same job') : isRelayJob job' = isRelayJob job := by
  rw [isRelayJob, isRelayJob, h.jobType]

/-- An end finishes the job, or puts it back without a reading. -/
theorem JobEnd.apply_spec (values : Values V) (now : Int) (job : Job V) (e : JobEnd V) :
    job.Same (e.apply values now job).1 ∧
    ((e.apply values now job).1.status.isTerminal = true ∨
      (e.apply values now job).1.status = .queued ∧ (e.apply values now job).2 = none) := by
  have finished : ∀ {job' : Job V} {reading : Option (MeterReading V)}, job.Same job' →
      job'.status.isTerminal = true → job.Same job' ∧
        (job'.status.isTerminal = true ∨ job'.status = .queued ∧ reading = none) :=
    fun hsame hterminal => ⟨hsame, .inl hterminal⟩
  rcases e with ⟨outcome, obis, readAt⟩ | outcome | ⟨obis, rowsWritten, _ | error⟩ |
    ⟨operation, ok, errorCode, errorMessage⟩ | (_ | error) | error
  · rw [JobEnd.apply, finalizeReadCurrentJob]
    split
    · exact finished ⟨rfl, rfl, rfl, rfl, rfl⟩ rfl
    · split
      · exact ⟨⟨rfl, rfl, rfl, rfl, rfl⟩, .inr ⟨rfl, rfl⟩⟩
      · exact finished ⟨rfl, rfl, rfl, rfl, rfl⟩ rfl
  · rw [JobEnd.apply, finalizeReadRatedCurrentJob]
    split
    · split
      · split
        · exact finished ⟨rfl, rfl, rfl, rfl, rfl⟩ rfl
        · exact finished ⟨rfl, rfl, rfl, rfl, rfl⟩ rfl
      · exact finished ⟨rfl, rfl, rfl, rfl, rfl⟩ rfl
    · split
      · exact ⟨⟨rfl, rfl, rfl, rfl, rfl⟩, .inr ⟨rfl, rfl⟩⟩
      · exact finished ⟨rfl, rfl, rfl, rfl, rfl⟩ rfl
  · exact finished ⟨rfl, rfl, rfl, rfl, rfl⟩ rfl
  · rw [JobEnd.apply, finalizeReadLoadProfileJob]
    dsimp only
    split
    · exact ⟨⟨rfl, rfl, rfl, rfl, rfl⟩, .inr ⟨rfl, rfl⟩⟩
    · exact finished ⟨rfl, rfl, rfl, rfl, rfl⟩ rfl
  · rw [JobEnd.apply, finalizeDisconnectJob]
    split
    · exact finished ⟨rfl, rfl, rfl, rfl, rfl⟩ rfl
    · exact finished ⟨rfl, rfl, rfl, rfl, rfl⟩ rfl
  · exact finished ⟨rfl, rfl, rfl, rfl, rfl⟩ rfl
  · exact finished ⟨rfl, rfl, rfl, rfl, rfl⟩ rfl
  · exact finished ⟨rfl, rfl, rfl, rfl, rfl⟩ rfl

/-- Readings that are plain numbers. -/
def plainValues : Values Nat where
  number := fun n => some n
  repr := toString

/-! ## State -/

/-- Who asks for jobs. -/
inductive Claimant
  | worker
  | gateway (meterId : Int) (jobTypes : List JobType) (limit : Nat)
  deriving DecidableEq

def Claimant.isGateway : Claimant → Bool
  | .worker => false
  | .gateway .. => true

/-- Rows that were read `FOR UPDATE` and not yet written. -/
structure Claiming where
  gateway : Bool
  ids : List Int
  deriving DecidableEq, Repr

/-- A job in the hands of the executor that claimed it. -/
structure Hold where
  claim : Nat
  jobId : Int
  gateway : Bool
  since : Int
  deriving DecidableEq, Repr

/-- A report that was accepted, and whether its claim was the one that held the row `RUNNING`. -/
structure Acceptance where
  claim : Nat
  jobId : Int
  rightful : Bool
  deriving DecidableEq, Repr

structure JobState (V : Type) where
  jobs : Table Int (Job V)
  /-- With the job each came from. -/
  readings : List (Int × MeterReading V) := []
  claims : Nat := 0
  /-- The claim that set a row `RUNNING` last. -/
  owner : Int → Option Nat := fun _ => none
  /-- Whose first query returned nothing. -/
  asked : List Claimant := []
  claiming : List Claiming := []
  holds : List Hold := []
  /-- Whose report has read the row as `RUNNING`. -/
  reporting : List Hold := []
  requeueing : List (List Int) := []
  expiring : List (List Int) := []
  finalized : List Int := []
  accepted : List Acceptance := []

def JobState.lockedIds (s : JobState V) : List Int := s.claiming.flatMap (·.ids)

def JobState.locked (s : JobState V) (id : Int) : Bool := id ∈ s.lockedIds

/-! ## Steps -/

inductive JobAction (V : Type)
  | create (id : Int) (job : Job V)
  /-- The query for priority jobs. -/
  | ask (claimant : Claimant) (isCallHome : Int → Bool) (tie : Int → Nat)
  /-- The query that follows if it returned nothing. -/
  | askAgain (claimant : Claimant) (isCallHome : Int → Bool) (tie : Int → Nat)
  | commitClaim (claiming : Claiming) (now : Int)
  /-- A worker commits the end of its job. -/
  | work (hold : Hold) (outcome : JobEnd V) (now : Int)
  /-- A report reads the row; `meterId` is the meter of the serial number it names. -/
  | reportSelect (hold : Hold) (meterId : Int)
  | reportCommit (hold : Hold) (outcome : JobEnd V) (now : Int)
  | requeueSelect (cutoff : Int)
  | requeueCommit (ids : List Int)
  | expireSelect (dayStart : Int)
  | expireCommit (ids : List Int) (now : Int)
  /-- An executor is gone, or its report is lost. -/
  | abandon (hold : Hold)
  | restart (now : Int)

/-- The first query of a claimant. -/
def priorityRows (s : JobState V) (isCallHome : Int → Bool) (tie : Int → Nat) :
    Claimant → List (Int × Job V)
  | .worker => nextPriorityJob isCallHome s.locked tie s.jobs
  | .gateway meterId jobTypes limit => duePriorityJobs s.locked tie meterId jobTypes limit s.jobs

/-- The second. -/
def otherRows (s : JobState V) (isCallHome : Int → Bool) (tie : Int → Nat) :
    Claimant → List (Int × Job V)
  | .worker => nextJob isCallHome s.locked tie s.jobs
  | .gateway meterId jobTypes limit => dueJobs s.locked tie meterId jobTypes limit s.jobs

/-- The rows a query returned are locked. -/
def JobState.lock (s : JobState V) (claimant : Claimant) (rows : List (Int × Job V)) : JobState V :=
  { s with claiming := s.claiming ++ [⟨claimant.isGateway, rows.map (·.1)⟩] }

def JobState.drop (s : JobState V) (hold : Hold) : JobState V :=
  { s with holds := s.holds.filter (· ≠ hold), reporting := s.reporting.filter (· ≠ hold) }

/-- A job's row becomes what its end makes of it, and its executor lets go of it. -/
def JobState.finish (s : JobState V) (values : Values V) (now : Int) (hold : Hold) (job : Job V)
    (outcome : JobEnd V) : JobState V :=
  let done := outcome.apply values now job
  { s.drop hold with
    jobs := s.jobs.update hold.jobId fun _ => done.1
    readings := s.readings ++ (done.2.map (hold.jobId, ·)).toList
    finalized := s.finalized ++ if done.1.status.isTerminal then [hold.jobId] else [] }

/-- Write the rows of a sweep. -/
def writeAll (ids : List Int) (f : Job V → Job V) (jobs : Table Int (Job V)) : Table Int (Job V) :=
  jobs.modify fun id job => if id ∈ ids then f job else job

def idsWhere (p : Job V → Bool) (jobs : Table Int (Job V)) : List Int :=
  (jobs.rows.filter fun r => p r.2).map (·.1)

def isRunning (job : Job V) : Bool := job.status = .running

def commitClaim (s : JobState V) (claiming : Claiming) (now : Int) : JobState V :=
  { s with
    jobs := startAll claiming.ids now s.jobs
    claims := s.claims + 1
    owner := fun id => if id ∈ claiming.ids then some s.claims else s.owner id
    claiming := s.claiming.erase claiming
    holds := s.holds ++ claiming.ids.map fun id => ⟨s.claims, id, claiming.gateway, now⟩ }

/-- `reap_stale_running_jobs`, when nothing of the old process is left. -/
def restart (s : JobState V) (now : Int) : JobState V :=
  { s with
    jobs := s.jobs.modify fun _ job => job.reap now
    asked := []
    claiming := []
    holds := s.holds.filter fun h => h.gateway ∧ h ∉ s.reporting
    reporting := []
    requeueing := []
    expiring := []
    finalized := s.finalized ++ idsWhere isRunning s.jobs }

def jobStep (values : Values V) (s : JobState V) : JobAction V → Option (JobState V)
  | .create id job =>
    if h : s.jobs.get id = none then
      if job.status = .queued then some { s with jobs := s.jobs.insert id job h } else none
    else none
  | .ask claimant isCallHome tie =>
    match priorityRows s isCallHome tie claimant with
    | [] => some { s with asked := s.asked ++ [claimant] }
    | rows => some (s.lock claimant rows)
  | .askAgain claimant isCallHome tie =>
    if claimant ∈ s.asked then
      match otherRows s isCallHome tie claimant with
      | [] => some { s with asked := s.asked.erase claimant }
      | rows => some { s.lock claimant rows with asked := s.asked.erase claimant }
    else none
  | .commitClaim claiming now =>
    if claiming ∈ s.claiming then some (commitClaim s claiming now) else none
  | .work hold outcome now =>
    match s.jobs.get hold.jobId with
    | some job =>
      if hold ∈ s.holds ∧ hold.gateway = false ∧ s.locked hold.jobId = false ∧
          workerMayEnd job outcome then
        some (s.finish values now hold job outcome)
      else none
    | none => none
  | .reportSelect hold meterId =>
    if hold ∈ s.holds ∧ hold.gateway ∧ hold ∉ s.reporting then
      match s.jobs.get hold.jobId with
      | some job =>
        if job.meterId = meterId ∧ job.status = .running then
          some { s with reporting := s.reporting ++ [hold] }
        else some (s.drop hold)
      | none => some (s.drop hold)
    else none
  | .reportCommit hold outcome now =>
    match s.jobs.get hold.jobId with
    | some job =>
      if hold ∈ s.holds ∧ hold ∈ s.reporting ∧ s.locked hold.jobId = false ∧
          reportMayEnd job outcome then
        some { s.finish values now hold job outcome with
          accepted := s.accepted ++ [⟨hold.claim, hold.jobId,
            job.status = .running ∧ s.owner hold.jobId = some hold.claim⟩] }
      else none
    | none => none
  | .requeueSelect cutoff => some { s with
      requeueing := s.requeueing ++ [idsWhere (isStale cutoff) s.jobs] }
  | .requeueCommit ids =>
    if ids ∈ s.requeueing ∧ ids.all (s.locked · = false) then
      some { s with
        jobs := writeAll ids Job.requeue s.jobs
        requeueing := s.requeueing.erase ids }
    else none
  | .expireSelect dayStart => some { s with
      expiring := s.expiring ++ [idsWhere (isExpired dayStart) s.jobs] }
  | .expireCommit ids now =>
    if ids ∈ s.expiring ∧ ids.all (s.locked · = false) then
      some { s with
        jobs := writeAll ids (Job.expire now) s.jobs
        expiring := s.expiring.erase ids
        finalized := s.finalized ++ ids }
    else none
  | .abandon hold => some (s.drop hold)
  | .restart now => some (restart s now)

/-! ## What a step can do -/

/-- The rows a claim may lock. -/
structure Claimable (s : JobState V) (rows : List (Int × Job V)) : Prop where
  queued : ∀ r ∈ rows, s.jobs.get r.1 = some r.2 ∧ r.2.status = .queued ∧ s.locked r.1 = false
  nodup : (rows.map (·.1)).Nodup

/-- The steps of `jobStep`, each with its guard. -/
inductive JobChange (values : Values V) (s : JobState V) : JobAction V → JobState V → Prop
  | created {id : Int} {job : Job V} (new : s.jobs.get id = none) (queued : job.status = .queued) :
      JobChange values s (.create id job) { s with jobs := s.jobs.insert id job new }
  | askedInVain {claimant : Claimant} {isCallHome : Int → Bool} {tie : Int → Nat} :
      JobChange values s (.ask claimant isCallHome tie) { s with asked := s.asked ++ [claimant] }
  | asked {claimant : Claimant} {isCallHome : Int → Bool} {tie : Int → Nat}
      {rows : List (Int × Job V)} (eq : rows = priorityRows s isCallHome tie claimant)
      (claimable : Claimable s rows) :
      JobChange values s (.ask claimant isCallHome tie) (s.lock claimant rows)
  | askedAgainInVain {claimant : Claimant} {isCallHome : Int → Bool} {tie : Int → Nat} :
      JobChange values s (.askAgain claimant isCallHome tie)
        { s with asked := s.asked.erase claimant }
  | askedAgain {claimant : Claimant} {isCallHome : Int → Bool} {tie : Int → Nat}
      {rows : List (Int × Job V)} (eq : rows = otherRows s isCallHome tie claimant)
      (claimable : Claimable s rows) :
      JobChange values s (.askAgain claimant isCallHome tie)
        { s.lock claimant rows with asked := s.asked.erase claimant }
  | claimed {claiming : Claiming} {now : Int} (mem : claiming ∈ s.claiming) :
      JobChange values s (.commitClaim claiming now) (commitClaim s claiming now)
  | worked {hold : Hold} {outcome : JobEnd V} {now : Int} {job : Job V}
      (found : s.jobs.get hold.jobId = some job) (mem : hold ∈ s.holds)
      (worker : hold.gateway = false) (free : s.locked hold.jobId = false)
      (may : workerMayEnd job outcome = true) :
      JobChange values s (.work hold outcome now) (s.finish values now hold job outcome)
  | accepting {hold : Hold} {meterId : Int} {job : Job V}
      (found : s.jobs.get hold.jobId = some job) (mem : hold ∈ s.holds)
      (gateway : hold.gateway = true) (meter : job.meterId = meterId)
      (running : job.status = .running) :
      JobChange values s (.reportSelect hold meterId) { s with reporting := s.reporting ++ [hold] }
  | refused {hold : Hold} {meterId : Int} :
      JobChange values s (.reportSelect hold meterId) (s.drop hold)
  | reported {hold : Hold} {outcome : JobEnd V} {now : Int} {job : Job V}
      (found : s.jobs.get hold.jobId = some job) (mem : hold ∈ s.holds)
      (reporting : hold ∈ s.reporting) (free : s.locked hold.jobId = false)
      (may : reportMayEnd job outcome = true) :
      JobChange values s (.reportCommit hold outcome now)
        { s.finish values now hold job outcome with
          accepted := s.accepted ++ [⟨hold.claim, hold.jobId,
            job.status = .running ∧ s.owner hold.jobId = some hold.claim⟩] }
  | sweptStale {cutoff : Int} :
      JobChange values s (.requeueSelect cutoff)
        { s with requeueing := s.requeueing ++ [idsWhere (isStale cutoff) s.jobs] }
  | requeued {ids : List Int} (mem : ids ∈ s.requeueing) (free : ∀ id ∈ ids, s.locked id = false) :
      JobChange values s (.requeueCommit ids)
        { s with
          jobs := writeAll ids Job.requeue s.jobs
          requeueing := s.requeueing.erase ids }
  | sweptExpired {dayStart : Int} :
      JobChange values s (.expireSelect dayStart)
        { s with expiring := s.expiring ++ [idsWhere (isExpired dayStart) s.jobs] }
  | expired {ids : List Int} {now : Int} (mem : ids ∈ s.expiring)
      (free : ∀ id ∈ ids, s.locked id = false) :
      JobChange values s (.expireCommit ids now)
        { s with
          jobs := writeAll ids (Job.expire now) s.jobs
          expiring := s.expiring.erase ids
          finalized := s.finalized ++ ids }
  | abandoned {hold : Hold} : JobChange values s (.abandon hold) (s.drop hold)
  | restarted {now : Int} : JobChange values s (.restart now) (restart s now)

theorem Claimable.of_sublist {s : JobState V} {rows : List (Int × Job V)}
    (h : ∀ r ∈ rows, r ∈ s.jobs.rows ∧ r.2.status = .queued ∧ s.locked r.1 = false)
    (hnodup : rows.Nodup) : Claimable s rows := by
  refine ⟨fun r hr => ⟨Table.get_eq_some.mpr (h r hr).1, (h r hr).2⟩, ?_⟩
  refine List.Nodup.map_on (fun r hr r' hr' heq => ?_) hnodup
  exact List.inj_on_of_nodup_map s.jobs.keys (h r hr).1 (h r' hr').1 heq

theorem rows_nodup (jobs : Table Int (Job V)) : jobs.rows.Nodup := List.Nodup.of_map _ jobs.keys

theorem priorityRows_claimable (s : JobState V) (isCallHome : Int → Bool) (tie : Int → Nat)
    (claimant : Claimant) : Claimable s (priorityRows s isCallHome tie claimant) := by
  rcases claimant with _ | ⟨meterId, jobTypes, limit⟩
  · refine .of_sublist (fun r hr => ?_) (orderBy_nodup _ ((rows_nodup s.jobs).filter _))
    obtain ⟨hmem, hmay⟩ := mem_nextPriorityJob hr
    obtain ⟨hqueued, hlocked, -⟩ := of_decide_eq_true hmay
    exact ⟨hmem, hqueued, hlocked⟩
  · refine .of_sublist (fun r hr => ?_) (orderBy_nodup _ ((rows_nodup s.jobs).filter _))
    obtain ⟨hmem, hdue, -⟩ := mem_duePriorityJobs hr
    obtain ⟨-, -, hqueued, hlocked⟩ := of_decide_eq_true hdue
    exact ⟨hmem, hqueued, hlocked⟩

theorem otherRows_claimable (s : JobState V) (isCallHome : Int → Bool) (tie : Int → Nat)
    (claimant : Claimant) : Claimable s (otherRows s isCallHome tie claimant) := by
  rcases claimant with _ | ⟨meterId, jobTypes, limit⟩
  · refine .of_sublist (fun r hr => ?_) (orderBy_nodup _ ((rows_nodup s.jobs).filter _))
    obtain ⟨hmem, hmay⟩ := mem_nextJob hr
    obtain ⟨hqueued, hlocked, -⟩ := of_decide_eq_true hmay
    exact ⟨hmem, hqueued, hlocked⟩
  · refine .of_sublist (fun r hr => ?_) (orderBy_nodup _ ((rows_nodup s.jobs).filter _))
    obtain ⟨hmem, hdue⟩ := mem_dueJobs hr
    obtain ⟨-, -, hqueued, hlocked⟩ := of_decide_eq_true hdue
    exact ⟨hmem, hqueued, hlocked⟩

theorem jobStep_change {values : Values V} {s t : JobState V} {a : JobAction V}
    (h : jobStep values s a = some t) : JobChange values s a t := by
  cases a with
  | create id job =>
    rcases dite_eq_iff.mp h with ⟨hnew, h⟩ | ⟨_, h⟩
    · rcases ite_eq_iff.mp h with ⟨hqueued, h⟩ | ⟨_, h⟩
      · obtain rfl := Option.some.inj h
        exact .created hnew hqueued
      · cases h
    · cases h
  | ask claimant isCallHome tie =>
    have hclaimable := priorityRows_claimable s isCallHome tie claimant
    rw [jobStep] at h
    rcases hrows : priorityRows s isCallHome tie claimant with _ | ⟨r, rows⟩ <;>
      rw [hrows] at h hclaimable
    · obtain rfl := Option.some.inj h
      exact .askedInVain
    · obtain rfl := Option.some.inj h
      exact .asked hrows.symm hclaimable
  | askAgain claimant isCallHome tie =>
    rcases ite_eq_iff.mp h with ⟨_, h⟩ | ⟨_, h⟩
    · have hclaimable := otherRows_claimable s isCallHome tie claimant
      rcases hrows : otherRows s isCallHome tie claimant with _ | ⟨r, rows⟩ <;>
        rw [hrows] at h hclaimable
      · obtain rfl := Option.some.inj h
        exact .askedAgainInVain
      · obtain rfl := Option.some.inj h
        exact .askedAgain hrows.symm hclaimable
    · cases h
  | commitClaim claiming now =>
    rcases ite_eq_iff.mp h with ⟨hmem, h⟩ | ⟨_, h⟩
    · obtain rfl := Option.some.inj h
      exact .claimed hmem
    · cases h
  | work hold outcome now =>
    rw [jobStep] at h
    rcases hget : s.jobs.get hold.jobId with _ | job <;> rw [hget] at h
    · cases h
    rcases ite_eq_iff.mp h with ⟨⟨hmem, hworker, hfree, hmay⟩, h⟩ | ⟨_, h⟩
    · obtain rfl := Option.some.inj h
      exact .worked hget hmem hworker hfree hmay
    · cases h
  | reportSelect hold meterId =>
    rcases ite_eq_iff.mp h with ⟨⟨hmem, hgateway, _⟩, h⟩ | ⟨_, h⟩
    · rcases hget : s.jobs.get hold.jobId with _ | job <;> rw [hget] at h
      · obtain rfl := Option.some.inj h
        exact .refused
      rcases ite_eq_iff.mp h with ⟨⟨hmeter, hrunning⟩, h⟩ | ⟨_, h⟩
      · obtain rfl := Option.some.inj h
        exact .accepting hget hmem hgateway hmeter hrunning
      · obtain rfl := Option.some.inj h
        exact .refused
    · cases h
  | reportCommit hold outcome now =>
    rw [jobStep] at h
    rcases hget : s.jobs.get hold.jobId with _ | job <;> rw [hget] at h
    · cases h
    rcases ite_eq_iff.mp h with ⟨⟨hmem, hreporting, hfree, hmay⟩, h⟩ | ⟨_, h⟩
    · obtain rfl := Option.some.inj h
      exact .reported hget hmem hreporting hfree hmay
    · cases h
  | requeueSelect cutoff =>
    obtain rfl := Option.some.inj h
    exact .sweptStale
  | requeueCommit ids =>
    rcases ite_eq_iff.mp h with ⟨⟨hmem, hfree⟩, h⟩ | ⟨_, h⟩
    · obtain rfl := Option.some.inj h
      exact .requeued hmem fun id hid => of_decide_eq_true (List.all_eq_true.mp hfree id hid)
    · cases h
  | expireSelect dayStart =>
    obtain rfl := Option.some.inj h
    exact .sweptExpired
  | expireCommit ids now =>
    rcases ite_eq_iff.mp h with ⟨⟨hmem, hfree⟩, h⟩ | ⟨_, h⟩
    · obtain rfl := Option.some.inj h
      exact .expired hmem fun id hid => of_decide_eq_true (List.all_eq_true.mp hfree id hid)
    · cases h
  | abandon hold =>
    obtain rfl := Option.some.inj h
    exact .abandoned
  | restart now =>
    obtain rfl := Option.some.inj h
    exact .restarted

end RiseSun.Backend
