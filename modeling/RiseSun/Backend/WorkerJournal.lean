/-
  What workers leave behind: nothing that was recorded is changed or taken back.

  1. **`Appends`** — readings, profile rows, attempts to write, the audit log and notifications go on
     from where they were; no profile row comes twice; a rated current is one of the known ones; the
     audit log has every attempt to write.

  2. **Writes** (`WorkerWrite`) — every way in which a worker changes the database at a job; each
     appends.

  3. **Programs** — one lemma for each program of a worker: its writes are of these kinds.

  4. **All workers** (`fleet_appends`) — over every run of any number of workers, in any interleaving,
     whatever the database refuses.
-/
import RiseSun.Lib.FirstWrite
import RiseSun.Backend.WorkerContainment

namespace RiseSun.Backend

open Machine FirstWrite

variable {V : Type} {values : Values V} {D : Database WorkerError (WorkerDb V)} {w : Surroundings V}

/-! ## What is recorded -/

/-- `uq_load_profile_row`. -/
def LoadProfileData.key (row : LoadProfileData V) : Int × String × Int :=
  (row.meterId, row.obisCode, row.timestamp)

/-- The insertion of a profile row, with its conflict on `uq_load_profile_row`, is the library's
    insertion of a new key. -/
theorem insertLoadProfileRow_eq (job : Job V) (obis : String) (timestamp : Int)
    (row : ProfileValues V) (db : WorkerDb V) :
    insertLoadProfileRow job obis timestamp row db =
      { db with loadProfile :=
          insertNew LoadProfileData.key db.loadProfile ⟨job.meterId, obis, timestamp, row⟩ } := by
  have hsame : ∀ r : LoadProfileData V,
      decide (r.meterId = job.meterId ∧ r.obisCode = obis ∧ r.timestamp = timestamp) =
        decide (r.key = LoadProfileData.key ⟨job.meterId, obis, timestamp, row⟩) := by
    intro r
    simp only [LoadProfileData.key, Prod.mk.injEq]
  unfold insertLoadProfileRow insertNew
  simp only [hsame]
  split <;> rfl

/-- Every rated current that is known is one of those a meter can have. -/
def Plausible (db : WorkerDb V) : Prop :=
  ∀ r ∈ db.meters.rows, ∀ amps ∈ r.2.ratedCurrentAmps, isValidRatedCurrent amps = true

/-- Every attempt to write a register is audited, in their order. -/
def Audited (db : WorkerDb V) : Prop :=
  (db.auditLog.filter (·.action = "meter.write_parameter")).map (fun entry =>
    (entry.meterId, entry.ok)) = db.writeHistory.map fun attempt => (attempt.meterId, attempt.ok)

/-- What was recorded in the first database is recorded in the second as well: readings, profile
    rows, attempts to write, audit entries and notifications go on from where they were, and what
    held of their contents still holds. -/
structure Appends (db db' : WorkerDb V) : Prop where
  readings : db.readings <+: db'.readings
  loadProfile : db.loadProfile <+: db'.loadProfile
  writeHistory : db.writeHistory <+: db'.writeHistory
  auditLog : db.auditLog <+: db'.auditLog
  notifications : db.notifications <+: db'.notifications
  unique : (db.loadProfile.map (·.key)).Nodup → (db'.loadProfile.map (·.key)).Nodup
  rated : Plausible db → Plausible db'
  audited : Audited db → Audited db'

/-- A database that has not changed has appended nothing, and that is allowed. -/
theorem Appends.refl (db : WorkerDb V) : Appends db db where
  readings := List.prefix_refl _
  loadProfile := List.prefix_refl _
  writeHistory := List.prefix_refl _
  auditLog := List.prefix_refl _
  notifications := List.prefix_refl _
  unique := id
  rated := id
  audited := id

/-- What has gone on twice from where it was has gone on from where it was. -/
theorem Appends.trans {db₁ db₂ db₃ : WorkerDb V} (h : Appends db₁ db₂) (h' : Appends db₂ db₃) :
    Appends db₁ db₃ where
  readings := h.readings.trans h'.readings
  loadProfile := h.loadProfile.trans h'.loadProfile
  writeHistory := h.writeHistory.trans h'.writeHistory
  auditLog := h.auditLog.trans h'.auditLog
  notifications := h.notifications.trans h'.notifications
  unique := h'.unique ∘ h.unique
  rated := h'.rated ∘ h.rated
  audited := h'.audited ∘ h.audited

/-- A write that appends to the records of whatever database it is made on. -/
def AppendingWrite (f : WorkerDb V → WorkerDb V) : Prop := ∀ db, Appends db (f db)

/-- A write of rows that are no records (jobs, runs, batches) appends: the records stay as they
    were, except for notifications at their end. -/
theorem appendingWrite_other {f : WorkerDb V → WorkerDb V}
    (hreadings : ∀ db, (f db).readings = db.readings)
    (hprofile : ∀ db, (f db).loadProfile = db.loadProfile)
    (hhistory : ∀ db, (f db).writeHistory = db.writeHistory)
    (haudit : ∀ db, (f db).auditLog = db.auditLog)
    (hnotifications : ∀ db, db.notifications <+: (f db).notifications)
    (hmeters : ∀ db, (f db).meters = db.meters) : AppendingWrite f := fun db =>
  { readings := prefix_of_eq (hreadings db)
    loadProfile := prefix_of_eq (hprofile db)
    writeHistory := prefix_of_eq (hhistory db)
    auditLog := prefix_of_eq (haudit db)
    notifications := hnotifications db
    unique := by rw [hprofile]; exact id
    rated := by rw [Plausible, Plausible, hmeters]; exact id
    audited := by rw [Audited, Audited, haudit, hhistory]; exact id }

/-- What the end of a job says about its meter keeps its rated current one of the known ones. -/
theorem JobEnd.touch_rated (values : Values V) (now : Int) (jobEnd : JobEnd V)
    {meter : WorkerMeter} (h : ∀ amps ∈ meter.ratedCurrentAmps, isValidRatedCurrent amps = true) :
    ∀ amps ∈ (jobEnd.touch values now meter).ratedCurrentAmps, isValidRatedCurrent amps = true := by
  cases jobEnd with
  | readCurrent outcome obis readAt =>
    rw [JobEnd.touch]
    split <;> exact h
  | ratedCurrent outcome =>
    rw [JobEnd.touch]
    split
    · rename_i number _ _
      split
      · rename_i hvalid
        intro amps hamps
        rw [← Option.some.inj hamps]
        exact hvalid
      · exact h
    · exact h
  | loadProfile obis rowsWritten errorInfo => cases errorInfo <;> exact h
  | disconnect | written | failed => exact h

/-! ## Writes -/

/-- What is written after the end of a job: its run, its item and its batch, and notifications. -/
inductive ParentWrite (V : Type) : (WorkerDb V → WorkerDb V) → Prop
  | run (runId : Int) (close : ScheduledJobRun → ScheduledJobRun) :
    ParentWrite V fun db => { db with runs := db.runs.update runId close }
  | notify (notification : Notification) :
    ParentWrite V fun db => { db with notifications := db.notifications ++ [notification] }
  | item (itemId : Int) (finish : DisconnectBatchItem → DisconnectBatchItem) :
    ParentWrite V fun db => { db with items := db.items.update itemId finish }
  | batch (batchPk : Int) (close : DisconnectBatch → DisconnectBatch) :
    ParentWrite V fun db => { db with batches := db.batches.update batchPk close }

/-- Every way in which a worker changes the database at a job it has claimed. -/
inductive WorkerWrite (values : Values V) (w : Surroundings V) (jobId : Int) (job : Job V) :
    (WorkerDb V → WorkerDb V) → Prop
  | progressed (obis : String) (rowsWritten : Nat) : WorkerWrite values w jobId job fun db =>
      { db with jobs := db.jobs.update jobId fun job =>
          { job with result := some (.loadProfile obis rowsWritten) } }
  | ended (jobEnd : JobEnd V) : WorkerWrite values w jobId job fun db =>
      { db with jobs := db.jobs.update jobId fun row => (jobEnd.apply values w.now row).1 }
  | failed (e : WorkerError) : WorkerWrite values w jobId job (WorkerDb.failJob w jobId e)
  | recorded (jobEnd : JobEnd V) {audited : List AuditLog}
      (other : ∀ entry ∈ audited, entry.action ≠ "meter.write_parameter") :
    WorkerWrite values w jobId job fun db => { db with
      readings := db.readings ++ (jobEnd.apply values w.now job).2.toList
      meters := db.meters.update job.meterId (jobEnd.touch values w.now)
      auditLog := db.auditLog ++ audited }
  | attempted (attempt : ParameterWriteHistory V) : WorkerWrite values w jobId job fun db => { db with
      writeHistory := db.writeHistory ++ [attempt]
      auditLog := db.auditLog ++ [⟨"meter.write_parameter", attempt.meterId, attempt.ok⟩] }
  | profileRow (asked : job.jobType = .readLoadProfile) (obis : String) (timestamp : Int)
      (row : ProfileValues V) :
    WorkerWrite values w jobId job (insertLoadProfileRow job obis timestamp row)
  | parent {f : WorkerDb V → WorkerDb V} (h : ParentWrite V f) : WorkerWrite values w jobId job f

/-- A write to a run, an item or a batch touches no record, and a notification comes at the end of
    the others. -/
theorem ParentWrite.appends {f : WorkerDb V → WorkerDb V} (h : ParentWrite V f) :
    AppendingWrite f := by
  refine appendingWrite_other ?_ ?_ ?_ ?_ ?_ ?_
  case refine_5 =>
    cases h with
    | notify notification => exact fun _ => List.prefix_append _ _
    | run | item | batch => exact fun _ => List.prefix_refl _
  all_goals cases h <;> exact fun _ => rfl

/-- A write to the rows of `jobs` appends, as it touches no record at all. -/
theorem appendingWrite_job (jobId : Int) (g : Job V → Job V) :
    AppendingWrite fun db : WorkerDb V => { db with jobs := db.jobs.update jobId g } :=
  appendingWrite_other (fun _ => rfl) (fun _ => rfl) (fun _ => rfl) (fun _ => rfl)
    (fun _ => List.prefix_refl _) fun _ => rfl

/-- A profile row is put at the end, or it is there already and nothing changes. -/
theorem appendingWrite_insertLoadProfileRow (job : Job V) (obis : String) (timestamp : Int)
    (row : ProfileValues V) : AppendingWrite (insertLoadProfileRow job obis timestamp row) := by
  intro db
  rw [insertLoadProfileRow_eq]
  exact {
    readings := List.prefix_refl _
    loadProfile := prefix_insertNew _ _ _
    writeHistory := List.prefix_refl _
    auditLog := List.prefix_refl _
    notifications := List.prefix_refl _
    unique := fun h => nodup_insertNew h _
    rated := id
    audited := id }

/-- **Every write of a worker appends** to the records of whatever database it is made on. -/
theorem WorkerWrite.appends {jobId : Int} {job : Job V} {f : WorkerDb V → WorkerDb V}
    (h : WorkerWrite values w jobId job f) : AppendingWrite f := by
  intro db
  cases h with
  | progressed | ended | failed => exact appendingWrite_job _ _ db
  | parent hparent => exact hparent.appends db
  | @recorded jobEnd audited hother =>
    exact {
      readings := List.prefix_append _ _
      loadProfile := List.prefix_refl _
      writeHistory := List.prefix_refl _
      auditLog := List.prefix_append _ _
      notifications := List.prefix_refl _
      unique := id
      rated := by
        intro h r hr
        obtain ⟨r', hr', rfl⟩ := List.mem_map.mp hr
        dsimp only
        split
        · exact jobEnd.touch_rated values w.now (h r' hr')
        · exact h r' hr'
      audited := by
        have hnone : audited.filter (·.action = "meter.write_parameter") = [] :=
          List.filter_eq_nil_iff.mpr fun entry hentry => by simpa using hother entry hentry
        intro h
        rw [Audited, List.filter_append, hnone, List.append_nil]
        exact h }
  | attempted attempt =>
    exact {
      readings := List.prefix_refl _
      loadProfile := List.prefix_refl _
      writeHistory := List.prefix_append _ _
      auditLog := List.prefix_append _ _
      notifications := List.prefix_refl _
      unique := id
      rated := id
      audited := by
        intro h
        rw [Audited, List.filter_append, List.map_append, List.map_append]
        exact congrArg (· ++ _) h }
  | profileRow hasked obis timestamp row =>
    exact appendingWrite_insertLoadProfileRow job obis timestamp row db

/-! ## Programs -/

section Programs

variable {jobId : Int} {job : Job V}

/-- `_finalize` only makes writes of a worker, as long as what it puts into the audit log is no
    attempt to write a register. -/
theorem writes_finalize (jobEnd : JobEnd V) {audited : List AuditLog}
    (hother : ∀ entry ∈ audited, entry.action ≠ "meter.write_parameter") :
    (finalize values w jobId job jobEnd audited).Writes (WorkerWrite values w jobId job) := by
  refine (Program.writes_change (.ended jobEnd)).bind fun _ => ?_
  exact (Program.writes_change (.recorded jobEnd hother)).bind fun _ =>
    Program.writes_commit.bind fun _ => trivial

/-- Looking the meter up makes no write of its own: either the job fails with `_finalize`, or the
    rest goes on. -/
theorem writes_withMeter {rest : Work V (Job V)} (h : rest.Writes (WorkerWrite values w jobId job)) :
    (withMeter values w jobId job rest).Writes (WorkerWrite values w jobId job) := by
  refine Program.writes_query.bind fun db => ?_
  rcases db.meters.get job.meterId with _ | meter
  · exact writes_finalize _ (by simp)
  · exact h

/-- Reading a parameter of the job writes nothing. -/
theorem writes_require {α : Type} {W : (WorkerDb V → WorkerDb V) → Prop} (key : String)
    (value : Option α) : (require key value : Work V α).Writes W := by
  cases value <;> trivial

/-- An attempt to write a register makes one write: the attempt together with its line in the audit
    log. -/
theorem writes_writeEntry (parameter obis : String) (valueBytes : List Nat) :
    (writeEntry w jobId job parameter obis valueBytes).Writes (WorkerWrite values w jobId job) := by
  refine (Program.writes_ofExcept _).bind fun _ => (Program.writes_ofExcept _).bind fun outcome => ?_
  exact (Program.writes_change (.attempted ⟨job.meterId, _, _, _, _, outcome.ok, _, _⟩)).bind
    fun _ => trivial

/-- The rows of a stream are written one by one, with the progress of the job in between: induction
    on the rows. -/
theorem writes_insertProfileRows (hasked : job.jobType = .readLoadProfile) (obis : String)
    (rows : List (ProfileStreamRow V)) : ∀ rowsWritten,
    (insertProfileRows jobId job obis rowsWritten rows).Writes (WorkerWrite values w jobId job) := by
  induction rows with
  | nil => exact fun _ => trivial
  | cons row rows ih =>
    intro rowsWritten
    refine (Program.writes_ofExcept _).bind fun timestamp => ?_
    refine (Program.writes_change (.profileRow hasked obis timestamp row.values)).bind
      fun _ => Program.writes_flush.bind fun _ => ?_
    dsimp only
    split
    · exact (Program.writes_change (.progressed obis _)).bind fun _ =>
        Program.writes_commit.bind fun _ => ih _
    · exact ih _

/-- Whatever the type of a job, its handler only makes writes of a worker. -/
theorem writes_handleJob :
    (handleJob values w jobId job).Writes (WorkerWrite values w jobId job) := by
  rw [handleJob]
  rcases hasked : job.jobType with _ | _ | _ | _ | _ | _ | _ | _ | name
  case readCurrent =>
    refine writes_withMeter ((writes_require _ _).bind fun obis => ?_)
    exact (Program.writes_ofExcept _).bind fun _ => (Program.writes_ofExcept _).bind fun _ =>
      writes_finalize _ (by simp)
  case writeDatetime =>
    refine writes_withMeter ((Program.writes_ofExcept _).bind fun _ => ?_)
    exact (writes_writeEntry _ _ _).bind fun _ => (writes_writeEntry _ _ _).bind fun _ =>
      writes_finalize _ (by simp)
  case writeParameter =>
    refine writes_withMeter ((writes_require _ _).bind fun parameter => ?_)
    refine (writes_require _ _).bind fun value => (writes_require _ _).bind fun obis => ?_
    exact (Program.writes_ofExcept _).bind fun _ => (writes_writeEntry _ _ _).bind fun _ =>
      writes_finalize _ (by simp)
  case readLoadProfile =>
    refine writes_withMeter ((Program.writes_ofExcept _).bind fun _ => ?_)
    refine (writes_require _ _).bind fun _ => (writes_require _ _).bind fun _ => ?_
    refine (writes_insertProfileRows hasked _ _ _).bind fun rowsWritten => ?_
    exact (Program.writes_ofExcept _).bind fun _ => writes_finalize _ (by simp)
  case disconnect | reconnect =>
    refine writes_withMeter ((Program.writes_ofExcept _).bind fun _ => ?_)
    exact (Program.writes_ofExcept _).bind fun _ => writes_finalize _ (by simp)
  case readRatedCurrent | readRelayState =>
    refine writes_withMeter ((Program.writes_ofExcept _).bind fun _ => ?_)
    exact (Program.writes_ofExcept _).bind fun _ => writes_finalize _ (by simp)
  case unknown => exact trivial

/-- Closing a run writes to the run and to the notifications. -/
theorem writes_closeRun (runId : Int) (run : ScheduledJobRun) (tally : Tally) :
    (closeRun w runId run tally : Work V Unit).Writes (ParentWrite V) := by
  refine (Program.writes_change (.run runId (·.close tally w.now))).bind fun _ => ?_
  dsimp only
  split
  · refine Program.writes_query.bind fun _ => ?_
    exact (Program.writes_change (.notify _)).bind fun _ => Program.writes_flush.bind fun _ =>
      Program.writes_commit
  · exact Program.writes_commit

/-- Looking whether a run has ended writes nothing but the closing of that run and its notification.
    -/
theorem writes_maybeFinalizeScheduledJobRun (runId : Int) :
    (maybeFinalizeScheduledJobRun w jobId job runId).Writes (ParentWrite V) := by
  refine Program.writes_query.bind fun db => ?_
  dsimp only
  split
  · refine Program.writes_query.bind fun db => ?_
    rcases db.runs.get runId with _ | run
    · exact trivial
    · dsimp only
      split
      · exact writes_closeRun _ _ _
      · exact trivial
  · exact trivial

/-- Looking whether a batch is complete writes nothing but the closing of that batch. -/
theorem writes_finalizeBatchIfComplete (batchPk : Int) :
    (finalizeBatchIfComplete w batchPk : Work V Unit).Writes (ParentWrite V) := by
  refine Program.writes_query.bind fun db => ?_
  split
  · exact trivial
  · rename_i status _
    refine Program.writes_query.bind fun db => ?_
    rcases db.batches.get batchPk with _ | batch
    · exact trivial
    · dsimp only
      split
      · exact Program.writes_change (.batch batchPk (·.close status w.now))
      · exact trivial

/-- The end of a disconnection writes to its item, and to the batch when it was the last of them. -/
theorem writes_maybeFinalizeDisconnectBatchItem :
    (maybeFinalizeDisconnectBatchItem w jobId job).Writes (ParentWrite V) := by
  refine Program.writes_query.bind fun db => ?_
  split
  · exact trivial
  · rename_i itemId item _
    exact (Program.writes_change (.item itemId (·.finish job))).bind fun _ =>
      Program.writes_flush.bind fun _ => (writes_finalizeBatchIfComplete _).bind fun _ =>
        Program.writes_commit

/-- What follows the end of a job, its run and its batch, only makes writes of that kind. -/
theorem writes_finalizeParents : (finalizeParents w jobId job).Writes (ParentWrite V) := by
  have hrelay : (if isRelayJob job then maybeFinalizeDisconnectBatchItem w jobId job
      else pure ()).Writes (ParentWrite V) := by
    split
    · exact writes_maybeFinalizeDisconnectBatchItem
    · exact trivial
  rw [finalizeParents]
  rcases job.scheduledJobRunId with _ | runId
  · exact Program.Writes.bind trivial fun _ => hrelay
  · exact (writes_maybeFinalizeScheduledJobRun runId).bind fun _ => hrelay

/-- What a worker does about an exception at a job only makes writes of a worker. -/
theorem writes_recover (e : WorkerError) :
    (recover w jobId job e).Writes (WorkerWrite values w jobId job) :=
  (Program.writes_change (.failed e)).bind fun _ => Program.writes_commit.bind fun _ => trivial

/-- The processing of a claimed job only makes writes of a worker, with or without an exception in
    it. -/
theorem writes_processClaimed :
    (processClaimed values w jobId job).Writes (WorkerWrite values w jobId job) :=
  Program.Writes.bind (.tryExcept writes_handleJob writes_recover) fun _ =>
    writes_finalizeParents.mono fun _ => .parent

/-- The write of a claim: the job starts running. -/
def WorkerDb.startJob (w : Surroundings V) (jobId : Int) (db : WorkerDb V) : WorkerDb V :=
  { db with jobs := db.jobs.update jobId (Job.start w.now) }

/-- Claiming a job makes at most one write, that of the job which starts running. -/
theorem writes_claimNextJob : (claimNextJob w : Work V (Option (Int × Job V))).Writes fun f =>
    ∃ jobId, f = WorkerDb.startJob w jobId := by
  have hfind : (findNextJob w : Work V (Option (Int × Job V))).Writes fun f =>
      ∃ jobId, f = WorkerDb.startJob w jobId := by
    refine Program.writes_query.bind fun db => ?_
    split
    · exact trivial
    · exact Program.writes_query.bind fun _ => trivial
  refine hfind.bind fun found => ?_
  rcases found with _ | ⟨jobId, job⟩
  · exact Program.writes_commit.bind fun _ => trivial
  · exact (Program.writes_change ⟨jobId, rfl⟩).bind fun _ =>
      Program.writes_commit.bind fun _ => Program.writes_query.bind fun _ => trivial

/-- A pass of the worker's loop, the claim and the job together, only makes writes that append. -/
theorem writes_processOne : (processOne values w).Writes AppendingWrite := by
  have hclaim : ∀ f, (∃ jobId, f = WorkerDb.startJob w jobId) → AppendingWrite f := by
    rintro f ⟨jobId, rfl⟩
    exact appendingWrite_job jobId (Job.start w.now)
  refine (writes_claimNextJob.mono hclaim).bind fun found => ?_
  rcases found with _ | ⟨jobId, job⟩
  · exact trivial
  · exact (writes_processClaimed.mono fun _ h => h.appends).bind fun _ => trivial

end Programs

/-! ## All workers -/

section Fleet

variable {n : Nat} {s t : Fleet V n} {a : FleetAction V n}

/-- Whoever else writes takes nothing back, either. -/
def OthersAppend (s : Fleet V n) : FleetAction V n → Prop
  | .elsewhere db => Appends s.db db
  | _ => True

/-- What a worker has pending appends, and so does all it is still going to write. -/
def Worker.Appending : Worker V → Prop
  | .working pending _ rest => (∀ db, Appends db (pending db)) ∧ rest.Writes AppendingWrite
  | _ => True

/-- If every worker's writes append and one worker is replaced by another of that kind, every
    worker's writes still append. -/
theorem appending_set {workers : Fin n → Worker V} (h : ∀ k, (workers k).Appending) (k : Fin n)
    {worker : Worker V} (hworker : worker.Appending) :
    ∀ k', (Function.update workers k worker k').Appending := by
  intro k'
  rcases eq_or_ne k' k with rfl | hne
  · rw [Function.update_self]
    exact hworker
  · rw [Function.update_of_ne hne]
    exact h k'

/-- One step: the database is appended to, and what is pending still appends. -/
theorem fleetStep_appends (h : ∀ k, (s.workers k).Appending) (cond : OthersAppend s a)
    (hstep : fleetStep values D s a = some t) :
    Appends s.db t.db ∧ ∀ k, (t.workers k).Appending := by
  cases a with
  | poll k w =>
    simp only [fleetStep] at hstep
    split at hstep
    · cases hstep
      exact ⟨.refl _, appending_set h k ⟨.refl, writes_processOne⟩⟩
    · cases hstep
  | act k =>
    simp only [fleetStep] at hstep
    split at hstep
    · rename_i pending broken rest hk
      cases hstep
      have hworker := h k
      rw [hk] at hworker
      unfold actIn
      rcases hturn : rest.turn D (s.unit pending broken) with _ | ⟨rest', u⟩
      · dsimp only
        cases rest <;> exact ⟨.refl _, appending_set h k trivial⟩
      · obtain ⟨hrest, hstored, hpending⟩ := hworker.2.turn hturn Appends.refl Appends.trans
          (fun f hf => hf) hworker.1
        exact ⟨hstored, appending_set h k ⟨hpending, hrest⟩⟩
    · cases hstep
  | requeue cutoff =>
    cases hstep
    exact ⟨appendingWrite_other (f := requeueStaleRunningJobs cutoff) (fun _ => rfl) (fun _ => rfl)
      (fun _ => rfl) (fun _ => rfl) (fun _ => List.prefix_refl _) (fun _ => rfl) s.db, h⟩
  | elsewhere db =>
    cases hstep
    exact ⟨cond, h⟩

/-- **All workers.**  Whatever the database refuses and however the workers of a process take turns:
    no reading, profile row, attempt to write, audit entry or notification is changed or taken back,
    no profile row comes twice, no meter gets an implausible rated current, and the audit log has every
    attempt to write. -/
theorem fleet_appends (values : Values V) (D : Database WorkerError (WorkerDb V)) (n : Nat)
    (s t : Fleet V n) (actions : List (FleetAction V n)) (hpolling : ∀ k, s.workers k = .polling)
    (hrun : Run (fleetStep values D) OthersAppend s actions t) : Appends s.db t.db :=
  hrun.related (I := fun s => ∀ k, (s.workers k).Appending) (R := fun s t => Appends s.db t.db)
    (fun s => .refl s.db) Appends.trans (fun k => by rw [hpolling k]; trivial)
    (fun h cond next => (fleetStep_appends h cond next).2)
    fun h cond next => (fleetStep_appends h cond next).1

/-- One worker sets a clock: two registers, two attempts, two entries of the audit log. -/
theorem fleet_appends_clock : ∃ t, Run (fleetStep plainTexts nulRefused) OthersAppend
    (twoPolling (readingJob .writeDatetime)) (turnsOf ['5'] 11 0) t ∧
    Appends (oneJob (readingJob .writeDatetime)) t.db ∧ t.db.writeHistory.length = 2 := by
  have hexec : ((exec (guarded (fleetStep plainTexts nulRefused)
      fun _ a => (a matches .elsewhere _) = false) (twoPolling (readingJob .writeDatetime))
      (turnsOf ['5'] 11 0)).map fun t => t.db.writeHistory.length) = some 2 := by decide
  obtain ⟨t, hrun, hattempts⟩ := Option.map_eq_some_iff.mp hexec
  have hRun : Run (fleetStep plainTexts nulRefused) OthersAppend
      (twoPolling (readingJob .writeDatetime)) (turnsOf ['5'] 11 0) t :=
    (Run.of_guarded hrun).mono fun s a h => by cases a <;> first | exact trivial | cases h
  exact ⟨t, hRun, fleet_appends plainTexts nulRefused 2 _ t _ (fun _ => rfl) hRun, hattempts⟩

end Fleet

end RiseSun.Backend
