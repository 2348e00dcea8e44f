/-
  No job ends a worker, as long as the database refuses nothing.

  1. **Writes** (`JobWrite`) — what a worker does to the rows of jobs: none is lost, and one that is
     `RUNNING` has a start, so that a sweep finds it.  One lemma for each program says that its writes
     are of this kind, that it does not catch a refusal, and whether it raises anything itself.

  2. **One processing** (`processClaimed_contained_iff`) — of a job whose handler raises, every
     exception of the code's own is contained; a refusal breaks the session, and the recovery, which
     does not roll back, fails on it.

  3. **All workers** (`FleetSafe`) — over every run of any number of workers, in any interleaving.
-/
import RiseSun.Backend.Worker

namespace RiseSun.Backend

open Machine

variable {V : Type} {values : Values V} {D : Database WorkerError (WorkerDb V)} {w : Surroundings V}

/-! ## Writes -/

/-- A sweep can find the job if its worker does not end it. -/
def Job.Started (job : Job V) : Prop := job.status = .running → job.startedAt.isSome = true

instance (job : Job V) : Decidable job.Started :=
  inferInstanceAs (Decidable (job.status = .running → job.startedAt.isSome = true))

/-- The sweep for hanging jobs can find every `RUNNING` one. -/
def Recoverable (db : WorkerDb V) : Prop := ∀ r ∈ db.jobs.rows, r.2.Started

instance (db : WorkerDb V) : Decidable (Recoverable db) :=
  inferInstanceAs (Decidable (∀ r ∈ db.jobs.rows, r.2.Started))

/-- What every write of a worker keeps: rows of jobs stay, and a `RUNNING` job has a start by which
    the sweep finds it. -/
structure JobWrite (f : WorkerDb V → WorkerDb V) : Prop where
  present : ∀ db id, (db.jobs.get id).isSome = true → ((f db).jobs.get id).isSome = true
  recoverable : ∀ db, Recoverable db → Recoverable (f db)

/-- What is no write of a job. -/
def KeepsJobs (f : WorkerDb V → WorkerDb V) : Prop := ∀ db, (f db).jobs = db.jobs

/-- A write that leaves the table of jobs alone keeps what is asked of jobs. -/
theorem KeepsJobs.jobWrite {f : WorkerDb V → WorkerDb V} (h : KeepsJobs f) : JobWrite f where
  present db id hpresent := by rwa [h db]
  recoverable db hdb := by rwa [Recoverable, h db]

/-- Of a job that is not `RUNNING` no start is asked. -/
theorem Job.Started.of_ne {job : Job V} (h : job.status ≠ .running) : job.Started :=
  fun hrunning => absurd hrunning h

/-- The table stays recoverable under any change of rows that keeps each of them so. -/
theorem recoverable_modify {jobs : Table Int (Job V)} {g : Int → Job V → Job V}
    (h : ∀ r ∈ jobs.rows, r.2.Started) (hg : ∀ id job, job.Started → (g id job).Started) :
    ∀ r ∈ (jobs.modify g).rows, r.2.Started := by
  intro r hr
  obtain ⟨r', hr', rfl⟩ := List.mem_map.mp hr
  exact hg _ _ (h r' hr')

/-- A change of one job is such a write, if it takes no start away from a `RUNNING` job. -/
theorem conforms_changeJob {E : WorkerError → Prop} {jobId : Int} {g : Job V → Job V}
    (hg : ∀ job, job.Started → (g job).Started) :
    (changeJob jobId g).Conforms JobWrite E := by
  refine Program.conforms_change ⟨fun db id hpresent => ?_, fun db hdb => ?_⟩
  · show ((db.jobs.update jobId g).get id).isSome = true
    rw [Table.update, Table.get_modify, Option.isSome_map]
    exact hpresent
  · refine recoverable_modify hdb fun id job hjob => ?_
    split
    · exact hg job hjob
    · exact hjob

/-- A write of other tables is one, whatever it does. -/
theorem conforms_other {E : WorkerError → Prop} {f : WorkerDb V → WorkerDb V} (h : KeepsJobs f) :
    (Program.change f : Work V Unit).Conforms JobWrite E :=
  Program.conforms_change h.jobWrite

/-! ## Handlers -/

/-- However a job ends, a `RUNNING` job it leaves has a start: it is only put back as `QUEUED`, or
    finished. -/
theorem JobEnd.started_apply (values : Values V) (now : Int) (job : Job V) (jobEnd : JobEnd V) :
    (jobEnd.apply values now job).1.Started := by
  refine .of_ne fun hrunning => ?_
  rcases (jobEnd.apply_spec values now job).2 with hterminal | ⟨hqueued, -⟩
  · rw [hrunning] at hterminal
    cases hterminal
  · rw [hrunning] at hqueued
    cases hqueued

section Handlers

variable {E : WorkerError → Prop} {jobId : Int} {job : Job V}

/-- Finalizing a job, with its audit entries, writes nothing else and raises nothing by itself. -/
theorem conforms_finalize (jobEnd : JobEnd V) (audited : List AuditLog) :
    (finalize values w jobId job jobEnd audited).Conforms JobWrite E := by
  refine (conforms_changeJob fun row _ => jobEnd.started_apply values w.now row).bind fun _ => ?_
  refine Program.Conforms.bind (conforms_other ?_) fun _ => ?_
  · exact fun _ => rfl
  · exact Program.conforms_commit.bind fun _ => Program.conforms_pure _

/-- The lookup of the meter in front of a job raises nothing: a meter that is gone ends the job as
    failed. -/
theorem conforms_withMeter {rest : Work V (Job V)} (h : rest.Conforms JobWrite E) :
    (withMeter values w jobId job rest).Conforms JobWrite E := by
  refine Program.conforms_query.bind fun db => ?_
  rcases db.meters.get job.meterId with _ | meter
  · exact conforms_finalize _ _
  · exact h

/-- What is outside the database may raise anything. -/
theorem conforms_outside {α : Type} (r : Except WorkerError α) :
    (Program.ofExcept r : Work V α).Conforms JobWrite fun _ => True :=
  Program.conforms_ofExcept fun _ _ => trivial

/-- A key that is missing in the payload is a `KeyError`, and nothing is written. -/
theorem conforms_require {α : Type} (key : String) (value : Option α) :
    (require key value : Work V α).Conforms JobWrite fun _ => True := by
  cases value <;> trivial

/-- The audit entry of a write touches no job. -/
theorem conforms_writeEntry (parameter obis : String) (valueBytes : List Nat) :
    (writeEntry w jobId job parameter obis valueBytes).Conforms JobWrite fun _ => True := by
  refine (conforms_outside _).bind fun _ => (conforms_outside _).bind fun _ => ?_
  refine Program.Conforms.bind (conforms_other ?_) fun _ => Program.conforms_pure _
  exact fun _ => rfl

/-- A row of a profile touches no job. -/
theorem keepsJobs_insertLoadProfileRow (obis : String) (timestamp : Int) (row : ProfileValues V) :
    KeepsJobs (insertLoadProfileRow job obis timestamp row) := by
  intro db
  rw [insertLoadProfileRow]
  split <;> rfl

/-- The loop over a stream writes rows and notes its progress; what it raises is not said here. -/
theorem conforms_insertProfileRows (obis : String) (rows : List (ProfileStreamRow V)) :
    ∀ rowsWritten, (insertProfileRows jobId job obis rowsWritten rows).Conforms JobWrite
      fun _ => True := by
  induction rows with
  | nil => exact fun _ => trivial
  | cons row rows ih =>
    intro rowsWritten
    refine (conforms_outside _).bind fun timestamp => ?_
    refine (conforms_other (keepsJobs_insertLoadProfileRow obis timestamp row.values)).bind fun _ => ?_
    refine Program.conforms_flush.bind fun _ => ?_
    dsimp only
    split
    · refine Program.Conforms.bind (conforms_changeJob ?_) fun _ => ?_
      · exact fun _ hjob => hjob
      · exact Program.conforms_commit.bind fun _ => ih _
    · exact ih _

/-- **The handlers.**  Whatever the type of the job and whatever the meter answers, a handler makes
    only such writes; it may raise anything. -/
theorem conforms_handleJob :
    (handleJob values w jobId job).Conforms JobWrite fun _ => True := by
  rw [handleJob]
  rcases job.jobType with _ | _ | _ | _ | _ | _ | _ | _ | name
  case readCurrent =>
    refine conforms_withMeter ((conforms_require _ _).bind fun obis => ?_)
    exact (conforms_outside _).bind fun _ => (conforms_outside _).bind fun _ => conforms_finalize _ _
  case writeDatetime =>
    refine conforms_withMeter ((conforms_outside _).bind fun _ => ?_)
    exact (conforms_writeEntry _ _ _).bind fun _ => (conforms_writeEntry _ _ _).bind fun _ =>
      conforms_finalize _ _
  case writeParameter =>
    refine conforms_withMeter ((conforms_require _ _).bind fun parameter => ?_)
    refine (conforms_require _ _).bind fun value => (conforms_require _ _).bind fun obis => ?_
    exact (conforms_outside _).bind fun _ => (conforms_writeEntry _ _ _).bind fun _ =>
      conforms_finalize _ _
  case readLoadProfile =>
    refine conforms_withMeter ((conforms_outside _).bind fun _ => ?_)
    refine (conforms_require _ _).bind fun _ => (conforms_require _ _).bind fun _ => ?_
    refine (conforms_insertProfileRows _ _ _).bind fun rowsWritten => ?_
    exact (conforms_outside _).bind fun _ => conforms_finalize _ _
  case disconnect | reconnect =>
    refine conforms_withMeter ((conforms_outside _).bind fun _ => ?_)
    exact (conforms_outside _).bind fun _ => conforms_finalize _ _
  case readRatedCurrent | readRelayState =>
    refine conforms_withMeter ((conforms_outside _).bind fun _ => ?_)
    exact (conforms_outside _).bind fun _ => conforms_finalize _ _
  case unknown => exact trivial

/-! ## Recovery and parents -/

/-- The recovery marks the job as failed, and raises nothing by itself. -/
theorem conforms_recover (e : WorkerError) :
    (recover w jobId job e).Conforms JobWrite E := by
  refine (conforms_changeJob fun job _ => ?_).bind fun _ => ?_
  · exact .of_ne fun h => nomatch h
  · exact Program.conforms_commit.bind fun _ => Program.conforms_pure _

/-- Closing a scheduled run touches no job, so it conforms to what a worker may do to jobs. -/
theorem conforms_closeRun (runId : Int) (run : ScheduledJobRun) (tally : Tally) :
    (closeRun w runId run tally : Work V Unit).Conforms KeepsJobs E := by
  refine Program.Conforms.bind (Program.conforms_change ?_) fun _ => ?_
  · exact fun _ => rfl
  · dsimp only
    split
    · refine Program.conforms_query.bind fun _ => ?_
      refine Program.Conforms.bind (Program.conforms_change ?_) fun _ => ?_
      · exact fun _ => rfl
      · exact Program.conforms_flush.bind fun _ => Program.conforms_commit
    · exact Program.conforms_commit

/-- Looking at the run of a job touches no job, and raises nothing by itself. -/
theorem conforms_maybeFinalizeScheduledJobRun (runId : Int) :
    (maybeFinalizeScheduledJobRun w jobId job runId).Conforms KeepsJobs E := by
  refine Program.conforms_query.bind fun db => ?_
  dsimp only
  split
  · refine Program.conforms_query.bind fun db => ?_
    rcases db.runs.get runId with _ | run
    · exact Program.conforms_pure _
    · dsimp only
      split
      · exact conforms_closeRun _ _ _
      · exact Program.conforms_pure _
  · exact Program.conforms_pure _

/-- Closing a batch touches no job, so it conforms to what a worker may do to jobs. -/
theorem conforms_finalizeBatchIfComplete (batchPk : Int) :
    (finalizeBatchIfComplete w batchPk : Work V Unit).Conforms KeepsJobs E := by
  refine Program.conforms_query.bind fun db => ?_
  split
  · exact Program.conforms_pure _
  · refine Program.conforms_query.bind fun db => ?_
    rcases db.batches.get batchPk with _ | batch
    · exact Program.conforms_pure _
    · dsimp only
      split
      · exact Program.conforms_change fun _ => rfl
      · exact Program.conforms_pure _

/-- Writing the item of a job, and its batch, touches no job. -/
theorem conforms_maybeFinalizeDisconnectBatchItem :
    (maybeFinalizeDisconnectBatchItem w jobId job).Conforms KeepsJobs E := by
  refine Program.conforms_query.bind fun db => ?_
  split
  · exact Program.conforms_pure _
  · refine Program.Conforms.bind (Program.conforms_change ?_) fun _ => ?_
    · exact fun _ => rfl
    · refine Program.conforms_flush.bind fun _ => ?_
      exact (conforms_finalizeBatchIfComplete _).bind fun _ => Program.conforms_commit

/-- What follows the end of a job touches no job, and raises nothing by itself. -/
theorem conforms_finalizeParents :
    (finalizeParents w jobId job).Conforms KeepsJobs E := by
  have hrelay : (if isRelayJob job then maybeFinalizeDisconnectBatchItem w jobId job
      else pure ()).Conforms KeepsJobs E := by
    split
    · exact conforms_maybeFinalizeDisconnectBatchItem
    · exact Program.conforms_pure _
  rw [finalizeParents]
  rcases job.scheduledJobRunId with _ | runId
  · exact (Program.conforms_pure _).bind fun _ => hrelay
  · exact (conforms_maybeFinalizeScheduledJobRun runId).bind fun _ => hrelay

/-- Claiming marks a job as `RUNNING` and notes its start in the same write. -/
theorem conforms_claimNextJob :
    (claimNextJob w : Work V (Option (Int × Job V))).Conforms JobWrite E := by
  have hfind : (findNextJob w : Work V (Option (Int × Job V))).Conforms JobWrite E := by
    refine Program.conforms_query.bind fun db => ?_
    split
    · exact Program.conforms_pure _
    · exact Program.conforms_query.bind fun _ => Program.conforms_pure _
  refine hfind.bind fun found => ?_
  rcases found with _ | ⟨jobId, job⟩
  · exact Program.conforms_commit.bind fun _ => Program.conforms_pure _
  · refine Program.Conforms.bind (conforms_changeJob ?_) fun _ => ?_
    · exact fun _ _ _ => rfl
    · exact Program.conforms_commit.bind fun _ =>
        Program.conforms_query.bind fun _ => Program.conforms_pure _

/-- Everything outside of the handler is without exceptions of its own. -/
theorem safe_processClaimed : (processClaimed values w jobId job).Safe JobWrite := by
  refine Program.Safe.bind ?_ fun job => ?_
  · exact .tryExcept conforms_handleJob fun e => (conforms_recover e).safe
  · exact (conforms_finalizeParents.mono (fun _ h => h.jobWrite) fun _ h => h).safe

/-- **One processing is safe.**  The handler's exceptions are caught, so only a refusal of the
    database can leave `_process_one`. -/
theorem safe_processOne : (processOne values w).Safe JobWrite := by
  refine Program.Safe.bind conforms_claimNextJob.safe fun found => ?_
  rcases found with _ | ⟨jobId, job⟩
  · exact trivial
  · exact safe_processClaimed.bind fun _ => trivial

end Handlers

/-! ## One processing -/

/-- The worker goes on, and the job is finished or a sweep finds it. -/
def Contained (jobId : Int) (result : Except WorkerError Unit × UnitOfWork (WorkerDb V)) : Prop :=
  result.1 = .ok () ∧ ∃ job ∈ result.2.stored.jobs.get jobId,
    job.status.isTerminal = true ∨ job.status = .running ∧ job.startedAt.isSome = true

section Processing

variable {u v : UnitOfWork (WorkerDb V)} {jobId : Int} {job : Job V} {e : WorkerError}

/-- What follows an exception of the handler. -/
def afterwards (w : Surroundings V) (jobId : Int) (job : Job V) (e : WorkerError) : Work V Unit := do
  let job ← recover w jobId job e
  finalizeParents w jobId job

/-- Behind an exception of the handler the recovery goes on in the session the handler has left. -/
theorem run_processClaimed (hraised : (handleJob values w jobId job).run D u = (.error e, v)) :
    (processClaimed values w jobId job).run D u = (afterwards w jobId job e).run D v := by
  rw [processClaimed, afterwards, Program.run_bind, Program.run_bind, Program.run_tryExcept, hraised]

/-- With an exception of the handler, a processing is refused nothing iff neither the handler nor
    what follows is. -/
theorem accepted_processClaimed (hwhole : u.broken = false)
    (hraised : (handleJob values w jobId job).run D u = (.error e, v)) :
    (processClaimed values w jobId job).Accepted D u ↔
      (handleJob values w jobId job).Accepted D u ∧ (afterwards w jobId job e).Accepted D v := by
  rw [processClaimed, Program.accepted_bind hwhole, Program.accepted_tryExcept hwhole,
    Program.run_tryExcept, hraised, and_assoc]
  refine and_congr_right fun haccepted => ?_
  have hv : v.broken = false := by
    have h := haccepted.run_whole hwhole
    rwa [hraised] at h
  rw [afterwards, Program.accepted_bind hv]
  refine and_congr_left' ⟨fun h => h e rfl, fun h e' he' => ?_⟩
  obtain rfl : e = e' := Except.error.inj he'
  exact h

/-- The row of the job after the recovery. -/
def WorkerDb.failJob (w : Surroundings V) (jobId : Int) (e : WorkerError) (db : WorkerDb V) :
    WorkerDb V :=
  { db with jobs := db.jobs.update jobId (Job.fail (workerError e) w.now) }

/-- The recovery is one write and one commit; if the commit is refused, that exception leaves the
    worker. -/
theorem run_recover :
    (recover w jobId job e).run D v =
      match (v.write (WorkerDb.failJob w jobId e)).answer D true with
      | (.ok _, v') => (.ok (job.fail (workerError e) w.now), v')
      | (.error e', v') => (.error e', v') := by
  calc (recover w jobId job e).run D v
      = (Program.commit >>= fun _ => pure (job.fail (workerError e) w.now) : Work V (Job V)).run D
          (v.write (WorkerDb.failJob w jobId e)) := rfl
    _ = _ := by
      rw [Program.run_commit_bind]
      rcases (v.write (WorkerDb.failJob w jobId e)).answer D true with ⟨_ | _, v'⟩
      · rfl
      · rfl

/-- If its commit is accepted, the job is failed with the exception's text, and the row is stored.
    -/
theorem run_recover_accepted (hwhole : v.broken = false)
    (haccepted : (recover w jobId job e).Accepted D v) :
    (recover w jobId job e).run D v =
      (.ok (job.fail (workerError e) w.now), (v.write (WorkerDb.failJob w jobId e)).after true) := by
  have hcommit : D.refuses true (v.write (WorkerDb.failJob w jobId e)) = none := haccepted.1
  rw [run_recover, UnitOfWork.answer_accepted ((v.write_broken _).trans hwhole) hcommit]

/-- A broken session refuses the commit of the recovery, too. -/
theorem run_afterwards_broken (hbroken : v.broken = true) :
    ((afterwards w jobId job e).run D v).1 = .error D.rollbackFirst := by
  have hcommit : (v.write (WorkerDb.failJob w jobId e)).broken = true := hbroken
  rw [afterwards, Program.run_bind, run_recover, UnitOfWork.answer_broken hcommit]

/-- The row of the job is marked as failed, if there is a row. -/
theorem failed_failJob {db : WorkerDb V} (h : (db.jobs.get jobId).isSome = true) :
    ∃ job ∈ (WorkerDb.failJob w jobId e db).jobs.get jobId, job.status = .failed := by
  obtain ⟨job, hjob⟩ := Option.isSome_iff_exists.mp h
  refine ⟨job.fail (workerError e) w.now, ?_, rfl⟩
  rw [WorkerDb.failJob, Table.get_update_self, hjob]
  rfl

/-- If nothing is refused afterwards, the job has failed. -/
theorem contained_afterwards (hwhole : v.broken = false)
    (hpresent : (v.seen.jobs.get jobId).isSome = true)
    (haccepted : (afterwards w jobId job e).Accepted D v) :
    Contained jobId ((afterwards w jobId job e).run D v) := by
  obtain ⟨hcommit, hafter⟩ := (Program.accepted_bind hwhole).mp haccepted
  have hrecover := run_recover_accepted hwhole hcommit
  rw [hrecover] at hafter
  have hparents := hafter _ rfl
  have hconforms : (finalizeParents w jobId (job.fail (workerError e) w.now)).Conforms KeepsJobs
      fun _ => False := conforms_finalizeParents
  have hrecovered : ((v.write (WorkerDb.failJob w jobId e)).after true).broken = false :=
    (UnitOfWork.after_broken true).trans hwhole
  obtain ⟨_, hok⟩ := (hconforms.run_ok_iff hrecovered).mpr hparents
  have hfailed := failed_failJob (w := w) (e := e) hpresent
  have hkeeps := (hconforms.run_keeps (D := D)
    (I := fun db => ∃ job ∈ db.jobs.get jobId, job.status = .failed)
    (u := (v.write (WorkerDb.failJob w jobId e)).after true)
    (fun f hf db hdb => by rwa [hf db]) hfailed hfailed).1
  rw [afterwards, Program.run_bind, hrecover]
  obtain ⟨job', hjob', hstatus⟩ := hkeeps
  exact ⟨hok, job', hjob', .inl (by rw [hstatus]; rfl)⟩

/-- A worker that has just claimed the job, and whose handler raises. -/
theorem processClaimed_contained_iff (hwhole : u.broken = false) (hfresh : u.pending = id)
    (hjob : u.stored.jobs.get jobId = some job)
    (hraised : ((handleJob values w jobId job).run D u).1 = .error e) :
    Contained jobId ((processClaimed values w jobId job).run D u) ↔
      (processClaimed values w jobId job).Accepted D u := by
  have hrun := Proc.run_eq hraised
  rw [run_processClaimed hrun, accepted_processClaimed hwhole hrun]
  have hhandler : (handleJob values w jobId job).Conforms JobWrite fun _ => True :=
    conforms_handleJob
  by_cases haccepted : (handleJob values w jobId job).Accepted D u
  · have hv := haccepted.run_whole hwhole
    refine ⟨fun h => ⟨haccepted, ?_⟩, fun h => contained_afterwards hv ?_ h.2⟩
    · have hconforms : (afterwards w jobId job e).Conforms JobWrite fun _ => False :=
        (conforms_recover e).bind fun _ =>
          conforms_finalizeParents.mono (fun _ hf => hf.jobWrite) fun _ he => he
      exact (hconforms.run_ok_iff hv).mp ⟨(), h.1⟩
    · have hpresent : (u.stored.jobs.get jobId).isSome = true := by rw [hjob]; rfl
      have hseen : u.seen = u.stored := by rw [UnitOfWork.seen, hfresh]; rfl
      exact (hhandler.run_keeps (I := fun db => (db.jobs.get jobId).isSome = true)
        (fun f hf db hdb => hf.present db jobId hdb) hpresent (hseen ▸ hpresent)).2
  · obtain ⟨_, _, hbroken⟩ := hhandler.run_refused hwhole haccepted
    refine ⟨fun h => ?_, fun h => absurd h.1 haccepted⟩
    have hok := h.1
    rw [run_afterwards_broken hbroken] at hok
    cases hok

end Processing

/-! ## All workers -/

section Fleet

variable {n : Nat} {s t : Fleet V n} {a : FleetAction V n}

/-- The database refuses nothing a worker asks; whoever else writes marks no job `RUNNING` without a
    start. -/
def Unrefused (D : Database WorkerError (WorkerDb V)) (s : Fleet V n) : FleetAction V n → Prop
  | .act k =>
    match s.workers k with
    | .working pending broken rest => rest.Unrefused D (s.unit pending broken)
    | _ => True
  | .elsewhere db => Recoverable db
  | _ => True

instance (s : Fleet V n) (a : FleetAction V n) : Decidable (Unrefused D s a) :=
  match a with
  | .act k =>
    match h : s.workers k with
    | .working pending broken rest =>
      decidable_of_iff (rest.Unrefused D (s.unit pending broken)) (by simp only [Unrefused, h])
    | .polling | .ended _ => isTrue (by simp only [Unrefused, h])
  | .elsewhere db => inferInstanceAs (Decidable (Recoverable db))
  | .poll .. | .requeue _ => isTrue trivial

/-- A worker that goes on: between jobs, or at one with a whole session and only safe writes before
    it. -/
def Worker.Fine : Worker V → Prop
  | .polling => True
  | .working pending broken rest =>
    broken = false ∧ rest.Safe JobWrite ∧ ∀ db, Recoverable db → Recoverable (pending db)
  | .ended _ => False

/-- No worker has stopped, and every hanging job can be found. -/
structure FleetSafe (s : Fleet V n) : Prop where
  recoverable : Recoverable s.db
  workers : ∀ k, (s.workers k).Fine

/-- One worker moves: the fleet stays safe if the table does and that worker does. -/
theorem FleetSafe.update (h : FleetSafe s) {db : WorkerDb V} {asked : Nat} {k : Fin n}
    {worker : Worker V} (hdb : Recoverable db) (hfine : worker.Fine) :
    FleetSafe ⟨db, asked, Function.update s.workers k worker⟩ where
  recoverable := hdb
  workers k' := by
    show (Function.update s.workers k worker k').Fine
    rcases eq_or_ne k' k with rfl | hne
    · rw [Function.update_self]
      exact hfine
    · rw [Function.update_of_ne hne]
      exact h.workers k'

/-- The sweep puts jobs back as `QUEUED`, so nothing is asked of them any more. -/
theorem recoverable_requeue (cutoff : Int) {db : WorkerDb V} (h : Recoverable db) :
    Recoverable (requeueStaleRunningJobs cutoff db) := by
  refine recoverable_modify h fun id job hjob => ?_
  split
  · exact .of_ne fun h => nomatch h
  · exact hjob

/-- One turn of a worker, a write or a statement that is not refused, keeps the fleet safe. -/
theorem FleetSafe.actIn (h : FleetSafe s) {k : Fin n} {pending : WorkerDb V → WorkerDb V}
    {broken : Bool} {rest : Work V Bool} (hk : s.workers k = .working pending broken rest)
    (hunrefused : rest.Unrefused D (s.unit pending broken)) :
    FleetSafe (actIn D s k pending broken rest) := by
  have hfine := h.workers k
  rw [hk] at hfine
  obtain ⟨hwhole, hsafe, hpending⟩ := hfine
  rcases hturn : rest.turn D (s.unit pending broken) with _ | ⟨rest', u⟩
  · unfold Backend.actIn
    rw [hturn]
    cases rest with
    | done _ => exact h.update h.recoverable trivial
    | raise _ => exact hsafe.elim
    | write f rest => cases hturn
    | ask commits rest => cases hturn
  · obtain ⟨hsafe', hwhole', hstored, hpending'⟩ := hsafe.turn hwhole hunrefused hturn
      (fun f hf => hf.recoverable) h.recoverable hpending
    unfold Backend.actIn
    rw [hturn]
    exact h.update hstored ⟨hwhole', hsafe', hpending'⟩

/-- **The step.**  As long as the database refuses nothing, every step of a fleet keeps it safe. -/
theorem FleetSafe.step (h : FleetSafe s) (cond : Unrefused D s a)
    (hstep : fleetStep values D s a = some t) : FleetSafe t := by
  cases a with
  | poll k w =>
    simp only [fleetStep] at hstep
    split at hstep
    · cases hstep
      exact h.update h.recoverable ⟨rfl, safe_processOne, fun _ hdb => hdb⟩
    · cases hstep
  | act k =>
    simp only [fleetStep] at hstep
    split at hstep
    · rename_i pending broken rest hk
      cases hstep
      simp only [Unrefused, hk] at cond
      exact h.actIn hk cond
    · cases hstep
  | requeue cutoff =>
    cases hstep
    exact ⟨recoverable_requeue cutoff h.recoverable, h.workers⟩
  | elsewhere db =>
    cases hstep
    exact ⟨cond, h.workers⟩

/-- A sweep that looks late enough takes every job that was left `RUNNING`. -/
theorem Recoverable.requeued {db : WorkerDb V} (h : Recoverable db) {jobId : Int} {job : Job V}
    (hjob : db.jobs.get jobId = some job) (hrunning : job.status = .running) :
    ∃ since, ∀ cutoff, since < cutoff →
      (requeueStaleRunningJobs cutoff db).jobs.get jobId = some job.requeue := by
  obtain ⟨since, hsince⟩ :=
    Option.isSome_iff_exists.mp (h (jobId, job) (Table.get_eq_some.mp hjob) hrunning)
  refine ⟨since, fun cutoff hcutoff => ?_⟩
  have hstale : isStale cutoff job = true :=
    decide_eq_true ⟨hrunning, since, hsince, hcutoff⟩
  rw [requeueStaleRunningJobs, Table.get_modify, hjob, Option.map_some, if_pos hstale]

end Fleet

/-- One processing whose handler raises is contained exactly if the database refuses nothing that is
    asked in it; and over any run in which nothing is refused no worker ends. -/
theorem worker_containment (values : Values V) (D : Database WorkerError (WorkerDb V)) :
    (∀ (w : Surroundings V) (u : UnitOfWork (WorkerDb V)) (jobId : Int) (job : Job V)
        (e : WorkerError), u.broken = false → u.pending = id →
        u.stored.jobs.get jobId = some job →
        ((handleJob values w jobId job).run D u).1 = .error e →
        (Contained jobId ((processClaimed values w jobId job).run D u) ↔
          (processClaimed values w jobId job).Accepted D u)) ∧
      ∀ (n : Nat) (s t : Fleet V n) (actions : List (FleetAction V n)),
        (∀ k, s.workers k = .polling) → Recoverable s.db →
        Run (fleetStep values D) (Unrefused D) s actions t →
        (∀ k e, t.workers k ≠ .ended e) ∧
          ∀ jobId job, t.db.jobs.get jobId = some job → job.status = .running →
            ∃ since, ∀ cutoff, since < cutoff →
              (requeueStaleRunningJobs cutoff t.db).jobs.get jobId = some job.requeue := by
  refine ⟨fun w u jobId job e => processClaimed_contained_iff, ?_⟩
  intro n s t actions hpolling hrecoverable run
  have hstart : FleetSafe s := ⟨hrecoverable, fun k => by rw [hpolling k]; exact trivial⟩
  have hsafe := run.invariant hstart fun hs cond hstep => hs.step cond hstep
  refine ⟨fun k e hended => ?_, fun jobId job => hsafe.recoverable.requeued⟩
  have hfine := hsafe.workers k
  rw [hended] at hfine
  exact hfine

section Poison

/-- Values that are texts. -/
def plainTexts : Values (List Char) where
  number := fun _ => none
  repr := String.ofList

/-- A database that cannot store the character NUL. -/
def nulRefused : Database WorkerError (WorkerDb (List Char)) where
  refuses _ u :=
    if u.seen.readings.any (·.value.contains '\x00') then
      some (.database "unsupported Unicode escape sequence")
    else none
  rollbackFirst := .pendingRollback

def answering (value : List Char) : Surroundings (List Char) where
  now := 1
  readAt := 1
  readRegister _ := .ok { ok := true, value := value }

def readingJob (jobType : JobType) : Job (List Char) where
  jobType := jobType
  meterId := 7
  payload := { obis := some "1.0.60.1.0.ff" }
  createdAt := 0

def oneJob (job : Job (List Char)) : WorkerDb (List Char) where
  jobs := ⟨[(1, job)], List.nodup_singleton _⟩
  meters := ⟨[(7, { isCallHome := false })], List.nodup_singleton _⟩

def twoPolling (job : Job (List Char)) : Fleet (List Char) 2 where
  db := oneJob job
  workers _ := .polling

/-- A worker takes the job and has so many turns. -/
def turnsOf (value : List Char) (turns : Nat) (k : Fin 2) : List (FleetAction (List Char) 2) :=
  .poll k (answering value) :: List.replicate turns (.act k)

/-- The sweep gives the job to the next worker. -/
def poisoned : List (FleetAction (List Char) 2) :=
  turnsOf ['\x00'] 12 0 ++ [.requeue 2] ++ turnsOf ['\x00'] 12 1

def Worker.stopped : Worker V → Option WorkerError
  | .ended e => some e
  | _ => none

/-- A job nobody can handle, in a session of its own and among two workers. -/
theorem worker_containment_unknown :
    Contained 1 ((processClaimed plainTexts (answering []) 1 (readingJob (.unknown "ping"))).run
      nulRefused { stored := oneJob (readingJob (.unknown "ping")) }) ∧
    ∃ t, Run (fleetStep plainTexts nulRefused) (Unrefused nulRefused)
        (twoPolling (readingJob (.unknown "ping"))) (turnsOf [] 8 0) t ∧
      (∀ k e, t.workers k ≠ .ended e) ∧ (t.db.jobs.get 1).map (·.status) = some .failed := by
  refine ⟨((worker_containment plainTexts nulRefused).1 (answering [])
    { stored := oneJob (readingJob (.unknown "ping")) } 1 (readingJob (.unknown "ping"))
    (.valueError "Неизвестный тип задачи: ping") rfl rfl rfl rfl).mpr ⟨rfl, trivial⟩, ?_⟩
  have hexec : ((exec (guarded (fleetStep plainTexts nulRefused) (Unrefused nulRefused))
      (twoPolling (readingJob (.unknown "ping"))) (turnsOf [] 8 0)).map
        fun t => (t.db.jobs.get 1).map (·.status)) = some (some .failed) := by decide
  obtain ⟨t, hrun, hstatus⟩ := Option.map_eq_some_iff.mp hexec
  have hRun := Run.of_guarded hrun
  exact ⟨t, hRun, ((worker_containment plainTexts nulRefused).2 2 _ t _ (fun _ => rfl) (by decide)
    hRun).1, hstatus⟩

/-- One answer that cannot be stored stops worker after worker: each leaves the job `RUNNING`, and
    the sweep hands it to the next. -/
theorem one_answer_stops_all : ∃ t, Run (fleetStep plainTexts nulRefused) (fun _ _ => True)
    (twoPolling (readingJob .readCurrent)) poisoned t ∧
    (∀ k, (t.workers k).stopped = some .pendingRollback) ∧
    (t.db.jobs.get 1).map (·.status) = some .running := by
  have hexec : ((exec (guarded (fleetStep plainTexts nulRefused) fun _ _ => True)
      (twoPolling (readingJob .readCurrent)) poisoned).map fun t =>
        ((t.workers 0).stopped, (t.workers 1).stopped, (t.db.jobs.get 1).map (·.status))) =
      some (some .pendingRollback, some .pendingRollback, some .running) := by decide
  obtain ⟨t, hrun, hstopped⟩ := Option.map_eq_some_iff.mp hexec
  simp only [Prod.mk.injEq] at hstopped
  obtain ⟨hfirst, hsecond, hstatus⟩ := hstopped
  exact ⟨t, .of_guarded hrun, Fin.forall_fin_two.mpr ⟨hfirst, hsecond⟩, hstatus⟩

end Poison

end RiseSun.Backend
