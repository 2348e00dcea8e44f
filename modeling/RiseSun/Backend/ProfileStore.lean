/-
  The rows of a load profile, as workers and the reports of the Gateway store them
  (`services/job_worker.py`, `api/gateway_internal.py`).

  1. **Reports** (`reportLoadProfileResults`) — the other way rows come in: all of them at once.

  2. **`Profiles`** — what the table is for.  No row comes twice, every row is one of the meter's, and
     a job that has succeeded has left every row of the range it asks for, whoever wrote it.

  3. **Writes** — which changes of the database keep this, beside each other.

  4. **Programs** — a worker at any job, and a report, keep it at each of their commits.

  5. **Runs** (`profiles_complete`) — any number of sessions beside each other: an attempt that breaks
     off leaves its rows, and the next one may take its time over them.
-/
import RiseSun.Lib.SharedDatabase
import RiseSun.Backend.WorkerJournal

namespace RiseSun.Backend

open Machine FirstWrite

variable {V : Type} {values : Values V} {w : Surroundings V}

/-! ## Reports -/

structure LoadProfileReport (V : Type) where
  serial : String
  jobId : Int
  obis : String
  ok : Bool
  errorCode : Option String := none
  errorMessage : Option String := none
  isPartial : Bool := false
  rows : List (ProfileStreamRow V) := []

def LoadProfileReport.errorInfo (report : LoadProfileReport V) (rowsWritten : Nat) : Option JobError :=
  if report.ok then none
  else some ⟨report.errorCode, report.errorMessage,
    some (report.isPartial || decide (0 < rowsWritten))⟩

/-- Nothing is committed between the rows of a report. -/
def insertReportedRows (job : Job V) (obis : String) : Nat → List (ProfileStreamRow V) → Work V Nat
  | rowsWritten, [] => pure rowsWritten
  | rowsWritten, row :: rows => do
    let timestamp ← Program.ofExcept row.timestamp
    Program.change (insertLoadProfileRow job obis timestamp row.values)
    Program.flush
    insertReportedRows job obis (rowsWritten + 1) rows

/-- How many rows were written, if the report is accepted; `meterOf` is what the first query finds. -/
def reportLoadProfileResults (values : Values V) (w : Surroundings V) (meterOf : String → Option Int)
    (report : LoadProfileReport V) : Work V (Option Nat) := do
  let _ ← Program.query
  match meterOf report.serial with
  | none => pure none
  | some meterId => do
    let db ← Program.query
    match db.jobs.get report.jobId with
    | none => pure none
    | some job =>
      if job.meterId = meterId ∧ job.status = .running then do
        let rowsWritten ← insertReportedRows job report.obis 0 report.rows
        let job ← finalize values w report.jobId job
          (.loadProfile report.obis rowsWritten (report.errorInfo rowsWritten)) []
        job.scheduledJobRunId.elim (pure ()) (maybeFinalizeScheduledJobRun w report.jobId job)
        pure (some rowsWritten)
      else pure none

/-! ## What is stored -/

/-- The buffer a job asks for. -/
def Payload.profileObis (payload : Payload) : String :=
  (payload.obis.filter (· ≠ "")).getD defaultLoadProfileObis

/-- The rows a job asks for; `inRange` is how the Gateway reads the ends of the range. -/
def Wanted (inRange : String → String → Int → Prop) (job : Job V) (row : LoadProfileData V) : Prop :=
  row.meterId = job.meterId ∧ row.obisCode = job.payload.profileObis ∧
    ∃ fromIso ∈ job.payload.fromIso, ∃ toIso ∈ job.payload.toIso, inRange fromIso toIso row.timestamp

section Store

variable {truth : LoadProfileData V → Prop} {inRange : String → String → Int → Prop}
  {db db' : WorkerDb V} {jobId : Int} {job job' : Job V}

structure Profiles (truth : LoadProfileData V → Prop) (inRange : String → String → Int → Prop)
    (db : WorkerDb V) : Prop where
  unique : (db.loadProfile.map (·.key)).Nodup
  truthful : ∀ row ∈ db.loadProfile, truth row
  complete : ∀ jobId job, db.jobs.get jobId = some job → job.jobType = .readLoadProfile →
    job.status = .succeeded → ∀ row, truth row → Wanted inRange job row → row ∈ db.loadProfile

/-- Jobs stay, and ask for what they asked for. -/
def SameJobs (db db' : WorkerDb V) : Prop :=
  ∀ jobId job, db.jobs.get jobId = some job → ∃ job', db'.jobs.get jobId = some job' ∧ job.Same job'

/-- Where the table of jobs is the same, the jobs are. -/
theorem SameJobs.of_eq (h : db'.jobs = db.jobs) : SameJobs db db' :=
  fun _ job hjob => ⟨job, h ▸ hjob, .refl job⟩

/-- Jobs that stay over two stretches stay over both. -/
theorem SameJobs.trans {db'' : WorkerDb V} (h : SameJobs db db') (h' : SameJobs db' db'') :
    SameJobs db db'' := by
  intro jobId job hjob
  obtain ⟨job', hjob', hsame⟩ := h jobId job hjob
  obtain ⟨job'', hjob'', hsame'⟩ := h' jobId job' hjob'
  exact ⟨job'', hjob'', hsame.trans hsame'⟩

/-- What sessions rely on, and keep. -/
def profileContract (truth : LoadProfileData V → Prop) (inRange : String → String → Int → Prop) :
    Contract (WorkerDb V) where
  good := Profiles truth inRange
  moves db db' := Appends db db' ∧ SameJobs db db'
  refl db := ⟨.refl db, .of_eq rfl⟩
  trans h h' := ⟨h.1.trans h'.1, h.2.trans h'.2⟩

/-- What a job asks for is in its payload, so it asks for the same rows for good. -/
theorem Wanted.of_same (h : job.Same job') {row : LoadProfileData V} :
    Wanted inRange job' row ↔ Wanted inRange job row := by
  unfold Wanted
  rw [h.meterId, h.payload]

/-! ## Writes -/

/-- An update of a row leaves the job who it is. -/
theorem SameJobs.update {g : Job V → Job V} (hsame : ∀ job : Job V, job.Same (g job)) :
    SameJobs db { db with jobs := db.jobs.update jobId g } := by
  intro jobId' job hjob
  by_cases h : jobId' = jobId
  · subst h
    refine ⟨g job, ?_, hsame job⟩
    rw [Table.get_update_self, hjob, Option.map_some]
  · exact ⟨job, by rw [Table.get_update_ne _ h, hjob], .refl job⟩

/-- A job that asks for a profile may be marked as done if its rows are there. -/
theorem Profiles.update (h : Profiles truth inRange db) {g : Job V → Job V}
    (hsame : ∀ job : Job V, job.Same (g job))
    (hdone : ∀ job, db.jobs.get jobId = some job → job.jobType = .readLoadProfile →
      (g job).status = .succeeded → job.status = .succeeded ∨
        ∀ row, truth row → Wanted inRange job row → row ∈ db.loadProfile) :
    Profiles truth inRange { db with jobs := db.jobs.update jobId g } where
  unique := h.unique
  truthful := h.truthful
  complete := by
    intro jobId' job' hjob' hasked hsucceeded row hrow hwanted
    by_cases hid : jobId' = jobId
    · subst hid
      rw [Table.get_update_self] at hjob'
      obtain ⟨job, hjob, rfl⟩ := Option.map_eq_some_iff.mp hjob'
      rw [Wanted.of_same (hsame job)] at hwanted
      rw [(hsame job).jobType] at hasked
      rcases hdone job hjob hasked hsucceeded with hbefore | hthere
      · exact h.complete jobId' job hjob hasked hbefore row hrow hwanted
      · exact hthere row hrow hwanted
    · rw [Table.get_update_ne _ hid] at hjob'
      exact h.complete jobId' job' hjob' hasked hsucceeded row hrow hwanted

/-- A write to other columns or other tables keeps the profiles as they are. -/
theorem Profiles.other (h : Profiles truth inRange db) (hjobs : db'.jobs = db.jobs)
    (hprofile : db'.loadProfile = db.loadProfile) : Profiles truth inRange db' where
  unique := by rw [hprofile]; exact h.unique
  truthful := by rw [hprofile]; exact h.truthful
  complete := by rw [hprofile, hjobs]; exact h.complete

/-- Inserting a row that is true keeps the profiles true, complete and without duplicates. -/
theorem Profiles.insert (h : Profiles truth inRange db) {obis : String} {timestamp : Int}
    {row : ProfileValues V} (htruth : truth ⟨job.meterId, obis, timestamp, row⟩) :
    Profiles truth inRange (insertLoadProfileRow job obis timestamp row db) := by
  rw [insertLoadProfileRow_eq]
  refine ⟨nodup_insertNew h.unique _, fun r hr => ?_, ?_⟩
  · rcases mem_of_mem_insertNew hr with hr | rfl
    · exact h.truthful r hr
    · exact htruth
  · intro jobId job hjob hasked hsucceeded r hr hwanted
    exact (prefix_insertNew _ _ _).subset
      (h.complete jobId job hjob hasked hsucceeded r hr hwanted)

/-- A write that leaves jobs and profiles alone may be staged. -/
theorem stages_other {f : WorkerDb V → WorkerDb V} {base : WorkerDb V} (happends : AppendingWrite f)
    (hjobs : ∀ db, (f db).jobs = db.jobs) (hprofile : ∀ db, (f db).loadProfile = db.loadProfile) :
    (profileContract truth inRange).Stages base f :=
  fun db hdb _ => ⟨hdb.other (hjobs db) (hprofile db), happends db, .of_eq (hjobs db)⟩

/-- Writes to runs, batches and notifications leave jobs and profiles alone, so they may be staged.
    -/
theorem ParentWrite.stages {f : WorkerDb V → WorkerDb V} (h : ParentWrite V f) {base : WorkerDb V} :
    (profileContract truth inRange).Stages base f :=
  stages_other h.appends (by cases h <;> exact fun _ => rfl) (by cases h <;> exact fun _ => rfl)

/-- An update of a job may be staged if it marks none as done. -/
theorem stages_update {g : Job V → Job V} {base : WorkerDb V} (hsame : ∀ job : Job V, job.Same (g job))
    (hdone : ∀ job, (g job).status = .succeeded → job.status = .succeeded) :
    (profileContract truth inRange).Stages base
      fun db => { db with jobs := db.jobs.update jobId g } :=
  fun db hdb _ => ⟨hdb.update hsame fun job _ _ h => .inl (hdone job h),
    appendingWrite_job jobId g db, .update hsame⟩

/-- Marking a job as failed marks none as done, so it may be staged. -/
theorem stages_failJob (e : WorkerError) {base : WorkerDb V} :
    (profileContract truth inRange).Stages base (WorkerDb.failJob w jobId e) :=
  stages_update (fun _ => ⟨rfl, rfl, rfl, rfl, rfl⟩) fun _ h => by cases h

/-- Marking a job as started marks none as done, so it may be staged. -/
theorem stages_startJob {base : WorkerDb V} :
    (profileContract truth inRange).Stages base (WorkerDb.startJob w jobId) :=
  stages_update (fun _ => ⟨rfl, rfl, rfl, rfl, rfl⟩) fun _ h => by cases h

/-- The table has the job, as its session has it. -/
def Has (jobId : Int) (job : Job V) (db : WorkerDb V) : Prop :=
  ∃ row, db.jobs.get jobId = some row ∧ job.Same row

/-- The table goes on having a job, as who it was. -/
theorem Has.moved (h : Has jobId job db) (hmoves : (profileContract truth inRange).moves db db') :
    Has jobId job db' := by
  obtain ⟨row, hrow, hsame⟩ := h
  obtain ⟨row', hrow', hsame'⟩ := hmoves.2 jobId row hrow
  exact ⟨row', hrow', hsame.trans hsame'⟩

/-- At a job that asks for no profile every write of a worker keeps the contract. -/
theorem WorkerWrite.stages {f : WorkerDb V → WorkerDb V} (h : WorkerWrite values w jobId job f)
    {base : WorkerDb V} (hjob : Has jobId job base) (hother : job.jobType ≠ .readLoadProfile) :
    (profileContract truth inRange).Stages base f := by
  have happends := h.appends
  cases h with
  | progressed obis rowsWritten =>
    exact stages_update (fun _ => ⟨rfl, rfl, rfl, rfl, rfl⟩) fun _ h => h
  | ended jobEnd =>
    intro db hdb hmoves
    have hsame := fun row : Job V => (jobEnd.apply_spec values w.now row).1
    refine ⟨hdb.update hsame fun row hrow hasked _ => ?_, happends db, .update hsame⟩
    obtain ⟨row', hrow', hsame'⟩ := hjob.moved hmoves
    obtain rfl : row' = row := Option.some.inj (hrow'.symm.trans hrow)
    exact absurd (hsame'.jobType ▸ hasked) hother
  | failed e => exact stages_failJob e
  | recorded | attempted => exact stages_other happends (fun _ => rfl) fun _ => rfl
  | profileRow hasked => exact absurd hasked hother
  | parent hparent => exact hparent.stages

/-! ## Programs -/

/-- What a stream shows of a buffer is true, and all that was asked for if it came to its end. -/
structure Faithful (truth : LoadProfileData V → Prop) (inRange : String → String → Int → Prop)
    (job : Job V) (obis : String) (rows : List (ProfileStreamRow V)) (finished : Prop) : Prop where
  truthful : ∀ r ∈ rows, ∀ t, r.timestamp = .ok t → truth ⟨job.meterId, obis, t, r.values⟩
  complete : finished → ∀ row, truth row → Wanted inRange job row → ∃ r ∈ rows,
    r.timestamp = .ok row.timestamp ∧ row = ⟨job.meterId, obis, row.timestamp, r.values⟩

/-- Faithfulness is about what a job asks for, not about how far it has come. -/
theorem Faithful.of_same {obis : String} {rows : List (ProfileStreamRow V)} {finished : Prop}
    (h : Faithful truth inRange job obis rows finished) (hsame : job.Same job') :
    Faithful truth inRange job' obis rows finished := by
  refine ⟨?_, fun hfinished row hrow hwanted => ?_⟩
  · rw [hsame.meterId]
    exact h.truthful
  · rw [hsame.meterId]
    exact h.complete hfinished row hrow ((Wanted.of_same hsame).mp hwanted)

/-- A row the loop over a stream writes. -/
def Streamed (job : Job V) (obis : String) (rows : List (ProfileStreamRow V))
    (row : LoadProfileData V) : Prop :=
  ∃ r ∈ rows, r.timestamp = .ok row.timestamp ∧ row = ⟨job.meterId, obis, row.timestamp, r.values⟩

/-- A session has come here from `start` and may commit, which leaves the rows of `S`. -/
structure Wrote (truth : LoadProfileData V → Prop) (inRange : String → String → Int → Prop)
    (start : WorkerDb V) (S : LoadProfileData V → Prop) (base : WorkerDb V)
    (pending : WorkerDb V → WorkerDb V) : Prop where
  started : (profileContract truth inRange).moves start base
  stages : (profileContract truth inRange).Stages base pending
  there : ∀ db, Profiles truth inRange db → (profileContract truth inRange).moves base db →
    ∀ row, S row → row ∈ (pending db).loadProfile

variable {start base : WorkerDb V} {S S' : LoadProfileData V → Prop}
  {pending : WorkerDb V → WorkerDb V}

/-- Who has written more rows has written fewer. -/
theorem Wrote.mono (h : Wrote truth inRange start S base pending) (hS : ∀ row, S' row → S row) :
    Wrote truth inRange start S' base pending :=
  ⟨h.started, h.stages, fun db hdb hmoves row hrow => h.there db hdb hmoves row (hS row hrow)⟩

/-- What was written on top of one state is written on top of every later one. -/
theorem Wrote.later (h : Wrote truth inRange start S base pending)
    (hmoves : (profileContract truth inRange).moves base db) :
    Wrote truth inRange start S db pending :=
  ⟨(profileContract truth inRange).trans h.started hmoves, h.stages.later hmoves,
    fun db' hdb' hmoves' => h.there db' hdb' ((profileContract truth inRange).trans hmoves hmoves')⟩

/-- Writing more does not take back what was written: rows of a profile are never taken away. -/
theorem Wrote.stage (h : Wrote truth inRange start S base pending) {f : WorkerDb V → WorkerDb V}
    (hf : (profileContract truth inRange).Stages base f) :
    Wrote truth inRange start S base fun db => f (pending db) := by
  refine ⟨h.started, h.stages.write hf, fun db hdb hmoves row hrow => ?_⟩
  obtain ⟨hgood, hmoves'⟩ := h.stages db hdb hmoves
  have hlast := hf _ hgood ((profileContract truth inRange).trans hmoves hmoves')
  exact hlast.2.1.loadProfile.subset (h.there db hdb hmoves row hrow)

/-- Behind a commit the rows are there for good. -/
theorem Wrote.committed (h : Wrote truth inRange start S base pending)
    (hdb : Profiles truth inRange db) (hmoves : (profileContract truth inRange).moves base db) :
    Wrote truth inRange start S (pending db) id := by
  obtain ⟨_, hmoves'⟩ := h.stages db hdb hmoves
  have hreached := (profileContract truth inRange).trans hmoves hmoves'
  refine ⟨(profileContract truth inRange).trans h.started hreached, Contract.stages_id _, ?_⟩
  intro db' _ hmoves'' row hrow
  exact hmoves''.1.loadProfile.subset (h.there db hdb hmoves row hrow)

/-- One row more: it is written, or the same row was there before. -/
theorem Wrote.insert (hagree : Agree LoadProfileData.key truth)
    (h : Wrote truth inRange start S base pending) {obis : String} {timestamp : Int}
    {row : ProfileValues V} (htruth : truth ⟨job.meterId, obis, timestamp, row⟩) :
    Wrote truth inRange start (fun r => S r ∨ r = ⟨job.meterId, obis, timestamp, row⟩) base
      fun db => insertLoadProfileRow job obis timestamp row (pending db) := by
  have hjobs : ∀ db : WorkerDb V, (insertLoadProfileRow job obis timestamp row db).jobs = db.jobs :=
    keepsJobs_insertLoadProfileRow obis timestamp row
  have hstage : (profileContract truth inRange).Stages base
      (insertLoadProfileRow job obis timestamp row) := fun db hdb _ =>
    ⟨hdb.insert htruth, appendingWrite_insertLoadProfileRow job obis timestamp row db,
      .of_eq (hjobs db)⟩
  refine ⟨h.started, h.stages.write hstage, fun db hdb hmoves r hr => ?_⟩
  obtain ⟨hgood, _⟩ := h.stages db hdb hmoves
  rw [insertLoadProfileRow_eq]
  exact (mem_insertNew hagree hgood.truthful htruth).mpr (hr.imp (h.there db hdb hmoves r) id)

/-- A key that is missing ends the handler before it has written anything more. -/
theorem keeps_require {α : Type} {key : String} {value : Option α}
    {Q : α → WorkerDb V → (WorkerDb V → WorkerDb V) → Prop}
    {E : WorkerError → WorkerDb V → (WorkerDb V → WorkerDb V) → Prop}
    (hsome : ∀ a, value = some a → Q a base pending) (hnone : ∀ e, E e base pending) :
    (require key value : Work V α).Keeps (profileContract truth inRange) Q E base pending := by
  cases value with
  | some a => exact hsome a rfl
  | none => exact hnone _

/-- A job may be marked as done by a session that has written its rows. -/
theorem Wrote.ended (hjob : Has jobId job base) (h : Wrote truth inRange start S base pending)
    {jobEnd : JobEnd V} (hdone : ∀ row : Job V, (jobEnd.apply values w.now row).1.status = .succeeded →
      ∀ r, truth r → Wanted inRange job r → S r) :
    Wrote truth inRange start S base fun db =>
      { pending db with
        jobs := (pending db).jobs.update jobId fun row => (jobEnd.apply values w.now row).1 } := by
  have hsame := fun row : Job V => (jobEnd.apply_spec values w.now row).1
  refine ⟨h.started, fun db hdb hmoves => ?_, h.there⟩
  obtain ⟨hgood, hpending⟩ := h.stages db hdb hmoves
  have hreached := (profileContract truth inRange).trans hmoves hpending
  refine ⟨hgood.update hsame fun row hrow _ hsucceeded => .inr fun r hr hwanted => ?_,
    (profileContract truth inRange).trans hpending ⟨appendingWrite_job jobId _ _, .update hsame⟩⟩
  obtain ⟨row', hrow', hsame'⟩ := hjob.moved hreached
  obtain rfl : row' = row := Option.some.inj (hrow'.symm.trans hrow)
  exact h.there db hdb hmoves r (hdone row' hsucceeded r hr ((Wanted.of_same hsame').mp hwanted))

/-- The end of a job may say it has succeeded if every row it asks for is among those that were
    written. -/
theorem keeps_finalize (hjob : Has jobId job base) (h : Wrote truth inRange start S base pending)
    {jobEnd : JobEnd V} (hdone : ∀ row : Job V, (jobEnd.apply values w.now row).1.status = .succeeded →
      ∀ r, truth r → Wanted inRange job r → S r) :
    (finalize values w jobId job jobEnd []).Keeps (profileContract truth inRange)
      (fun _ => Wrote truth inRange start S) (fun _ => Wrote truth inRange start S) base pending := by
  have hnone : ∀ entry ∈ ([] : List AuditLog), entry.action ≠ "meter.write_parameter" := by simp
  have hrecorded : WorkerWrite values w jobId job _ := .recorded jobEnd hnone
  have hended := (h.ended hjob hdone).stage
    (stages_other hrecorded.appends (fun _ => rfl) fun _ => rfl)
  refine Program.Keeps.bind (Program.keeps_change ?_)
  refine Program.Keeps.bind (Program.keeps_change ?_)
  exact Program.Keeps.bind (Program.keeps_commit hended.stages fun db hdb hmoves =>
    hended.committed hdb hmoves)

/-- The lookup of the meter in front of the handler moves nothing; a job without meter ends as
    failed. -/
theorem keeps_withMeter {rest : Work V (Job V)} (hjob : Has jobId job start)
    (h : ∀ base, (profileContract truth inRange).moves start base →
      rest.Keeps (profileContract truth inRange) (fun _ => Wrote truth inRange start fun _ => False)
        (fun _ => Wrote truth inRange start fun _ => False) base id) :
    (withMeter values w jobId job rest).Keeps (profileContract truth inRange)
      (fun _ => Wrote truth inRange start fun _ => False)
      (fun _ => Wrote truth inRange start fun _ => False) start id := by
  refine Program.Keeps.bind (Program.keeps_query fun db hdb hmoves => ?_)
  split
  · refine keeps_finalize (hjob.moved hmoves) ⟨hmoves, Contract.stages_id _, ?_⟩ ?_
    · exact fun _ _ _ _ h => h.elim
    · exact fun row h => by cases h
  · exact h db hmoves

/-- The rows of a stream are the first one and those of its rest. -/
theorem streamed_cons {obis : String} {timestamp : Int} {row : ProfileStreamRow V}
    {rows : List (ProfileStreamRow V)} (htimestamp : row.timestamp = .ok timestamp)
    {r : LoadProfileData V} (h : S r ∨ Streamed job obis (row :: rows) r) :
    (S r ∨ r = ⟨job.meterId, obis, timestamp, row.values⟩) ∨ Streamed job obis rows r := by
  rcases h with h | ⟨s, hs, htime, hr⟩
  · exact .inl (.inl h)
  · rcases List.mem_cons.mp hs with rfl | hs
    · rw [htimestamp] at htime
      refine .inl (.inr ?_)
      rw [hr, Except.ok.inj htime]
    · exact .inr ⟨s, hs, htime, hr⟩

/-- **The loop over a stream.**  Row by row, with a commit behind every few of them: what has been
    streamed is there for good, even if the loop breaks off. -/
theorem keeps_insertProfileRows (hagree : Agree LoadProfileData.key truth) (obis : String)
    (rows : List (ProfileStreamRow V))
    (htruth : ∀ r ∈ rows, ∀ t, r.timestamp = .ok t → truth ⟨job.meterId, obis, t, r.values⟩) :
    ∀ rowsWritten base pending S, Wrote truth inRange start S base pending →
      (insertProfileRows jobId job obis rowsWritten rows).Keeps (profileContract truth inRange)
        (fun _ => Wrote truth inRange start fun row => S row ∨ Streamed job obis rows row)
        (fun _ => Wrote truth inRange start S) base pending := by
  induction rows with
  | nil =>
    intro rowsWritten base pending S h
    exact h.mono fun row hrow => hrow.resolve_right fun ⟨r, hr, _⟩ => by cases hr
  | cons row rows ih =>
    intro rowsWritten base pending S h
    have hrest := fun r hr => htruth r (List.mem_cons_of_mem row hr)
    refine Program.Keeps.bind (Program.keeps_ofExcept (fun timestamp htimestamp => ?_) fun _ _ => h)
    have hinserted := h.insert hagree (htruth row (List.mem_cons_self ..) timestamp htimestamp)
    -- what the loop over the rest leaves is what this one leaves
    have hgoOn : ∀ base pending, Wrote truth inRange start
        (fun r => S r ∨ r = ⟨job.meterId, obis, timestamp, row.values⟩) base pending →
        (insertProfileRows jobId job obis (rowsWritten + 1) rows).Keeps (profileContract truth inRange)
          (fun _ => Wrote truth inRange start fun r => S r ∨ Streamed job obis (row :: rows) r)
          (fun _ => Wrote truth inRange start S) base pending := fun base pending h =>
      (ih hrest _ base pending _ h).mono (fun _ _ _ h => h.mono fun _ => streamed_cons htimestamp)
        fun _ _ _ h => h.mono fun _ => .inl
    refine Program.Keeps.bind (Program.keeps_change ?_)
    refine Program.Keeps.bind (Program.keeps_flush fun db hdb hmoves => ?_)
    have hflushed := hinserted.later hmoves
    dsimp only
    split
    · have hstage : (profileContract truth inRange).Stages db fun db => { db with
          jobs := db.jobs.update jobId fun job =>
            { job with result := some (.loadProfile obis (rowsWritten + 1)) } } :=
        stages_update (fun _ => ⟨rfl, rfl, rfl, rfl, rfl⟩) fun _ h => h
      refine Program.Keeps.bind (Program.keeps_change ?_)
      exact Program.Keeps.bind (Program.keeps_commit (hflushed.stage hstage).stages
        fun db' hdb' hmoves' => hgoOn _ _ ((hflushed.stage hstage).committed hdb' hmoves'))
    · exact hgoOn _ _ hflushed

/-- **The loop over a report.**  The same rows, with no commit among them. -/
theorem keeps_insertReportedRows (hagree : Agree LoadProfileData.key truth) (obis : String)
    (rows : List (ProfileStreamRow V))
    (htruth : ∀ r ∈ rows, ∀ t, r.timestamp = .ok t → truth ⟨job.meterId, obis, t, r.values⟩) :
    ∀ rowsWritten base pending S, Wrote truth inRange start S base pending →
      (insertReportedRows job obis rowsWritten rows).Keeps (profileContract truth inRange)
        (fun _ => Wrote truth inRange start fun row => S row ∨ Streamed job obis rows row)
        (fun _ => Wrote truth inRange start S) base pending := by
  induction rows with
  | nil =>
    intro rowsWritten base pending S h
    exact h.mono fun row hrow => hrow.resolve_right fun ⟨r, hr, _⟩ => by cases hr
  | cons row rows ih =>
    intro rowsWritten base pending S h
    have hrest := fun r hr => htruth r (List.mem_cons_of_mem row hr)
    refine Program.Keeps.bind (Program.keeps_ofExcept (fun timestamp htimestamp => ?_) fun _ _ => h)
    have hinserted := h.insert hagree (htruth row (List.mem_cons_self ..) timestamp htimestamp)
    refine Program.Keeps.bind (Program.keeps_change ?_)
    refine Program.Keeps.bind (Program.keeps_flush fun db hdb hmoves => ?_)
    exact (ih hrest (rowsWritten + 1) db _ _ (hinserted.later hmoves)).mono
      (fun _ _ _ h => h.mono fun _ => streamed_cons htimestamp) fun _ _ _ h => h.mono fun _ => .inl

/-- Only a stream that has come to its end leaves no error. -/
theorem errorInfo_none {rowsWritten : Nat} {profileEnd : ProfileEnd}
    (h : errorInfo rowsWritten profileEnd = .ok none) : profileEnd = .finished := by
  cases profileEnd with
  | finished => rfl
  | loadProfileError code message isPartial => cases h
  | raised e => cases h

/-- The end of a job that asks for a profile, done or not. -/
theorem done_loadProfile {obis : String} {rowsWritten : Nat} {error : Option JobError} {row : Job V}
    (h : ((JobEnd.loadProfile obis rowsWritten error : JobEnd V).apply values w.now row).1.status =
      .succeeded) : error = none := by
  rcases error with _ | error
  · rfl
  · rw [JobEnd.apply, finalizeReadLoadProfileJob] at h
    dsimp only at h
    split at h <;> cases h

/-- **The handler.**  It reads the stream, stores its rows and ends the job as the stream has ended.
    -/
theorem keeps_runReadLoadProfile (hagree : Agree LoadProfileData.key truth)
    (hjob : Has jobId job start)
    (hfaithful : Faithful truth inRange job job.payload.profileObis w.profileRows
      (w.profileEnd = .finished)) :
    (runReadLoadProfile values w jobId job).Keeps (profileContract truth inRange)
      (fun _ => Wrote truth inRange start fun _ => False)
      (fun _ => Wrote truth inRange start fun _ => False) start id := by
  refine keeps_withMeter hjob fun base hmoves => ?_
  have hnone : Wrote truth inRange start (fun _ => False) base id :=
    ⟨hmoves, Contract.stages_id _, fun _ _ _ _ h => h.elim⟩
  refine Program.Keeps.bind (Program.keeps_ofExcept (fun _ _ => ?_) fun _ _ => hnone)
  refine Program.Keeps.bind (keeps_require (fun _ _ => ?_) fun _ => hnone)
  refine Program.Keeps.bind (keeps_require (fun _ _ => ?_) fun _ => hnone)
  refine Program.Keeps.bind ((keeps_insertProfileRows hagree job.payload.profileObis w.profileRows
    hfaithful.truthful 0 base id _ hnone).mono (fun rowsWritten base' pending h => ?_)
    fun _ _ _ h => h)
  have hlast : ∀ _ : WorkerError, Wrote truth inRange start (fun _ => False) base' pending :=
    fun _ => h.mono fun _ h => h.elim
  refine Program.Keeps.bind (Program.keeps_ofExcept (fun error herror => ?_) fun e _ => hlast e)
  refine (keeps_finalize (hjob.moved h.started) h fun row hsucceeded r hr hwanted => ?_).mono
    (fun _ _ _ h => h.mono fun _ h => h.elim) fun _ _ _ h => h.mono fun _ h => h.elim
  rw [done_loadProfile hsucceeded] at herror
  exact .inr (hfaithful.complete (errorInfo_none herror) r hr hwanted)

/-- What follows the end of a job, from wherever its session has come. -/
theorem keeps_parents {α : Type} {p : Work V α} (hp : p.Writes (ParentWrite V))
    (h : Wrote truth inRange start S base pending) :
    p.Keeps (profileContract truth inRange) (fun _ _ _ => True) (fun _ _ _ => True) base pending :=
  (hp.keeps (fun _ hf => hf.stages) ((profileContract truth inRange).refl base) h.stages).mono
    (fun _ _ _ _ => trivial) fun _ _ _ _ => trivial

/-- **A worker at a job**: of any type, whatever the meter answers and wherever it breaks off. -/
theorem keeps_processClaimed (hagree : Agree LoadProfileData.key truth) (hjob : Has jobId job start)
    (hfaithful : job.jobType = .readLoadProfile → Faithful truth inRange job job.payload.profileObis
      w.profileRows (w.profileEnd = .finished)) :
    (processClaimed values w jobId job).Keeps (profileContract truth inRange)
      (fun _ _ _ => True) (fun _ _ _ => True) start id := by
  by_cases hasked : job.jobType = .readLoadProfile
  · refine Program.Keeps.bind (Program.Keeps.tryExcept ?_)
    have hhandler : handleJob values w jobId job = runReadLoadProfile values w jobId job := by
      rw [handleJob, hasked]
      rfl
    rw [hhandler]
    refine (keeps_runReadLoadProfile hagree hjob (hfaithful hasked)).mono
      (fun _ _ _ h => keeps_parents writes_finalizeParents h) fun e base pending h => ?_
    have hfailed := h.stage (f := WorkerDb.failJob w jobId e) (stages_failJob e)
    refine Program.Keeps.bind (Program.keeps_change ?_)
    exact Program.Keeps.bind (Program.keeps_commit hfailed.stages fun db hdb hmoves =>
      keeps_parents writes_finalizeParents (hfailed.committed hdb hmoves))
  · exact (writes_processClaimed.keeps (fun _ hf => hf.stages hjob hasked)
      ((profileContract truth inRange).refl start) (Contract.stages_id start)).mono
      (fun _ _ _ _ => trivial) fun _ _ _ _ => trivial

/-- Claiming a job keeps the contract: it marks it as started. -/
theorem keeps_claimNextJob :
    (claimNextJob w : Work V (Option (Int × Job V))).Keeps (profileContract truth inRange)
      (fun _ _ _ => True) (fun _ _ _ => True) start id :=
  (writes_claimNextJob.keeps (by rintro f ⟨jobId, rfl⟩; exact stages_startJob)
    ((profileContract truth inRange).refl start) (Contract.stages_id start)).mono
    (fun _ _ _ _ => trivial) fun _ _ _ _ => trivial

/-- **A report** of a gateway keeps the profiles true and complete, if what it brings is faithful.
    -/
theorem keeps_reportLoadProfileResults (hagree : Agree LoadProfileData.key truth)
    {meterOf : String → Option Int} {report : LoadProfileReport V} (hjob : Has report.jobId job start)
    (hfaithful : Faithful truth inRange job report.obis report.rows (report.ok = true)) :
    (reportLoadProfileResults values w meterOf report).Keeps (profileContract truth inRange)
      (fun _ _ _ => True) (fun _ _ _ => True) start id := by
  refine Program.Keeps.bind (Program.keeps_query fun db₀ hdb₀ hmoves₀ => ?_)
  split
  · exact trivial
  · refine Program.Keeps.bind (Program.keeps_query fun db hdb hmoves => ?_)
    split
    · exact trivial
    · rename_i row hrow
      split
      · have hhere : Has report.jobId row db := ⟨row, hrow, .refl row⟩
        obtain ⟨row', hrow', hsame⟩ :=
          hjob.moved ((profileContract truth inRange).trans hmoves₀ hmoves)
        obtain rfl : row' = row := Option.some.inj (hrow'.symm.trans hrow)
        replace hfaithful := hfaithful.of_same hsame
        have hnone : Wrote truth inRange db (fun _ => False) db id :=
          ⟨(profileContract truth inRange).refl db, Contract.stages_id _, fun _ _ _ _ h => h.elim⟩
        refine Program.Keeps.bind ((keeps_insertReportedRows hagree report.obis report.rows
          hfaithful.truthful 0 db id _ hnone).mono (fun rowsWritten base pending h => ?_)
          fun _ _ _ _ => trivial)
        refine Program.Keeps.bind ((keeps_finalize (hhere.moved h.started) h
          fun row hsucceeded r hr hwanted => ?_).mono (fun job base pending h => ?_)
          fun _ _ _ _ => trivial)
        · have hok : report.ok = true := by
            have hnone := done_loadProfile hsucceeded
            rw [LoadProfileReport.errorInfo] at hnone
            by_contra hbad
            rw [if_neg hbad] at hnone
            cases hnone
          exact .inr (hfaithful.complete hok r hr hwanted)
        · refine Program.Keeps.bind ((keeps_parents ?_ h).mono (fun _ _ _ _ => trivial)
            fun _ _ _ _ => trivial)
          rcases job.scheduledJobRunId with _ | runId
          · exact trivial
          · exact writes_maybeFinalizeScheduledJobRun runId
      · exact trivial

end Store

/-! ## Runs -/

section Runs

variable {n : Nat}

/-- What happens to the database: claims, workers at their jobs and reports of the Gateway, all at
    once, sweeps, and writes of others.  What the Gateway hands on is faithful. -/
inductive ProfileStep (values : Values V) (truth : LoadProfileData V → Prop)
    (inRange : String → String → Int → Prop) (s : Shared WorkerError (WorkerDb V) n) :
    SharedAction WorkerError (WorkerDb V) n → Prop
  | claim (k : Fin n) (w : Surroundings V) :
    ProfileStep values truth inRange s (.start k (claimNextJob w >>= fun _ => pure ()))
  | process (k : Fin n) (w : Surroundings V) (jobId : Int) (job : Job V)
      (claimed : Has jobId job s.stored)
      (faithful : job.jobType = .readLoadProfile → Faithful truth inRange job job.payload.profileObis
        w.profileRows (w.profileEnd = .finished)) :
    ProfileStep values truth inRange s (.start k (processClaimed values w jobId job))
  | report (k : Fin n) (w : Surroundings V) (meterOf : String → Option Int) (job : Job V)
      (report : LoadProfileReport V) (claimed : Has report.jobId job s.stored)
      (faithful : Faithful truth inRange job report.obis report.rows (report.ok = true)) :
    ProfileStep values truth inRange s
      (.start k (reportLoadProfileResults values w meterOf report >>= fun _ => pure ()))
  | act (k : Fin n) : ProfileStep values truth inRange s (.act k)
  | requeue (cutoff : Int) :
    ProfileStep values truth inRange s (.elsewhere (requeueStaleRunningJobs cutoff s.stored))
  | elsewhere (db : WorkerDb V) (profiles : Profiles truth inRange db) (appends : Appends s.stored db)
      (same : SameJobs s.stored db) : ProfileStep values truth inRange s (.elsewhere db)

/-- The sweep puts jobs back in the queue: no profile is touched, and none is marked as done. -/
theorem requeueStaleRunningJobs_keeps {truth : LoadProfileData V → Prop}
    {inRange : String → String → Int → Prop} {db : WorkerDb V} (cutoff : Int)
    (h : Profiles truth inRange db) : Profiles truth inRange (requeueStaleRunningJobs cutoff db) ∧
      (profileContract truth inRange).moves db (requeueStaleRunningJobs cutoff db) := by
  have hsame : ∀ job : Job V, job.Same (if isStale cutoff job then job.requeue else job) := by
    intro job
    split
    · exact ⟨rfl, rfl, rfl, rfl, rfl⟩
    · exact .refl job
  refine ⟨⟨h.unique, h.truthful, ?_⟩, appendingWrite_other (f := requeueStaleRunningJobs cutoff)
    (fun _ => rfl) (fun _ => rfl) (fun _ => rfl) (fun _ => rfl) (fun _ => List.prefix_refl _)
    (fun _ => rfl) db, ?_⟩
  · intro jobId job' hjob' hasked hsucceeded row hrow hwanted
    rw [requeueStaleRunningJobs, Table.get_modify] at hjob'
    obtain ⟨job, hjob, rfl⟩ := Option.map_eq_some_iff.mp hjob'
    rw [Wanted.of_same (hsame job)] at hwanted
    rw [(hsame job).jobType] at hasked
    refine h.complete jobId job hjob hasked ?_ row hrow hwanted
    split at hsucceeded
    · cases hsucceeded
    · exact hsucceeded
  · intro jobId job hjob
    refine ⟨_, ?_, hsame job⟩
    rw [requeueStaleRunningJobs, Table.get_modify, hjob, Option.map_some]

/-- Every step of a run fits the contract, each program by its lemma. -/
theorem ProfileStep.fits {truth : LoadProfileData V → Prop} {inRange : String → String → Int → Prop}
    (hagree : Agree LoadProfileData.key truth) {s : Shared WorkerError (WorkerDb V) n}
    {a : SharedAction WorkerError (WorkerDb V) n} (hstored : Profiles truth inRange s.stored)
    (h : ProfileStep values truth inRange s a) : Fits (profileContract truth inRange) s a := by
  cases h with
  | claim k w => exact Program.Keeps.bind (keeps_claimNextJob.mono (fun _ _ _ h => h) fun _ _ _ h => h)
  | process k w jobId job claimed faithful => exact keeps_processClaimed hagree claimed faithful
  | report k w meterOf job report claimed faithful =>
    exact Program.Keeps.bind (keeps_reportLoadProfileResults hagree claimed faithful)
  | act k => trivial
  | requeue cutoff => exact requeueStaleRunningJobs_keeps cutoff hstored
  | elsewhere db profiles appends same => exact ⟨profiles, appends, same⟩

/-- **The run.**  What one step keeps, all of them do, in any interleaving. -/
theorem profileRun_keeps {D : Database WorkerError (WorkerDb V)} {truth : LoadProfileData V → Prop}
    {inRange : String → String → Int → Prop} (hagree : Agree LoadProfileData.key truth)
    {s t : Shared WorkerError (WorkerDb V) n}
    {actions : List (SharedAction WorkerError (WorkerDb V) n)} (hidle : ∀ k, s.clients k = .idle)
    (hstart : Profiles truth inRange s.stored)
    (hrun : Run (Shared.step D) (ProfileStep values truth inRange) s actions t) :
    Profiles truth inRange t.stored ∧ (profileContract truth inRange).moves s.stored t.stored :=
  run_keeps (C := profileContract truth inRange) hidle hstart (fun h => ProfileStep.fits hagree h) hrun

/-- **All sessions.**  Whatever the database refuses and however often an attempt breaks off and is
    taken up again: no row comes twice, every row is the meter's, a job that has succeeded has left
    every row of the range it asks for, and nothing that was recorded is taken back. -/
theorem profiles_complete (values : Values V) (D : Database WorkerError (WorkerDb V))
    (truth : LoadProfileData V → Prop) (inRange : String → String → Int → Prop)
    (hagree : Agree LoadProfileData.key truth) (s t : Shared WorkerError (WorkerDb V) n)
    (actions : List (SharedAction WorkerError (WorkerDb V) n)) (hidle : ∀ k, s.clients k = .idle)
    (hstart : Profiles truth inRange s.stored)
    (hrun : Run (Shared.step D) (ProfileStep values truth inRange) s actions t) :
    Profiles truth inRange t.stored ∧ Appends s.stored t.stored ∧ SameJobs s.stored t.stored :=
  profileRun_keeps hagree hidle hstart hrun

/-- A buffer of two rows. -/
def twoRows : List (LoadProfileData (List Char)) :=
  [⟨7, defaultLoadProfileObis, 10, .list [['1']]⟩, ⟨7, defaultLoadProfileObis, 20, .list [['2']]⟩]

def streamOf (rows : List (LoadProfileData (List Char))) (profileEnd : ProfileEnd) :
    Surroundings (List Char) :=
  { answering [] with
    profileRows := rows.map fun row => ⟨.ok row.timestamp, row.valuesJson⟩
    profileEnd := profileEnd }

def profileJob : Job (List Char) where
  jobType := .readLoadProfile
  meterId := 7
  payload := { fromIso := some "2026-09-01", toIso := some "2026-09-02" }
  createdAt := 0

/-- A stream of rows of the buffer is faithful, if it comes to its end only with all of them. -/
theorem faithful_streamOf {rows : List (LoadProfileData (List Char))} {profileEnd : ProfileEnd}
    (hrows : ∀ row ∈ rows, row ∈ twoRows) (hall : profileEnd = .finished → rows = twoRows) :
    Faithful (· ∈ twoRows) (fun _ _ _ => True) profileJob profileJob.payload.profileObis
      (streamOf rows profileEnd).profileRows ((streamOf rows profileEnd).profileEnd = .finished) := by
  have hkey : ∀ row ∈ twoRows, row = ⟨profileJob.meterId, profileJob.payload.profileObis,
      row.timestamp, row.valuesJson⟩ := by decide
  refine ⟨fun r hr t ht => ?_, fun hfinished row hrow _ => ?_⟩
  · obtain ⟨row, hrow, rfl⟩ := List.mem_map.mp hr
    obtain rfl := Except.ok.inj ht
    exact hkey row (hrows row hrow) ▸ hrows row hrow
  · refine ⟨_, List.mem_map.mpr ⟨row, ?_, rfl⟩, rfl, hkey row hrow⟩
    rwa [hall hfinished]

def twoIdle : Shared WorkerError (WorkerDb (List Char)) 2 where
  stored := oneJob profileJob
  clients _ := .idle

/-- The meter leaves this worker behind its first row. -/
def leftEarly : Work (List Char) Unit :=
  processClaimed plainTexts (streamOf (twoRows.take 1)
    (.loadProfileError (some "NO_CONNECTION_YET") none true)) 1 profileJob

def leftLate : Work (List Char) Unit :=
  processClaimed plainTexts (streamOf twoRows .finished) 1 profileJob

/-- The second worker begins before the first one gives up. -/
def bothRead (first second : Fin 2) : List (SharedAction WorkerError (WorkerDb (List Char)) 2) :=
  List.replicate 3 (.act second) ++ List.replicate 7 (.act first) ++ List.replicate 5 (.act second)

/-- Two workers at one job that was taken up again. -/
theorem profiles_complete_twoRows : ∃ t, Run (Shared.step nulRefused)
    (ProfileStep plainTexts (· ∈ twoRows) fun _ _ _ => True) twoIdle
    (.start 0 leftEarly :: .start 1 leftLate :: bothRead 0 1) t ∧
    Profiles (· ∈ twoRows) (fun _ _ _ => True) t.stored ∧
    (t.stored.jobs.get 1).map (·.status) = some .succeeded ∧ t.stored.loadProfile = twoRows := by
  have hexec : ((exec (guarded (Shared.step nulRefused) fun _ a => (a matches .act _) = true)
      ((twoIdle.opened 0 leftEarly).opened 1 leftLate) (bothRead 0 1)).map fun t =>
        ((t.stored.jobs.get 1).map (·.status), t.stored.loadProfile)) =
      some (some .succeeded, twoRows) := by decide
  obtain ⟨t, hrun, hlast⟩ := Option.map_eq_some_iff.mp hexec
  simp only [Prod.mk.injEq] at hlast
  have hRun : Run (Shared.step nulRefused) (ProfileStep plainTexts (· ∈ twoRows) fun _ _ _ => True)
      twoIdle (.start 0 leftEarly :: .start 1 leftLate :: bothRead 0 1) t := by
    refine .cons (.process 0 _ 1 profileJob ⟨profileJob, rfl, .refl _⟩ fun _ =>
      faithful_streamOf (by decide) fun h => by cases h) rfl ?_
    refine .cons (.process 1 _ 1 profileJob ⟨profileJob, rfl, .refl _⟩ fun _ =>
      faithful_streamOf (fun _ h => h) fun _ => rfl) rfl ?_
    refine (Run.of_guarded hrun).mono fun s a h => ?_
    cases a with
    | act k => exact .act k
    | start | elsewhere => cases h
  have hagree : ∀ r ∈ twoRows, ∀ s ∈ twoRows, r.key = s.key → r = s := by decide
  have hstart : Profiles (· ∈ twoRows) (fun _ _ _ => True) twoIdle.stored := by
    refine ⟨List.nodup_nil, fun row hrow => (by cases hrow), fun jobId job hjob hasked hdone => ?_⟩
    have hqueued : ∀ r ∈ (oneJob profileJob).jobs.rows, r.2.status ≠ .succeeded := by decide
    exact absurd hdone (hqueued (jobId, job) (Table.get_eq_some.mp hjob))
  exact ⟨t, hRun, (profiles_complete plainTexts nulRefused _ _
    (fun r s hr hs h => hagree r hr s hs h) _ t _ (fun _ => rfl) hstart hRun).1, hlast⟩

end Runs

end RiseSun.Backend
