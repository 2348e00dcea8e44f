/-
  Every way a job comes into being (`api/meters.py`, `api/parameter_schemes.py`, `api/billing.py`,
  `services/scheduler.py`).

  1. **Program** — the guard of the endpoints of one meter and the eight endpoints behind it, the
     application of a parameter scheme, and what a tick of the scheduler selects, for every type of
     job.  Batches are those of `Batches`.

  2. **New jobs** — a request appends rows to the table of jobs; which ones, for each kind of request.

  3. **`created_for_active_meters_iff`** — the guard stands before the endpoints of one meter only.  The
     other three ways take meters by their own conditions, so they keep to active meters exactly when
     all meters that fit those conditions are active.
-/
import RiseSun.Backend.ClaimJobs
import RiseSun.Backend.Idempotency
import RiseSun.Backend.Scheduler
import RiseSun.Backend.Users

namespace RiseSun.Backend

open Machine

variable {V : Type}

/-! ## The endpoints of one meter -/

/-- The columns of a meter that the creation of jobs reads. -/
structure MeterRow extends Meter where
  ratedCurrentAmps : Option Int := none
  deriving DecidableEq, Repr

def notActivated : String :=
  "Счётчик обнаружен автоматически, но ещё не активирован администратором " ++
    "(POST /\x7bmeter_id\x7d/activate) — пароль и протокольный профиль не заданы"

section Endpoints

variable (meters : Table Int MeterRow)

/-- `_get_active_meter_or_error`. -/
def getActiveMeterOrError (meterId : Int) : Except HttpError MeterRow :=
  match meters.get meterId with
  | none => .error (.http 404 "Счётчик не найден")
  | some meter => if meter.status ≠ .active then .error (.http 400 notActivated) else .ok meter

/-- The guard, and the job behind it. -/
def trigger (jobType : JobType) (payload : Payload) (meterId createdAt : Int) :
    Except HttpError (Job V) :=
  (getActiveMeterOrError meters meterId).map fun _ =>
    { jobType := jobType, meterId := meterId, payload := payload, createdAt := createdAt }

def triggerRead (obis : String) (meterId createdAt : Int) : Except HttpError (Job V) :=
  trigger meters .readCurrent { obis := some obis } meterId createdAt

def triggerReadRatedCurrent (meterId createdAt : Int) : Except HttpError (Job V) :=
  trigger meters .readRatedCurrent {} meterId createdAt

def triggerReadRelayState (meterId createdAt : Int) : Except HttpError (Job V) :=
  trigger meters .readRelayState {} meterId createdAt

def triggerWriteDatetime (meterId createdAt : Int) : Except HttpError (Job V) :=
  trigger meters .writeDatetime {} meterId createdAt

def triggerDisconnect (meterId createdAt : Int) : Except HttpError (Job V) :=
  trigger meters .disconnect {} meterId createdAt

def triggerReconnect (meterId createdAt : Int) : Except HttpError (Job V) :=
  trigger meters .reconnect {} meterId createdAt

/-- The names in `WRITABLE_INT_PARAMETERS`, sorted. -/
def writableIntParameters : List String :=
  ["available_settlement_no", "display_mode_count", "load_profile_interval", "settlement_no",
    "weekend_rate_type"]

/-- The name of the parameter is looked at before the meter; `repr` is that of a text. -/
def triggerWriteParameter (repr : String → String) (parameter : String) (meterId createdAt : Int) :
    Except HttpError (Job V) :=
  if parameter ∉ writableIntParameters then
    .error (.http 400 ("Неизвестный параметр записи: " ++ repr parameter ++ ". Доступные: [" ++
      ", ".intercalate (writableIntParameters.map repr) ++ "]"))
  else trigger meters .writeParameter {} meterId createdAt

def triggerReadLoadProfile (fromIso toIso : String) (obis : Option String)
    (meterId createdAt : Int) : Except HttpError (Job V) :=
  trigger meters .readLoadProfile { fromIso := some fromIso, toIso := some toIso, obis := obis }
    meterId createdAt

end Endpoints

inductive MeterEndpoint
  | read (obis : String)
  | readRatedCurrent
  | readRelayState
  | writeDatetime
  | disconnect
  | reconnect
  | writeParameter (parameter : String)
  | readLoadProfile (fromIso toIso : String) (obis : Option String)

def MeterEndpoint.serve (repr : String → String) (meters : Table Int MeterRow) :
    MeterEndpoint → (meterId createdAt : Int) → Except HttpError (Job V)
  | .read obis => triggerRead meters obis
  | .readRatedCurrent => triggerReadRatedCurrent meters
  | .readRelayState => triggerReadRelayState meters
  | .writeDatetime => triggerWriteDatetime meters
  | .disconnect => triggerDisconnect meters
  | .reconnect => triggerReconnect meters
  | .writeParameter parameter => triggerWriteParameter meters repr parameter
  | .readLoadProfile fromIso toIso obis => triggerReadLoadProfile meters fromIso toIso obis

/-! ## Schemes -/

/-- Names and values; `none` is a scheme that is not there. -/
abbrev ParameterScheme := List (String × Int)

/-- `apply_scheme`: only that the meters exist is checked. -/
def applyScheme (meters : Table Int MeterRow) (scheme : Option ParameterScheme)
    (meterIds : List Int) (createdAt : Int) : Except HttpError (List (Job V)) :=
  match scheme with
  | none => .error (.http 404 "Схема не найдена")
  | some parameters =>
    let missingIds := meterIds.filter fun id => meters.get id = none
    if missingIds ≠ [] then
      .error (.http 400 ("Счётчики не найдены: " ++ toString missingIds))
    else .ok (meterIds.flatMap fun id => parameters.map fun _ =>
      { jobType := .writeParameter, meterId := id, createdAt := createdAt })

/-! ## Schedules -/

/-- A schedule of any type of job. -/
structure Schedule extends ScheduledJob where
  jobType : JobType
  skipIfReadToday : Bool := false
  sinceMidnightBishkek : Bool := false
  windowHours : Int := 24
  deriving DecidableEq, Repr

/-- The clock of a tick: now, and the bounds of the window of a load profile as they are written. -/
structure TickClock where
  now : Int
  midnight : String
  hoursAgo : Int → String
  present : String

section Tick

variable (s : JobState V) (meters : Table Int MeterRow) (schedule : Schedule)
  (profiles : Int → Option (List PollProfileItem)) (clock : TickClock)

/-- `_resolve_payloads`. -/
def resolveAllPayloads : List Payload :=
  match schedule.jobType with
  | .readLoadProfile =>
    [{ fromIso := some (if schedule.sinceMidnightBishkek then clock.midnight
                        else clock.hoursAgo schedule.windowHours)
       toIso := some clock.present
       obis := schedule.obis.filter (· ≠ "") }]
  | .readRatedCurrent => [{}]
  | _ => resolvePayloads schedule.toScheduledJob profiles

/-- Which meters are in service. -/
def inService : Table Int Bool where
  rows := meters.rows.map fun r => (r.1, r.2.isActive)
  keys := by
    rw [List.map_map]
    exact meters.keys

/-- `_outstanding_job_meter_ids`. -/
def outstandingMeters (meterIds : List Int) (jobType : JobType) : List Int :=
  (s.jobs.rows.filter fun r => r.2.meterId ∈ meterIds ∧ r.2.jobType = jobType ∧
    (r.2.status = .queued ∨ r.2.status = .running)).map (·.2.meterId)

/-- `_already_succeeded_today_meter_ids`. -/
def alreadySucceededToday (meterIds : List Int) (jobType : JobType) (now : Int) : List Int :=
  (s.jobs.rows.filter fun r => r.2.meterId ∈ meterIds ∧ r.2.jobType = jobType ∧
    r.2.status = .succeeded ∧ ∃ t ∈ r.2.finishedAt,
      (bishkekDayBoundsUtc now).1 ≤ t ∧ t < (bishkekDayBoundsUtc now).2).map (·.2.meterId)

/-- The meters of the schedule that are in service and have no unfinished job of its type. -/
def freeMeters : List Int :=
  let selected := scheduledMeters schedule.toScheduledJob (inService meters)
  selected.filter fun m => m ∉ outstandingMeters s selected schedule.jobType

/-- The pairs of `_trigger_one`. -/
def duePairs : List (Int × Payload) :=
  let free := freeMeters s meters schedule
  match resolveAllPayloads schedule profiles clock with
  | [] => []
  | payload :: payloads =>
    if schedule.jobType = .readCurrent ∧ schedule.skipIfReadToday then
      (payload :: payloads).flatMap fun payload =>
        (free.filter fun m => m ∉ alreadyReadTodayMeterIds s free payload.obis clock.now).map
          (·, payload)
    else if schedule.jobType = .readLoadProfile ∧ schedule.skipIfReadToday then
      (free.filter fun m => m ∉ alreadySucceededToday s free schedule.jobType clock.now).flatMap
        fun m => (payload :: payloads).map (m, ·)
    else if schedule.jobType = .readRatedCurrent then
      (free.filter fun m => (meters.get m).bind (·.ratedCurrentAmps) = none).map (·, payload)
    else free.flatMap fun m => (payload :: payloads).map (m, ·)

def triggerOne (runId createdAt : Int) : List (Job V) :=
  (duePairs s meters schedule profiles clock).map fun pair =>
    { jobType := schedule.jobType, meterId := pair.1, payload := pair.2, createdAt := createdAt,
      scheduledJobRunId := some runId }

end Tick

/-! ## Requests -/

inductive Refusal
  | http (e : HttpError)
  | billing (e : BillingApiError)

/-- Whatever creates jobs. -/
inductive CreationRequest
  | endpoint (e : MeterEndpoint) (meterId : Int)
  | applyScheme (scheme : Option ParameterScheme) (meterIds : List Int)
  | batch (operation : BatchOperation) (request : DisconnectBatchRequest)
      (idempotencyKey : Option String) (apiKeyId : Int) (new : NewBatch)
  | tick (schedule : Schedule) (profiles : Int → Option (List PollProfileItem)) (clock : TickClock)
      (runId : Int)

/-- Jobs under the keys the database gives them. -/
def addJobs (values : Values V) (s : JobState V) (ids : List Int) (jobs : List (Job V)) :
    Option (JobState V) :=
  if ids.length = jobs.length then exec (jobStep values) s (List.zipWith .create ids jobs) else none

/-- The meter of a serial number. -/
def meterOfSerial (meters : Table Int MeterRow) (serial : String) : Option Int :=
  (meters.rows.find? fun r => r.2.serialNumber = serial).map (·.1)

/-- A request on a table of meters; the database gives the keys and the time. -/
def serveCreation (values : Values V) (repr : String → String) (meters : Table Int MeterRow)
    (s : BatchState V) (ids : List Int) (createdAt : Int) :
    CreationRequest → Option (BatchState V × Except Refusal Unit)
  | .endpoint e meterId =>
    match e.serve repr meters meterId createdAt with
    | .error e => some (s, .error (.http e))
    | .ok job => (addJobs values s.core ids [job]).map fun core => ({ s with core := core }, .ok ())
  | .applyScheme scheme meterIds =>
    match applyScheme meters scheme meterIds createdAt with
    | .error e => some (s, .error (.http e))
    | .ok jobs => (addJobs values s.core ids jobs).map fun core => ({ s with core := core }, .ok ())
  | .batch operation request idempotencyKey apiKeyId new =>
    (createBatch values s operation request idempotencyKey apiKeyId (meterOfSerial meters) new).map
      fun (t, answer) => (t, (answer.mapError .billing).map fun _ => ())
  | .tick schedule profiles clock runId =>
    (addJobs values s.core ids (triggerOne s.core meters schedule profiles clock runId createdAt)).map
      fun core => ({ s with core := core }, .ok ())

/-! ## New jobs -/

/-- The jobs of the second state that were not there in the first. -/
def createdJobs (s t : BatchState V) : List (Job V) :=
  (t.core.jobs.rows.filter fun r => s.core.jobs.get r.1 = none).map (·.2)

section CreatedJobs

variable {values : Values V}

theorem createdJobs_eq {s t : BatchState V} {added : List (Int × Job V)}
    (h : t.core.jobs.rows = s.core.jobs.rows ++ added) : createdJobs s t = added.map (·.2) := by
  have hkeys := t.core.jobs.keys
  rw [h, List.map_append] at hkeys
  have hold : s.core.jobs.rows.filter (fun r => s.core.jobs.get r.1 = none) = [] := by
    refine List.filter_eq_nil_iff.mpr fun r hr hnone => ?_
    exact Table.get_eq_none.mp (of_decide_eq_true hnone) (List.mem_map_of_mem hr)
  have hnew : added.filter (fun r => s.core.jobs.get r.1 = none) = added := by
    refine List.filter_eq_self.mpr fun r hr => decide_eq_true (Table.get_eq_none.mpr fun hold => ?_)
    exact (List.nodup_append.mp hkeys).2.2 r.1 hold r.1 (List.mem_map_of_mem hr) rfl
  rw [createdJobs, h, List.filter_append, hold, hnew, List.nil_append]

/-- A job that is created is appended to the table, and nothing else in the table changes. -/
theorem create_rows {s t : JobState V} {id : Int} {job : Job V}
    (h : jobStep values s (.create id job) = some t) : t.jobs.rows = s.jobs.rows ++ [(id, job)] := by
  rw [jobStep] at h
  split at h
  · split at h
    · cases h
      rfl
    · cases h
  · cases h

theorem addJobs_rows {s t : JobState V} {ids : List Int} {jobs : List (Job V)}
    (h : addJobs values s ids jobs = some t) : t.jobs.rows = s.jobs.rows ++ ids.zip jobs := by
  have hexec : ∀ (ids : List Int) (jobs : List (Job V)) (s : JobState V),
      exec (jobStep values) s (List.zipWith .create ids jobs) = some t →
        t.jobs.rows = s.jobs.rows ++ ids.zip jobs := by
    intro ids
    induction ids with
    | nil =>
      rintro jobs s ⟨⟩
      exact (List.append_nil _).symm
    | cons id ids ih =>
      rintro (_ | ⟨job, jobs⟩) s hrun
      · cases hrun
        exact (List.append_nil _).symm
      · obtain ⟨u, hfirst, hrest⟩ := Option.bind_eq_some_iff.mp hrun
        rw [ih jobs u hrest, create_rows hfirst, List.append_assoc]
        rfl
  rw [addJobs] at h
  split at h
  · exact hexec ids jobs s h
  · cases h

/-- Those are the new jobs of a request. -/
theorem createdJobs_addJobs {s : BatchState V} {core : JobState V} {ids : List Int} {jobs : List (Job V)}
    (h : addJobs values s.core ids jobs = some core) :
    createdJobs s { s with core := core } = jobs := by
  have hlength : ids.length = jobs.length := by
    rw [addJobs] at h
    split at h
    · assumption
    · cases h
  rw [createdJobs_eq (addJobs_rows h), List.map_snd_zip (Nat.le_of_eq hlength.symm)]

/-- The jobs of a batch: one for each serial number that is known. -/
theorem addItems_jobs {operation : BatchOperation} {meters : String → Option Int} {new : NewBatch} :
    ∀ (rows : List (String × Int × Int)) {s t : BatchState V},
      exec (addItem values operation meters new) s rows = some t →
      ∃ added, t.core.jobs.rows = s.core.jobs.rows ++ added ∧
        added.map (·.2.meterId) = (rows.map (·.1)).filterMap meters
  | [], s, t, hexec => by
    cases hexec
    exact ⟨[], (List.append_nil _).symm, rfl⟩
  | (serial, itemId, jobId) :: rows, s, t, hexec => by
    obtain ⟨u, hnext, hexec⟩ := Option.bind_eq_some_iff.mp hexec
    obtain ⟨added, hjobs, hmeters⟩ := addItems_jobs rows hexec
    rcases dite_eq_iff.mp hnext with ⟨hfree, hnext⟩ | ⟨_, hnext⟩
    · rcases hmeter : meters serial with _ | meterId <;> rw [hmeter] at hnext
      · cases hnext
        exact ⟨added, hjobs, by rw [List.map_cons, List.filterMap_cons_none hmeter, hmeters]⟩
      · obtain ⟨core, hcore, rfl⟩ := Option.map_eq_some_iff.mp hnext
        refine ⟨(jobId, { jobType := operation.jobType, meterId := meterId, createdAt := new.createdAt }) ::
          added, ?_, ?_⟩
        · rw [hjobs]
          dsimp only
          rw [create_rows hcore, List.append_assoc]
          rfl
        · rw [List.map_cons, List.map_cons, List.filterMap_cons_some hmeter, hmeters]
    · cases hnext

theorem insertBatch_jobs {operation : BatchOperation} {request : DisconnectBatchRequest}
    {key : String} {apiKeyId : Int} {meters : String → Option Int} {new : NewBatch}
    {s t : BatchState V}
    (made : insertBatch values s operation request key apiKeyId meters new = some t) :
    (createdJobs s t).map (·.meterId) = request.meters.filterMap meters := by
  rcases dite_eq_iff.mp made with ⟨hnew, made⟩ | ⟨_, made⟩
  · rcases ite_eq_iff.mp made with ⟨hlength, made⟩ | ⟨_, made⟩
    · obtain ⟨u, hexec, rfl⟩ := Option.map_eq_some_iff.mp made
      obtain ⟨added, hjobs, hmeters⟩ := addItems_jobs _ hexec
      rw [List.map_fst_zip (Nat.le_of_eq hlength.symm)] at hmeters
      -- closing the batch at once leaves the jobs alone
      have hcreated : createdJobs s u = added.map (·.2) := createdJobs_eq hjobs
      have hsame : (createdJobs s u).map (·.meterId) = request.meters.filterMap meters := by
        rw [hcreated, List.map_map]
        exact hmeters
      split
      · exact hsame
      · exact hsame
    · cases made
  · cases made

end CreatedJobs

/-! ## Which meters a request takes -/

def IsActive (meters : Table Int MeterRow) (meterId : Int) : Prop :=
  ∃ meter, meters.get meterId = some meter ∧ meter.status = .active

section Due

variable (s : JobState V) (meters : Table Int MeterRow) (schedule : Schedule)
  (profiles : Int → Option (List PollProfileItem)) (clock : TickClock)

def HasUnfinished (meterId : Int) : Prop :=
  ∃ r ∈ s.jobs.rows, r.2.meterId = meterId ∧ r.2.jobType = schedule.jobType ∧
    (r.2.status = .queued ∨ r.2.status = .running)

def ReadToday (meterId : Int) (obis : Option String) : Prop :=
  ∃ r ∈ s.readings, r.2.meterId = meterId ∧ some r.2.obisCode = obis ∧
    bishkekDay r.2.readAt = bishkekDay clock.now

def SucceededToday (meterId : Int) : Prop :=
  ∃ r ∈ s.jobs.rows, r.2.meterId = meterId ∧ r.2.jobType = schedule.jobType ∧
    r.2.status = .succeeded ∧ ∃ t ∈ r.2.finishedAt, bishkekDay t = bishkekDay clock.now

/-- A meter gets a job from this tick. -/
def Due (meterId : Int) : Prop :=
  (∃ row, meters.get meterId = some row ∧ row.isActive = true ∧
    (schedule.jobType = .readRatedCurrent → row.ratedCurrentAmps = none)) ∧
  (schedule.allActiveMeters = true ∨ meterId ∈ schedule.meterIds) ∧
  ¬ HasUnfinished s schedule meterId ∧
  ∃ payload ∈ resolveAllPayloads schedule profiles clock,
    (schedule.skipIfReadToday = true → schedule.jobType = .readCurrent →
      ¬ ReadToday s clock meterId payload.obis) ∧
    (schedule.skipIfReadToday = true → schedule.jobType = .readLoadProfile →
      ¬ SucceededToday s schedule clock meterId)

variable {s meters schedule profiles clock} {m : Int}

theorem mem_selected : m ∈ scheduledMeters schedule.toScheduledJob (inService meters) ↔
    (∃ row, meters.get m = some row ∧ row.isActive = true) ∧
      (schedule.allActiveMeters = true ∨ m ∈ schedule.meterIds) := by
  simp only [scheduledMeters, inService, List.mem_map, List.mem_filter, decide_eq_true_eq,
    Table.get_eq_some]
  constructor
  · rintro ⟨_, ⟨⟨⟨id, row⟩, hrow, rfl⟩, hactive, hlisted⟩, rfl⟩
    exact ⟨⟨row, hrow, hactive⟩, hlisted⟩
  · rintro ⟨⟨row, hrow, hactive⟩, hlisted⟩
    exact ⟨(m, row.isActive), ⟨⟨(m, row), hrow, rfl⟩, hactive, hlisted⟩, rfl⟩

theorem mem_outstanding {meterIds : List Int} (hm : m ∈ meterIds) :
    m ∈ outstandingMeters s meterIds schedule.jobType ↔ HasUnfinished s schedule m := by
  simp only [outstandingMeters, List.mem_map, List.mem_filter, decide_eq_true_eq]
  constructor
  · rintro ⟨r, ⟨hr, -, htype, hstatus⟩, rfl⟩
    exact ⟨r, hr, rfl, htype, hstatus⟩
  · rintro ⟨r, hr, rfl, htype, hstatus⟩
    exact ⟨r, ⟨hr, hm, htype, hstatus⟩, rfl⟩

theorem mem_alreadyRead {meterIds : List Int} {obis : Option String} (hm : m ∈ meterIds) :
    m ∈ alreadyReadTodayMeterIds s meterIds obis clock.now ↔ ReadToday s clock m obis := by
  simp only [alreadyReadTodayMeterIds, List.mem_map, List.mem_filter, decide_eq_true_eq,
    mem_dayBounds]
  constructor
  · rintro ⟨r, ⟨hr, -, hobis, hday⟩, rfl⟩
    exact ⟨r, hr, rfl, hobis, hday⟩
  · rintro ⟨r, hr, rfl, hobis, hday⟩
    exact ⟨r, ⟨hr, hm, hobis, hday⟩, rfl⟩

theorem mem_alreadySucceeded {meterIds : List Int} (hm : m ∈ meterIds) :
    m ∈ alreadySucceededToday s meterIds schedule.jobType clock.now ↔
      SucceededToday s schedule clock m := by
  simp only [alreadySucceededToday, List.mem_map, List.mem_filter, decide_eq_true_eq,
    mem_dayBounds]
  constructor
  · rintro ⟨r, ⟨hr, -, htype, hstatus, hday⟩, rfl⟩
    exact ⟨r, hr, rfl, htype, hstatus, hday⟩
  · rintro ⟨r, hr, rfl, htype, hstatus, hday⟩
    exact ⟨r, ⟨hr, hm, htype, hstatus, hday⟩, rfl⟩

theorem mem_freeMeters : m ∈ freeMeters s meters schedule ↔
    (∃ row, meters.get m = some row ∧ row.isActive = true) ∧
      (schedule.allActiveMeters = true ∨ m ∈ schedule.meterIds) ∧
      ¬ HasUnfinished s schedule m := by
  rw [freeMeters, List.mem_filter, decide_eq_true_eq]
  constructor
  · rintro ⟨hselected, hfree⟩
    obtain ⟨hactive, hlisted⟩ := mem_selected.mp hselected
    exact ⟨hactive, hlisted, fun h => hfree ((mem_outstanding hselected).mpr h)⟩
  · rintro ⟨hactive, hlisted, hfree⟩
    have hselected := mem_selected.mpr ⟨hactive, hlisted⟩
    exact ⟨hselected, fun h => hfree ((mem_outstanding hselected).mp h)⟩

theorem due_iff : Due s meters schedule profiles clock m ↔ m ∈ freeMeters s meters schedule ∧
    (schedule.jobType = .readRatedCurrent → (meters.get m).bind (·.ratedCurrentAmps) = none) ∧
    ∃ payload ∈ resolveAllPayloads schedule profiles clock,
      (schedule.skipIfReadToday = true → schedule.jobType = .readCurrent →
        ¬ ReadToday s clock m payload.obis) ∧
      (schedule.skipIfReadToday = true → schedule.jobType = .readLoadProfile →
        ¬ SucceededToday s schedule clock m) := by
  rw [mem_freeMeters]
  constructor
  · rintro ⟨⟨row, hrow, hactive, hrated⟩, hlisted, hfree, hpayload⟩
    refine ⟨⟨⟨row, hrow, hactive⟩, hlisted, hfree⟩, fun htype => ?_, hpayload⟩
    rw [hrow]
    exact hrated htype
  · rintro ⟨⟨⟨row, hrow, hactive⟩, hlisted, hfree⟩, hrated, hpayload⟩
    refine ⟨⟨row, hrow, hactive, fun htype => ?_⟩, hlisted, hfree, hpayload⟩
    rw [hrow] at hrated
    exact hrated htype

/-- A tick makes jobs for the meters that are due, and for no others. -/
theorem mem_duePairs : m ∈ (duePairs s meters schedule profiles clock).map (·.1) ↔
    Due s meters schedule profiles clock m := by
  rw [due_iff, duePairs]
  rcases resolveAllPayloads schedule profiles clock with _ | ⟨payload, payloads⟩
  · simp
  dsimp only
  split
  · rename_i hcase
    obtain ⟨htype, hskip⟩ := hcase
    simp only [List.mem_map, List.mem_flatMap, List.mem_filter, decide_eq_true_eq]
    constructor
    · rintro ⟨_, ⟨p, hp, _, ⟨hfree, hread⟩, rfl⟩, rfl⟩
      refine ⟨hfree, fun h => ?_, p, hp, fun _ _ => ?_, fun _ h => ?_⟩
      · rw [htype] at h
        cases h
      · exact fun h => hread ((mem_alreadyRead hfree).mpr h)
      · rw [htype] at h
        cases h
    · rintro ⟨hfree, -, p, hp, hread, -⟩
      exact ⟨(m, p), ⟨p, hp, m, ⟨hfree, fun h =>
        hread hskip htype ((mem_alreadyRead hfree).mp h)⟩, rfl⟩, rfl⟩
  split
  · rename_i hcase
    obtain ⟨htype, hskip⟩ := hcase
    simp only [List.mem_map, List.mem_flatMap, List.mem_filter, decide_eq_true_eq]
    constructor
    · rintro ⟨_, ⟨_, ⟨hfree, hdone⟩, p, hp, rfl⟩, rfl⟩
      refine ⟨hfree, fun h => ?_, p, hp, fun _ h => ?_, fun _ _ h => ?_⟩
      · rw [htype] at h
        cases h
      · rw [htype] at h
        cases h
      · exact hdone ((mem_alreadySucceeded hfree).mpr h)
    · rintro ⟨hfree, -, p, hp, -, hdone⟩
      exact ⟨(m, p), ⟨m, ⟨hfree, fun h =>
        hdone hskip htype ((mem_alreadySucceeded hfree).mp h)⟩, p, hp, rfl⟩, rfl⟩
  rename_i hcurrent hprofile
  split
  · rename_i htype
    simp only [List.mem_map, List.mem_filter, decide_eq_true_eq]
    constructor
    · rintro ⟨_, ⟨_, ⟨hfree, hrated⟩, rfl⟩, rfl⟩
      exact ⟨hfree, fun _ => hrated, payload, List.mem_cons_self ..,
        fun hskip h => absurd ⟨h, hskip⟩ hcurrent, fun hskip h => absurd ⟨h, hskip⟩ hprofile⟩
    · rintro ⟨hfree, hrated, -⟩
      exact ⟨(m, payload), ⟨m, ⟨hfree, hrated htype⟩, rfl⟩, rfl⟩
  · rename_i htype
    simp only [List.mem_map, List.mem_flatMap]
    constructor
    · rintro ⟨_, ⟨_, hfree, p, hp, rfl⟩, rfl⟩
      exact ⟨hfree, fun h => absurd h htype, p, hp,
        fun hskip h => absurd ⟨h, hskip⟩ hcurrent, fun hskip h => absurd ⟨h, hskip⟩ hprofile⟩
    · rintro ⟨hfree, -, p, hp, -⟩
      exact ⟨(m, p), ⟨m, hfree, p, hp, rfl⟩, rfl⟩

end Due

/-- The condition under which a request keeps to active meters. -/
def Usable (meters : Table Int MeterRow) (s : BatchState V) : CreationRequest → Prop
  | .endpoint .. => True
  -- the scheme is there and not empty, and so are the meters
  | .applyScheme scheme meterIds => (∃ parameters, scheme = some parameters ∧ parameters ≠ []) →
      (∀ id ∈ meterIds, meters.get id ≠ none) → ∀ id ∈ meterIds, IsActive meters id
  -- the request is well formed, and its key is new
  | .batch _ request idempotencyKey apiKeyId _ => ∀ key, idempotencyKey = some key → key ≠ "" →
      request.meters.length ≤ maxBatchSize → existingBatch s apiKeyId key = none →
      ∀ serial ∈ request.meters, ∀ id, meterOfSerial meters serial = some id → IsActive meters id
  | .tick schedule profiles clock _ => ∀ id, Due s.core meters schedule profiles clock id →
      IsActive meters id

section Kinds

variable {values : Values V} {meters : Table Int MeterRow}

/-- Behind the guard there are active meters only. -/
theorem trigger_ok {jobType : JobType} {payload : Payload} {meterId createdAt : Int} {job : Job V}
    (h : trigger meters jobType payload meterId createdAt = .ok job) : IsActive meters job.meterId := by
  rw [trigger, getActiveMeterOrError] at h
  rcases hmeter : meters.get meterId with _ | meter <;> rw [hmeter] at h
  · cases h
  · dsimp only at h
    split at h
    · cases h
    · rename_i hactive
      cases h
      exact ⟨meter, hmeter, not_not.mp hactive⟩

theorem MeterEndpoint.serve_ok {repr : String → String} {e : MeterEndpoint}
    {meterId createdAt : Int} {job : Job V}
    (h : e.serve repr meters meterId createdAt = .ok job) : IsActive meters job.meterId := by
  cases e with
  | writeParameter parameter =>
    rw [MeterEndpoint.serve, triggerWriteParameter] at h
    split at h
    · cases h
    · exact trigger_ok h
  | read | readRatedCurrent | readRelayState | writeDatetime | disconnect | reconnect
  | readLoadProfile => exact trigger_ok h

/-- A scheme is applied to all meters of the list, whatever they are. -/
theorem applyScheme_iff {scheme : Option ParameterScheme} {meterIds : List Int} {createdAt : Int}
    {jobs : List (Job V)} (h : applyScheme meters scheme meterIds createdAt = .ok jobs) :
    (∀ job ∈ jobs, IsActive meters job.meterId) ↔
      ((∃ parameters, scheme = some parameters ∧ parameters ≠ []) →
        (∀ id ∈ meterIds, meters.get id ≠ none) → ∀ id ∈ meterIds, IsActive meters id) := by
  rcases scheme with _ | parameters
  · cases h
  rw [applyScheme] at h
  split at h
  · cases h
  rename_i hmissing
  cases h
  have hknown : ∀ id ∈ meterIds, meters.get id ≠ none := fun id hid hnone =>
    List.not_mem_nil (not_not.mp hmissing ▸ List.mem_filter.mpr ⟨hid, decide_eq_true hnone⟩)
  simp only [List.mem_flatMap, List.mem_map]
  constructor
  · rintro hactive ⟨_, ⟨⟩, hsome⟩ - id hid
    obtain ⟨parameter, hparameter⟩ := List.exists_mem_of_ne_nil _ hsome
    exact hactive _ ⟨id, hid, parameter, hparameter, rfl⟩
  · rintro hactive _ ⟨id, hid, parameter, hparameter, rfl⟩
    exact hactive ⟨parameters, rfl, List.ne_nil_of_mem hparameter⟩ hknown id hid

/-- A scheme that is there is refused for a meter that is not. -/
theorem applyScheme_error {parameters : ParameterScheme} {meterIds : List Int} {createdAt : Int}
    {e : HttpError}
    (h : (applyScheme meters (some parameters) meterIds createdAt : Except _ (List (Job V))) =
      .error e) : ∃ id ∈ meterIds, meters.get id = none := by
  rw [applyScheme] at h
  split at h
  · rename_i hmissing
    obtain ⟨id, hid⟩ := List.exists_mem_of_ne_nil _ hmissing
    exact ⟨id, (List.mem_filter.mp hid).1, of_decide_eq_true (List.mem_filter.mp hid).2⟩
  · cases h

/-- A batch takes the meters of its serial numbers, whatever they are. -/
theorem createBatch_iff {s t : BatchState V} {operation : BatchOperation}
    {request : DisconnectBatchRequest} {idempotencyKey : Option String} {apiKeyId : Int}
    {new : NewBatch} {answer : Except BillingApiError DisconnectBatchAccepted}
    (h : createBatch values s operation request idempotencyKey apiKeyId (meterOfSerial meters) new =
      some (t, answer)) :
    (∀ job ∈ createdJobs s t, IsActive meters job.meterId) ↔
      Usable meters s (.batch operation request idempotencyKey apiKeyId new) := by
  have hsame : createdJobs s s = [] := createdJobs_eq (List.append_nil _).symm
  rcases createBatch_cases h with ⟨rfl, haway, -⟩ | ⟨key, rfl, hkey, hcase⟩
  · rw [hsame]
    refine ⟨fun _ key hkey hne hsize hnone => ?_, fun _ job hjob => absurd hjob List.not_mem_nil⟩
    rcases haway with hmissing | hempty | hlarge | ⟨key', existing, hkey', hexisting, -⟩
    · rw [hmissing] at hkey
      cases hkey
    · exact absurd (Option.some.inj (hkey.symm.trans hempty)) hne
    · exact absurd hsize (Nat.not_le.mpr hlarge)
    · rw [Option.some.inj (hkey.symm.trans hkey'), hexisting] at hnone
      cases hnone
  · rcases hcase with ⟨existing, hexisting, -, rfl, -⟩ | ⟨hnone, hmade, batch, -, rfl⟩
    · rw [hsame]
      refine ⟨fun _ key' hkey' _ _ hnone => ?_, fun _ job hjob => absurd hjob List.not_mem_nil⟩
      rw [← Option.some.inj hkey', hexisting] at hnone
      cases hnone
    · have hsize : request.meters.length ≤ maxBatchSize := by
        by_contra hlarge
        have haway : TurnedAway s operation request (some key) apiKeyId :=
          .inr (.inr (.inl (Nat.not_le.mp hlarge)))
        obtain ⟨e, herror⟩ := createBatch_turnedAway haway values (meterOfSerial meters) new
        rw [h] at herror
        cases herror
      have hall : (∀ job ∈ createdJobs s t, IsActive meters job.meterId) ↔
          ∀ id ∈ request.meters.filterMap (meterOfSerial meters), IsActive meters id := by
        rw [← insertBatch_jobs hmade]
        exact List.forall_mem_map.symm
      rw [hall]
      constructor
      · intro hactive _ _ _ _ _ serial hserial id hid
        exact hactive id (List.mem_filterMap.mpr ⟨serial, hserial, hid⟩)
      · intro husable id hid
        obtain ⟨serial, hserial, hid⟩ := List.mem_filterMap.mp hid
        exact husable key rfl hkey hsize hnone serial hserial id hid

/-- Every job a request creates is for an active meter exactly when the meters that fit the request's
own conditions are active; behind the guard they always are. -/
theorem created_for_active_meters_iff {repr : String → String} {s t : BatchState V} {ids : List Int}
    {createdAt : Int} {request : CreationRequest} {answer : Except Refusal Unit}
    (h : serveCreation values repr meters s ids createdAt request = some (t, answer)) :
    (∀ job ∈ createdJobs s t, IsActive meters job.meterId) ↔ Usable meters s request := by
  have hsame : ∀ job ∈ createdJobs s s, IsActive meters job.meterId := by
    rw [createdJobs_eq (List.append_nil _).symm]
    exact fun job hjob => absurd hjob List.not_mem_nil
  cases request with
  | endpoint e meterId =>
    refine iff_of_true ?_ trivial
    rw [serveCreation] at h
    split at h
    · cases h
      exact hsame
    · rename_i job hjob
      obtain ⟨core, hcore, heq⟩ := Option.map_eq_some_iff.mp h
      cases heq
      rw [createdJobs_addJobs hcore]
      exact List.forall_mem_singleton.mpr (MeterEndpoint.serve_ok hjob)
  | applyScheme scheme meterIds =>
    rw [serveCreation] at h
    split at h
    · rename_i e herror
      cases h
      refine iff_of_true hsame ?_
      rintro ⟨parameters, rfl, -⟩ hknown
      obtain ⟨id, hid, hnone⟩ := applyScheme_error herror
      exact absurd hnone (hknown id hid)
    · rename_i jobs hjobs
      obtain ⟨core, hcore, heq⟩ := Option.map_eq_some_iff.mp h
      cases heq
      rw [createdJobs_addJobs hcore]
      exact applyScheme_iff hjobs
  | batch operation request idempotencyKey apiKeyId new =>
    obtain ⟨⟨u, batchAnswer⟩, hbatch, heq⟩ := Option.map_eq_some_iff.mp h
    cases heq
    exact createBatch_iff hbatch
  | tick schedule profiles clock runId =>
    obtain ⟨core, hcore, heq⟩ := Option.map_eq_some_iff.mp h
    cases heq
    rw [createdJobs_addJobs hcore, triggerOne, List.forall_mem_map]
    constructor
    · intro hactive id hdue
      obtain ⟨pair, hpair, rfl⟩ := List.mem_map.mp (mem_duePairs.mpr hdue)
      exact hactive pair hpair
    · exact fun husable pair hpair =>
        husable pair.1 (mem_duePairs.mp (List.mem_map_of_mem hpair))

end Kinds

section Discovered

/-- A meter that has called in and was never activated, beside one in service. -/
def discovered : Table Int MeterRow :=
  ⟨[(1, { serialNumber := "202001002201", protocolProfile := some "hdlc_dlms",
          passwordEncrypted := some [7], status := .active }),
    (2, { serialNumber := "202001002202", isCallHome := true, protocolProfile := none,
          passwordEncrypted := none, status := .installed })], by decide⟩

theorem discovered_not_active : ¬ IsActive discovered 2 := by
  rintro ⟨_, ⟨⟩, hactive⟩
  cases hactive

def noJobs : BatchState Nat := { core := { jobs := ⟨[], List.nodup_nil⟩ } }

def disconnectDiscovered : CreationRequest :=
  .batch .disconnect { meters := ["202001002202"], nonempty := by decide } (some "k") 1
    { batchPk := 1, batchId := "DB-1", rows := [(1, 11)], createdAt := 0, now := 0 }

def schemeForDiscovered : CreationRequest := .applyScheme (some [("settlement_no", 1)]) [2]

def readWholePark : CreationRequest :=
  .tick { meterIds := [], allActiveMeters := true, jobType := .readCurrent } (fun _ => none)
    ⟨0, "", fun _ => "", ""⟩ 1

/-- The request is carried out, and one of its jobs is for the meter that was never activated. -/
def GivesInactiveJob (request : CreationRequest) (ids : List ℤ) : Prop :=
  ∃ t, serveCreation plainValues id discovered noJobs ids 0 request = some (t, .ok ()) ∧
    ∃ job ∈ createdJobs noJobs t, ¬ IsActive discovered job.meterId

/-- A batch, a scheme and a tick do so. -/
theorem discovered_gets_jobs : GivesInactiveJob disconnectDiscovered [] ∧
    GivesInactiveJob schemeForDiscovered [11] ∧ GivesInactiveJob readWholePark [11, 12] := by
  refine ⟨⟨_, rfl, ?_⟩, ⟨_, rfl, ?_⟩, ⟨_, rfl, ?_⟩⟩
  · exact ⟨{ jobType := .disconnect, meterId := 2, createdAt := 0 }, by decide, discovered_not_active⟩
  · exact ⟨{ jobType := .writeParameter, meterId := 2, createdAt := 0 }, by decide,
      discovered_not_active⟩
  · exact ⟨{ jobType := .readCurrent, meterId := 2, payload := { obis := some "1.1.1.8.0.ff" },
             createdAt := 0, scheduledJobRunId := some 1 }, by decide, discovered_not_active⟩

/-- An endpoint behind the guard, on the same table of meters, makes jobs for active meters only. -/
theorem created_for_active_meters_iff_disconnect : ∃ t,
    serveCreation plainValues id discovered noJobs [11] 0 (.endpoint .disconnect 1) =
      some (t, .ok ()) ∧ ∀ job ∈ createdJobs noJobs t, IsActive discovered job.meterId := by
  obtain ⟨t, ht⟩ : ∃ t, serveCreation plainValues id discovered noJobs [11] 0
      (.endpoint .disconnect 1) = some (t, .ok ()) := ⟨_, rfl⟩
  exact ⟨t, ht, (created_for_active_meters_iff ht).mpr trivial⟩

end Discovered

end RiseSun.Backend
