/-
  The scheduler's tick for schedules of `read_current` that skip what was read today
  (`services/scheduler.py`).

  1. **Days** — Bishkek keeps six hours from UTC, the year round.

  2. **Tick** — what `_trigger_one` has read so far: the meters of the schedule, those of them with
     no unfinished job, and for each OBIS code those with no reading of the day of `now`.

  3. **Steps** — one query or one commit of the tick, or a step of the parties that work on jobs.
     Time is one clock; a reading is dated by the beginning of the transaction that stores it, which
     comes after the claim of its job.
-/
import RiseSun.Backend.JobRows

namespace RiseSun.Backend

open Machine

variable {V : Type}

/-! ## Days -/

/-- The day of a moment in `Asia/Bishkek`, which has kept six hours from UTC since 12 August 2005;
    the moments that the backend asks for are all later. -/
def bishkekDay (t : Int) : Int := (t + 21600) / 86400

/-- `_bishkek_day_bounds_utc`. -/
def bishkekDayBoundsUtc (now : Int) : Int × Int :=
  (bishkekDay now * 86400 - 21600, bishkekDay now * 86400 - 21600 + 86400)

theorem mem_dayBounds {now t : Int} :
    (bishkekDayBoundsUtc now).1 ≤ t ∧ t < (bishkekDayBoundsUtc now).2 ↔
      bishkekDay t = bishkekDay now := by
  simp only [bishkekDayBoundsUtc, bishkekDay]
  omega

theorem bishkekDay_mono {t u : Int} (h : t ≤ u) : bishkekDay t ≤ bishkekDay u := by
  simp only [bishkekDay]
  omega

/-! ## Tick -/

structure PollProfileItem where
  obis : String
  enabled : Bool := true
  deriving DecidableEq, Repr

/-- What a schedule of `read_current` says, `skip_if_read_today` among it. -/
structure ScheduledJob where
  meterIds : List Int
  allActiveMeters : Bool := false
  pollProfileId : Option Int := none
  obis : Option String := none
  classId : Option Int := none
  deriving DecidableEq, Repr

/-- `_resolve_payloads`. -/
def resolvePayloads (scheduledJob : ScheduledJob)
    (profiles : Int → Option (List PollProfileItem)) : List Payload :=
  match scheduledJob.pollProfileId with
  | some profileId =>
    match profiles profileId with
    | none => []
    | some items => (items.filter (·.enabled)).map fun item => { obis := some item.obis }
  | none =>
    [{ obis := some (scheduledJob.obis.getD "1.1.1.8.0.ff"), classId := scheduledJob.classId }]

/-- The meters of a schedule; a row says whether its meter is active. -/
def scheduledMeters (scheduledJob : ScheduledJob) (meters : Table Int Bool) : List Int :=
  (meters.rows.filter fun r =>
    r.2 ∧ (scheduledJob.allActiveMeters ∨ r.1 ∈ scheduledJob.meterIds)).map (·.1)

/-- `_outstanding_job_meter_ids`, for `read_current`. -/
def outstandingJobMeterIds (s : JobState V) (meterIds : List Int) : List Int :=
  (s.jobs.rows.filter fun r => r.2.meterId ∈ meterIds ∧ r.2.jobType = .readCurrent ∧
    (r.2.status = .queued ∨ r.2.status = .running)).map (·.2.meterId)

/-- `_already_read_today_meter_ids`. -/
def alreadyReadTodayMeterIds (s : JobState V) (meterIds : List Int) (obis : Option String)
    (now : Int) : List Int :=
  (s.readings.filter fun r => r.2.meterId ∈ meterIds ∧ some r.2.obisCode = obis ∧
    (bishkekDayBoundsUtc now).1 ≤ r.2.readAt ∧ r.2.readAt < (bishkekDayBoundsUtc now).2).map
      (·.2.meterId)

inductive TickStage
  | selected (meters : List Int)
  | free (meters : List Int)
  /-- Payloads still to be asked for, and the pairs found so far. -/
  | reading (meters : List Int) (payloads : List Payload) (pairs : List (Int × Payload))
  deriving DecidableEq, Repr

structure Tick where
  scheduledJob : ScheduledJob
  now : Int
  stage : TickStage
  deriving DecidableEq, Repr

def scheduledReading (runId createdAt : Int) (pair : Int × Payload) : Job V where
  jobType := .readCurrent
  meterId := pair.1
  payload := pair.2
  createdAt := createdAt
  scheduledJobRunId := some runId

/-! ## Steps -/

structure SchedulerState (V : Type) where
  core : JobState V
  clock : Int := 0
  /-- The one tick under way. -/
  tick : Option Tick := none
  /-- When the tick that made a job looked at its clock. -/
  decided : Int → Int := fun _ => 0

inductive SchedulerAction (V : Type)
  | job (a : JobAction V) (time : Int)
  /-- A schedule is due: `now`, and the query for its meters. -/
  | trigger (scheduledJob : ScheduledJob) (now : Int) (meters : Table Int Bool)
  | outstanding
  | resolve (profiles : Int → Option (List PollProfileItem))
  /-- The query for the next payload. -/
  | alreadyRead
  | commit (ids : List Int) (runId createdAt time : Int)
  /-- An exception ends the tick. -/
  | giveUp

/-- The moments an action of the parties tells of fit the clock. -/
def timely (time : Int) : JobAction V → Bool
  | .commitClaim _ now => now = time
  | .work hold (.readCurrent _ _ readAt) _ | .reportCommit hold (.readCurrent _ _ readAt) _ =>
    hold.since ≤ readAt ∧ readAt ≤ time
  | _ => true

/-- Nobody but the tick makes jobs of a scheduled run. -/
def madeByHand : JobAction V → Bool
  | .create _ job => job.scheduledJobRunId.isNone
  | _ => true

def endsTick : JobAction V → Bool
  | .restart _ => true
  | _ => false

def createAll (runId createdAt : Int) (ids : List Int) (pairs : List (Int × Payload)) :
    List (JobAction V) :=
  List.zipWith (fun id pair => .create id (scheduledReading runId createdAt pair)) ids pairs

def schedulerStep (values : Values V) (s : SchedulerState V) :
    SchedulerAction V → Option (SchedulerState V)
  | .job a time =>
    if s.clock ≤ time ∧ timely time a ∧ madeByHand a then
      (jobStep values s.core a).map fun core =>
        { s with core := core, clock := time, tick := if endsTick a then none else s.tick }
    else none
  | .trigger scheduledJob now meters =>
    if s.clock ≤ now ∧ s.tick = none then
      some { s with
        clock := now
        tick := some ⟨scheduledJob, now, .selected (scheduledMeters scheduledJob meters)⟩ }
    else none
  | .outstanding =>
    match s.tick with
    | some ⟨scheduledJob, now, .selected meters⟩ => some { s with
        tick := some ⟨scheduledJob, now, .free (meters.filter fun m =>
          m ∉ outstandingJobMeterIds s.core meters)⟩ }
    | _ => none
  | .resolve profiles =>
    match s.tick with
    | some ⟨scheduledJob, now, .free meters⟩ => some { s with
        tick := match resolvePayloads scheduledJob profiles with
          | [] => none
          | payloads => some ⟨scheduledJob, now, .reading meters payloads []⟩ }
    | _ => none
  | .alreadyRead =>
    match s.tick with
    | some ⟨scheduledJob, now, .reading meters (payload :: payloads) pairs⟩ => some { s with
        tick := some ⟨scheduledJob, now, .reading meters payloads (pairs ++
          (meters.filter fun m =>
            m ∉ alreadyReadTodayMeterIds s.core meters payload.obis now).map (·, payload))⟩ }
    | _ => none
  | .commit ids runId createdAt time =>
    match s.tick with
    | some ⟨_, now, .reading _ [] pairs⟩ =>
      if s.clock ≤ time ∧ ids.length = pairs.length then
        (exec (jobStep values) s.core (createAll runId createdAt ids pairs)).map fun core =>
          { s with
            core := core
            clock := time
            tick := none
            decided := fun id => if id ∈ ids then now else s.decided id }
      else none
    | _ => none
  | .giveUp => some { s with tick := none }

end RiseSun.Backend
