/-
  The table of notifications, and the detector of meters that went offline
  (`services/notifications.py`, `services/offline_detector.py`).

  1. **Meters** — a meter is online for so many seconds after it was seen, and on the day it was read.
     Moments are in microseconds.

  2. **Notifications** — what the two callers of `create_notification` put into a row.

  3. **Steps** — one query or one commit of the one detector, beside the finalizers that say a meter
     was seen, the workers that notify of failed jobs, and whoever else writes meters.  A row gets its
     number when it is flushed, and is dated by the beginning of its transaction.  `Stepped` says what
     each step needs and does.
-/
import RiseSun.Backend.Scheduler
import RiseSun.Backend.Worker

namespace RiseSun.Backend

open Machine

variable {V : Type}

/-! ## Meters -/

deriving instance DecidableEq for WorkerMeter

/-- What the detector reads of a meter. -/
structure WatchedMeter extends WorkerMeter where
  serialNumber : String
  isActive : Bool := true
  deriving DecidableEq

def microseconds (seconds : Int) : Int := seconds * 1000000

/-- `_is_same_bishkek_day`. -/
def isSameBishkekDay (moment now : Int) : Bool :=
  bishkekDay (moment / 1000000) = bishkekDay (now / 1000000)

/-- `Meter.is_online`, with the timeout of the settings. -/
def isOnline (timeoutS now : Int) (meter : WorkerMeter) : Bool :=
  meter.lastSeenAt.any (fun seen => now - seen < microseconds timeoutS) ||
    meter.lastReadAt.any fun read => isSameBishkekDay read now

theorem isOnline_of_recent {timeoutS now seen : Int} {meter : WorkerMeter}
    (hseen : meter.lastSeenAt = some seen) (h : now - seen < microseconds timeoutS) :
    isOnline timeoutS now meter = true := by
  simp only [isOnline, hseen, Option.any_some, decide_eq_true h, Bool.true_or]

theorem timeout_le_of_offline {timeoutS now seen : Int} {meter : WorkerMeter}
    (hseen : meter.lastSeenAt = some seen) (h : isOnline timeoutS now meter = false) :
    microseconds timeoutS ≤ now - seen := by
  by_contra hlt
  rw [isOnline_of_recent hseen (not_le.mp hlt)] at h
  cases h

/-- A meter that is not seen again stays offline. -/
theorem offline_later {timeoutS start now : Int} {meter : WorkerMeter} (hle : start ≤ now)
    (hread : ∀ read ∈ meter.lastReadAt, read ≤ start)
    (h : isOnline timeoutS start meter = false) : isOnline timeoutS now meter = false := by
  simp only [isOnline, Bool.or_eq_false_iff] at h ⊢
  refine ⟨?_, ?_⟩
  · cases hseen : meter.lastSeenAt with
    | none => rfl
    | some seen =>
      have hold := h.1
      simp only [hseen, Option.any_some, decide_eq_false_iff_not] at hold ⊢
      omega
  · cases hlast : meter.lastReadAt with
    | none => rfl
    | some read =>
      have hday := h.2
      have hbefore := hread read hlast
      simp only [hlast, Option.any_some, isSameBishkekDay, decide_eq_false_iff_not] at hday ⊢
      have hreadDay : bishkekDay (read / 1000000) ≤ bishkekDay (start / 1000000) :=
        bishkekDay_mono (Int.ediv_le_ediv (by decide) hbefore)
      have hnowDay : bishkekDay (start / 1000000) ≤ bishkekDay (now / 1000000) :=
        bishkekDay_mono (Int.ediv_le_ediv (by decide) hle)
      omega

/-- The finalizers are the only ones that write the two moments, and write them together. -/
theorem touch_cases (values : Values V) (now : Int) (jobEnd : JobEnd V) (meter : WorkerMeter) :
    ((jobEnd.touch values now meter).lastSeenAt = some now ∧
      ((jobEnd.touch values now meter).lastReadAt = some now ∨
        (jobEnd.touch values now meter).lastReadAt = meter.lastReadAt)) ∨
    ((jobEnd.touch values now meter).lastSeenAt = meter.lastSeenAt ∧
      (jobEnd.touch values now meter).lastReadAt = meter.lastReadAt) := by
  cases jobEnd with
  | readCurrent outcome obis readAt =>
    simp only [JobEnd.touch]
    split
    · exact .inl ⟨rfl, .inl rfl⟩
    · exact .inr ⟨rfl, rfl⟩
  | ratedCurrent outcome =>
    simp only [JobEnd.touch]
    split
    · split
      · exact .inl ⟨rfl, .inr rfl⟩
      · exact .inl ⟨rfl, .inr rfl⟩
    · exact .inr ⟨rfl, rfl⟩
  | loadProfile obis rowsWritten errorInfo =>
    cases errorInfo with
    | none => exact .inl ⟨rfl, .inr rfl⟩
    | some error => exact .inr ⟨rfl, rfl⟩
  | disconnect | written | failed => exact .inr ⟨rfl, rfl⟩

/-! ## Notifications -/

/-- What a notification is about. -/
inductive NotificationSubject
  | meterOffline (meterId : Int) (serialNumber : String) (lastSeenAt : Int)
  | scheduledJobFailed (failure : Notification)
  deriving DecidableEq, Repr

inductive NotificationCategory
  | meterOffline
  | tamperEvent
  | scheduledJobFailed
  deriving DecidableEq, Repr

structure NotificationRow where
  id : Int
  subject : NotificationSubject
  isRead : Bool := false
  createdAt : Int
  deriving DecidableEq, Repr

namespace NotificationRow

def category (row : NotificationRow) : NotificationCategory :=
  match row.subject with
  | .meterOffline .. => .meterOffline
  | .scheduledJobFailed _ => .scheduledJobFailed

def message (row : NotificationRow) : String :=
  match row.subject with
  | .meterOffline _ serialNumber _ => s!"Счётчик {serialNumber} перешёл в состояние offline"
  | .scheduledJobFailed failure => failure.message

def meterId (row : NotificationRow) : Option Int :=
  match row.subject with
  | .meterOffline meterId .. => some meterId
  | .scheduledJobFailed _ => none

def scheduledJobId (row : NotificationRow) : Option Int :=
  match row.subject with
  | .meterOffline .. => none
  | .scheduledJobFailed failure => some failure.scheduledJobId

/-- A moment stands for its text. -/
def details (row : NotificationRow) : List (String × Int) :=
  match row.subject with
  | .meterOffline _ _ lastSeenAt => [("last_seen_at", lastSeenAt)]
  | .scheduledJobFailed failure =>
    [("run_id", failure.runId), ("succeeded", failure.succeeded), ("failed", failure.failed)]

end NotificationRow

/-- The query of the detector: a notification of this meter since it was seen. -/
def alreadyNotified (meterId lastSeenAt : Int) (rows : List NotificationRow) : Bool :=
  rows.any fun row => row.category = .meterOffline ∧ row.meterId = some meterId ∧
    lastSeenAt < row.createdAt

/-! ## Steps -/

/-- The loop of a tick. -/
structure DetectorTick where
  startedAt : Int
  /-- `meters`, as the query returned them. -/
  meters : List (Int × WatchedMeter)
  /-- Those the loop has not done with. -/
  rest : List (Int × WatchedMeter)
  /-- The first of these was found to be offline. -/
  offline : Bool := false
  /-- Flushed, not yet committed. -/
  created : List NotificationRow := []
  deriving DecidableEq

inductive DetectorStage
  | idle
  | begun (startedAt : Int)
  | looping (tick : DetectorTick)
  deriving DecidableEq

/-- The rows of the detector's session. -/
def DetectorStage.created : DetectorStage → List NotificationRow
  | .looping tick => tick.created
  | .idle | .begun _ => []

structure NotificationState where
  clock : Int
  meters : Table Int WatchedMeter
  rows : List NotificationRow := []
  /-- The sequence of the primary key. -/
  nextId : Int := 1
  /-- The rows that workers have flushed and not committed. -/
  flushed : List NotificationRow := []
  detector : DetectorStage := .idle

inductive NotificationAction (V : Type)
  | wait (time : Int)
  /-- A finalizer commits; `now` is the moment it looked at its clock. -/
  | touch (meterId : Int) (jobEnd : JobEnd V) (now : Int)
  /-- Anyone else writes meters. -/
  | write (meters : Table Int WatchedMeter)
  /-- A worker's session: its flush, and how it ends. -/
  | flush (failure : Notification) (createdAt : Int)
  | store (id : Int)
  | rollback (id : Int)
  | markRead (id : Int)
  | begin
  /-- The query, with the order of its rows. -/
  | select (order : List (Int × WatchedMeter))
  | look
  | ask
  | commit
  | giveUp

/-- A write that is not a finalizer's leaves the moments alone, and a new meter has none. -/
def leavesMoments (meters meters' : Table Int WatchedMeter) : Bool :=
  meters'.rows.all fun r =>
    match meters.get r.1 with
    | some meter => r.2.lastSeenAt = meter.lastSeenAt ∧ r.2.lastReadAt = meter.lastReadAt
    | none => r.2.lastSeenAt = none ∧ r.2.lastReadAt = none

/-- The active meters that were ever seen. -/
def watched (meters : Table Int WatchedMeter) : List (Int × WatchedMeter) :=
  meters.rows.filter fun r => r.2.isActive ∧ r.2.lastSeenAt.isSome

/-- The notification of the first meter in the loop, unless there is one since it was seen. -/
def DetectorTick.notification (tick : DetectorTick) (rows : List NotificationRow) (nextId : Int) :
    Option NotificationRow :=
  match tick.rest with
  | (meterId, meter) :: _ =>
    match meter.lastSeenAt with
    | some seen =>
      if alreadyNotified meterId seen (rows ++ tick.created) then none
      else some ⟨nextId, .meterOffline meterId meter.serialNumber seen, false, tick.startedAt⟩
    | none => none
  | [] => none

/-- The state behind the question for an earlier notification. -/
def NotificationState.asked (s : NotificationState) (tick : DetectorTick) : NotificationState :=
  { s with
    nextId := s.nextId + (tick.notification s.rows s.nextId).toList.length
    detector := .looping { tick with
      rest := tick.rest.tail
      offline := false
      created := tick.created ++ (tick.notification s.rows s.nextId).toList } }

def notificationStep (timeoutS : Int) (values : Values V) (s : NotificationState) :
    NotificationAction V → Option NotificationState
  | .wait time => if s.clock ≤ time then some { s with clock := time } else none
  | .touch meterId jobEnd now =>
    if now ≤ s.clock then
      some { s with meters := s.meters.update meterId fun meter =>
        { meter with toWorkerMeter := jobEnd.touch values now meter.toWorkerMeter } }
    else none
  | .write meters => if leavesMoments s.meters meters then some { s with meters := meters } else none
  | .flush failure createdAt => some { s with
      nextId := s.nextId + 1
      flushed := s.flushed ++ [⟨s.nextId, .scheduledJobFailed failure, false, createdAt⟩] }
  | .store id => some { s with
      rows := s.rows ++ s.flushed.filter (·.id = id)
      flushed := s.flushed.filter (·.id ≠ id) }
  | .rollback id => some { s with flushed := s.flushed.filter (·.id ≠ id) }
  | .markRead id => some { s with
      rows := s.rows.map fun row => if row.id = id then { row with isRead := true } else row }
  | .begin =>
    match s.detector with
    | .idle => some { s with detector := .begun s.clock }
    | _ => none
  | .select order =>
    match s.detector with
    | .begun startedAt =>
      if order.Perm (watched s.meters) then
        some { s with detector := .looping { startedAt, meters := order, rest := order } }
      else none
    | _ => none
  | .look =>
    match s.detector with
    | .looping tick =>
      match tick.rest, tick.offline with
      | meter :: rest, false => some { s with
          detector := .looping (if isOnline timeoutS s.clock meter.2.toWorkerMeter
            then { tick with rest := rest } else { tick with offline := true }) }
      | _, _ => none
    | _ => none
  | .ask =>
    match s.detector with
    | .looping tick =>
      if tick.offline then some (s.asked tick) else none
    | _ => none
  | .commit =>
    match s.detector with
    | .looping tick =>
      if tick.rest = [] then
        some { s with rows := s.rows ++ tick.created, detector := .idle }
      else none
    | _ => none
  | .giveUp => some { s with detector := .idle }

variable {timeoutS : Int} {values : Values V} {s t : NotificationState} {a : NotificationAction V}

/-- The steps, with what each of them needs. -/
inductive Stepped (timeoutS : Int) (values : Values V) (s : NotificationState) :
    NotificationAction V → NotificationState → Prop
  | wait {time : Int} (later : s.clock ≤ time) :
    Stepped timeoutS values s (.wait time) { s with clock := time }
  | touch {meterId : Int} {jobEnd : JobEnd V} {now : Int} (past : now ≤ s.clock) :
    Stepped timeoutS values s (.touch meterId jobEnd now)
      { s with meters := s.meters.update meterId fun meter =>
        { meter with toWorkerMeter := jobEnd.touch values now meter.toWorkerMeter } }
  | write {meters : Table Int WatchedMeter} (leaves : leavesMoments s.meters meters = true) :
    Stepped timeoutS values s (.write meters) { s with meters := meters }
  | flush {failure : Notification} {createdAt : Int} :
    Stepped timeoutS values s (.flush failure createdAt) { s with
      nextId := s.nextId + 1
      flushed := s.flushed ++ [⟨s.nextId, .scheduledJobFailed failure, false, createdAt⟩] }
  | store {id : Int} :
    Stepped timeoutS values s (.store id) { s with
      rows := s.rows ++ s.flushed.filter (·.id = id)
      flushed := s.flushed.filter (·.id ≠ id) }
  | rollback {id : Int} :
    Stepped timeoutS values s (.rollback id) { s with flushed := s.flushed.filter (·.id ≠ id) }
  | markRead {id : Int} :
    Stepped timeoutS values s (.markRead id) { s with
      rows := s.rows.map fun row => if row.id = id then { row with isRead := true } else row }
  | begin (idle : s.detector = .idle) :
    Stepped timeoutS values s .begin { s with detector := .begun s.clock }
  | select {order : List (Int × WatchedMeter)} {startedAt : Int}
      (begun : s.detector = .begun startedAt) (perm : order.Perm (watched s.meters)) :
    Stepped timeoutS values s (.select order)
      { s with detector := .looping { startedAt, meters := order, rest := order } }
  | look {tick : DetectorTick} {meter : Int × WatchedMeter} {rest : List (Int × WatchedMeter)}
      (looping : s.detector = .looping tick) (first : tick.rest = meter :: rest)
      (unasked : tick.offline = false) :
    Stepped timeoutS values s .look { s with
      detector := .looping (if isOnline timeoutS s.clock meter.2.toWorkerMeter
        then { tick with rest := rest } else { tick with offline := true }) }
  | ask {tick : DetectorTick} (looping : s.detector = .looping tick) (offline : tick.offline = true) :
    Stepped timeoutS values s .ask (s.asked tick)
  | commit {tick : DetectorTick} (looping : s.detector = .looping tick) (ended : tick.rest = []) :
    Stepped timeoutS values s .commit
      { s with rows := s.rows ++ tick.created, detector := .idle }
  | giveUp : Stepped timeoutS values s .giveUp { s with detector := .idle }

theorem stepped (h : notificationStep timeoutS values s a = some t) :
    Stepped timeoutS values s a t := by
  cases a with
  | flush | store | rollback | markRead | giveUp =>
    cases h
    constructor
  | wait | touch | write =>
    obtain ⟨hguard, h⟩ := Option.ite_none_right_eq_some.mp h
    cases h
    constructor
    exact hguard
  | begin =>
    simp only [notificationStep] at h
    split at h
    · rename_i hidle
      cases h
      exact .begin hidle
    · cases h
  | select order =>
    simp only [notificationStep] at h
    split at h
    · rename_i startedAt hbegun
      obtain ⟨hperm, h⟩ := Option.ite_none_right_eq_some.mp h
      cases h
      exact .select hbegun hperm
    · cases h
  | look =>
    simp only [notificationStep] at h
    split at h
    · rename_i tick hlooping
      split at h
      · rename_i meter rest hrest hoffline
        cases h
        exact .look hlooping hrest hoffline
      · cases h
    · cases h
  | ask =>
    simp only [notificationStep] at h
    split at h
    · rename_i tick hlooping
      obtain ⟨hoffline, h⟩ := Option.ite_none_right_eq_some.mp h
      cases h
      exact .ask hlooping hoffline
    · cases h
  | commit =>
    simp only [notificationStep] at h
    split at h
    · rename_i tick hlooping
      obtain ⟨hover, h⟩ := Option.ite_none_right_eq_some.mp h
      cases h
      exact .commit hlooping hover
    · cases h

/-- No meter answers. -/
def noTexts : Values Unit where
  number _ := none
  repr _ := ""

end RiseSun.Backend
