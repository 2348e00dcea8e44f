/-
  The daily export of load profiles into an external database (`services/eudb_export.py`).

  1. **Rows** — runs, items, profile rows, and what the external table receives.  A transaction of
     the external database is kept with the run and the meter it was made for, which that database
     does not know.

  2. **State** — the two databases, and beside each run's row how far its execution has come.  An
     execution adds its items in one transaction of its own, so they are seen only when it ends.

  3. **Steps** — one query or one commit each.  Any number of runs may be under way; an execution
     may be lost between any two of its steps.
-/
import RiseSun.Lib.Machine
import RiseSun.Lib.Table
import RiseSun.Backend.Jobs

namespace RiseSun.Backend

variable {V F : Type}

/-! ## Rows -/

inductive EudbExportRunStatus
  | running
  | succeeded
  | partialFailure
  | failed
  deriving DecidableEq, Repr

structure EudbExportRun where
  status : EudbExportRunStatus := .running
  metersTotal : Nat := 0
  metersSucceeded : Nat := 0
  metersFailed : Nat := 0
  triggeredManually : Bool
  startedAt : Int
  finishedAt : Option Int := none
  errorMessage : Option String := none
  deriving DecidableEq, Repr

structure EudbExportItem where
  runId : Int
  meterId : Int
  ok : Bool
  rowsExported : Nat
  errorMessage : Option String
  deriving DecidableEq, Repr

/-- A value of `values_json`. -/
inductive ProfileValues (V : Type)
  | list (values : List V)
  /-- Anything that is not a list. -/
  | other
  deriving DecidableEq

structure LoadProfileData (V : Type) where
  meterId : Int
  obisCode : String
  timestamp : Int
  valuesJson : ProfileValues V
  deriving DecidableEq

structure FleetMeter where
  serialNumber : String
  active : Bool
  deriving DecidableEq, Repr

/-- A row of `emacs.wrk_meter_profile_generics`. -/
structure ExternalRow (F : Type) where
  refMeter : String
  mpgDate : Int
  mpgValue : F
  mpgDescription : String
  deriving DecidableEq, Repr

/-- What must not come twice. -/
def ExternalRow.key (row : ExternalRow F) : String × Int × String :=
  (row.refMeter, row.mpgDate, row.mpgDescription)

structure ExternalTransaction (F : Type) where
  runId : Int
  meterId : Int
  refMeter : String
  mpgDate : Int
  rows : List (ExternalRow F)
  deriving DecidableEq, Repr

def expectedMinValues : Nat := 10

def valueIndexToDescription : List (Nat × String) :=
  [(0, "Напряжение L1 (В)"), (1, "Напряжение L2 (В)"), (2, "Напряжение L3 (В)"),
    (3, "Сила тока L1 (А)"), (4, "Сила тока L2 (А)"), (5, "Сила тока L3 (А)"),
    (6, "Коэффициент мощности L1"), (7, "Коэффициент мощности L2"),
    (8, "Коэффициент мощности L3"), (9, "Активная энергия (кВт*ч)")]

/-! ## State -/

/-- How far an execution has come with the first of its remaining meters. -/
inductive MeterStage (V : Type)
  | unchecked
  | due
  | latest (timestamp : Int) (values : List V)
  deriving DecidableEq

structure ExportExecution (V : Type) where
  dayStartUtc : Int
  metersTotal : Nat
  remaining : List (Int × String)
  stage : MeterStage V := .unchecked
  /-- Added and not committed. -/
  items : List EudbExportItem := []
  deriving DecidableEq

inductive ExportPhase (V : Type)
  | created
  | exporting (execution : ExportExecution V)
  | ended
  deriving DecidableEq

structure TrackedRun (V : Type) where
  row : EudbExportRun
  phase : ExportPhase V := .created
  deriving DecidableEq

structure ExportState (V F : Type) where
  meters : Table Int FleetMeter
  loadProfileData : List (LoadProfileData V)
  runs : Table Int (TrackedRun V) := ⟨[], List.nodup_nil⟩
  items : List EudbExportItem := []
  /-- Passes of the loop that have found no scheduled run of the day and not created theirs. -/
  checked : Nat := 0
  transactions : List (ExternalTransaction F) := []

/-- The external table. -/
def ExportState.external (s : ExportState V F) : List (ExternalRow F) :=
  s.transactions.flatMap (·.rows)

/-! ## Functions -/

/-- The settings, the time zone of Bishkek and Python's `float`. -/
structure ExportConfig (V F : Type) where
  configured : Bool
  exportHour : Nat
  exportMinute : Nat
  /-- The wall clock in Bishkek, its zone dropped. -/
  wallClock : Int → Int
  bishkekTodayStartUtc : Int → Int
  float : V → Except String F

/-- `(now_bishkek.hour, now_bishkek.minute) >= (hour, minute)`. -/
def ExportConfig.targetReached (C : ExportConfig V F) (now : Int) : Bool :=
  (C.exportHour * 60 + C.exportMinute : Int) ≤ C.wallClock now % 86400 / 60

/-- `_todays_scheduled_run_exists`. -/
def todaysScheduledRunExists (s : ExportState V F) (dayStartUtc : Int) : Bool :=
  s.runs.rows.any fun r => r.2.row.triggeredManually = false ∧ dayStartUtc ≤ r.2.row.startedAt

/-- `_already_exported_today`, by an execution that sees its own items as well. -/
def alreadyExportedToday (s : ExportState V F) (own : List EudbExportItem) (meterId : Int)
    (dayStartUtc : Int) : Bool :=
  (s.items ++ own).any fun item => item.meterId = meterId ∧ item.ok ∧
    ∃ run ∈ s.runs.get item.runId, dayStartUtc ≤ run.row.startedAt

/-- `_latest_profile_row`. -/
def latestProfileRow (s : ExportState V F) (meterId : Int) : Option (LoadProfileData V) :=
  (orderBy (fun row => -row.timestamp) 1 (s.loadProfileData.filter fun row =>
    row.meterId = meterId ∧ row.obisCode = defaultLoadProfileObis)).head?

/-- The rows of one meter, or the exception of a value that is no number. -/
def insertRows (float : V → Except String F) (meterGuid : String) (mpgDate : Int) (values : List V) :
    List (Nat × String) → Except String (List (ExternalRow F))
  | [] => .ok []
  | (index, description) :: rest =>
    match values[index]? with
    | none => .error "list index out of range"
    | some value => do
      let number ← float value
      let rows ← insertRows float meterGuid mpgDate values rest
      .ok (⟨meterGuid, mpgDate, number, description⟩ :: rows)

def noProfileMessage : String := "Нет ни одной записи профиля нагрузки (Profile1) для этого счётчика"

def unexpectedFormatMessage (got : Nat) : String :=
  "Профиль нагрузки в неожиданном формате (получено " ++ toString got ++
    " значений, ожидалось не меньше " ++ toString expectedMinValues ++
    ") — вероятно, другая конфигурация захвата у этого счётчика"

/-- `_export_one_meter`, up to the search for the UUID: the row to send, or the item's message. -/
def profileToSend (s : ExportState V F) (meterId : Int) : Except String (Int × List V) :=
  match latestProfileRow s meterId with
  | none => .error noProfileMessage
  | some row =>
    match row.valuesJson with
    | .other => .error (unexpectedFormatMessage 0)
    | .list values =>
      if values.length < expectedMinValues then .error (unexpectedFormatMessage values.length)
      else .ok (row.timestamp, values)

/-- What the external database answers when it is asked for a meter's UUID. -/
inductive UuidLookup
  | raised (exc : String)
  | missing
  | found (meterGuid : String)
  deriving DecidableEq, Repr

/-- What becomes of a transaction whose rows could all be formed. -/
inductive CommitOutcome
  | committed
  /-- Nothing was written. -/
  | rolledBack (exc : String)
  /-- Everything was written, and an exception came instead of the answer. -/
  | unanswered (exc : String)
  deriving DecidableEq, Repr

/-- `_export_one_meter`, from the search for the UUID on: what the item says, and the transaction that
    was made. -/
def exportOneMeter (C : ExportConfig V F) (runId meterId : Int) (timestamp : Int) (values : List V)
    (lookup : UuidLookup) (outcome : CommitOutcome) :
    (Bool × Nat × Option String) × Option (ExternalTransaction F) :=
  match lookup with
  | .raised exc => ((false, 0, some ("Ошибка поиска UUID в ЕЭБД: " ++ exc)), none)
  | .missing => ((false, 0,
      some "Счётчик не найден в ЕЭБД (не совпал серийный номер под производителем Risesun)"), none)
  | .found meterGuid =>
    match insertRows C.float meterGuid (C.wallClock timestamp) values valueIndexToDescription with
    | .error exc => ((false, 0, some ("Ошибка записи в ЕЭБД: " ++ exc)), none)
    | .ok rows =>
      let transaction := ⟨runId, meterId, meterGuid, C.wallClock timestamp, rows⟩
      match outcome with
      | .committed => ((true, rows.length, none), some transaction)
      | .rolledBack exc => ((false, 0, some ("Ошибка записи в ЕЭБД: " ++ exc)), none)
      | .unanswered exc => ((false, 0, some ("Ошибка записи в ЕЭБД: " ++ exc)), some transaction)

/-- The end of `execute_export_run`. -/
def finishRun (now : Int) (e : ExportExecution V) (run : EudbExportRun) : EudbExportRun :=
  let succeeded := e.items.countP (·.ok)
  let failed := e.items.countP fun item => ¬ item.ok
  { run with
    metersTotal := e.metersTotal
    metersSucceeded := succeeded
    metersFailed := failed
    status := if failed = 0 then .succeeded else if 0 < succeeded then .partialFailure else .failed
    finishedAt := some now }

def failRun (now : Int) (message : String) (run : EudbExportRun) : EudbExportRun :=
  { run with status := .failed, errorMessage := some message, finishedAt := some now }

/-! ## Steps -/

inductive ExportAction (V : Type)
  /-- The meters' table is now this one. -/
  | meters (table : Table Int FleetMeter)
  /-- A profile row is inserted, if there is none of its time. -/
  | store (row : LoadProfileData V)
  /-- The loop asks for a scheduled run of the day. -/
  | check (now : Int)
  | create (runId : Int) (triggeredManually : Bool) (startedAt : Int)
  /-- `execute_export_run`, to its `SELECT` of the meters, which come in any order. -/
  | begin (runId : Int) (now : Int) (connected : Except String (List (Int × String)))
  | checkMeter (runId : Int)
  | readLatest (runId : Int)
  | exportMeter (runId : Int) (lookup : UuidLookup) (outcome : CommitOutcome)
  | finish (runId : Int) (now : Int)
  /-- The process dies, or an exception of its own database ends the execution. -/
  | abandon (runId : Int)

def activeMeters (s : ExportState V F) : List (Int × String) :=
  (s.meters.rows.filter (·.2.active)).map fun r => (r.1, r.2.serialNumber)

/-- A run's row and phase become these. -/
def ExportState.setRun (s : ExportState V F) (runId : Int) (run : TrackedRun V) : ExportState V F :=
  { s with runs := s.runs.update runId fun _ => run }

def ExportState.setExecution (s : ExportState V F) (runId : Int) (run : TrackedRun V)
    (execution : ExportExecution V) : ExportState V F :=
  s.setRun runId { run with phase := .exporting execution }

/-- An item is added for the meter in hand, and the next one is taken. -/
def ExportExecution.record (e : ExportExecution V) (runId meterId : Int)
    (remaining : List (Int × String)) (result : Bool × Nat × Option String) : ExportExecution V :=
  { e with
    remaining := remaining
    stage := .unchecked
    items := e.items ++ [⟨runId, meterId, result.1, result.2.1, result.2.2⟩] }

def beginRun (C : ExportConfig V F) (s : ExportState V F) (runId : Int) (now : Int)
    (connected : Except String (List (Int × String))) (run : TrackedRun V) :
    Option (ExportState V F) :=
  if C.configured = false then
    some (s.setRun runId ⟨failRun now
      "Подключение к ЕЭБД не настроено (MMWS_EUDB_HOST/MMWS_EUDB_DATABASE/MMWS_EUDB_USER)" run.row,
      .ended⟩)
  else
    match connected with
    | .error exc => some (s.setRun runId
        ⟨failRun now ("Не удалось подключиться к ЕЭБД: " ++ exc) run.row, .ended⟩)
    | .ok meters =>
      if meters.Perm (activeMeters s) then
        some (s.setExecution runId run {
          dayStartUtc := C.bishkekTodayStartUtc now
          metersTotal := meters.length
          remaining := meters })
      else none

def checkNextMeter (s : ExportState V F) (runId : Int) (run : TrackedRun V)
    (e : ExportExecution V) : Option (ExportState V F) :=
  match e.remaining, e.stage with
  | (meterId, _) :: rest, .unchecked =>
    some (s.setExecution runId run (if alreadyExportedToday s e.items meterId e.dayStartUtc
      then { e with remaining := rest } else { e with stage := .due }))
  | _, _ => none

def readLatestRow (s : ExportState V F) (runId : Int) (run : TrackedRun V)
    (e : ExportExecution V) : Option (ExportState V F) :=
  match e.remaining, e.stage with
  | (meterId, _) :: rest, .due =>
    match profileToSend s meterId with
    | .error message =>
      some (s.setExecution runId run (e.record runId meterId rest (false, 0, some message)))
    | .ok (timestamp, values) =>
      some (s.setExecution runId run { e with stage := .latest timestamp values })
  | _, _ => none

def exportNextMeter (C : ExportConfig V F) (s : ExportState V F) (runId : Int)
    (lookup : UuidLookup) (outcome : CommitOutcome) (run : TrackedRun V) (e : ExportExecution V) :
    Option (ExportState V F) :=
  match e.remaining, e.stage with
  | (meterId, _) :: rest, .latest timestamp values =>
    let done := exportOneMeter C runId meterId timestamp values lookup outcome
    some { s.setExecution runId run (e.record runId meterId rest done.1) with
      transactions := s.transactions ++ done.2.toList }
  | _, _ => none

def finishExecution (s : ExportState V F) (runId : Int) (now : Int) (run : TrackedRun V)
    (e : ExportExecution V) : Option (ExportState V F) :=
  if e.remaining = [] then
    some { s.setRun runId ⟨finishRun now e run.row, .ended⟩ with items := s.items ++ e.items }
  else none

/-- A step of a run that is being executed. -/
def whileExporting (s : ExportState V F) (runId : Int)
    (f : TrackedRun V → ExportExecution V → Option (ExportState V F)) : Option (ExportState V F) :=
  match s.runs.get runId with
  | some run =>
    match run.phase with
    | .exporting e => f run e
    | _ => none
  | none => none

def exportStep (C : ExportConfig V F) (s : ExportState V F) :
    ExportAction V → Option (ExportState V F)
  | .meters table => some { s with meters := table }
  | .store row => some { s with
      loadProfileData :=
        if s.loadProfileData.any fun r =>
            r.meterId = row.meterId ∧ r.obisCode = row.obisCode ∧ r.timestamp = row.timestamp
        then s.loadProfileData else s.loadProfileData ++ [row] }
  | .check now =>
    if C.configured ∧ C.targetReached now ∧
        todaysScheduledRunExists s (C.bishkekTodayStartUtc now) = false then
      some { s with checked := s.checked + 1 }
    else none
  | .create runId triggeredManually startedAt =>
    if h : s.runs.get runId = none then
      if triggeredManually ∨ 0 < s.checked then
        some { s with
          runs := s.runs.insert runId
            { row := { triggeredManually := triggeredManually, startedAt := startedAt } } h
          checked := if triggeredManually then s.checked else s.checked - 1 }
      else none
    else none
  | .begin runId now connected =>
    match s.runs.get runId with
    | some run =>
      match run.phase with
      | .created => beginRun C s runId now connected run
      | _ => none
    | none => none
  | .checkMeter runId => whileExporting s runId (checkNextMeter s runId)
  | .readLatest runId => whileExporting s runId (readLatestRow s runId)
  | .exportMeter runId lookup outcome =>
    whileExporting s runId (exportNextMeter C s runId lookup outcome)
  | .finish runId now => whileExporting s runId (finishExecution s runId now)
  | .abandon runId =>
    match s.runs.get runId with
    | some run => some (s.setRun runId { run with phase := .ended })
    | none => none

end RiseSun.Backend
