/-
  The event path of the Gateway (`callhome.py`): what happens when a meter has called and been
  identified.

  1. **State** — the pool of held connections, and what other threads and the meters do (`around`).
     Three records are kept that the program itself does not keep: the connections it has taken out
     of the pool and not closed, and the jobs it came to, got a connection for, and reported.

  2. **Environment** — the sockets, the backend's answers, the passing of time.  A deadline is given
     as the number of rounds that begin before it.  Other threads move while this one waits or
     exchanges, so every operation of the environment may change the pool.

  3. **Program** — the reports (`postJson`), `runControlJobs`, `readRounds`, `runLoadProfileJobs` and
     `maybeTriggerImmediateRead`, which swallows whatever comes out of them.
-/
import Mathlib.Data.Multiset.AddSub
import Mathlib.Data.List.Sort
import RiseSun.Gateway.BackendClient
import RiseSun.Gateway.FreshConnection
import RiseSun.Gateway.ReportValues

namespace RiseSun.Gateway

open Proc

variable {ω : Type}

/-! ## State -/

structure PooledConnection where
  connNo : Nat
  serial : Option String
  acceptedAt : ℚ
  deriving DecidableEq, Repr

/-- What this thread shares with the others: the pool, in the order of its dict, and the rest. -/
abbrev Shared (ω : Type) : Type := List PooledConnection × ω

structure CallHome (ω : Type) where
  shared : Shared ω
  /-- Out of the pool and not closed. -/
  owned : Multiset Nat := 0
  begun : List Int := []
  obtained : List Int := []
  reported : List Int := []

/-- Everything that can come out of the event path. -/
inductive Raised
  | py (e : PyExc)
  /-- Any other `Exception`. -/
  | other (name : String)
  deriving DecidableEq

/-- The protocol code, as part of it. -/
def raising {σ α : Type} (x : Proc PyExc σ α) : Proc Raised σ α := fun s =>
  match x s with
  | (.ok a, s') => (.ok a, s')
  | (.error e, s') => (.error (.py e), s')

/-- An operation of the environment. -/
def outside {α : Type} (x : Proc Raised (Shared ω) α) : Proc Raised (CallHome ω) α := fun s =>
  ((x s.shared).1, { s with shared := (x s.shared).2 })

/-! ## Environment -/

structure Environment (ω : Type) where
  connection : PooledConnection → Connection (Shared ω)
  claimDueJobs : String → Proc Raised (Shared ω) (Option ClaimDueJobsResult)
  /-- `MMWS_GATEWAY_INTERNAL_SECRET` is set. -/
  hasInternalSecret : Bool
  /-- `urlopen`, and `json.loads` of the answer: is it anything but `null`? -/
  urlopen : String → PyObject → Proc Raised (Shared ω) Bool
  /-- `datetime.fromisoformat`; `none` is its `ValueError`. -/
  fromisoformat : String → Option DateTime
  /-- How many rounds of reading begin before the deadline. -/
  rounds : Shared ω → Nat
  /-- How often a wait for the next connection looks again before the deadline. -/
  polls : Shared ω → Nat
  pause : Shared ω → Shared ω

/-! ## Program -/

/-! ### Reports -/

/-- `except (URLError, HTTPError, TimeoutError, OSError, ValueError)`. -/
def Raised.isRequestFailure : Raised → Bool
  | .py e => e.isOSError || e.isValueError
  | .other _ => false

namespace Environment

variable (E : Environment ω)

/-- `_post_json`: does it return anything but `None`?  The payload is serialised outside the `try`. -/
def postJson (path : String) (payload : PyObject) : Proc Raised (Shared ω) Bool :=
  if E.hasInternalSecret then do
    raising (lift payload.jsonDumps)
    match ← attempt (E.urlopen path payload) with
    | .ok answered => pure answered
    | .error e => if e.isRequestFailure then pure false else raise e
  else pure false

def reportJobResults (serial : String) (results : List JobResultReport) :
    Proc Raised (Shared ω) Bool :=
  E.postJson "/api/internal/gateway/job-results" (jobResultsPayload serial results)

def reportLoadProfileResults (serial : String) (report : LoadProfileReport) :
    Proc Raised (Shared ω) Bool :=
  E.postJson "/api/internal/gateway/load-profile-results" (loadProfilePayload serial report)

end Environment

section Program

variable (E : Environment ω)

/-! ### Connections -/

/-- Take a connection out of the pool. -/
def take (p : PooledConnection) : Proc Raised (CallHome ω) Unit :=
  modify fun s => { s with
    shared := (s.shared.1.filter (·.connNo ≠ p.connNo), s.shared.2)
    owned := p.connNo ::ₘ s.owned }

def close (p : PooledConnection) : Proc Raised (CallHome ω) Unit :=
  modify fun s => { s with owned := s.owned.erase p.connNo }

def takeEach : List PooledConnection → Proc Raised (CallHome ω) Unit
  | [] => pure ()
  | p :: rest => do
    take p
    takeEach rest

def closeAll : List PooledConnection → Proc Raised (CallHome ω) Unit
  | [] => pure ()
  | p :: rest => do
    close p
    closeAll rest

def noteBegun (jobId : Int) : Proc Raised (CallHome ω) Unit :=
  modify fun s => { s with begun := s.begun ++ [jobId] }

def noteObtained (jobId : Int) : Proc Raised (CallHome ω) Unit :=
  modify fun s => { s with obtained := s.obtained ++ [jobId] }

def noteReported (jobId : Int) : Proc Raised (CallHome ω) Unit :=
  modify fun s => { s with reported := s.reported ++ [jobId] }

/-- A job that has its connection: the work, and the report of what came out of it.  Whether the
    report arrived is only logged. -/
def serve {α : Type} (jobId : Int) (work : Proc Raised (CallHome ω) α)
    (report : α → Proc Raised (Shared ω) Bool) : Proc Raised (CallHome ω) Unit := do
  noteObtained jobId
  let outcome ← work
  let _ ← outside (report outcome)
  noteReported jobId

/-- One look into the pool. -/
def takeSibling (serial : String) : Proc Raised (CallHome ω) (Option PooledConnection) := do
  let pool ← gets (·.shared.1)
  match pool.find? (·.serial = some serial) with
  | some p => do
    take p
    pure (some p)
  | none => pure none

def waitLoop (serial : String) : Nat → Proc Raised (CallHome ω) (Option PooledConnection)
  | 0 => takeSibling serial
  | polls + 1 => do
    match ← takeSibling serial with
    | some p => pure (some p)
    | none => do
      modify fun s => { s with shared := E.pause s.shared }
      waitLoop serial polls

/-- `_wait_for_sibling_connection`. -/
def waitForSiblingConnection (serial : String) :
    Proc Raised (CallHome ω) (Option PooledConnection) := do
  let polls ← gets fun s => E.polls s.shared
  waitLoop E serial polls

/-! ### Relay commands -/

variable (serial : String) (password : Bytes)

def methodIds : List (String × UInt8) :=
  [("disconnect", methodRemoteDisconnect), ("reconnect", methodRemoteReconnect)]

/-- The connection for a job: one that is left, or else the next call of the meter. -/
def nextCandidate : List PooledConnection →
    Proc Raised (CallHome ω) (Option PooledConnection × List PooledConnection)
  | candidate :: remaining => pure (some candidate, remaining)
  | [] => do
    let candidate ← waitForSiblingConnection E serial
    pure (candidate, [])

/-- The `try` of one relay command, its `finally` included. -/
def runCommand (candidate : PooledConnection) (methodId : UInt8) :
    Proc Raised (CallHome ω) (Option GatewayError) := do
  let outcome ← attempt (outside (raising (executeControlViaFreshConnection (E.connection candidate)
    candidate.connNo serial password methodId)))
  close candidate
  match outcome with
  | .ok error => pure error
  | .error (.py (.socket _)) => pure (some (connectionBroke candidate.connNo))
  | .error e => raise e

def controlError (candidate : PooledConnection) (job : DueControlJob) :
    Proc Raised (CallHome ω) (Option GatewayError) :=
  match methodIds.lookup job.jobType with
  | none => pure (some
      { cls := .gatewayError
        message := [.text "Неизвестная команда управления реле: ", .quoted job.jobType] })
  | some methodId => runCommand E serial password candidate methodId

def controlReport (job : DueControlJob) (error : Option GatewayError) : JobResultReport where
  jobId := job.jobId
  ok := error.isNone
  errorCode := error.map (·.code)
  errorMessage := error.map (·.message)

/-- One job with its connection. -/
def serveControl (candidate : PooledConnection) (job : DueControlJob) :
    Proc Raised (CallHome ω) Unit :=
  serve job.jobId (controlError E serial password candidate job) fun error =>
    E.reportJobResults serial [controlReport job error]

/-- `_run_control_jobs`. -/
def runControlJobs : List DueControlJob → List PooledConnection → Proc Raised (CallHome ω) Unit
  | [], remaining => closeAll remaining
  | job :: jobs, remaining => do
    noteBegun job.jobId
    let (candidate, remaining) ← nextCandidate E serial remaining
    match candidate with
    | none => runControlJobs jobs remaining
    | some candidate => do
      serveControl E serial password candidate job
      runControlJobs jobs remaining

/-! ### Readings -/

/-- One round with a candidate: what it returned, and whether that is the end of the reading.  A
    reading whose values are all refused counts as a stuck association. -/
def readCandidate (obisSpecs : List (String × Int)) (candidate : PooledConnection) :
    Proc Raised (CallHome ω) (List RegisterReadOutcome × Bool) := do
  let outcome ← attempt (outside (raising (readBatchViaFreshConnection (E.connection candidate)
    candidate.connNo serial password obisSpecs)))
  close candidate
  match outcome with
  | .ok outcomes => pure (outcomes, ¬ (outcomes ≠ [] ∧ outcomes.any (·.ok) = false))
  | .error (.py (.gateway _)) => pure ([], false)
  | .error (.py (.socket _)) => pure ([], false)
  | .error e => raise e

/-- The rounds of reading; the candidates left over are returned. -/
def readRounds (obisSpecs : List (String × Int)) : (rounds : Nat) → List PooledConnection →
    List RegisterReadOutcome →
      Proc Raised (CallHome ω) (List RegisterReadOutcome × List PooledConnection)
  | 0, remaining, outcomes => pure (outcomes, remaining)
  | rounds + 1, [], outcomes => do
    match ← waitForSiblingConnection E serial with
    | none => pure (outcomes, [])
    | some next => readRounds obisSpecs rounds [next] outcomes
  | rounds + 1, candidate :: remaining, _ => do
    let (outcomes, done) ← readCandidate E serial password obisSpecs candidate
    if done then pure (outcomes, remaining)
    else readRounds obisSpecs rounds remaining outcomes

def readingReport (job : DueJob) (outcome : RegisterReadOutcome) : JobResultReport where
  jobId := job.jobId
  obis := some job.obis
  ok := outcome.ok
  value := outcome.value
  errorCode := outcome.error.map (·.code)
  errorMessage := outcome.error.map (·.message)

/-- The branch of `_maybe_trigger_immediate_read` for readings. -/
def runReadJobs (jobs : List DueJob) (candidates : List PooledConnection) :
    Proc Raised (CallHome ω) Unit := do
  let rounds ← gets fun s => E.rounds s.shared
  let (outcomes, remaining) ← readRounds E serial password (jobs.map fun job => (job.obis, job.classId))
    rounds candidates []
  closeAll remaining
  if outcomes ≠ [] then do
    let _ ← outside (E.reportJobResults serial (List.zipWith readingReport jobs outcomes))
    pure ()
  else pure ()

/-! ### Load profiles -/

def heartbeatProbeTestSerials : List String :=
  ["201811000033", "201811000016", "201811000017", "201811000032"]

def parseIso (text : String) : Except PyExc DateTime :=
  match E.fromisoformat text with
  | some moment => .ok moment
  | none => .error (.valueError [])

/-- The `try` of one load profile job. -/
def readProfileJob (candidate : PooledConnection) (job : DueLoadProfileJob) :
    Proc PyExc (Shared ω) (List ProfileRow × Option GatewayError) := do
  let fromDt ← lift (parseIso E job.fromIso)
  let toDt ← lift (parseIso E job.toIso)
  readProfileViaFreshConnection (E.connection candidate) candidate.connNo serial password job.obis
    job.classId fromDt toDt (serial ∈ heartbeatProbeTestSerials)

def runProfile (candidate : PooledConnection) (job : DueLoadProfileJob) :
    Proc Raised (CallHome ω) (List ProfileRow × Option GatewayError) := do
  let outcome ← attempt (outside (raising (readProfileJob E serial password candidate job)))
  close candidate
  match outcome with
  | .ok result => pure result
  | .error (.py (.gateway e)) => pure ([], some e)
  | .error (.py (.socket _)) => pure ([], some (connectionBroke candidate.connNo))
  | .error e => raise e

def profileReport (job : DueLoadProfileJob) (rows : List ProfileRow) (error : Option GatewayError) :
    LoadProfileReport where
  jobId := job.jobId
  obis := job.obis
  rows := rows
  ok := error.isNone
  errorCode := error.map (·.code)
  errorMessage := error.map (·.message)
  isPartial := error.isSome ∧ 0 < rows.length

/-- One job with its connection. -/
def serveProfile (candidate : PooledConnection) (job : DueLoadProfileJob) :
    Proc Raised (CallHome ω) Unit :=
  serve job.jobId (runProfile E serial password candidate job) fun result =>
    E.reportLoadProfileResults serial (profileReport job result.1 result.2)

/-- `_run_load_profile_jobs`. -/
def runLoadProfileJobs : List DueLoadProfileJob → Proc Raised (CallHome ω) Unit
  | [] => pure ()
  | job :: jobs => do
    noteBegun job.jobId
    match ← waitForSiblingConnection E serial with
    | none => runLoadProfileJobs jobs
    | some candidate => do
      serveProfile E serial password candidate job
      runLoadProfileJobs jobs

end Program

/-! ### The event -/

section Event

variable (E : Environment ω) (pc : PooledConnection) (serial : String)

/-- Under the lock: `pc` and the other connections of its meter leave the pool, if `pc` is still
    there. -/
def takeAll : Proc Raised (CallHome ω) (Option (List PooledConnection)) := do
  let pool ← gets (·.shared.1)
  if pc ∈ pool then do
    take pc
    let others ← gets fun s => s.shared.1.filter (·.serial = some serial)
    takeEach others
    pure (some others)
  else pure none

/-- `pc` first, the others from the newest to the oldest. -/
def candidatesOf (others : List PooledConnection) : List PooledConnection :=
  pc :: others.insertionSort fun p q => q.acceptedAt ≤ p.acceptedAt

/-- `claimed.password.encode("ascii")`. -/
def encodeAscii : Option String → Except Raised Bytes
  | none => .error (.other "AttributeError")
  | some text =>
    if text.toList.all (·.toNat < 128) then .ok (text.toList.map fun c => UInt8.ofNat c.toNat)
    else .error (.py .unicodeError)

/-- What follows once the connections are taken. -/
def serveJobs (claimed : ClaimDueJobsResult) (candidates : List PooledConnection) :
    Proc Raised (CallHome ω) Unit := do
  let password ← lift (encodeAscii claimed.password)
  if claimed.controlJobs ≠ [] then
    runControlJobs E serial password claimed.controlJobs candidates
  else do
    if claimed.jobs ≠ [] then runReadJobs E serial password claimed.jobs candidates
    else closeAll candidates
    runLoadProfileJobs E serial password claimed.loadProfileJobs

/-- The body of the `try` of `_maybe_trigger_immediate_read`. -/
def triggerImmediateRead : Proc Raised (CallHome ω) Unit := do
  match ← outside (E.claimDueJobs serial) with
  | none => pure ()
  | some claimed =>
    if claimed.jobs = [] ∧ claimed.loadProfileJobs = [] ∧ claimed.controlJobs = [] then pure ()
    else do
      match ← takeAll pc serial with
      | none => pure ()
      | some others => serveJobs E serial claimed (candidatesOf pc others)

/-- `_maybe_trigger_immediate_read`: whatever is raised is only logged. -/
def maybeTriggerImmediateRead : Proc Raised (CallHome ω) Unit := do
  let _ ← (attempt (triggerImmediateRead E pc serial) : Proc Raised (CallHome ω) (Except Raised Unit))
  pure ()

end Event

end RiseSun.Gateway
