/-
  Batches of relay commands (`api/billing.py`, `services/disconnect_batches.py`,
  `_maybe_finalize_disconnect_batch_item`).

  1. **Batches** — one item a meter, with the job that serves it; a meter nobody knows has failed at
     once.

  2. **Requests** — `_create_batch` is one transaction: it answers a key it has seen with the batch it
     has, and else makes the batch with its jobs and items, and closes it if nothing is left to do.

  3. **Finalizations** — whoever ends a relay job writes its item in the same session, reads the items
     of the batch, and closes the batch if none is queued; all that is one more transaction.

  4. **Steps** — a request, a step of the parties, or a stage of a finalization.
-/
import RiseSun.Backend.Sessions

namespace RiseSun.Backend

open Machine

variable {V : Type}

/-! ## Batches -/

inductive BatchOperation
  | disconnect
  | reconnect
  deriving DecidableEq, Repr

inductive BatchStatus
  | queued
  | inProgress
  | completed
  | completedWithErrors
  | failed
  deriving DecidableEq, Repr

def BatchStatus.isOpen : BatchStatus → Bool
  | .queued | .inProgress => true
  | .completed | .completedWithErrors | .failed => false

inductive ItemStatus
  | queued
  | done
  | failed
  deriving DecidableEq, Repr

structure DisconnectBatch where
  batchId : String
  operation : BatchOperation
  idempotencyKey : String
  apiKeyId : Int
  status : BatchStatus := .queued
  reason : Option String := none
  finishedAt : Option Int := none
  deriving DecidableEq, Repr

structure DisconnectBatchItem where
  batchPk : Int
  meterSerial : String
  meterId : Option Int := none
  status : ItemStatus := .queued
  errorCode : Option String := none
  jobId : Option Int := none
  deriving DecidableEq, Repr

def itemsOf (items : Table Int DisconnectBatchItem) (batchPk : Int) :
    List (Int × DisconnectBatchItem) :=
  items.rows.filter fun r => r.2.batchPk = batchPk

/-- The end `finalize_batch_if_complete` gives a batch of these items. -/
def outcomeOf (statuses : List ItemStatus) : BatchStatus :=
  if statuses.count .failed = 0 then .completed
  else if statuses.count .failed = statuses.length then .failed
  else .completedWithErrors

/-- It gives one only if nothing is queued. -/
def closes (statuses : List ItemStatus) : Option BatchStatus :=
  if .queued ∈ statuses then none else some (outcomeOf statuses)

def DisconnectBatch.close (status : BatchStatus) (now : Int) (batch : DisconnectBatch) :
    DisconnectBatch :=
  { batch with status := status, finishedAt := some now }

/-! ## Finalizations -/

inductive FinalizationStage
  | due
  /-- The item is written, not committed, and the items of its batch are read. -/
  | flushed (itemId batchPk : Int) (closing : Option BatchStatus)
  /-- The batch was fetched, and is open. -/
  | closing (itemId batchPk : Int) (status : BatchStatus)
  deriving DecidableEq, Repr

/-- The end of a relay job, on its way to the item. -/
structure Finalization where
  session : DbSession
  jobId : Int
  outcome : ItemStatus
  error : Option JobError
  stage : FinalizationStage := .due
  deriving DecidableEq

def itemOutcome : JobStatus → ItemStatus
  | .succeeded => .done
  | _ => .failed

def Finalization.of (session : DbSession) (jobId : Int) (job : Job V) : Finalization where
  session := session
  jobId := jobId
  outcome := itemOutcome job.status
  error := if job.status = .failed then job.error else none

def Finalization.write (f : Finalization) (item : DisconnectBatchItem) : DisconnectBatchItem :=
  { item with
    status := f.outcome
    errorCode := match f.error with
      | some error => error.code
      | none => item.errorCode }

/-- What the end of a job leaves to be done. -/
def relayEnd (session : DbSession) (after : JobState V) (jobId : Int) : List Finalization :=
  match after.jobs.get jobId with
  | some job => if isRelayJob job then [.of session jobId job] else []
  | none => []

/-- A worker and a report look at the type of the job they have ended. -/
def finalizes (session : DbSession) (after : JobState V) : JobAction V → List Finalization
  | .work hold .. | .reportCommit hold .. => relayEnd session after hold.jobId
  | _ => []

/-! ## Requests -/

structure BillingApiError where
  statusCode : Nat
  code : String
  message : String
  deriving DecidableEq, Repr

def maxBatchSize : Nat := 500

/-- The schema turns a request without meters away. -/
structure DisconnectBatchRequest where
  reason : Option String := none
  meters : List String
  nonempty : meters ≠ []

structure DisconnectBatchAccepted where
  batchId : String
  acceptedCount : Nat
  status : BatchStatus
  statusUrl : String
  deriving DecidableEq, Repr

def accepted (request : DisconnectBatchRequest) (batch : DisconnectBatch) :
    DisconnectBatchAccepted where
  batchId := batch.batchId
  acceptedCount := request.meters.length
  status := batch.status
  statusUrl := "/api/v1/billing/disconnect-batch/" ++ batch.batchId

structure BatchState (V : Type) where
  core : JobState V
  batches : Table Int DisconnectBatch := ⟨[], List.nodup_nil⟩
  items : Table Int DisconnectBatchItem := ⟨[], List.nodup_nil⟩
  /-- The statuses of the items each session has loaded. -/
  copies : RowCache DbSession Int ItemStatus := .empty
  finalizations : List Finalization := []

/-- What the database gives a new batch: its key, and keys for the item and the job of each meter. -/
structure NewBatch where
  batchPk : Int
  batchId : String
  rows : List (Int × Int)
  createdAt : Int
  now : Int

def BatchOperation.jobType : BatchOperation → JobType
  | .disconnect => .disconnect
  | .reconnect => .reconnect

/-- One turn of the loop over the serial numbers; `meters` finds the meter of a serial number. -/
def addItem (values : Values V) (operation : BatchOperation) (meters : String → Option Int)
    (new : NewBatch) (s : BatchState V) : String × Int × Int → Option (BatchState V)
  | (serial, itemId, jobId) =>
    if h : s.items.get itemId = none then
      match meters serial with
      | none => some { s with
          items := s.items.insert itemId
            { batchPk := new.batchPk, meterSerial := serial, status := .failed,
              errorCode := some "METER_NOT_FOUND" } h }
      | some meterId =>
        (jobStep values s.core (.create jobId
          { jobType := operation.jobType, meterId := meterId, createdAt := new.createdAt })).map
          fun core => { s with
            core := core
            items := s.items.insert itemId
              { batchPk := new.batchPk, meterSerial := serial, meterId := some meterId,
                jobId := some jobId } h }
    else none

/-- The batch an API key has made under an idempotency key. -/
def existingBatch (s : BatchState V) (apiKeyId : Int) (idempotencyKey : String) :
    Option (Int × DisconnectBatch) :=
  s.batches.rows.find? fun r => r.2.apiKeyId = apiKeyId ∧ r.2.idempotencyKey = idempotencyKey

/-- The batch asks for the same as the request. -/
def sameContent (s : BatchState V) (operation : BatchOperation) (request : DisconnectBatchRequest)
    (existing : Int × DisconnectBatch) : Bool :=
  existing.2.operation = operation ∧
    (∀ r ∈ itemsOf s.items existing.1, r.2.meterSerial ∈ request.meters) ∧
    ∀ serial ∈ request.meters, ∃ r ∈ itemsOf s.items existing.1, r.2.meterSerial = serial

/-- A new batch, with its items and jobs. -/
def insertBatch (values : Values V) (s : BatchState V) (operation : BatchOperation)
    (request : DisconnectBatchRequest) (idempotencyKey : String) (apiKeyId : Int)
    (meters : String → Option Int) (new : NewBatch) : Option (BatchState V) :=
  if h : s.batches.get new.batchPk = none then
    if new.rows.length = request.meters.length then
      let batch : DisconnectBatch :=
        { batchId := new.batchId, operation := operation, idempotencyKey := idempotencyKey,
          apiKeyId := apiKeyId, reason := request.reason }
      (exec (addItem values operation meters new)
        { s with batches := s.batches.insert new.batchPk batch h }
        (request.meters.zip new.rows)).map fun t =>
          match closes ((itemsOf t.items new.batchPk).map (·.2.status)) with
          | some status => { t with batches := t.batches.update new.batchPk (·.close status new.now) }
          | none => t
    else none
  else none

/-- `_create_batch`. -/
def createBatch (values : Values V) (s : BatchState V) (operation : BatchOperation)
    (request : DisconnectBatchRequest) (idempotencyKey : Option String) (apiKeyId : Int)
    (meters : String → Option Int) (new : NewBatch) :
    Option (BatchState V × Except BillingApiError DisconnectBatchAccepted) :=
  match idempotencyKey with
  | none | some "" => some (s, .error
      ⟨400, "IDEMPOTENCY_KEY_REQUIRED", "Заголовок Idempotency-Key обязателен"⟩)
  | some key =>
    if maxBatchSize < request.meters.length then
      some (s, .error ⟨400, "BATCH_TOO_LARGE", "Размер пакета превышает лимит 500 счётчиков"⟩)
    else
      match existingBatch s apiKeyId key with
      | some existing =>
        if sameContent s operation request existing then
          some (s, .ok (accepted request existing.2))
        else
          some (s, .error ⟨400, "DUPLICATE_IDEMPOTENCY_KEY",
            "Idempotency-Key уже использован с иным содержимым запроса"⟩)
      | none =>
        (insertBatch values s operation request key apiKeyId meters new).bind fun t =>
          (t.batches.get new.batchPk).map fun batch => (t, .ok (accepted request batch))

/-! ## Steps -/

inductive BatchAction (V : Type)
  | create (operation : BatchOperation) (request : DisconnectBatchRequest)
      (idempotencyKey : Option String) (apiKeyId : Int) (meters : String → Option Int)
      (new : NewBatch)
  | job (session : DbSession) (a : JobAction V)
  | finalizeSelect (f : Finalization)
  | finalizeGet (f : Finalization)
  | finalizeCommit (f : Finalization) (now : Int)
  | restart (now : Int)

/-- The item of a job. -/
def itemOf (items : Table Int DisconnectBatchItem) (jobId : Int) :
    Option (Int × DisconnectBatchItem) :=
  items.rows.find? fun r => r.2.jobId = some jobId

def BatchState.itemStatus (s : BatchState V) (itemId : Int) : Option ItemStatus :=
  (s.items.get itemId).map (·.status)

/-- What a finalization's session reads of an item of the batch: its own is written already. -/
def BatchState.reads (s : BatchState V) (f : Finalization) (itemId : Int)
    (r : Int × DisconnectBatchItem) : ItemStatus :=
  if r.1 = itemId then f.outcome else s.copies.seen f.session r.1 r.2.status

def BatchState.replace (s : BatchState V) (f : Finalization) (next : Option FinalizationStage) :
    List Finalization :=
  s.finalizations.erase f ++ (next.map ({ f with stage := · })).toList

def batchStep (values : Values V) (s : BatchState V) : BatchAction V → Option (BatchState V)
  | .create operation request idempotencyKey apiKeyId meters new =>
    (createBatch values s operation request idempotencyKey apiKeyId meters new).map (·.1)
  | .job session a =>
    if session.takes a then
      (jobStep values s.core a).map fun core =>
        { s with
          core := core
          finalizations := s.finalizations ++ finalizes session core a }
    else none
  | .finalizeSelect f =>
    if f ∈ s.finalizations ∧ f.stage = .due then
      match itemOf s.items f.jobId with
      | none => some { s with finalizations := s.replace f none }
      | some (itemId, item) => some { s with
          copies := s.copies.load f.session
            (itemId :: (itemsOf s.items item.batchPk).map (·.1)) s.itemStatus
          finalizations := s.replace f (some (.flushed itemId item.batchPk
            (closes ((itemsOf s.items item.batchPk).map (s.reads f itemId))))) }
    else none
  | .finalizeGet f =>
    match f.stage with
    | .flushed itemId batchPk (some status) =>
      if f ∈ s.finalizations then
        some { s with
          finalizations := s.replace f (some
            (if ∃ batch ∈ s.batches.get batchPk, batch.status.isOpen = true then
              .closing itemId batchPk status
            else .flushed itemId batchPk none)) }
      else none
    | _ => none
  | .finalizeCommit f now =>
    if f ∈ s.finalizations then
      match f.stage with
      | .flushed itemId _ none =>
        let items := s.items.update itemId f.write
        some { s with
          items := items
          copies := s.copies.write f.session [itemId] fun id => (items.get id).map (·.status)
          finalizations := s.replace f none }
      | .closing itemId batchPk status =>
        let items := s.items.update itemId f.write
        some { s with
          items := items
          batches := s.batches.update batchPk (·.close status now)
          copies := s.copies.write f.session [itemId] fun id => (items.get id).map (·.status)
          finalizations := s.replace f none }
      | _ => none
    else none
  | .restart now => some { s with
      core := restart s.core now
      copies := .empty
      finalizations := [] }

end RiseSun.Backend
