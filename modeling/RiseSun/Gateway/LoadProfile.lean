/-
  Reading the load profile (`read_load_profile_via_established_link` in `protocols/hdlc_dlms.py`,
  `read_load_profile_via_fresh_connection` in `callhome.py`).

  1. **One payload** — `onPayload` is everything the transfer does with an answer of the meter: the
     rows it yields and whether it ends, fails or asks for another block.  A pure function, so what
     a payload does can be discussed without the socket.

  2. **The transfer** — `transferLoop` receives, hands the payload to `onPayload`, yields and asks
     on.  Each round takes at least one byte off the socket, so the bytes that are still to come
     bound the rounds; `transferBlocks_eq` is the loop of the source, with no fuel in it.

  3. **The generator** `readLoadProfileViaEstablishedLink` and its consumer
     `readLoadProfileViaFreshConnection`, which keeps the rows that were yielded before an exception
     it knows.
-/
import RiseSun.Gateway.ProfileRow
import RiseSun.Gateway.Meter

namespace RiseSun.Gateway

open Proc

variable {σ : Type}

/-! ## Rows in the window -/

/-- `from_dt <= timestamp <= to_dt`; a bound with a time zone cannot be compared. -/
def inWindow (fromDt toDt timestamp : DateTime) : Except PyExc Bool :=
  match fromDt.le? timestamp with
  | none => .error .typeError
  | some false => .ok false
  | some true =>
    match timestamp.le? toDt with
    | none => .error .typeError
    | some before => .ok before

/-- `_decode_row_if_in_range`. -/
def decodeRowIfInRange (fromDt toDt : DateTime) (row : Bytes) :
    Except PyExc (Option ProfileRow) := do
  let decoded ← decodeLoadProfileRow row
  let inRange ← inWindow fromDt toDt decoded.timestamp
  .ok (if inRange then some decoded else none)

/-- Rows decoded one after the other, up to the first that raises: what is yielded, and how it
    ends. -/
def decodeRows (fromDt toDt : DateTime) : List Bytes → List ProfileRow × Except PyExc Unit
  | [] => ([], .ok ())
  | row :: rows =>
    match decodeRowIfInRange fromDt toDt row with
    | .error e => ([], .error e)
    | .ok decoded =>
      (decoded.toList ++ (decodeRows fromDt toDt rows).1, (decodeRows fromDt toDt rows).2)

/-! ## One payload -/

/-- The local variables of the transfer; `pending_block_number` is unbound at first. -/
structure Transfer where
  sendSeq : Nat := 2
  invokeId : Nat := 1
  buf : Bytes := []
  useIncrementingInvokeId : Bool := false
  pendingBlockNumber : Option Nat := none
  deriving DecidableEq

/-- What follows a payload: the end, an exception, or a request for the pending block. -/
inductive Step
  | done
  | failed (e : PyExc)
  | ask (t : Transfer)
  deriving DecidableEq

/-- The rest is decoded if the rows before it did not raise. -/
def Step.after (next : Step) : Except PyExc Unit → Step
  | .ok () => next
  | .error e => .failed e

/-- `(invoke_id + 1) & 0xF`. -/
def bumpInvokeId (invokeId : Nat) : Nat := (invokeId + 1) &&& 0xF

/-- "No long get in progress". -/
def isNoLongGetInProgress (payload : Bytes) : Bool :=
  9 < payload.length && payload[8]? == some datablockResultDataAccessError && payload[9]? == some 16

/-- The rows at the end of the transfer: what is left of the buffer is one, too. -/
def lastRows (buf : Bytes) : List Bytes :=
  if (splitLoadProfileRows buf).2 = [] then (splitLoadProfileRows buf).1
  else (splitLoadProfileRows buf).1 ++ [(splitLoadProfileRows buf).2]

/-- A round of `while True` from the payload on: the rows it yields and what follows. -/
def onPayload (fromDt toDt : DateTime) (t : Transfer) (payload : Bytes) :
    List ProfileRow × Step :=
  if payload[1]? = some getResponseNormal then
    if payload.length < 4 ∨ payload[3]? ≠ some resultData then
      ([], .failed (.plain [.text "Неожиданный GET.response-normal при чтении профиля нагрузки: ",
        .hex payload]))
    else
      let (rows, outcome) := decodeRows fromDt toDt (lastRows (t.buf ++ payload.drop 4))
      (rows, Step.done.after outcome)
  else if payload[1]? ≠ some getResponseWithDatablock then
    ([], .failed (.plain [.text "Неожиданный тип GET.response при чтении профиля нагрузки: ",
      .hex (payload.take 2)]))
  else
    match parseGetResponseDatablock payload with
    | .error e =>
      if e.isGatewayError ∧ isNoLongGetInProgress payload ∧ ¬ t.useIncrementingInvokeId then
        ([], .ask { t with useIncrementingInvokeId := true, invokeId := bumpInvokeId t.invokeId })
      else ([], .failed e)
    | .ok block =>
      let buf := t.buf ++ block.rawData
      if block.lastBlock then
        let (rows, outcome) := decodeRows fromDt toDt (lastRows buf)
        (rows, Step.done.after outcome)
      else
        let (rows, outcome) := decodeRows fromDt toDt (splitLoadProfileRows buf).1
        let invokeId := if t.useIncrementingInvokeId then bumpInvokeId t.invokeId else t.invokeId
        let next : Transfer := { t with
          buf := (splitLoadProfileRows buf).2, invokeId := invokeId
          pendingBlockNumber := some (block.blockNumber + 1) }
        (rows, (Step.ask next).after outcome)

/-! ## The transfer -/

section Transfer

variable (S : MeterSocket σ) (server client : Int)

/-- The next answer, without its LLC header. -/
def recvPayload : Proc PyExc σ Bytes := do
  let frame ← recvIFrame S
  lift (unwrapLlc frame.information)

/-- GET.request-Next for the pending block. -/
def sendGetRequestNext (t : Transfer) : Proc PyExc σ Unit := do
  let blockNumber ← lift (match t.pendingBlockNumber with
    | some n => .ok n
    | none => .error .unboundLocalError)
  let request ← lift (buildGetRequestNext blockNumber (UInt8.ofNat t.invokeId))
  sendIFrame S server client t.sendSeq t.sendSeq (wrapLlcCommand request)

/-- What follows a payload; `again` is the next round. -/
def followStep (again : Transfer → Proc PyExc (σ × List ProfileRow) Unit) :
    Step → Proc PyExc (σ × List ProfileRow) Unit
  | .done => pure ()
  | .failed e => raise e
  | .ask t => do
    within (sendGetRequestNext S server client t)
    again { t with sendSeq := t.sendSeq + 1 }

variable (fromDt toDt : DateTime)

/-- One round of the transfer. -/
def transferRound (again : Transfer → Proc PyExc (σ × List ProfileRow) Unit) (t : Transfer) :
    Proc PyExc (σ × List ProfileRow) Unit := do
  let payload ← within (recvPayload S)
  emit (onPayload fromDt toDt t payload).1
  followStep S server client again (onPayload fromDt toDt t payload).2

/-- At most `fuel` rounds. -/
def transferLoop : (fuel : Nat) → Transfer → Proc PyExc (σ × List ProfileRow) Unit
  | 0, _ => pure ()
  | fuel + 1, t => transferRound S server client fromDt toDt (transferLoop fuel) t

/-- The loop of the source: more rounds than bytes to come cannot be needed. -/
def transferBlocks (t : Transfer) : Proc PyExc (σ × List ProfileRow) Unit := fun s =>
  transferLoop S server client fromDt toDt (S.pending s.1 + 1) t s

/-! ### The loop without fuel -/

theorem recvPayload_spends : Spends S.pending (fun _ => 1) (recvPayload S) := by
  unfold recvPayload
  refine Spends.bind (recvIFrameLoop_spends S _) fun frame => ?_
  exact Spends.mono (Spends.lift S.pending _) fun _ => by omega

theorem sendGetRequestNext_spends (t : Transfer) :
    Spends S.pending (fun _ => 0) (sendGetRequestNext S server client t) := by
  unfold sendGetRequestNext
  refine Spends.bind (Spends.lift S.pending _) fun _ => ?_
  refine Spends.bind (Spends.lift S.pending _) fun _ => ?_
  exact sendIFrame_spends S server client _ _ _

/-- A round of the transfer that received a payload yields its rows and goes on as the payload says.
    -/
theorem transferRound_ok {again : Transfer → Proc PyExc (σ × List ProfileRow) Unit} {t : Transfer}
    {s s' : σ} {payload : Bytes} (h : recvPayload S s = (.ok payload, s'))
    (ys : List ProfileRow) :
    transferRound S server client fromDt toDt again t (s, ys) =
      followStep S server client again (onPayload fromDt toDt t payload).2
        (s', ys ++ (onPayload fromDt toDt t payload).1) := by
  unfold transferRound
  rw [bind_ok (within_run h ys), emit_bind_run]

/-- A round of the transfer that received no payload ends with the exception and the rows so far. -/
theorem transferRound_error {again : Transfer → Proc PyExc (σ × List ProfileRow) Unit}
    {t : Transfer} {s s' : σ} {e : PyExc} (h : recvPayload S s = (.error e, s'))
    (ys : List ProfileRow) :
    transferRound S server client fromDt toDt again t (s, ys) = (.error e, (s', ys)) := by
  unfold transferRound
  rw [bind_error (within_run h ys)]

theorem followStep_ok {again : Transfer → Proc PyExc (σ × List ProfileRow) Unit} {t : Transfer}
    {s s' : σ} (h : sendGetRequestNext S server client t s = (.ok (), s')) (ys : List ProfileRow) :
    followStep S server client again (.ask t) (s, ys) =
      again { t with sendSeq := t.sendSeq + 1 } (s', ys) := by
  show (within (sendGetRequestNext S server client t) >>= _) (s, ys) = _
  rw [bind_ok (within_run h ys)]

theorem followStep_error {again : Transfer → Proc PyExc (σ × List ProfileRow) Unit} {t : Transfer}
    {s s' : σ} {e : PyExc} (h : sendGetRequestNext S server client t s = (.error e, s'))
    (ys : List ProfileRow) :
    followStep S server client again (.ask t) (s, ys) = (.error e, (s', ys)) := by
  show (within (sendGetRequestNext S server client t) >>= _) (s, ys) = _
  rw [bind_error (within_run h ys)]

/-- A round leaves fewer bytes to come than it found. -/
theorem transferRound_congr {again again' : Transfer → Proc PyExc (σ × List ProfileRow) Unit}
    {t : Transfer} {s : σ} {ys : List ProfileRow}
    (h : ∀ t' s' ys', S.pending s' < S.pending s → again t' (s', ys') = again' t' (s', ys')) :
    transferRound S server client fromDt toDt again t (s, ys) =
      transferRound S server client fromDt toDt again' t (s, ys) := by
  rcases hrecv : recvPayload S s with ⟨e | payload, s₁⟩
  · rw [transferRound_error _ _ _ _ _ hrecv, transferRound_error _ _ _ _ _ hrecv]
  · rw [transferRound_ok _ _ _ _ _ hrecv, transferRound_ok _ _ _ _ _ hrecv]
    have hs₁ := (recvPayload_spends S s).2 payload (by rw [hrecv])
    rw [hrecv] at hs₁
    have hone : 1 + S.pending s₁ ≤ S.pending s := hs₁
    generalize (onPayload fromDt toDt t payload).2 = step
    cases step with
    | done => rfl
    | failed e => rfl
    | ask t' =>
      rcases hsend : sendGetRequestNext S server client t' s₁ with ⟨e | ⟨⟩, s₂⟩
      · rw [followStep_error _ _ _ hsend, followStep_error _ _ _ hsend]
      · have hs₂ := (sendGetRequestNext_spends S server client t' s₁).1
        rw [hsend] at hs₂
        have hzero : S.pending s₂ ≤ S.pending s₁ := hs₂
        rw [followStep_ok _ _ _ hsend, followStep_ok _ _ _ hsend]
        exact h _ s₂ _ (by omega)

theorem transferLoop_fuel : ∀ (fuel fuel' : Nat) (t : Transfer) (s : σ) (ys : List ProfileRow),
    S.pending s < fuel → S.pending s < fuel' →
      transferLoop S server client fromDt toDt fuel t (s, ys) =
        transferLoop S server client fromDt toDt fuel' t (s, ys) := by
  intro fuel
  induction fuel with
  | zero =>
    intro fuel' t s ys h
    omega
  | succ fuel ih =>
    intro fuel' t s ys h h'
    cases fuel' with
    | zero => omega
    | succ fuel' =>
      apply transferRound_congr
      intro t' s' ys' hlt
      exact ih fuel' t' s' ys' (by omega) (by omega)

/-- The loop of the source: a round of the transfer, and then the loop again. -/
theorem transferBlocks_eq (t : Transfer) (s : σ × List ProfileRow) :
    transferBlocks S server client fromDt toDt t s =
      transferRound S server client fromDt toDt (transferBlocks S server client fromDt toDt) t s := by
  apply transferRound_congr
  intro t' s' ys' hlt
  exact transferLoop_fuel S server client fromDt toDt _ _ t' s' ys' hlt (Nat.lt_succ_self _)

end Transfer

/-- `raw_class_id or PROFILE_GENERIC_CLASS_ID`. -/
def effectiveProfileClassId (rawClassId : Int) : Int :=
  if rawClassId = 0 then profileGenericClassId else rawClassId

/-- `read_load_profile_via_established_link`; `physicalAddress` is the address text of the meter. -/
def readLoadProfileViaEstablishedLink (S : MeterSocket σ) (physicalAddress : String)
    (password : Bytes) (obis : String) (classId : Int) (fromDt toDt : DateTime)
    (sendHeartbeatProbe : Bool) :
    Proc PyExc (σ × List ProfileRow) Unit := do
  let server ← lift (serverHdlcAddress physicalAddress 1)
  within (associate S server defaultClientAddress password userInformationInitiate
    { sendHeartbeatProbe := sendHeartbeatProbe })
  let parsedObis ← lift (parseObis obis)
  let request ← lift (buildGetRequestRange parsedObis (effectiveProfileClassId classId) fromDt toDt 1)
  within (sendIFrame S server defaultClientAddress 1 1 (wrapLlcCommand request))
  transferBlocks S server defaultClientAddress fromDt toDt {}

/-! ## The consumer -/

/-- The `except` clauses around the generator: the rows, with the error or without. -/
def profileResult (connNo : Nat) (rows : List ProfileRow) :
    Except PyExc Unit → Except PyExc (List ProfileRow × Option GatewayError)
  | .ok () => .ok (rows, none)
  | .error (.gateway e) =>
    if e.code = "AUTH_FAILED" then .error (.gateway e) else .ok (rows, some e)
  | .error (.dlmsData message) =>
    .ok (rows, some { cls := .gatewayError
                      message := .text "Некорректные данные в ответе счётчика: " :: message })
  | .error (.socket _) =>
    .ok (rows, some { cls := .gatewayError
                      message := [.text "Обрыв соединения #", .int connNo, .text ": "] })
  | .error e => .error e

/-- `read_load_profile_via_fresh_connection` from the point where SNRM/UA has succeeded. -/
def readLoadProfileViaFreshConnection (S : MeterSocket σ) (connNo : Nat) (physicalAddress : String)
    (password : Bytes) (obis : String) (classId : Int) (fromDt toDt : DateTime)
    (associationTimeout : ℚ) (sendHeartbeatProbe : Bool) :
    Proc PyExc σ (List ProfileRow × Option GatewayError) := do
  let now ← gets S.time
  setDeadline S (some (now + associationTimeout))
  let (rows, outcome) ← collect (readLoadProfileViaEstablishedLink S physicalAddress password obis
    classId fromDt toDt sendHeartbeatProbe)
  lift (profileResult connNo rows outcome)

end RiseSun.Gateway
