/-
  The HDLC/DLMS client (`protocols/hdlc_dlms.py`): I-frames, association, register reading.

  Everything here runs on an arbitrary `MeterSocket`: what the meter sends, when it falls silent and
  when it closes is the socket's business.  The N(S)/N(R) counters and the invoke id are written
  into requests and never looked at in answers, as in the source.

  * `recvIFrame` skips at most twenty supervisory frames;
  * `sendAarqAndAwaitAare` resends the AARQ in short windows and puts the deadline back whatever
    happens (the source's `finally`);
  * `readOneRegister` is one register: scaler (for class Register) first, then value;
  * `registerLoop` is the batch over one association.
-/
import RiseSun.Lib.Binary64
import RiseSun.Gateway.Dlms
import RiseSun.Gateway.Transport

namespace RiseSun.Gateway

open Proc

variable {σ : Type}

/-! ## I-frames -/

/-- The raw bytes of an I-frame from the client. -/
def iFrame (server client : Int) (sendSeq recvSeq : Nat) (information : Bytes) :
    Except PyExc Bytes :=
  HdlcFrame.encode
    { destination := server, source := client
      control := controlInformationFrame sendSeq recvSeq, information := information }

/-- `_send_i_frame`. -/
def sendIFrame (S : MeterSocket σ) (server client : Int) (sendSeq recvSeq : Nat)
    (information : Bytes) : Proc PyExc σ Unit := do
  let raw ← lift (iFrame server client sendSeq recvSeq information)
  send S raw

/-- A frame with little information fits its length field. -/
theorem HdlcFrame.totalLength_short {f : HdlcFrame} (hlen : f.information.length ≤ 2003) :
    f.totalLength ≤ 2047 + 2 := by
  have hsize : ∀ value : Int, addressLength value ≤ 4 := by
    intro value
    unfold addressLength
    split
    · omega
    · split <;> omega
  have h1 := hsize f.destination
  have h2 := hsize f.source
  unfold HdlcFrame.totalLength
  omega

/-- A short frame between proper addresses can be encoded. -/
theorem encode_short {f : HdlcFrame} (haddr : f.Addressed) (hlen : f.information.length ≤ 2003) :
    ∃ raw, f.encode = .ok raw := by
  obtain ⟨raw, hraw, _⟩ := frame_roundtrip haddr (HdlcFrame.totalLength_short hlen)
  exact ⟨raw, hraw⟩

/-- Requests to a meter always fit a frame. -/
theorem iFrame_ok {server client : Int} (hs : 0 ≤ server ∧ server < 2 ^ 28)
    (hc : 0 ≤ client ∧ client < 2 ^ 28) (sendSeq recvSeq : Nat) {information : Bytes}
    (hlen : information.length ≤ 2000) :
    ∃ raw, iFrame server client sendSeq recvSeq information = .ok raw :=
  encode_short (f := ⟨server, client, controlInformationFrame sendSeq recvSeq, information⟩)
    ⟨hs, hc⟩ (Nat.le_trans hlen (by decide))

def maxSupervisoryFramesSkipped : Nat := 20

def tooManySupervisoryFrames : PyExc :=
  .plain [.text "Счётчик прислал слишком много супервизорных кадров подряд без ответа приложения"]

/-- The loop of `_recv_i_frame`: an even control byte is an I-frame. -/
def recvIFrameLoop (S : MeterSocket σ) : Nat → Proc PyExc σ HdlcFrame
  | 0 => raise tooManySupervisoryFrames
  | left + 1 => do
    let raw ← readFrameFromTransport S
    let frame ← lift (HdlcFrame.decode raw)
    if frame.control &&& 0x01 = 0 then pure frame else recvIFrameLoop S left

/-- `_recv_i_frame`. -/
def recvIFrame (S : MeterSocket σ) : Proc PyExc σ HdlcFrame :=
  recvIFrameLoop S maxSupervisoryFramesSkipped

theorem recvIFrameLoop_spends (S : MeterSocket σ) : ∀ left : Nat,
    Spends S.pending (fun _ => 1) (recvIFrameLoop S left) := by
  intro left
  induction left with
  | zero => exact Spends.raise S.pending _ _
  | succ left ih =>
    unfold recvIFrameLoop
    refine Spends.bind (readFrameFromTransport_spends S) fun raw => ?_
    refine Spends.bind (Spends.lift S.pending _) fun frame => ?_
    split
    · exact Spends.pure S.pending rfl
    · exact Spends.mono ih fun _ => by omega

section Raises

variable {P : PyExc → Prop} {S : MeterSocket σ} {s s' : σ}

/-- A frame reader that raises ends the wait. -/
theorem recvIFrameLoop_raises_unread {e : PyExc} (left : Nat)
    (h : readFrameFromTransport S s = (.error e, s')) :
    RaisesOnly P (recvIFrameLoop S (left + 1)) s ↔ P e :=
  raisesOnly_of_error (bind_error h)

/-- A frame ends the wait if it is not accepted or an I-frame. -/
theorem recvIFrameLoop_raises_read {raw : Bytes} (left : Nat)
    (h : readFrameFromTransport S s = (.ok raw, s')) :
    RaisesOnly P (recvIFrameLoop S (left + 1)) s ↔
      match HdlcFrame.decode raw with
      | .error e => P e
      | .ok frame => frame.control &&& 0x01 = 0 ∨ RaisesOnly P (recvIFrameLoop S left) s' := by
  have hrun : recvIFrameLoop S (left + 1) s =
      (lift (HdlcFrame.decode raw) >>= fun frame =>
        if frame.control &&& 0x01 = 0 then pure frame else recvIFrameLoop S left) s' := by
    rw [recvIFrameLoop, bind_ok h]
  rw [RaisesOnly, hrun]
  cases HdlcFrame.decode raw with
  | error e => exact raisesOnly_of_error (lift_error_bind_run e _ s')
  | ok frame =>
    dsimp only
    rw [lift_ok_bind_run]
    by_cases hc : frame.control &&& 0x01 = 0
    · rw [if_pos hc]
      exact ⟨fun _ => .inl hc, fun _ => raisesOnly_of_ok (pure_run frame s')⟩
    · rw [if_neg hc]
      exact ⟨.inr, fun hor => hor.resolve_left hc⟩

end Raises

theorem sendIFrame_spends (S : MeterSocket σ) (server client : Int) (sendSeq recvSeq : Nat)
    (information : Bytes) :
    Spends S.pending (fun _ => 0) (sendIFrame S server client sendSeq recvSeq information) := by
  unfold sendIFrame
  exact Spends.bind (Spends.lift S.pending _) fun raw => send_spends S raw

/-! ## `_establish_link` -/

/-- SNRM, and the UA that must answer it. -/
def establishLink (S : MeterSocket σ) (server client : Int) : Proc PyExc σ Unit := do
  let raw ← lift (HdlcFrame.encode ⟨server, client, controlSnrm, snrmParameterNegotiation⟩)
  send S raw
  let answer ← readFrameFromTransport S
  let response ← lift (HdlcFrame.decode answer)
  if response.control ≠ controlUa then
    raise (.plain [.text
      "Счётчик не подтвердил установление HDLC-соединения (ожидался управляющий байт UA)"])
  else pure ()

/-! ## Association -/

/-- The keyword arguments of `_send_aarq_and_await_aare`. -/
structure AarqOptions where
  perAttemptTimeout : ℚ := 5
  maxAttempts : Nat := 20
  sendDiscBeforeRetry : Bool := true
  sendHeartbeatProbe : Bool := false

def aareTimeout (maxAttempts : Nat) : PyExc :=
  .gateway { cls := .meterTimeoutError
             message := [.text "AARE не пришло после ", .int maxAttempts, .text " попыток AARQ"] }

/-- `except MeterTimeoutError`. -/
def PyExc.isMeterTimeout : PyExc → Bool
  | .gateway e => e.cls == .meterTimeoutError
  | _ => false

/-- `set_deadline`, where the socket has it. -/
def setDeadline (S : MeterSocket σ) (deadline : Option ℚ) : Proc PyExc σ Unit :=
  match S.deadline with
  | some ops => modify (ops.set deadline)
  | none => pure ()

/-- `get_deadline()`; `None` where the socket has no deadline. -/
def getDeadline (S : MeterSocket σ) : Proc PyExc σ (Option ℚ) :=
  match S.deadline with
  | some ops => gets ops.get
  | none => pure none

/-- The deadline in force. -/
def currentDeadline (S : MeterSocket σ) (s : σ) : Option ℚ := S.deadline.bind fun ops => ops.get s

theorem getDeadline_run (S : MeterSocket σ) (s : σ) :
    getDeadline S s = (.ok (currentDeadline S s), s) := by
  unfold getDeadline currentDeadline
  cases S.deadline with
  | none => rfl
  | some ops => rfl

theorem setDeadline_run (S : MeterSocket σ) (deadline : Option ℚ) (s : σ) :
    ∃ s', setDeadline S deadline s = (.ok (), s') := by
  unfold setDeadline
  cases S.deadline with
  | none => exact ⟨s, rfl⟩
  | some ops => exact ⟨ops.set deadline s, rfl⟩

/-- The deadline of one attempt: the window, but not beyond the deadline of the whole operation. -/
def narrowedDeadline (now window : ℚ) (original : Option ℚ) : ℚ :=
  match original with
  | some d => min (now + window) d
  | none => now + window

/-- What an attempt does before it waits: DISC (on a retry), heartbeat, AARQ, and the deadline. -/
def startAttempt (S : MeterSocket σ) (server client : Int) (information : Bytes)
    (options : AarqOptions) (original : Option ℚ) (retry : Bool) : Proc PyExc σ Unit := do
  if retry ∧ options.sendDiscBeforeRetry then do
    let disc ← lift (HdlcFrame.encode ⟨server, client, controlDisc, []⟩)
    send S disc
  if options.sendHeartbeatProbe then send S [0, 0, 0]
  sendIFrame S server client 0 0 information
  let now ← gets S.time
  setDeadline S (some (narrowedDeadline now options.perAttemptTimeout original))

/-- The attempts of `_send_aarq_and_await_aare`: `left` of them are left, `retry` says that this is
    not the first, `lastError` is what the attempt before raised. -/
def aarqAttempts (S : MeterSocket σ) (server client : Int) (information : Bytes)
    (options : AarqOptions) (original : Option ℚ) :
    (left : Nat) → (retry : Bool) → (lastError : PyExc) → Proc PyExc σ HdlcFrame
  | 0, _, lastError => raise lastError
  | left + 1, retry, _ => do
    startAttempt S server client information options original retry
    match ← attempt (recvIFrame S) with
    | .ok frame => pure frame
    | .error e =>
      if e.isMeterTimeout then do
        let now ← gets S.time
        if original.any (· ≤ now) then raise e
        else aarqAttempts S server client information options original left true e
      else raise e

/-- `_send_aarq_and_await_aare`: the deadline is put back on every way out. -/
def sendAarqAndAwaitAare (S : MeterSocket σ) (server client : Int) (information : Bytes)
    (options : AarqOptions) : Proc PyExc σ HdlcFrame := do
  let original ← getDeadline S
  let result ← attempt (aarqAttempts S server client information options original
    options.maxAttempts false (aareTimeout options.maxAttempts))
  setDeadline S original
  lift result

/-- The AARQ/AARE exchange every operation starts with. -/
def associate (S : MeterSocket σ) (server client : Int) (password userInformation : Bytes)
    (options : AarqOptions) : Proc PyExc σ Unit := do
  let aarq ← lift (buildAarq password userInformation)
  let aareFrame ← sendAarqAndAwaitAare S server client (wrapLlcCommand aarq) options
  lift (unwrapLlc aareFrame.information >>= parseAare)

/-! ## One register -/

/-- A register's value: what was decoded or an integer scaled up, or the float that scaling down
    gives. -/
inductive RegisterValue
  | plain (value : Value)
  | float (value : ℚ)
  deriving DecidableEq

/-- The OBIS code whose value attribute is read for `obis`. -/
def valueObis (obis : String) : String := (valueObisOverrides.lookup obis).getD obis

/-- What the answer to a GET says. -/
def getAnswer (frame : HdlcFrame) : Except PyExc Value :=
  unwrapLlc frame.information >>= parseGetResponse

/-- The exceptions that the two `except` clauses around `parse_get_response` catch. -/
def PyExc.isAnswerFailure : PyExc → Bool
  | .gateway _ => true
  | .dlmsData _ => true
  | _ => false

/-- The scaler of a register, `None` when its GET was answered with a failure. -/
def scalerAnswer (frame : HdlcFrame) : Except PyExc Value :=
  match getAnswer frame with
  | .ok value => .ok value
  | .error e => if e.isAnswerFailure then .ok .null else .error e

/-- What a value GET that was answered with a failure leaves as the register's error. -/
def answerFailure : PyExc → GatewayError
  | .gateway e => e
  | .dlmsData message =>
    { cls := .gatewayError, message := .text "Некорректные данные в GET.response: " :: message }
  | _ => { cls := .gatewayError, message := [] }

/-- The power of ten of a register's value; three less for watt-hours, which are shown in kilo. -/
def effectiveScaler (scaler : Int) (unit : Value) : Int :=
  if unit = .int unitWattHour then scaler - 3 else scaler

/-- `round(raw * 10**scaler, max(0, -scaler))`: an integer for a positive scaler, since the power is
    one, and the power of a negative scaler is a float. -/
def scaledValue (n scaler : Int) : RegisterValue :=
  if 0 ≤ scaler then .plain (.int (n * 10 ^ scaler.toNat))
  else .float (Binary64.scaleDown n (-scaler).toNat)

/-- From the decoded answers to the register's value or error. -/
def interpretValue (obis : String) (classId : Int) (scalerUnit raw : Value) :
    Except GatewayError RegisterValue :=
  if classId = registerClassId ∧ raw = .null then
    .error { cls := .gatewayError
             message := [.text "Счётчик вернул null-data (0x00) вместо значения для ", .text obis] }
  else
    match raw with
    | .int n =>
      if classId ≠ registerClassId then .ok (.plain raw)
      else
        match scalerUnit with
        | .list [.int scaler, unit] =>
          if effectiveScaler scaler unit = 0 then .ok (.plain raw)
          else .ok (scaledValue n (effectiveScaler scaler unit))
        | _ =>
          .error { cls := .gatewayError
                   message := [.text "Не удалось прочитать масштаб (scaler_unit) для ", .text obis,
                     .text " — значение ", .int n,
                     .text " не может быть достоверно интерпретировано"] }
    | _ => .ok (.plain raw)

/-- One GET: the request in an I-frame, then the I-frame that answers it. -/
def getAttribute (S : MeterSocket σ) (server client : Int) (sendSeq invokeId : Nat)
    (parsedObis : Bytes) (attributeId : UInt8) (classId : Int) : Proc PyExc σ HdlcFrame := do
  let request ← lift (buildGetRequest parsedObis (UInt8.ofNat invokeId) attributeId classId)
  sendIFrame S server client sendSeq sendSeq (wrapLlcCommand request)
  recvIFrame S

/-- GET of the scaler and unit: the frame that answers it. -/
def getScaler (S : MeterSocket σ) (server client : Int) (sendSeq invokeId : Nat)
    (parsedObis : Bytes) (classId : Int) : Proc PyExc σ HdlcFrame :=
  getAttribute S server client sendSeq invokeId parsedObis registerScalerUnitAttribute classId

/-- GET of the value: the frame that answers it. -/
def getValue (S : MeterSocket σ) (server client : Int) (sendSeq invokeId : Nat)
    (parsedValueObis : Bytes) (classId : Int) : Proc PyExc σ HdlcFrame :=
  getAttribute S server client sendSeq invokeId parsedValueObis registerValueAttribute classId

/-- The value GET and what is made of its answer. -/
def readValue (S : MeterSocket σ) (server client : Int) (sendSeq invokeId : Nat) (obis : String)
    (parsedValueObis : Bytes) (classId : Int) (scalerUnit : Value) :
    Proc PyExc σ (Except GatewayError RegisterValue × Nat) := do
  let frame ← getValue S server client sendSeq invokeId parsedValueObis classId
  match getAnswer frame with
  | .ok raw => pure (interpretValue obis classId scalerUnit raw, sendSeq + 1)
  | .error e => if e.isAnswerFailure then pure (.error (answerFailure e), sendSeq + 1) else raise e

/-- `_read_one_register_via_established_link`: the value or the error that is RETURNED, and the next
    free `send_seq`. -/
def readOneRegister (S : MeterSocket σ) (server client : Int) (sendSeq : Nat) (obis : String)
    (classId : Int) (invokeId : Nat) : Proc PyExc σ (Except GatewayError RegisterValue × Nat) := do
  let parsedObis ← lift (parseObis obis)
  let parsedValueObis ← lift
    (if valueObis obis ≠ obis then parseObis (valueObis obis) else .ok parsedObis)
  if classId = registerClassId then do
    let frame ← getScaler S server client sendSeq invokeId parsedObis classId
    let scalerUnit ← lift (scalerAnswer frame)
    readValue S server client (sendSeq + 1) (invokeId + 1) obis parsedValueObis classId scalerUnit
  else readValue S server client sendSeq invokeId obis parsedValueObis classId .null

/-! ## A batch of registers -/

structure RegisterReadOutcome where
  obis : String
  ok : Bool
  value : Option RegisterValue := none
  error : Option GatewayError := none
  deriving DecidableEq

def RegisterReadOutcome.of (obis : String) :
    Except GatewayError RegisterValue → RegisterReadOutcome
  | .ok value => { obis := obis, ok := true, value := some value }
  | .error e => { obis := obis, ok := false, error := some e }

/-- `raw_class_id or REGISTER_CLASS_ID`. -/
def effectiveClassId (rawClassId : Int) : Int :=
  if rawClassId = 0 then registerClassId else rawClassId

/-- The invoke id after a register: two GETs for class Register, one otherwise; 1 after 14. -/
def nextInvokeId (classId : Int) (invokeId : Nat) : Nat :=
  let next := invokeId + if classId = registerClassId then 2 else 1
  if 14 < next then 1 else next

/-- The loop of `read_registers_via_established_link`; `results` are the outcomes so far. -/
def registerLoop (S : MeterSocket σ) (server client : Int) :
    List (String × Int) → (sendSeq invokeId : Nat) → List RegisterReadOutcome →
      Proc PyExc σ (List RegisterReadOutcome)
  | [], _, _, results => pure results
  | (obis, rawClassId) :: specs, sendSeq, invokeId, results => do
    let classId := effectiveClassId rawClassId
    match ← attempt (readOneRegister S server client sendSeq obis classId invokeId) with
    | .ok (value, sendSeq) =>
      registerLoop S server client specs sendSeq (nextInvokeId classId invokeId)
        (results ++ [.of obis value])
    | .error e => if e.isLinkLoss then pure results else raise e

/-- `read_registers_via_established_link`; `physicalAddress` is the address text of the meter. -/
def readRegistersViaEstablishedLink (S : MeterSocket σ) (physicalAddress : String)
    (password userInformation : Bytes) (options : AarqOptions)
    (obisSpecs : List (String × Int)) : Proc PyExc σ (List RegisterReadOutcome) := do
  let server ← lift (serverHdlcAddress physicalAddress 1)
  associate S server defaultClientAddress password userInformation options
  registerLoop S server defaultClientAddress obisSpecs 1 1 []

end RiseSun.Gateway
