/-
  The meter emulator (`emulators/hdlc_dlms_emulator.py`, `emulators/common.py`): the other party of
  the HDLC/DLMS protocol.

  1. **APDUs of the meter** — the answers the emulator builds.

  2. **Session** (`SessionStage`) — where `serve_hdlc_dlms_session` stands when it waits for a frame, with
     the local variables that are still needed.  `onFrame` is everything it does with one frame up to
     the next wait.  The dictionaries that a test hands over (`MeterObjects`) outlive the session and
     survive an exception.

  3. **Server** (`Emulator.server`) — frames are cut from the stream by the length they declare
     (`_read_frame`); an exception ends the session and the connection.
-/
import RiseSun.Lib.Peer
import RiseSun.Lib.Table
import RiseSun.Gateway.Operations

namespace RiseSun.Gateway

open Proc

/-! ## APDUs of the meter -/

def aareResultRejectedPermanent : UInt8 := 1
def aareDiagnosticAuthFailure : UInt8 := 13

/-- `build_aare`. -/
def buildAare (accepted : Bool) : Bytes :=
  let result := if accepted then aareResultAccepted else aareResultRejectedPermanent
  let resultField := [0xA2, 0x03, 0x02, 0x01, result]
  let body :=
    if accepted then resultField
    else resultField ++ [0xA3, 0x05, 0xA1, 0x03, 0x02, 0x01, aareDiagnosticAuthFailure]
  [aareTag, UInt8.ofNat body.length] ++ body

/-- `build_get_response_error`. -/
def buildGetResponseError (invokeId dataAccessResult : UInt8) : Bytes :=
  [getResponseTag, getResponseNormal, invokeId, resultDataAccessError, dataAccessResult]

/-- `build_set_response`. -/
def buildSetResponse (invokeId result : UInt8) : Bytes :=
  [setResponseTag, setResponseNormal, invokeId, result]

/-- `build_action_response`. -/
def buildActionResponse (invokeId result : UInt8) : Bytes :=
  [actionResponseTag, actionResponseNormal, invokeId, result, 0x00]

def objectUndefined : UInt8 := 9

/-! ## The emulator -/

/-- Which failures are staged, and on how many of the first connections. -/
structure ErrorInjection where
  forceAuthFail : Bool := false
  forcePartialDisconnect : Bool := false
  forceCrcError : Bool := false
  failAttempts : Nat := 1

/-- The arguments of `make_hdlc_dlms_handler` that the emulator only reads. -/
structure Emulator where
  password : Bytes
  obisValues : Table Bytes Int := .empty
  errorInjection : ErrorInjection := {}
  loadProfileObis : Option Bytes := none
  loadProfileRows : List (DateTime × List ProfileField) := []
  loadProfileBlockSize : Nat := 40
  registerScalers : Table Bytes Int := .empty
  registerUnits : Table Bytes Int := .empty
  actionForceResult : Option UInt8 := none
  blockSize_pos : 0 < loadProfileBlockSize := by decide

/-- The dictionaries that the emulator writes; a test need not hand them over. -/
structure MeterObjects where
  dataValues : Option (Table Bytes Bytes) := none
  actionState : Option (Table Bytes UInt8) := none
  actionParametersState : Option (Table Bytes (Option Bytes)) := none

/-- Where the session waits for a frame. -/
inductive SessionStage
  | snrm
  | aarq
  | request
  /-- The scaler has been sent. -/
  | value
  /-- A data block has been sent, `left` of the profile is to come. -/
  | block (left : Bytes) (invokeId : UInt8) (blockNumber sendSeq recvSeq : Nat)
  | closed
  deriving DecidableEq

/-- An answer to `req`, as a frame. -/
def answerFrame (req : HdlcFrame) (sendSeq recvSeq : Nat) (info : Bytes) : Except PyExc Bytes :=
  HdlcFrame.encode {
    destination := req.source, source := req.destination
    control := controlInformationFrame sendSeq recvSeq, information := wrapLlcResponse info }

/-- The low byte of the FCS is inverted. -/
def corrupted (encoded : Bytes) : Bytes := encoded.modify (encoded.length - 3) (· ^^^ 0xFF)

namespace Emulator

variable (E : Emulator)

/-- The staged failures of the first answer to a request: what is sent, and whether the session goes
    on. -/
def inject (attempt : Nat) (encoded : Bytes) : Bytes × Bool :=
  if E.errorInjection.forceCrcError ∧ attempt ≤ E.errorInjection.failAttempts then
    (corrupted encoded, false)
  else if E.errorInjection.forcePartialDisconnect ∧ attempt ≤ E.errorInjection.failAttempts then
    (encoded.take (encoded.length / 2), false)
  else (encoded, true)

/-- SNRM is answered by UA, any other frame ends the session. -/
def onSnrm (raw : Bytes) : Except PyExc (SessionStage × Bytes) := do
  let snrm ← HdlcFrame.decode raw
  if snrm.control ≠ controlSnrm then .ok (.closed, [])
  else do
    let ua ← HdlcFrame.encode ⟨snrm.source, snrm.destination, controlUa, []⟩
    .ok (.aarq, ua)

/-- The password is accepted. -/
def accepts (password : Bytes) : Bool :=
  !E.errorInjection.forceAuthFail && decide (password = E.password)

def onAarq (raw : Bytes) : Except PyExc (SessionStage × Bytes) := do
  let aarqFrame ← HdlcFrame.decode raw
  let aarq ← unwrapLlc aarqFrame.information
  let password ← parseAarq aarq
  let aare ← answerFrame aarqFrame 0 1 (buildAare (E.accepts password))
  .ok (if E.accepts password then .request else .closed, aare)

/-- The encoded value, or the error for an object that the meter does not have. -/
def getResponse (invokeId : UInt8) : Option Bytes → Bytes
  | some encoded => buildGetResponseData invokeId encoded
  | none => buildGetResponseError invokeId objectUndefined

/-- The value of a register, encoded. -/
def registerValue (obis : Bytes) : Except PyExc (Option Bytes) :=
  match E.obisValues.get obis with
  | none => .ok none
  | some value => (encodeDoubleLongUnsigned value).map some

/-- All rows of the profile, encoded. -/
def profileBytes : Except PyExc Bytes := do
  let rows ← E.loadProfileRows.mapM fun row => encodeLoadProfileRow row.1 row.2
  .ok rows.flatten

/-- One turn of the loop of `_serve_load_profile`, up to the wait for the next request. -/
def sendBlock (req : HdlcFrame) (left : Bytes) (invokeId : UInt8) (blockNumber sendSeq recvSeq : Nat) :
    Except PyExc (SessionStage × Bytes) := do
  let chunk := left.take E.loadProfileBlockSize
  let left := left.drop E.loadProfileBlockSize
  let lastBlock := left.isEmpty
  let info ← buildGetResponseDatablock invokeId ⟨lastBlock, blockNumber + 1, chunk⟩
  let encoded ← answerFrame req sendSeq recvSeq info
  .ok (if lastBlock then .closed else .block left invokeId (blockNumber + 1) (sendSeq + 1) recvSeq,
    encoded)

/-- A request for the next block: what is in it is not looked at. -/
def onBlockRequest (left : Bytes) (invokeId : UInt8) (blockNumber sendSeq recvSeq : Nat)
    (raw : Bytes) : Except PyExc (SessionStage × Bytes) := do
  let req ← HdlcFrame.decode raw
  E.sendBlock req left invokeId blockNumber sendSeq (recvSeq + 1)

/-- The answer to a GET of scaler and unit. -/
def scalerUnit (obis : Bytes) : Except PyExc Bytes := do
  let scaler ← encodeInteger ((E.registerScalers.get obis).getD 0)
  let unit ← encodeUnsigned ((E.registerUnits.get obis).getD 0)
  encodeStructure [scaler, unit]

/-- The first answer to a request goes out, or the failure that is staged for it. -/
def sendFirst (attempt : Nat) (next : SessionStage) (req : HdlcFrame) (info : Bytes) :
    Except PyExc (SessionStage × Bytes) := do
  let encoded ← answerFrame req 1 2 info
  let (out, goesOn) := E.inject attempt encoded
  .ok (if goesOn then next else .closed, out)

/-- A GET changes nothing: the scaler and unit of a register, its value, or an object's. -/
def answerGet (request : ParsedGetRequest) : Proc PyExc MeterObjects (SessionStage × Bytes) := do
  if request.classId = registerClassId ∧ request.attributeId = registerScalerUnitAttribute then do
    let scaler ← lift (E.scalerUnit request.obis)
    pure (.value, buildGetResponseData request.invokeId scaler)
  else if request.classId = registerClassId then do
    let value ← lift (E.registerValue request.obis)
    pure (.closed, getResponse request.invokeId value)
  else do
    let encoded ← gets fun o => o.dataValues.bind fun t => t.get request.obis
    pure (.closed, getResponse request.invokeId encoded)

/-- An ACTION or a SET is recorded before its answer is built. -/
def answerRequest (payload : Bytes) : Proc PyExc MeterObjects (SessionStage × Bytes) := do
  if payload.head? = some actionRequestTag then do
    let request ← lift (parseActionRequest payload)
    modify fun o => { o with
      actionState := o.actionState.map fun t => t.setItem request.obis request.methodId
      actionParametersState :=
        o.actionParametersState.map fun t => t.setItem request.obis request.parameters }
    pure (.closed, buildActionResponse request.invokeId (E.actionForceResult.getD actionResultSuccess))
  else if payload.head? = some setRequestTag then do
    let request ← lift (parseSetRequest payload)
    modify fun o => { o with
      dataValues := o.dataValues.map fun t => t.setItem request.obis request.encodedValue }
    pure (.closed, buildSetResponse request.invokeId setResultSuccess)
  else do
    let request ← lift (parseGetRequest payload)
    E.answerGet request

/-- A GET of the profile with a selection of rows is served block by block. -/
def asksForProfile (payload : Bytes) : Bool :=
  E.loadProfileObis.isSome && payload.head? == some getRequestTag &&
    E.loadProfileObis == some (Bytes.slice payload 5 11) && payload[12]? == some 0x01

def onRequest (attempt : Nat) (raw : Bytes) : Proc PyExc MeterObjects (SessionStage × Bytes) := do
  let req ← lift (HdlcFrame.decode raw)
  let payload ← lift (unwrapLlc req.information)
  if E.asksForProfile payload then do
    let invokeId ← lift (byteAt payload 2)
    let left ← lift E.profileBytes
    lift (E.sendBlock req left invokeId 0 1 2)
  else do
    let (next, info) ← E.answerRequest payload
    lift (E.sendFirst attempt next req info)

/-- The GET of the value, behind that of the scaler: any class and attribute will do. -/
def onValueRequest (raw : Bytes) : Except PyExc (SessionStage × Bytes) := do
  let valueFrame ← HdlcFrame.decode raw
  let payload ← unwrapLlc valueFrame.information
  let request ← parseGetRequest payload
  let value ← E.registerValue request.obis
  let encoded ← answerFrame valueFrame 2 3 (getResponse request.invokeId value)
  .ok (.closed, encoded)

/-- What the session does with one frame: where it waits next, and what it has sent. -/
def onFrame (attempt : Nat) (stage : SessionStage) (raw : Bytes) :
    Proc PyExc MeterObjects (SessionStage × Bytes) :=
  match stage with
  | .snrm => lift (onSnrm raw)
  | .aarq => lift (E.onAarq raw)
  | .request => E.onRequest attempt raw
  | .value => lift (E.onValueRequest raw)
  | .block left invokeId blockNumber sendSeq recvSeq =>
    lift (E.onBlockRequest left invokeId blockNumber sendSeq recvSeq raw)
  | .closed => pure (.closed, [])

end Emulator

/-! ## Frames of the emulator -/

/-- A frame that its length field can hold, however long it is made. -/
def maxFrame : Nat := 65537

theorem encode_le {f : HdlcFrame} {raw : Bytes} (h : f.encode = .ok raw) :
    raw.length ≤ maxFrame := by
  unfold HdlcFrame.encode at h
  obtain ⟨destination, hd, h⟩ := Result.bind_eq_ok h
  obtain ⟨source, hs, h⟩ := Result.bind_eq_ok h
  obtain ⟨format, hformat, h⟩ := Result.bind_eq_ok h
  have hfour := toBytes_length hformat
  unfold toBytes at hformat
  rcases ite_eq_iff.mp hformat with ⟨⟨_, hfit⟩, _⟩ | ⟨_, hformat⟩
  · have hor : frameTypeNibble <<< 8 |||
        (2 + (destination ++ source ++ [f.control]).length + 2 + f.information.length + 2) < 65536 := by
      exact_mod_cast hfit
    have hlength := Nat.lt_of_le_of_lt Nat.right_le_or hor
    cases h
    simp only [List.length_append, List.length_cons, List.length_nil, Bytes.toLE_length,
      hfour] at hlength ⊢
    show _ ≤ 65537
    omega
  · cases hformat

theorem answerFrame_le {req : HdlcFrame} {sendSeq recvSeq : Nat} {info encoded : Bytes}
    (h : answerFrame req sendSeq recvSeq info = .ok encoded) : encoded.length ≤ maxFrame :=
  encode_le h

namespace Emulator

variable (E : Emulator)

theorem inject_le (attempt : Nat) (encoded : Bytes) :
    (E.inject attempt encoded).1.length ≤ encoded.length := by
  unfold inject
  split
  · show (corrupted encoded).length ≤ _
    rw [corrupted, List.length_modify]
  · split
    · exact List.length_take_le' _ _
    · exact Nat.le_refl _

/-- The blocks of a profile of this length are at most one more than its bytes. -/
def requestFrames : Nat := max 2 ((E.profileBytes.toOption.getD []).length + 1)

/-- How many frames the session still sends at most. -/
def framesLeft : SessionStage → Nat
  | .snrm => 2 + E.requestFrames
  | .aarq => 1 + E.requestFrames
  | .request => E.requestFrames
  | .value => 1
  | .block left .. => left.length + 1
  | .closed => 0

/-- One more frame, and what is left after it. -/
def Within (stage : SessionStage) (frames : Nat) (out : Bytes) : Prop :=
  out.length ≤ maxFrame ∧ E.framesLeft stage + 1 ≤ frames

theorem sendBlock_within {req : HdlcFrame} {left out : Bytes} {invokeId : UInt8}
    {blockNumber sendSeq recvSeq : Nat} {stage : SessionStage}
    (h : E.sendBlock req left invokeId blockNumber sendSeq recvSeq = .ok (stage, out)) :
    E.Within stage (left.length + 1) out := by
  unfold sendBlock at h
  obtain ⟨info, _, h⟩ := Result.bind_eq_ok h
  obtain ⟨encoded, hencoded, h⟩ := Result.bind_eq_ok h
  cases h
  refine ⟨answerFrame_le hencoded, ?_⟩
  cases hlast : (left.drop E.loadProfileBlockSize).isEmpty with
  | true =>
    show 0 + 1 ≤ _
    omega
  | false =>
    -- a block that is not the last takes at least one byte
    have hsome : 0 < (left.drop E.loadProfileBlockSize).length :=
      List.length_pos_iff.mpr fun hnil => by rw [hnil] at hlast; cases hlast
    have hpos := E.blockSize_pos
    show (left.drop E.loadProfileBlockSize).length + 1 + 1 ≤ left.length + 1
    rw [List.length_drop] at hsome ⊢
    omega

theorem sendFirst_within {attempt : Nat} {next stage : SessionStage} {req : HdlcFrame}
    {info out : Bytes} (h : E.sendFirst attempt next req info = .ok (stage, out)) :
    out.length ≤ maxFrame ∧ (stage = next ∨ stage = .closed) := by
  unfold sendFirst at h
  obtain ⟨encoded, hencoded, h⟩ := Result.bind_eq_ok h
  cases h
  refine ⟨Nat.le_trans (E.inject_le attempt encoded) (answerFrame_le hencoded), ?_⟩
  cases hgo : (E.inject attempt encoded).2 with
  | true => exact .inl (if_pos hgo)
  | false => exact .inr (if_neg (ne_true_of_eq_false hgo))

/-- After the answer to a request the session is over, or the value is to follow. -/
theorem answerRequest_next {payload info : Bytes} {o o' : MeterObjects} {next : SessionStage}
    (h : E.answerRequest payload o = (.ok (next, info), o')) : next = .value ∨ next = .closed := by
  unfold answerRequest at h
  split at h
  · obtain ⟨_, _, h⟩ := lift_bind_eq_ok h
    cases h
    exact .inr rfl
  · split at h
    · obtain ⟨_, _, h⟩ := lift_bind_eq_ok h
      cases h
      exact .inr rfl
    · obtain ⟨request, _, h⟩ := lift_bind_eq_ok h
      unfold answerGet at h
      split at h
      · obtain ⟨_, _, h⟩ := lift_bind_eq_ok h
        cases h
        exact .inl rfl
      · split at h
        · obtain ⟨_, _, h⟩ := lift_bind_eq_ok h
          cases h
          exact .inr rfl
        · cases h
          exact .inr rfl

theorem onRequest_within {attempt : Nat} {raw out : Bytes} {o o' : MeterObjects} {stage : SessionStage}
    (h : E.onRequest attempt raw o = (.ok (stage, out), o')) :
    E.Within stage E.requestFrames out := by
  unfold onRequest at h
  obtain ⟨req, _, h⟩ := lift_bind_eq_ok h
  obtain ⟨payload, _, h⟩ := lift_bind_eq_ok h
  split at h
  · obtain ⟨invokeId, _, h⟩ := lift_bind_eq_ok h
    obtain ⟨left, hleft, h⟩ := lift_bind_eq_ok h
    rw [lift_run] at h
    obtain ⟨hout, hframes⟩ := E.sendBlock_within (Prod.mk.inj h).1
    refine ⟨hout, Nat.le_trans hframes ?_⟩
    rw [requestFrames, hleft]
    show left.length + 1 ≤ max 2 (left.length + 1)
    exact Nat.le_max_right 2 _
  · obtain ⟨⟨next, info⟩, o₁, hanswer, h⟩ := bind_eq_ok.mp h
    have h : E.sendFirst attempt next req info = .ok (stage, out) := congrArg Prod.fst h
    obtain ⟨hout, hstage⟩ := E.sendFirst_within h
    refine ⟨hout, Nat.le_trans ?_ (Nat.le_max_left _ _)⟩
    rcases hstage with rfl | rfl
    · rcases E.answerRequest_next hanswer with rfl | rfl
      · exact Nat.le_refl 2
      · exact Nat.le_succ 1
    · exact Nat.le_succ 1

/-- **One frame.**  Every frame the session handles costs it one of the frames it can send. -/
theorem onFrame_within {attempt : Nat} {stage stage' : SessionStage} {raw out : Bytes}
    {o o' : MeterObjects} (hopen : stage ≠ .closed)
    (h : E.onFrame attempt stage raw o = (.ok (stage', out), o')) :
    E.Within stage' (E.framesLeft stage) out := by
  cases stage with
  | snrm =>
    have h : onSnrm raw = .ok (stage', out) := congrArg Prod.fst h
    unfold onSnrm at h
    obtain ⟨snrm, _, h⟩ := Result.bind_eq_ok h
    split at h
    · cases h
      exact ⟨Nat.zero_le _, by show 0 + 1 ≤ 2 + _; omega⟩
    · obtain ⟨ua, hua, h⟩ := Result.bind_eq_ok h
      cases h
      exact ⟨encode_le hua, by show 1 + _ + 1 ≤ 2 + _; omega⟩
  | aarq =>
    have h : E.onAarq raw = .ok (stage', out) := congrArg Prod.fst h
    unfold onAarq at h
    obtain ⟨aarqFrame, _, h⟩ := Result.bind_eq_ok h
    obtain ⟨aarq, _, h⟩ := Result.bind_eq_ok h
    obtain ⟨password, _, h⟩ := Result.bind_eq_ok h
    obtain ⟨aare, haare, h⟩ := Result.bind_eq_ok h
    cases h
    refine ⟨answerFrame_le haare, ?_⟩
    cases E.accepts password with
    | true =>
      show E.requestFrames + 1 ≤ 1 + E.requestFrames
      omega
    | false =>
      show 0 + 1 ≤ 1 + E.requestFrames
      omega
  | request => exact E.onRequest_within h
  | value =>
    have h : E.onValueRequest raw = .ok (stage', out) := congrArg Prod.fst h
    unfold onValueRequest at h
    obtain ⟨valueFrame, _, h⟩ := Result.bind_eq_ok h
    obtain ⟨payload, _, h⟩ := Result.bind_eq_ok h
    obtain ⟨request, _, h⟩ := Result.bind_eq_ok h
    obtain ⟨value, _, h⟩ := Result.bind_eq_ok h
    obtain ⟨encoded, hencoded, h⟩ := Result.bind_eq_ok h
    cases h
    exact ⟨answerFrame_le hencoded, Nat.le_refl 1⟩
  | block left invokeId blockNumber sendSeq recvSeq =>
    have h : E.onBlockRequest left invokeId blockNumber sendSeq recvSeq raw = .ok (stage', out) :=
      congrArg Prod.fst h
    unfold onBlockRequest at h
    obtain ⟨req, _, h⟩ := Result.bind_eq_ok h
    exact E.sendBlock_within h
  | closed => exact absurd rfl hopen

end Emulator

/-! ## The server -/

/-- `_read_frame` on the bytes that have come: the flag, two bytes of format, the declared rest. -/
def cutFrame (input : Bytes) : Option (Bytes × Bytes) :=
  let declaredLen := Bytes.fromBE (Bytes.slice input 1 3) &&& 0x07FF
  let total := 3 + (declaredLen - 1)
  if input.length < 3 ∨ input.length < total then none
  else some (input.take total, input.drop total)

/-- A session: where it waits, the dictionaries, and which connection it is, counted from one. -/
structure Session where
  stage : SessionStage
  objects : MeterObjects
  attempt : Nat

namespace Emulator

variable (E : Emulator)

/-- What the session does with a frame, an exception included: the connection is closed then. -/
def serveFrame (s : Session) (raw : Bytes) : Session × Bytes :=
  match E.onFrame s.attempt s.stage raw s.objects with
  | (.ok (stage, out), objects) => (⟨stage, objects, s.attempt⟩, out)
  | (.error _, objects) => (⟨.closed, objects, s.attempt⟩, [])

/-- A step of the server: the first frame among the unread bytes.  Without a flag the session is
    over. -/
def serverStep (s : Session) (input : Bytes) : Option (Session × Bytes × Bytes) :=
  if s.stage = .closed then none
  else if input = [] then none
  else if input.head? ≠ some flag then some ({ s with stage := .closed }, [], [])
  else (cutFrame input).map fun cut =>
    ((E.serveFrame s cut.1).1, cut.2, (E.serveFrame s cut.1).2)

theorem cutFrame_shorter {input raw rest : Bytes} (h : cutFrame input = some (raw, rest)) :
    rest.length < input.length := by
  unfold cutFrame at h
  dsimp only at h
  split at h
  · cases h
  · cases h
    rw [List.length_drop]
    omega

theorem serveFrame_budget {s : Session} (hopen : s.stage ≠ .closed) (raw : Bytes) :
    (E.serveFrame s raw).2.length +
        E.framesLeft (E.serveFrame s raw).1.stage * maxFrame ≤
      E.framesLeft s.stage * maxFrame := by
  unfold serveFrame
  rcases hrun : E.onFrame s.attempt s.stage raw s.objects with ⟨e | ⟨stage, out⟩, objects⟩
  · show 0 + 0 * maxFrame ≤ _
    omega
  · obtain ⟨hout, hframes⟩ := E.onFrame_within hopen hrun
    show out.length + E.framesLeft stage * maxFrame ≤ _
    have hmul := Nat.mul_le_mul_right maxFrame hframes
    rw [Nat.add_mul, Nat.one_mul] at hmul
    omega

/-- The emulator as the program at the other end. -/
def server : Server Session where
  step := E.serverStep
  closed := fun s => decide (s.stage = .closed)
  budget := fun s => E.framesLeft s.stage * maxFrame
  step_shorter := by
    intro s input s' rest out h
    unfold serverStep at h
    split at h
    · cases h
    · split at h
      · cases h
      · rename_i hne
        split at h
        · cases h
          exact List.length_pos_iff.mpr hne
        · obtain ⟨⟨raw, rest'⟩, hcut, heq⟩ := Option.map_eq_some_iff.mp h
          cases heq
          exact cutFrame_shorter hcut
  step_budget := by
    intro s input s' rest out h
    unfold serverStep at h
    split at h
    · cases h
    · rename_i hopen
      split at h
      · cases h
      · split at h
        · cases h
          show 0 + 0 * maxFrame ≤ _
          omega
        · obtain ⟨⟨raw, rest'⟩, _, heq⟩ := Option.map_eq_some_iff.mp h
          cases heq
          exact E.serveFrame_budget hopen raw

/-- The client's end of a connection to the emulator. -/
def meterSocket : MeterSocket (Line Session) := .plain E.server.socket

end Emulator

end RiseSun.Gateway
