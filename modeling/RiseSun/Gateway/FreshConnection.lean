/-
  Working with a meter over one accepted connection (`callhome.py`): the address of the meter, SNRM
  repeated until the meter confirms the link, then one association.

  1. **Program** — `establishAttempts` is the SNRM loop all three operations start with; the
     operations are a relay command, a batch of registers and a load profile.

  2. **The link** (`LinkBodied`) — the loop returns iff no answer to an SNRM ends before its control
     byte.

  3. **The command** (`executeControl_raises`) — which exceptions come out of a relay command, for
     any set `Q` of the socket's own errors: none but `Q` iff the serial number gives an address, the
     link is bodied, and the action is within `Q` and the `GatewayError`s.
-/
import RiseSun.Gateway.Exchange
import RiseSun.Gateway.LoadProfile

namespace RiseSun.Gateway

open Proc PyText

variable {σ : Type}

/-! ## Addresses -/

def factoryBatchLow : Int := 201901230001
def factoryBatchHigh : Int := 201901230186
def factoryBatchOffset : Int := 199

/-- `serial.isdigit() and low <= int(serial) <= high`. -/
def inFactoryBatch (serial : String) : Except PyExc Bool :=
  if isDigit serial then
    match pyInt 10 serial with
    | none => .error (.valueError [])
    | some number => .ok (factoryBatchLow ≤ number ∧ number ≤ factoryBatchHigh)
  else .ok false

/-- `physical_address(serial, HDLC_DLMS)`. -/
def physicalAddress (serial : String) : Except PyExc String :=
  if serial = "" then .error (.valueError [.text "Серийный номер счётчика не может быть пустым"])
  else do
    let inBatch ← inFactoryBatch serial
    if inBatch then
      match pyInt 10 (lastChars 4 serial) with
      | none => .error (.valueError [])
      | some number => .ok (padded 5 (number + factoryBatchOffset).toNat)
    else .ok (lastChars 5 serial)

/-- `server_hdlc_address(physical_address(serial, HDLC_DLMS))`. -/
def serverAddress (serial : String) : Except PyExc Int := do
  let text ← physicalAddress serial
  serverHdlcAddress text 1

example : physicalAddress "201901230001" = .ok "00200" := by decide
example : serverAddress "202310012345" = .ok (2 ^ 14 + 12345) := by decide
example : (serverAddress "202310030001").isOk = false := by decide

theorem serverAddress_bounds {serial : String} {server : Int} (h : serverAddress serial = .ok server) :
    0 ≤ server ∧ server < 2 ^ 28 := by
  obtain ⟨_, _, h⟩ := Result.bind_eq_ok h
  exact serverHdlcAddress_bounds h

/-- A serial number without an address is a `GatewayError` or a `ValueError`. -/
theorem serverAddress_error {serial : String} {e : PyExc} (h : serverAddress serial = .error e) :
    e.isOSError = false := by
  rcases Result.bind_eq_error h with h | ⟨text, _, h⟩
  · rw [physicalAddress] at h
    rcases ite_eq_iff.mp h with ⟨_, h⟩ | ⟨_, h⟩
    · cases h
      rfl
    · rcases Result.bind_eq_error h with h | ⟨inBatch, _, h⟩
      · rw [inFactoryBatch] at h
        split at h
        · split at h
          · cases h
            rfl
          · cases h
        · cases h
      · split at h
        · split at h
          · cases h
            rfl
          · cases h
        · cases h
  · rcases serverHdlcAddress_eq text with ⟨_, _, _, _, hok⟩ | ⟨_, message, herr⟩
    · rw [hok] at h
      cases h
    · rw [herr] at h
      cases h
      rfl

/-! ## Program -/

/-- An accepted connection: the socket behind the filter, and what else the operations do with
    it. -/
structure Connection (σ : Type) where
  socket : MeterSocket σ
  /-- A new `DlT645FilteringSocket` over the accepted socket. -/
  wrap : σ → σ
  drainStaleBytes : σ → σ
  sleep : ℚ → σ → σ

def defaultRetryInterval : ℚ := 1 / 2
def defaultPerAttemptTimeout : ℚ := 15
def defaultMaxAttemptsPerConnection : Nat := 5
def defaultAssociationTimeout : ℚ := 45

/-- How the SNRM attempts end. -/
inductive Linked
  | linked
  /-- No attempt was confirmed; the error of the last one. -/
  | refused (lastError : Option GatewayError)
  /-- The connection broke. -/
  | broken

section Program

variable (C : Connection σ)

/-- The loop of SNRM attempts. -/
def establishAttempts (server : Int) : (left : Nat) → (lastError : Option GatewayError) →
    Proc PyExc σ Linked
  | 0, lastError => pure (.refused lastError)
  | left + 1, _ => do
    modify (C.socket.settimeout defaultPerAttemptTimeout)
    match ← attempt (establishLink C.socket server defaultClientAddress) with
    | .ok () => pure .linked
    | .error (.gateway e) => do
      modify C.drainStaleBytes
      modify (C.sleep defaultRetryInterval)
      establishAttempts server left (some e)
    | .error (.socket _) => pure .broken
    | .error e => raise e

/-- `execute_action_via_established_link`. -/
def executeActionViaEstablishedLink (S : MeterSocket σ) (server : Int) (password : Bytes)
    (obis : String) (methodId : UInt8) (classId : Int) (parameters : Option Bytes) :
    Proc PyExc σ Unit := do
  associate S server defaultClientAddress password userInformationInitiate {}
  let parsedObis ← lift (parseObis obis)
  let request ← lift (buildActionRequest parsedObis methodId classId 1 parameters)
  sendIFrame S server defaultClientAddress 1 1 (wrapLlcCommand request)
  let responseFrame ← recvIFrame S
  lift (unwrapLlc responseFrame.information >>= parseActionResponse)

/-- The deadline of the operation, once the link stands. -/
def armDeadline : Proc PyExc σ Unit := do
  let now ← gets C.socket.time
  setDeadline C.socket (some (now + defaultAssociationTimeout))

def connectionBroke (connNo : Nat) : GatewayError :=
  { cls := .gatewayError
    message := [.text "Обрыв соединения #", .int connNo, .text ": "] }

def snrmNotConfirmed (stage serial : String) : GatewayError :=
  { cls := .gatewayError
    message := [.text stage, .text ": счётчик ", .text serial,
      .text " не подтвердил SNRM на свежем соединении за ",
      .int defaultMaxAttemptsPerConnection, .text " попыток"] }

/-- `execute_control_via_fresh_connection`. -/
def executeControlViaFreshConnection (connNo : Nat) (serial : String) (password : Bytes)
    (methodId : UInt8) : Proc PyExc σ (Option GatewayError) := do
  let server ← lift (serverAddress serial)
  modify C.wrap
  match ← establishAttempts C server defaultMaxAttemptsPerConnection none with
  | .broken => pure (some (connectionBroke connNo))
  | .refused lastError => pure (some (lastError.getD (snrmNotConfirmed "Immediate-control" serial)))
  | .linked => do
    armDeadline C
    match ← attempt (executeActionViaEstablishedLink C.socket server password disconnectControlObis
        methodId disconnectControlClassId (some disconnectActionParameters)) with
    | .ok () => pure none
    | .error (.gateway e) => pure (some e)
    | .error e => raise e

/-- The address check and the SNRM attempts of a reading: whatever fails is raised. -/
def openFreshConnection (stage : String) (connNo : Nat) (serial : String) : Proc PyExc σ Unit := do
  let server ← lift (serverAddress serial)
  modify C.wrap
  match ← establishAttempts C server defaultMaxAttemptsPerConnection none with
  | .broken => raise (.gateway (connectionBroke connNo))
  | .refused lastError => raise (.gateway (lastError.getD (snrmNotConfirmed stage serial)))
  | .linked => pure ()

/-- `read_batch_via_fresh_connection`. -/
def readBatchViaFreshConnection (connNo : Nat) (serial : String) (password : Bytes)
    (obisSpecs : List (String × Int)) : Proc PyExc σ (List RegisterReadOutcome) := do
  openFreshConnection C "Immediate-read" connNo serial
  armDeadline C
  let address ← lift (physicalAddress serial)
  readRegistersViaEstablishedLink C.socket address password userInformationInitiate {} obisSpecs

/-- `read_load_profile_via_fresh_connection`, the SNRM attempts included. -/
def readProfileViaFreshConnection (connNo : Nat) (serial : String) (password : Bytes)
    (obis : String) (classId : Int) (fromDt toDt : DateTime) (sendHeartbeatProbe : Bool) :
    Proc PyExc σ (List ProfileRow × Option GatewayError) := do
  openFreshConnection C "Immediate-read (профиль)" connNo serial
  let address ← lift (physicalAddress serial)
  readLoadProfileViaFreshConnection C.socket connNo address password obis classId fromDt toDt
    defaultAssociationTimeout sendHeartbeatProbe

end Program

/-! ## The link -/

/-- SNRM, and the frame that answers it. -/
def snrmAnswer (S : MeterSocket σ) (server client : Int) : Proc PyExc σ Bytes := do
  let raw ← lift (HdlcFrame.encode ⟨server, client, controlSnrm, snrmParameterNegotiation⟩)
  send S raw
  readFrameFromTransport S

/-- The frame that answers the SNRM does not end before its control byte. -/
def AnswerBodied (S : MeterSocket σ) (server client : Int) (s : σ) : Prop :=
  ∀ raw s', snrmAnswer S server client s = (.ok raw, s') → ¬ EndsWithAddresses raw

/-- What the loop of attempts catches. -/
def LinkFailure (e : PyExc) : Prop := e.isGatewayError = true ∨ e.isOSError = true

theorem LinkFailure.of_frame {e : PyExc} (h : FrameFailure e) : LinkFailure e := by
  rcases h with hbad | hloss
  · exact .inl (PyExc.isBadAnswer_isGatewayError hbad)
  · cases e with
    | gateway => exact .inl rfl
    | socket => exact .inr rfl
    | dlmsData | valueError | unicodeError | indexError | overflowError | typeError
    | unboundLocalError | assertionError => cases hloss

theorem snrmAnswer_raises (S : MeterSocket σ) {server client : Int}
    (hs : 0 ≤ server ∧ server < 2 ^ 28) (hc : 0 ≤ client ∧ client < 2 ^ 28) (s : σ) :
    RaisesOnly LinkFailure (snrmAnswer S server client) s := by
  obtain ⟨raw, hraw⟩ := encode_short (f := ⟨server, client, controlSnrm, snrmParameterNegotiation⟩)
    ⟨hs, hc⟩ (show snrmParameterNegotiation.length ≤ 2003 by decide)
  rw [snrmAnswer, hraw]
  refine raisesOnly_bind.mpr ⟨raisesOnly_of_ok rfl, fun _ s₁ _ => ?_⟩
  refine raisesOnly_bind.mpr ⟨fun e s₂ he => ?_, fun _ s₂ _ e s₃ he => ?_⟩
  · rw [send_raises_lost S _ s₁ e s₂ he]
    exact .inl rfl
  · exact .of_frame (readFrameFromTransport_raises S s₂ e s₃ he)

/-- The exchange is the answer to the SNRM, and what is made of it. -/
theorem establishLink_eq (S : MeterSocket σ) (server client : Int) (s : σ) :
    establishLink S server client s = (snrmAnswer S server client >>= fun answer => do
      let response ← lift (HdlcFrame.decode answer)
      if response.control ≠ controlUa then
        raise (.plain [.text
          "Счётчик не подтвердил установление HDLC-соединения (ожидался управляющий байт UA)"])
      else pure ()) s := by
  rw [establishLink, snrmAnswer, bind_assoc_run]
  exact bind_congr_run fun raw s₁ _ => (bind_assoc_run _ _ _ s₁).symm

/-- One exchange raises what the loop catches iff its answer is bodied. -/
theorem establishLink_raises (S : MeterSocket σ) {server client : Int}
    (hs : 0 ≤ server ∧ server < 2 ^ 28) (hc : 0 ≤ client ∧ client < 2 ^ 28) (s : σ) :
    RaisesOnly LinkFailure (establishLink S server client) s ↔ AnswerBodied S server client s := by
  rw [raisesOnly_congr (congrArg Prod.fst (establishLink_eq S server client s))]
  have hanswer := snrmAnswer_raises S hs hc s
  simp only [AnswerBodied, ← decode_indexError_iff]
  rcases hrun : snrmAnswer S server client s with ⟨e | raw, s₁⟩
  · rw [raisesOnly_bind_error hrun]
    exact ⟨fun _ _ _ h => (nomatch h), fun _ => hanswer e s₁ hrun⟩
  · rw [raisesOnly_bind_ok hrun]
    rcases hdecode : HdlcFrame.decode raw with e | response
    · rw [raisesOnly_bind_error (lift_run _ s₁)]
      -- Only the index error of a frame with no body is neither kind of failure.
      constructor
      · rintro hfailure _ _ ⟨⟩ hindex
        rw [hdecode] at hindex
        obtain rfl := Except.error.inj hindex
        rcases hfailure with h | h <;> cases h
      · intro h
        rcases HdlcFrame.decode_error hdecode with hbad | rfl
        · exact .inl (PyExc.isBadAnswer_isGatewayError hbad)
        · exact absurd hdecode (h raw s₁ rfl)
    · rw [raisesOnly_bind_ok (lift_run _ s₁)]
      constructor
      · rintro - _ _ ⟨⟩ hindex
        rw [hdecode] at hindex
        cases hindex
      · intro _
        rcases Decidable.em (response.control ≠ controlUa) with hua | hua
        · rw [if_pos hua]
          exact raisesOnly_raise.mpr (.inl rfl)
        · rw [if_neg hua]
          exact raisesOnly_of_ok rfl

section Link

variable (C : Connection σ) (server : Int)

/-- Attempt by attempt, no answer to an SNRM ends before its control byte. -/
def LinkBodied : (left : Nat) → σ → Prop
  | 0, _ => True
  | left + 1, s =>
    AnswerBodied C.socket server defaultClientAddress (C.socket.settimeout defaultPerAttemptTimeout s) ∧
    ∀ e s', establishLink C.socket server defaultClientAddress
        (C.socket.settimeout defaultPerAttemptTimeout s) = (.error (.gateway e), s') →
      LinkBodied left (C.sleep defaultRetryInterval (C.drainStaleBytes s'))

variable {server}

/-- The loop of attempts returns iff the link is bodied; nothing it raises is caught outside. -/
theorem establishAttempts_raises {Q : PyExc → Prop} (hQ : ∀ {e}, Q e → e.isOSError = true)
    (hs : 0 ≤ server ∧ server < 2 ^ 28) : ∀ (left : Nat) (last : Option GatewayError) (s : σ),
    RaisesOnly Q (establishAttempts C server left last) s ↔ LinkBodied C server left s := by
  have hc : 0 ≤ defaultClientAddress ∧ defaultClientAddress < 2 ^ 28 := by decide
  intro left
  induction left with
  | zero => exact fun _ s => ⟨fun _ => trivial, fun _ => raisesOnly_of_ok rfl⟩
  | succ left ih =>
    intro last s
    have hraises := establishLink_raises C.socket hs hc (C.socket.settimeout defaultPerAttemptTimeout s)
    rw [establishAttempts, LinkBodied, ← hraises, raisesOnly_bind_ok (modify_run _ s),
      raisesOnly_attempt_bind]
    rcases hrun : establishLink C.socket server defaultClientAddress
      (C.socket.settimeout defaultPerAttemptTimeout s) with ⟨e | _, s₁⟩
    · rw [raisesOnly_of_error hrun]
      cases e with
      | gateway e =>
        dsimp only
        -- A gateway error is kept and the link is tried again.
        rw [raisesOnly_bind_ok (modify_run _ s₁), raisesOnly_bind_ok (modify_run _ _), ih]
        refine ⟨fun h => ⟨.inl rfl, ?_⟩, fun h => h.2 e s₁ rfl⟩
        rintro _ _ ⟨⟩
        exact h
      | socket e =>
        refine ⟨fun _ => ⟨.inr rfl, fun _ _ h => (nomatch h)⟩, fun _ => raisesOnly_of_ok rfl⟩
      | dlmsData | valueError | unicodeError | indexError | overflowError | typeError
      | unboundLocalError | assertionError =>
        dsimp only
        rw [raisesOnly_raise]
        constructor
        · intro h
          exact nomatch hQ h
        · rintro ⟨h | h, _⟩ <;> cases h
    · exact ⟨fun _ => ⟨raisesOnly_of_ok hrun, fun _ _ h => (nomatch h)⟩,
        fun _ => raisesOnly_of_ok rfl⟩

end Link

/-! ## The command -/

section Action

variable (S : MeterSocket σ) (server : Int) (password : Bytes) (methodId : UInt8)

/-- The request for a relay command. -/
def relayRequest : Bytes :=
  [actionRequestTag, actionRequestNormal, 1] ++
    ([0, 70] ++ [0, 0, 0x60, 3, 0x0A, 0xFF] ++ [methodId]) ++ ([0x01] ++ disconnectActionParameters)

theorem buildActionRequest_relay :
    (parseObis disconnectControlObis >>= fun obis => buildActionRequest obis methodId
      disconnectControlClassId 1 (some disconnectActionParameters)) = .ok (relayRequest methodId) := by
  have hobis : parseObis disconnectControlObis = .ok [0, 0, 0x60, 3, 0x0A, 0xFF] := by decide
  have hclass : toBytes 2 disconnectControlClassId = .ok [0, 70] := by decide
  rw [hobis, Result.ok_bind, buildActionRequest, if_neg (by decide), hclass]
  rfl

/-- The command up to its request. -/
def requestRelay : Proc PyExc σ Unit := do
  associate S server defaultClientAddress password userInformationInitiate {}
  sendIFrame S server defaultClientAddress 1 1 (wrapLlcCommand (relayRequest methodId))

/-- The association and the frames up to the answer are within `P`. -/
def ActionWithin (P : PyExc → Prop) (s : σ) : Prop :=
  AssociationWithin P S server defaultClientAddress {} password s ∧
    ∀ s', requestRelay S server password methodId s = (.ok (), s') →
      FramesWithin P S maxSupervisoryFramesSkipped s'

theorem executeAction_eq (s : σ) :
    executeActionViaEstablishedLink S server password disconnectControlObis methodId
        disconnectControlClassId (some disconnectActionParameters) s =
      (requestRelay S server password methodId >>= fun _ => do
        let responseFrame ← recvIFrame S
        lift (unwrapLlc responseFrame.information >>= parseActionResponse)) s := by
  rw [executeActionViaEstablishedLink, requestRelay, bind_assoc_run]
  refine bind_congr_run fun _ s₁ _ => ?_
  obtain ⟨obis, hobis, hbuild⟩ := Result.bind_eq_ok (buildActionRequest_relay methodId)
  rw [hobis, lift_ok_bind_run, hbuild, lift_ok_bind_run]

variable {S server password methodId} {P : PyExc → Prop}

theorem executeAction_raises (hP : Tolerates P) (hauth : P authFailed)
    (hs : 0 ≤ server ∧ server < 2 ^ 28) (s : σ) :
    RaisesOnly P (executeActionViaEstablishedLink S server password disconnectControlObis methodId
        disconnectControlClassId (some disconnectActionParameters)) s ↔
      ActionWithin S server password methodId P s := by
  have hc : 0 ≤ defaultClientAddress ∧ defaultClientAddress < 2 ^ 28 := by decide
  rw [raisesOnly_congr (congrArg Prod.fst (executeAction_eq S server password methodId s)),
    raisesOnly_bind, ActionWithin, ← associate_within hP S {} hs hc password s (.inl hauth)]
  refine and_congr ?_ (Unique.forall_iff.trans (forall_congr' fun s₁ => imp_congr_right fun _ => ?_))
  · rw [requestRelay, raisesOnly_bind]
    refine ⟨And.left, fun h => ⟨h, fun _ s₁ _ => ?_⟩⟩
    have hlen : (wrapLlcCommand (relayRequest methodId)).length = 18 := rfl
    exact sendIFrame_within hP hs hc 1 1 (by omega) s₁
  · rw [raisesOnly_bind, ← recvIFrameLoop_within hP]
    refine ⟨And.left, fun h => ⟨h, fun frame s₂ _ => raisesOnly_lift.mpr fun e he => ?_⟩⟩
    rcases Result.bind_eq_error he with hllc | ⟨data, _, hparse⟩
    · exact hP.badAnswer (unwrapLlc_error hllc)
    · exact hP.badAnswer (parseActionResponse_error hparse)

end Action

section Control

variable {Q : PyExc → Prop}

/-- What the command turns into a result, or lets through as `Q` does. -/
def ResultOr (Q : PyExc → Prop) (e : PyExc) : Prop := e.isGatewayError = true ∨ Q e

theorem ResultOr.tolerates (hQ : ∀ {e}, Q e → e.isOSError = true) : Tolerates (ResultOr Q) where
  badAnswer h := .inl (PyExc.isBadAnswer_isGatewayError h)
  timeout {e} h := by
    cases e with
    | gateway => exact .inl rfl
    | dlmsData | valueError | unicodeError | indexError | overflowError | typeError
    | unboundLocalError | assertionError | socket => cases h
  connectionLost := .inl rfl
  index h := h.elim (fun h => (nomatch h)) fun h => nomatch hQ h
  value h := h.elim (fun h => (nomatch h)) fun h => nomatch hQ h

/-- The serial number gives an address, the link is bodied, and once it stands the action is within
    `P`. -/
def ControlWithin (P : PyExc → Prop) (C : Connection σ) (serial : String) (password : Bytes)
    (methodId : UInt8) (s : σ) : Prop :=
  ∃ server, serverAddress serial = .ok server ∧
    LinkBodied C server defaultMaxAttemptsPerConnection (C.wrap s) ∧
    ∀ s₁ s₂, establishAttempts C server defaultMaxAttemptsPerConnection none (C.wrap s) =
        (.ok .linked, s₁) → armDeadline C s₁ = (.ok (), s₂) →
      ActionWithin C.socket server password methodId P s₂

theorem armDeadline_run (C : Connection σ) (s : σ) : ∃ s', armDeadline C s = (.ok (), s') :=
  setDeadline_run C.socket _ s

/-- Which exceptions come out of a relay command: none but `Q` iff it is within `Q` and the
    `GatewayError`s. -/
theorem executeControl_raises (hQ : ∀ {e}, Q e → e.isOSError = true) (C : Connection σ)
    (connNo : Nat) (serial : String) (password : Bytes) (methodId : UInt8) (s : σ) :
    RaisesOnly Q (executeControlViaFreshConnection C connNo serial password methodId) s ↔
      ControlWithin (ResultOr Q) C serial password methodId s := by
  rw [executeControlViaFreshConnection, ControlWithin]
  rcases haddress : serverAddress serial with e | server
  · rw [raisesOnly_bind_error (lift_run _ s)]
    constructor
    · intro h
      have hnot := serverAddress_error haddress
      rw [hQ h] at hnot
      cases hnot
    · rintro ⟨_, h, _⟩
      cases h
  have hs := serverAddress_bounds haddress
  have hlink := establishAttempts_raises C hQ hs defaultMaxAttemptsPerConnection none (C.wrap s)
  rw [raisesOnly_bind_ok (lift_run _ s), raisesOnly_bind_ok (modify_run _ s), raisesOnly_bind, hlink]
  constructor
  · rintro ⟨hbodied, hrest⟩
    refine ⟨server, rfl, hbodied, fun s₁ s₂ hlinked harmed => ?_⟩
    have haction := hrest .linked s₁ hlinked
    dsimp only at haction
    rw [raisesOnly_bind_ok harmed, raisesOnly_attempt_bind] at haction
    refine (executeAction_raises (ResultOr.tolerates hQ) (.inl rfl) hs s₂).mp fun e s₃ he => ?_
    rw [he] at haction
    cases e with
    | gateway => exact .inl rfl
    | dlmsData | valueError | unicodeError | indexError | overflowError | typeError
    | unboundLocalError | assertionError | socket => exact .inr (raisesOnly_raise.mp haction)
  · rintro ⟨_, ⟨⟩, hbodied, hwithin⟩
    refine ⟨hbodied, fun outcome s₁ hrun => ?_⟩
    cases outcome with
    | broken => exact raisesOnly_of_ok rfl
    | refused last => exact raisesOnly_of_ok rfl
    | linked =>
      obtain ⟨s₂, harmed⟩ := armDeadline_run C s₁
      have haction := (executeAction_raises (ResultOr.tolerates hQ) (.inl rfl) hs s₂).mpr
        (hwithin s₁ s₂ hrun harmed)
      dsimp only
      rw [raisesOnly_bind_ok harmed, raisesOnly_attempt_bind]
      rcases hexec : executeActionViaEstablishedLink C.socket server password disconnectControlObis
        methodId disconnectControlClassId (some disconnectActionParameters) s₂ with ⟨e | _, s₃⟩
      · cases e with
        | gateway => exact raisesOnly_of_ok rfl
        | dlmsData | valueError | unicodeError | indexError | overflowError | typeError
        | unboundLocalError | assertionError | socket =>
          exact raisesOnly_raise.mpr ((haction _ s₃ hexec).resolve_left fun h => nomatch h)
      · exact raisesOnly_of_ok rfl

end Control

end RiseSun.Gateway
