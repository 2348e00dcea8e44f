/-
  One operation on a meter over a connection of its own (`protocols/hdlc_dlms.py`,
  `protocols/mode_e.py`), its repetition (`session.py`) and the handlers that ask for it
  (`grpc_server.py`).

  1. **Operations** — reading a register, writing a parameter, a relay action and the load profile,
     each with SNRM/UA in front.  Mode E puts its identification in front of that.

  2. **Connections** (`Network`) — the handlers open a connection for every try and close it whatever
     happens.

  3. **Handlers** — `doRead`, `doWrite`, `doDisconnect`, `doReadLoadProfile` for a meter that is
     called by the Gateway, and what they answer.
-/
import RiseSun.Lib.Retry
import RiseSun.Gateway.FreshConnection
import RiseSun.Gateway.MalformedAnswers
import RiseSun.Gateway.ModeC
import RiseSun.Gateway.RoundTrips

namespace RiseSun.Gateway

open Proc PyText

variable {σ : Type}

/-! ## Operations -/

/-- The name of a result code, or the code in hexadecimal. -/
def setResultName (result : UInt8) : Message :=
  match setResultNames.lookup result.toNat with
  | some name => [.text name]
  | none => [.text "0x", .hexByte result.toNat]

section Operations

variable (S : MeterSocket σ)

/-- AARQ and AARE under any mechanism. -/
def associateFor (server client : Int) (password : Bytes) (mechanismId : Nat) :
    Proc PyExc σ Unit := do
  let aarq ← lift (buildAarqFor password mechanismId none)
  let aareFrame ← sendAarqAndAwaitAare S server client (wrapLlcCommand aarq) {}
  lift (unwrapLlc aareFrame.information >>= parseAare)

/-- `read_register_via_established_link`: an error that was returned is raised. -/
def readRegisterViaEstablishedLink (serial : String) (password : Bytes) (obis : String)
    (classId : Int) (mechanismId : Nat) : Proc PyExc σ RegisterValue := do
  let server ← lift (serverAddress serial)
  associateFor S server defaultClientAddress password mechanismId
  let (value, _) ← readOneRegister S server defaultClientAddress 1 obis classId 1
  lift (value.mapError .gateway)

/-- `establish_link`. -/
def establishLinkTo (serial : String) : Proc PyExc σ Unit := do
  let server ← lift (serverAddress serial)
  establishLink S server defaultClientAddress

/-- `read_register`. -/
def readRegister (serial : String) (password : Bytes) (obis : String) (classId : Int) :
    Proc PyExc σ RegisterValue := do
  establishLinkTo S serial
  readRegisterViaEstablishedLink S serial password obis classId 1

/-- `write_register_via_established_link`. -/
def writeRegisterViaEstablishedLink (serial : String) (password : Bytes) (obis : String)
    (encodedValue : Bytes) (classId : Int) : Proc PyExc σ Unit := do
  let server ← lift (serverAddress serial)
  associate S server defaultClientAddress password userInformationInitiate {}
  let parsedObis ← lift (parseObis obis)
  let request ← lift (buildSetRequest parsedObis encodedValue 1 registerValueAttribute classId)
  sendIFrame S server defaultClientAddress 1 1 (wrapLlcCommand request)
  let responseFrame ← recvIFrame S
  lift (unwrapLlc responseFrame.information >>= parseSetResponse)

/-- `write_register`. -/
def writeRegister (serial : String) (password : Bytes) (obis : String) (encodedValue : Bytes)
    (classId : Int) : Proc PyExc σ Unit := do
  establishLinkTo S serial
  writeRegisterViaEstablishedLink S serial password obis encodedValue classId

/-- `execute_action`. -/
def executeAction (serial : String) (password : Bytes) (obis : String) (methodId : UInt8)
    (classId : Int) (parameters : Option Bytes) : Proc PyExc σ Unit := do
  establishLinkTo S serial
  let server ← lift (serverAddress serial)
  executeActionViaEstablishedLink S server password obis methodId classId parameters

/-- `read_load_profile`, a generator. -/
def readLoadProfile (serial : String) (password : Bytes) (obis : String) (classId : Int)
    (fromDt toDt : DateTime) : Proc PyExc (σ × List ProfileRow) Unit := do
  let server ← lift (serverAddress serial)
  within (establishLink S server defaultClientAddress)
  let address ← lift (physicalAddress serial)
  readLoadProfileViaEstablishedLink S address password obis classId fromDt toDt false

/-- The mode that switches to HDLC. -/
def hdlcHandoffMode : List Char := ['2']

/-- `mode_e.read_register`. -/
def readRegisterModeE (serial : String) (password : Bytes) (obis : String) :
    Proc PyExc σ RegisterValue := do
  let request ← lift (ModeC.buildIdentificationRequest serial.toList)
  send S request
  let identRaw ← ModeC.recvUntil S ModeC.crlf
  let ident ← lift (ModeC.parseIdentification identRaw)
  let optionSelect ← lift (ModeC.buildOptionSelect ident.baudChar hdlcHandoffMode)
  send S optionSelect
  readRegister S serial password obis registerClassId

end Operations

/-! ## Repetition -/

/-- `_RETRYABLE`; `AuthFailedError` is no member of it. -/
def PyExc.isRetryable : PyExc → Bool
  | .gateway e => e.cls == .meterTimeoutError || e.cls == .crcError || e.cls == .connectionLostError
  | _ => false

/-- The delay after try `k`, counted from zero: it doubles. -/
def retryDelay (k : Nat) : ℚ := 1 / 2 * 2 ^ k

/-- `run_with_retries`; a count below one leaves the loop at once, and the assertion behind it fails. -/
def runWithRetries {ω α : Type} (sleep : ℚ → ω → ω) (operation : Proc PyExc ω α) (maxRetries : Int) :
    Proc PyExc ω α :=
  if maxRetries < 1 then raise .assertionError
  else Retry.retry PyExc.isRetryable (fun k => sleep (retryDelay k)) operation (maxRetries.toNat - 1) 0

/-! ## Connections -/

/-- The network as the handlers use it. -/
structure Network (ω σ : Type) where
  socket : MeterSocket σ
  /-- `create_connection` within the timeout; `none` when it fails. -/
  connect : ℚ → ω → Option σ × ω
  close : σ → ω → ω
  sleep : ℚ → ω → ω

/-- Where and how the meter is called. -/
structure TransportConfig where
  host : String
  port : Int
  timeoutMs : Int

def connectFailed (config : TransportConfig) : PyExc :=
  .gateway {
    cls := .meterTimeoutError
    message := [.text "Не удалось подключиться к ", .text config.host, .text ":", .int config.port,
      .text " после ", .int 1, .text " попыток: "] }

/-- `with TcpTransport(config)`, one try to connect: the connection is closed on every way out. -/
def withTransport {ω α : Type} (N : Network ω σ) (config : TransportConfig)
    (operation : Proc PyExc σ α) : Proc PyExc ω α := fun w =>
  match N.connect (config.timeoutMs / 1000) w with
  | (none, w') => (.error (connectFailed config), w')
  | (some s, w') =>
    let (r, s') := operation (N.socket.settimeout (config.timeoutMs / 1000) s)
    (r, N.close s' w')

/-- The same around a generator: what it has yielded stays. -/
def withTransportYielding {ω ρ : Type} (N : Network ω σ) (config : TransportConfig)
    (operation : Proc PyExc (σ × List ρ) Unit) : Proc PyExc (ω × List ρ) Unit := fun (w, ys) =>
  match N.connect (config.timeoutMs / 1000) w with
  | (none, w') => (.error (connectFailed config), (w', ys))
  | (some s, w') =>
    let (r, (s', ys')) := operation (N.socket.settimeout (config.timeoutMs / 1000) s, ys)
    (r, (N.close s' w', ys'))

/-! ## Handlers -/

def defaultTimeoutMs : Int := 5000
def defaultRetries : Int := 3

/-- `obis6_to_short_code`: fields C, D and E, in decimal. -/
def obis6ToShortCode (obis6 : String) : Except PyExc (List Char) :=
  match splitDots obis6.toList with
  | [_, _, c, d, e, _] =>
    match hexFields [c, d, e] with
    | some [c, d, e] => .ok (toString c ++ "." ++ toString d ++ "." ++ toString e).toList
    | _ => .error (.valueError [])
  | _ => .error (.plain [.text "OBIS-код должен состоять из 6 полей вида A.B.C.D.E.F, получено: ",
      .quoted obis6])

example : (obis6ToShortCode "1.1.1.8.0.ff").toOption.map String.ofList = some "1.8.0" := by decide

/-- The fields that the requests share; 0 stands for a field that is not set. -/
structure MeterRequest where
  host : String
  port : Int
  serial : String
  password : String
  profile : String
  timeoutMs : Int
  retries : Int

def MeterRequest.config (r : MeterRequest) : TransportConfig :=
  { host := r.host, port := r.port
    timeoutMs := if r.timeoutMs = 0 then defaultTimeoutMs else r.timeoutMs }

def MeterRequest.maxRetries (r : MeterRequest) : Int :=
  if r.retries = 0 then defaultRetries else r.retries

/-- What a read returns: a register, or the number of a mode C readout. -/
inductive ReadResult (F : Type)
  | register (value : RegisterValue)
  | number (value : F)

section Handlers

variable {ω F : Type} (N : Network ω σ)

/-- `_do_read` for a meter that the Gateway calls. -/
def doRead (fmt : FloatFormat F) (r : MeterRequest) (obis : String) (classId : Int) :
    Proc PyExc ω (ReadResult F) := do
  let password ← lift (asciiEncode r.password)
  runWithRetries N.sleep
    (withTransport N r.config <|
      if r.profile = "mode_c" then do
        let shortCode ← lift (obis6ToShortCode obis)
        let value ← ModeC.readValue fmt N.socket r.serial.toList shortCode
        pure (.number value)
      else if r.profile = "mode_e" then do
        let value ← readRegisterModeE N.socket r.serial password obis
        pure (.register value)
      else if r.profile = "hdlc_dlms" then do
        let value ← readRegister N.socket r.serial password obis (effectiveClassId classId)
        pure (.register value)
      else raise (.plain [.text "Неизвестный протокольный профиль: ", .quoted r.profile]))
    r.maxRetries

/-- `_VALUE_ENCODERS`. -/
def encodeForWrite (valueType : String) (valueBytes : Bytes) : Except PyExc Bytes :=
  if valueType = "octet_string" then encodeOctetString valueBytes
  else if valueType = "unsigned" then do
    let first ← byteAt valueBytes 0
    encodeUnsigned first.toNat
  else .error (.plain [.text "Неподдержанный тип значения для записи: ", .quoted valueType])

/-- `_do_write`. -/
def doWrite (r : MeterRequest) (callHome : Bool) (obis : String) (classId : Int)
    (valueType : String) (valueBytes : Bytes) : Proc PyExc ω Unit := do
  let password ← lift (asciiEncode r.password)
  let encodedValue ← lift (encodeForWrite valueType valueBytes)
  if callHome then raise (.plain [.text "Запись параметров через call-home пока не реализована"])
  else
    runWithRetries N.sleep
      (withTransport N r.config <|
        if r.profile = "hdlc_dlms" then
          writeRegister N.socket r.serial password obis encodedValue (effectiveClassId classId)
        else raise (.plain [.text "Запись параметров для протокольного профиля ", .quoted r.profile,
          .text " пока не реализована"]))
      r.maxRetries

/-- `_DISCONNECT_METHOD_IDS`. -/
def disconnectMethodId (operation : String) : Option UInt8 :=
  if operation = "disconnect" then some methodRemoteDisconnect
  else if operation = "reconnect" then some methodRemoteReconnect
  else none

/-- `_do_disconnect`. -/
def doDisconnect (r : MeterRequest) (callHome : Bool) (operation : String) : Proc PyExc ω Unit := do
  let password ← lift (asciiEncode r.password)
  match disconnectMethodId operation with
  | none => raise (.plain [.text "Неизвестная операция отключения: ", .quoted operation])
  | some methodId =>
    if callHome then
      raise (.plain [.text "Отключение/подключение через call-home пока не реализовано"])
    else if r.profile ≠ "hdlc_dlms" then
      raise (.plain [.text "Отключение/подключение для протокольного профиля ", .quoted r.profile,
        .text " пока не поддержано"])
    else
      runWithRetries N.sleep
        (withTransport N r.config
          (executeAction N.socket r.serial password disconnectControlObis methodId
            disconnectControlClassId (some disconnectActionParameters)))
        r.maxRetries

/-- `_do_read_load_profile` for a meter that the Gateway calls: nothing is tried again.
    `fromisoformat` is that of the runtime. -/
def doReadLoadProfile (fromisoformat : String → Except PyExc DateTime) (r : MeterRequest)
    (obis : String) (classId : Int) (fromIso toIso : String) :
    Proc PyExc (ω × List ProfileRow) Unit := do
  let password ← lift (asciiEncode r.password)
  if r.profile ≠ "hdlc_dlms" then
    raise (.plain [.text "Профиль нагрузки для протокольного профиля ", .quoted r.profile,
      .text " пока не реализован"])
  else do
    let fromDt ← lift (fromisoformat fromIso)
    let toDt ← lift (fromisoformat toIso)
    withTransportYielding N r.config
      (readLoadProfile N.socket r.serial password obis classId fromDt toDt)

/-- The two ways a unary call is answered; anything but a `GatewayError` aborts it. -/
def answerCall {α : Type} (handler : Proc PyExc ω α) : Proc PyExc ω (Except GatewayError α) := do
  match ← attempt handler with
  | .ok a => pure (.ok a)
  | .error (.gateway e) => pure (.error e)
  | .error e => raise e

end Handlers

end RiseSun.Gateway
