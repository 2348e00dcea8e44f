/-
  What the protocol is for: a meter one can read, write and switch.

  1. **The abstract meter** — `Memory` is what a meter remembers, `Emulator.perform` what a command
     does to it.  No frames, no numbering, no bytes: a register is a quantity, an object a value.
     A quantity that is no integer reads as the float nearest to it.

  2. **The concrete command** (`Command.run`) — SNRM/UA, AARQ/AARE, the client's request and its
     answer, on a fresh connection to the emulator.

  3. **One command** (`command_agrees`) — the dictionaries of the emulator represent the memory; on a
     connection without staged failures a command has the outcome of the abstract meter and leaves a
     representation of its memory.
-/
import Mathlib.Logic.Function.Basic
import RiseSun.Gateway.Conversation
import RiseSun.Gateway.Registers

namespace RiseSun.Gateway

open Proc Server

/-! ## The abstract meter -/

/-- What a client asks of a meter. -/
inductive Command
  | read (obis : String) (classId : Int)
  | write (obis : String) (value : Tree) (classId : Int)
  | act (obis : String) (methodId : UInt8) (classId : Int) (parameters : Option Bytes)

/-- The value of a write is encoded before anything is sent. -/
def Command.encoded : Command → Except PyExc Unit
  | .write _ value _ => value.encode.map fun _ => ()
  | .read .. => .ok ()
  | .act .. => .ok ()

/-- What comes back. -/
inductive Answer
  | number (q : ℚ)
  | value (v : Value)
  | done
  deriving DecidableEq

/-- An integer is a number, however it was encoded. -/
def Answer.ofValue : Value → Answer
  | .int n => .number n
  | v => .value v

/-- The objects of a meter, and the last action on each. -/
structure Memory where
  data : Bytes → Option Tree
  actions : Bytes → Option (UInt8 × Option Bytes)

/-- The error for an object that the meter does not have. -/
def undefinedObject : PyExc :=
  .plain [.text "Счётчик вернул data-access-result=", .int 9, .text " на GET-запрос"]

/-- The error for an action that the meter refuses with this result. -/
def actionRefused (result : UInt8) : PyExc :=
  .plain ([.text "Счётчик отклонил ACTION: result=", .int result.toNat, .text " ("] ++
    setResultName result ++ [.text ")"])

namespace Emulator

variable (E : Emulator)

def scaler (obis : Bytes) : Int := (E.registerScalers.get obis).getD 0

def unit (obis : Bytes) : Int := (E.registerUnits.get obis).getD 0

/-- The quantity behind a raw register value: scaled, watt-hours as kilowatt-hours. -/
def quantity (obis : Bytes) (raw : Int) : ℚ := exactValue raw (E.scaler obis) (.int (E.unit obis))

/-- The number a client has for a quantity: the quantity itself when it is a multiple of a power of
    ten of at least one, and else the float nearest to it, since the client divides by multiplying with
    a float.  On the raw values and scalers that an emulator can encode the client gets just these. -/
def reading (obis : Bytes) (raw : Int) : ℚ :=
  if 0 ≤ effectiveScaler (E.scaler obis) (.int (E.unit obis)) then E.quantity obis raw
  else Binary64.nearest (E.quantity obis raw)

/-- Only the password opens the meter. -/
def opens (password : Bytes) : Except PyExc Unit :=
  if E.accepts password then .ok () else .error authFailed

/-- A register reads as its quantity; an object of another class reads as the value in it. -/
def readOut (obis : String) (classId : Int) : Proc PyExc Memory Answer := do
  let target ← lift (parseObis obis)
  let valueTarget ← lift (if valueObis obis ≠ obis then parseObis (valueObis obis) else .ok target)
  if classId = registerClassId then
    match E.obisValues.get valueTarget with
    | some raw => pure (.number (E.reading target raw))
    | none => raise undefinedObject
  else do
    let _ ← lift (toBytes 2 classId)
    match ← gets fun m => m.data valueTarget with
    | some tree => pure (.ofValue tree.value.wholeSeconds)
    | none => raise undefinedObject

/-- The object is what was written. -/
def store (obis : String) (value : Tree) (classId : Int) : Proc PyExc Memory Answer := do
  let target ← lift (parseObis obis)
  let _ ← lift (toBytes 2 classId)
  modify fun m => { m with data := Function.update m.data target (some value) }
  pure .done

/-- The action is remembered even when it is refused. -/
def execute (obis : String) (methodId : UInt8) (classId : Int) (parameters : Option Bytes) :
    Proc PyExc Memory Answer := do
  let target ← lift (parseObis obis)
  let _ ← lift (toBytes 2 classId)
  modify fun m =>
    { m with actions := Function.update m.actions target (some (methodId, parameters)) }
  let result := E.actionForceResult.getD actionResultSuccess
  if result = actionResultSuccess then pure .done else raise (actionRefused result)

/-- What the meter does when it is open. -/
def obey : Command → Proc PyExc Memory Answer
  | .read obis classId => E.readOut obis classId
  | .write obis value classId => store obis value classId
  | .act obis methodId classId parameters => E.execute obis methodId classId parameters

/-- What a command does: a value is encoded first, then the meter must open. -/
def perform (password : Bytes) (c : Command) : Proc PyExc Memory Answer := do
  lift c.encoded
  lift (E.opens password)
  E.obey c

end Emulator

/-- Reading an object leaves the memory of the abstract meter as it was. -/
theorem readOut_memory (E : Emulator) (obis : String) (classId : Int) (m : Memory) :
    (E.readOut obis classId m).2 = m := by
  unfold Emulator.readOut
  cases parseObis obis with
  | error e => rfl
  | ok target =>
    rw [lift_ok_bind_run]
    cases (if valueObis obis ≠ obis then parseObis (valueObis obis) else .ok target) with
    | error e => rfl
    | ok valueTarget =>
      rw [lift_ok_bind_run]
      split
      · cases E.obisValues.get valueTarget <;> rfl
      · cases toBytes 2 classId with
        | error e => rfl
        | ok cls =>
          rw [lift_ok_bind_run, gets_bind_run]
          cases m.data valueTarget <;> rfl

/-! ## The concrete command -/

/-- A register value, without the traces of its encoding. -/
def RegisterValue.answer : RegisterValue → Answer
  | .plain v => .ofValue v
  | .float x => .number x

/-- The client's side of a command. -/
def Command.run {σ : Type} (S : MeterSocket σ) (serial : String) (password : Bytes) :
    Command → Proc PyExc σ Answer
  | .read obis classId => do
    let value ← readRegister S serial password obis classId
    pure value.answer
  | .write obis value classId => do
    let encoded ← lift value.encode
    writeRegister S serial password obis encoded classId
    pure .done
  | .act obis methodId classId parameters => do
    executeAction S serial password obis methodId classId parameters
    pure .done

/-- The first request of a command behind the association, or what keeps it from being built. -/
def Command.request : Command → Except PyExc Bytes
  | .read obis classId => do
    let target ← parseObis obis
    let valueTarget ← (if valueObis obis ≠ obis then parseObis (valueObis obis) else .ok target)
    if classId = registerClassId then
      buildGetRequest target 1 registerScalerUnitAttribute registerClassId
    else buildGetRequest valueTarget 1 registerValueAttribute classId
  | .write obis value classId => do
    let encoded ← value.encode
    let target ← parseObis obis
    buildSetRequest target encoded 1 registerValueAttribute classId
  | .act obis methodId classId parameters => do
    let target ← parseObis obis
    buildActionRequest target methodId classId 1 parameters

/-- A command on connection `attempt` to the emulator: what it returns and what it leaves. -/
def Emulator.session (E : Emulator) (attempt : Nat) (serial : String) (password : Bytes)
    (c : Command) : Proc PyExc MeterObjects Answer := fun objects =>
  let (r, l) := c.run E.meterSocket serial password { server := ⟨.snrm, objects, attempt⟩ }
  (r, l.server.objects)

/-! ## The relation -/

/-- A value of this length fits the request and the answer frame with all that stands around it: a
    frame declares its length in eleven bits, and 1900 is chosen below what they leave. -/
def maxValueLength : Nat := 1900

/-- A value, and its bytes as the emulator keeps them. -/
def Stored : Option Tree → Option Bytes → Prop
  | none, none => True
  | some tree, some bytes => tree.encode = .ok bytes ∧ bytes.length ≤ maxValueLength
  | _, _ => False

/-- The dictionaries hold the memory. -/
structure Represents (m : Memory) (o : MeterObjects) : Prop where
  dataValues : ∃ t, o.dataValues = some t ∧ ∀ k, Stored (m.data k) (t.get k)
  actionState : ∃ t, o.actionState = some t ∧ ∀ k, t.get k = (m.actions k).map Prod.fst
  actionParametersState :
    ∃ t, o.actionParametersState = some t ∧ ∀ k, t.get k = (m.actions k).map Prod.snd

/-- The configured numbers fit their encodings. -/
structure Emulator.Proper (E : Emulator) : Prop where
  values : ∀ k n, E.obisValues.get k = some n → 0 ≤ n ∧ n < 2 ^ 32
  scalers : ∀ k, -2 ^ 7 ≤ E.scaler k ∧ E.scaler k < 2 ^ 7
  units : ∀ k, 0 ≤ E.unit k ∧ E.unit k < 2 ^ 8

/-- No failure is staged for this connection. -/
def Emulator.Calm (E : Emulator) (attempt : Nat) : Prop :=
  (E.errorInjection.forceCrcError = true ∨ E.errorInjection.forcePartialDisconnect = true) →
    E.errorInjection.failAttempts < attempt

/-- Where no failure is staged, the answer is sent as it was built and the emulator goes on. -/
theorem Emulator.Calm.inject {E : Emulator} {attempt : Nat} (h : E.Calm attempt) (encoded : Bytes) :
    E.inject attempt encoded = (encoded, true) := by
  unfold Emulator.inject
  rw [if_neg fun hcrc => Nat.not_le_of_lt (h (.inl hcrc.1)) hcrc.2,
    if_neg fun hpartial => Nat.not_le_of_lt (h (.inr hpartial.1)) hpartial.2]

/-- The bytes of a command fit its frame; empty parameters cannot be told from none. -/
def Command.Fits : Command → Prop
  | .read .. => True
  | .write _ value _ => ∀ bytes, value.encode = .ok bytes → bytes.length ≤ maxValueLength
  | .act _ _ _ parameters => parameters ≠ some [] ∧ (parameters.getD []).length ≤ maxValueLength

/-- The parameters of an action that fits take at most 1901 bytes with their presence byte. -/
theorem Command.Fits.parameters_length {obis : String} {methodId : UInt8} {classId : Int}
    {parameters : Option Bytes} (h : (Command.act obis methodId classId parameters).Fits) :
    (parameters.elim [0x00] fun p => 0x01 :: p : Bytes).length ≤ 1901 := by
  have hshort : (parameters.getD []).length ≤ 1900 := h.2
  cases parameters with
  | none => decide
  | some p => exact Nat.succ_le_succ hshort

/-! ## Requests as bytes -/

/-- A GET of a six-byte code is its fixed header, and raises only for a class that does not fit. -/
theorem buildGetRequest_eq {obis : Bytes} (hobis : obis.length = 6) (invokeId attributeId : UInt8)
    (classId : Int) : buildGetRequest obis invokeId attributeId classId =
      (toBytes 2 classId).map fun cls =>
        getRequestTag :: getRequestNormal :: invokeId :: (cls ++ obis ++ [attributeId] ++ [0x00]) := by
  rw [buildGetRequest, if_neg (not_not_intro hobis), attributeDescriptor]
  cases toBytes 2 classId with
  | error e => rfl
  | ok cls => rfl

/-- A SET request byte by byte, with the class in two bytes or the failure to put it there. -/
theorem buildSetRequest_eq {obis : Bytes} (hobis : obis.length = 6) (encoded : Bytes)
    (invokeId attributeId : UInt8) (classId : Int) :
    buildSetRequest obis encoded invokeId attributeId classId =
      (toBytes 2 classId).map fun cls => setRequestTag :: setRequestNormal :: invokeId ::
        (cls ++ obis ++ [attributeId] ++ [0x00] ++ encoded) := by
  rw [buildSetRequest, if_neg (not_not_intro hobis), attributeDescriptor]
  cases toBytes 2 classId with
  | error e => rfl
  | ok cls =>
    show Except.ok _ = Except.ok _
    simp only [List.append_assoc, List.cons_append, List.nil_append]

/-- An ACTION request byte by byte; the presence byte says whether parameters follow. -/
theorem buildActionRequest_eq {obis : Bytes} (hobis : obis.length = 6) (methodId : UInt8)
    (classId : Int) (invokeId : UInt8) (parameters : Option Bytes) :
    buildActionRequest obis methodId classId invokeId parameters =
      (toBytes 2 classId).map fun cls => actionRequestTag :: actionRequestNormal :: invokeId ::
        (cls ++ obis ++ [methodId] ++ parameters.elim [0x00] fun p => 0x01 :: p) := by
  unfold buildActionRequest
  rw [if_neg (not_not_intro hobis)]
  cases toBytes 2 classId with
  | error e => rfl
  | ok cls => cases parameters <;> rfl

/-- A GET request is answered as it was parsed. -/
theorem answerRequest_get (E : Emulator) {rest : Bytes} {request : ParsedGetRequest}
    (h : parseGetRequest (getRequestTag :: rest) = .ok request) (objects : MeterObjects) :
    E.answerRequest (getRequestTag :: rest) objects = E.answerGet request objects := by
  have hno : ∀ tag : UInt8, tag ≠ getRequestTag → ¬ (getRequestTag :: rest).head? = some tag :=
    fun tag htag heq => htag (Option.some.inj heq).symm
  unfold Emulator.answerRequest
  rw [if_neg (hno _ (by decide)), if_neg (hno _ (by decide)), h, lift_ok_bind_run]

/-- A GET without a selection of rows is none of the profile. -/
theorem asksForProfile_plain (E : Emulator) {cls obis : Bytes} (hcls : cls.length = 2)
    (hobis : obis.length = 6) (invokeId attributeId : UInt8) :
    E.asksForProfile (getRequestTag :: getRequestNormal :: invokeId ::
      (cls ++ obis ++ [attributeId] ++ [0x00])) = false := by
  have hflag : (getRequestTag :: getRequestNormal :: invokeId ::
      (cls ++ obis ++ [attributeId] ++ [0x00]))[12]? = some 0x00 := by
    show (cls ++ obis ++ [attributeId] ++ [0x00])[9]? = some 0x00
    rw [List.getElem?_append_right (by simp [hcls, hobis])]
    simp [hcls, hobis]
  unfold Emulator.asksForProfile
  rw [hflag]
  simp

/-- A request that is no GET does not ask for the load profile. -/
theorem asksForProfile_tag (E : Emulator) {tag : UInt8} (htag : tag ≠ getRequestTag) (rest : Bytes) :
    E.asksForProfile (tag :: rest) = false := by
  have hhead : ((tag :: rest).head? == some getRequestTag) = false := by
    rw [List.head?_cons]
    exact beq_false_of_ne fun h => htag (Option.some.inj h)
  unfold Emulator.asksForProfile
  rw [hhead]
  simp

/-! ## One exchange at a stage -/

section Exchanges

variable {E : Emulator} {attempt : Nat} {server : Int}

/-- The client's address fits the four bytes of an HDLC address. -/
theorem clientAddress_bounds : 0 ≤ defaultClientAddress ∧ defaultClientAddress < 2 ^ 28 := by decide

/-- The LLC header adds three bytes to an APDU. -/
theorem wrapLlcCommand_length (apdu : Bytes) : (wrapLlcCommand apdu).length = 3 + apdu.length :=
  List.length_append

/-- A request behind the association is sent, answered by the calm emulator, and its answer
    received. -/
theorem request_exchange (hs : 0 ≤ server ∧ server < 2 ^ 28) (hcalm : E.Calm attempt) (apdu : Bytes)
    {info : Bytes} {objects objects' : MeterObjects} {next : SessionStage} {l : Line Session}
    (hlen : apdu.length ≤ 1990) (hinfo : info.length ≤ 2000)
    (hprofile : E.asksForProfile apdu = false)
    (hanswer : E.answerRequest apdu objects = (.ok (next, info), objects'))
    (hl : Talk ⟨.request, objects, attempt⟩ l []) :
    ∃ l₁ l' frame, sendIFrame E.meterSocket server defaultClientAddress 1 1
          (wrapLlcCommand apdu) l = (.ok (), l₁) ∧
      recvIFrame E.meterSocket l₁ = (.ok frame, l') ∧
      unwrapLlc frame.information = .ok info ∧
      Talk ⟨next, objects', attempt⟩ l' [] := by
  obtain ⟨raw, hraw⟩ := clientFrame_sent hs clientAddress_bounds (controlInformationFrame 1 1)
    (wrapLlcCommand apdu) (by rw [wrapLlcCommand_length]; omega)
  obtain ⟨out, hout, hsent⟩ := answerFrame_sent
    ⟨server, defaultClientAddress, controlInformationFrame 1 1, wrapLlcCommand apdu⟩
    ⟨hs, clientAddress_bounds⟩ 1 2 hinfo
  have hfirst : E.sendFirst attempt next
      ⟨server, defaultClientAddress, controlInformationFrame 1 1, wrapLlcCommand apdu⟩ info =
        .ok (next, out) := by
    unfold Emulator.sendFirst
    rw [hout, Result.ok_bind, hcalm.inject]
    rfl
  have hhandler : E.onFrame attempt .request raw objects = (.ok (next, out), objects') := by
    show E.onRequest attempt raw objects = _
    unfold Emulator.onRequest
    rw [hraw.decode, lift_ok_bind_run]
    show ((lift (.ok apdu) : Proc PyExc MeterObjects Bytes) >>= _) objects = _
    rw [lift_ok_bind_run, if_neg (ne_true_of_eq_false hprofile), bind_ok hanswer]
    exact congrArg (fun r => (r, objects')) hfirst
  exact exchange E (s := ⟨.request, objects, attempt⟩) (show SessionStage.request ≠ .closed by decide)
    hraw.encoded hraw
    ⟨out, _, serveFrame_ok E hhandler, hsent, controlInformationFrame_even 1 2, rfl⟩ hl

/-- The GET of the value behind that of the scaler. -/
theorem value_exchange (hs : 0 ≤ server ∧ server < 2 ^ 28) {apdu : Bytes} {request : ParsedGetRequest}
    {value : Option Bytes} {objects : MeterObjects} {l : Line Session} (hlen : apdu.length ≤ 1990)
    (hrequest : parseGetRequest apdu = .ok request)
    (hvalue : E.registerValue request.obis = .ok value)
    (hshort : (Emulator.getResponse request.invokeId value).length ≤ 2000)
    (hl : Talk ⟨.value, objects, attempt⟩ l []) :
    ∃ l₁ l' frame, sendIFrame E.meterSocket server defaultClientAddress 2 2
          (wrapLlcCommand apdu) l = (.ok (), l₁) ∧
      recvIFrame E.meterSocket l₁ = (.ok frame, l') ∧
      unwrapLlc frame.information = .ok (Emulator.getResponse request.invokeId value) ∧
      Talk ⟨.closed, objects, attempt⟩ l' [] := by
  obtain ⟨raw, hraw⟩ := clientFrame_sent hs clientAddress_bounds (controlInformationFrame 2 2)
    (wrapLlcCommand apdu) (by rw [wrapLlcCommand_length]; omega)
  obtain ⟨out, hout, hsent⟩ := answerFrame_sent
    ⟨server, defaultClientAddress, controlInformationFrame 2 2, wrapLlcCommand apdu⟩
    ⟨hs, clientAddress_bounds⟩ 2 3 hshort
  have hhandler : E.onFrame attempt .value raw objects = (.ok (.closed, out), objects) := by
    show ((E.onValueRequest raw : Except PyExc (SessionStage × Bytes)), objects) = _
    unfold Emulator.onValueRequest
    rw [hraw.decode, Result.ok_bind]
    show (((Except.ok apdu : Except PyExc Bytes) >>= _ : Except PyExc (SessionStage × Bytes)),
      objects) = _
    rw [Result.ok_bind, hrequest, Result.ok_bind, hvalue, Result.ok_bind, hout]
    rfl
  exact exchange E (s := ⟨.value, objects, attempt⟩) (show SessionStage.value ≠ .closed by decide)
    hraw.encoded hraw
    ⟨out, _, serveFrame_ok E hhandler, hsent, controlInformationFrame_even 2 3, rfl⟩ hl

/-- The way in: the link stands, and the association is as the password deserves. -/
theorem opening_talk {serial : String} (haddr : serverAddress serial = .ok server)
    {password aarq : Bytes} (haarq : buildAarq password userInformationInitiate = .ok aarq)
    {objects : MeterObjects} {l : Line Session} (hl : Talk ⟨.snrm, objects, attempt⟩ l []) :
    ∃ l₁ l₂, establishLinkTo E.meterSocket serial l = (.ok (), l₁) ∧
      associate E.meterSocket server defaultClientAddress password userInformationInitiate {} l₁ =
        (E.opens password, l₂) ∧
      Talk ⟨if E.accepts password then .request else .closed, objects, attempt⟩ l₂ [] := by
  have hs := serverAddress_bounds haddr
  obtain ⟨l₁, hlink, hl₁⟩ := establishLink_talk E hs clientAddress_bounds hl
  obtain ⟨l₂, hassociate, hl₂⟩ := associate_talk E hs clientAddress_bounds haarq hl₁
  refine ⟨l₁, l₂, ?_, hassociate, hl₂⟩
  unfold establishLinkTo
  rw [haddr, lift_ok_bind_run]
  exact hlink

end Exchanges

/-! ## Answers -/

/-- The value in an answer, or the error for an object that the meter does not have. -/
def answered : Option Value → Except PyExc Value
  | some value => .ok value
  | none => .error undefinedObject

/-- What is made of the value in an answer. -/
def answeredRegister (obis : String) (classId : Int) (scalerUnit : Value) :
    Option Value → Except GatewayError RegisterValue
  | some value => interpretValue obis classId scalerUnit value
  | none => .error (answerFailure undefinedObject)

/-- The answer about an object the meter does not have is parsed as the object being undefined. -/
theorem parseGetResponse_undefined (invokeId : UInt8) :
    parseGetResponse (Emulator.getResponse invokeId none) = .error undefinedObject := rfl

/-- An answer with a value of at most 1900 bytes fits an I-frame of 2000. -/
theorem getResponse_length (invokeId : UInt8) {value : Option Bytes}
    (h : ∀ bytes ∈ value, bytes.length ≤ maxValueLength) :
    (Emulator.getResponse invokeId value).length ≤ 2000 := by
  cases value with
  | none =>
    show 5 ≤ 2000
    omega
  | some bytes =>
    have hbytes : bytes.length ≤ 1900 := h bytes rfl
    show ([getResponseTag, getResponseNormal, invokeId, resultData] ++ bytes).length ≤ 2000
    rw [List.length_append]
    show 4 + bytes.length ≤ 2000
    omega

/-- A number of the range of `integer` is encoded in a byte after its tag. -/
theorem encodeInteger_ok {n : Int} (h : -2 ^ 7 ≤ n ∧ n < 2 ^ 7) :
    encodeInteger n = .ok (tagInteger :: Bytes.toSignedBE 1 n) := by
  rw [encodeInteger, toBytesSigned, if_pos (by norm_num at h ⊢; omega)]
  rfl

/-- A number of the range of `unsigned` is encoded in a byte after its tag. -/
theorem encodeUnsigned_ok {n : Int} (h : 0 ≤ n ∧ n < 2 ^ 8) :
    encodeUnsigned n = .ok (tagUnsigned :: Bytes.toBE 1 n.toNat) := by
  rw [encodeUnsigned, toBytes, if_pos (by norm_num at h ⊢; omega)]
  rfl

/-- The scaler and the unit come back as they are configured. -/
theorem scalerUnit_decodes {E : Emulator} (hE : E.Proper) (obis : Bytes) :
    ∃ bytes, E.scalerUnit obis = .ok bytes ∧ bytes.length = 6 ∧
      Decodes bytes (.list [.int (E.scaler obis), .int (E.unit obis)]) := by
  have hscaler := encodeInteger_ok (hE.scalers obis)
  have hunit := encodeUnsigned_ok (hE.units obis)
  have hencodable : (Tree.struct [.integer (E.scaler obis), .unsigned (E.unit obis)]).Encodable :=
    ⟨show 2 ≤ 255 by decide, hE.scalers obis, hE.units obis, trivial⟩
  obtain ⟨bytes, hbytes, hdecodes⟩ := Tree.encode_decodes _ hencodable
  refine ⟨bytes, ?_, ?_, hdecodes⟩
  · rw [← hbytes]
    unfold Emulator.scalerUnit
    rw [show (E.registerScalers.get obis).getD 0 = E.scaler obis from rfl,
      show (E.registerUnits.get obis).getD 0 = E.unit obis from rfl]
    simp only [Tree.encode, Tree.encodeAll, hscaler, hunit, Result.ok_bind]
  · simp only [Tree.encode, Tree.encodeAll, hscaler, hunit, Result.ok_bind] at hbytes
    cases hbytes
    simp

/-- A register's value comes back as it is configured. -/
theorem registerValue_decodes {E : Emulator} (hE : E.Proper) {obis : Bytes} {raw : Int}
    (h : E.obisValues.get obis = some raw) :
    ∃ bytes, E.registerValue obis = .ok (some bytes) ∧ bytes.length = 5 ∧
      Decodes bytes (.int raw) := by
  have hrange := hE.values obis raw h
  have hvalue : encodeDoubleLongUnsigned raw =
      .ok (tagDoubleLongUnsigned :: Bytes.toBE 4 raw.toNat) := by
    rw [encodeDoubleLongUnsigned, toBytes, if_pos (by norm_num at hrange ⊢; omega)]
    rfl
  obtain ⟨bytes, hbytes, hdecodes⟩ :=
    Tree.encode_decodes (.doubleLongUnsigned raw) (show 0 ≤ raw ∧ raw < 2 ^ 32 from hrange)
  rw [Tree.encode, hvalue] at hbytes
  cases hbytes
  refine ⟨_, ?_, ?_, hdecodes⟩
  · rw [Emulator.registerValue, h]
    show (encodeDoubleLongUnsigned raw).map some = _
    rw [hvalue]
    rfl
  · rw [List.length_cons, Bytes.toBE_length]

/-! ## Reading -/

/-- A value that is a number is answered as that number. -/
theorem RegisterValue.answer_of_number {v : RegisterValue} {q : ℚ} (h : v.number = some q) :
    v.answer = .number q := by
  cases v with
  | float x =>
    cases h
    rfl
  | plain v =>
    cases v with
    | int n =>
      cases h
      rfl
    | null | bytes | text | date | list => cases h

/-- A register with scaler and unit reads as its quantity. -/
theorem interpretValue_reading {E : Emulator} (hE : E.Proper) (obis : String) (target : Bytes)
    {raw : Int} (hraw : 0 ≤ raw ∧ raw < 2 ^ 32) :
    ∃ v, interpretValue obis registerClassId (.list [.int (E.scaler target), .int (E.unit target)])
        (.int raw) = .ok v ∧ v.answer = .number (E.reading target raw) := by
  rcases h : interpretValue obis registerClassId
    (.list [.int (E.scaler target), .int (E.unit target)]) (.int raw) with e | v
  · unfold interpretValue at h
    rw [if_neg (by simp)] at h
    dsimp only at h
    rw [if_neg (by simp)] at h
    split at h <;> cases h
  · refine ⟨v, rfl, ?_⟩
    rcases interpretValue_register h with
      ⟨n, scaler, unit, q, hn, hunit, hnumber, hscaled⟩ | ⟨_, hno, _⟩
    · cases hn
      cases hunit
      rw [RegisterValue.answer_of_number hnumber, Emulator.reading, Emulator.quantity]
      have hrange := hE.scalers target
      split
      · rename_i hup
        rw [hscaled.exact hup]
      · rename_i hdown
        -- 32 bits fit a float, and a scaler of one byte is far from the smallest floats
        have hlow : -307 ≤ effectiveScaler (E.scaler target) (.int (E.unit target)) := by
          unfold effectiveScaler
          norm_num at hrange
          split <;> omega
        rw [hscaled.nearest (not_le.mp hdown) hlow (by rw [abs_of_nonneg hraw.1]; omega)]
    · exact absurd rfl (hno raw)

/-- An object of another class is what it decodes to. -/
theorem interpretValue_object (obis : String) {classId : Int} (h : classId ≠ registerClassId)
    (scalerUnit raw : Value) : interpretValue obis classId scalerUnit raw = .ok (.plain raw) := by
  unfold interpretValue
  rw [if_neg fun hnull => h hnull.1]
  cases raw with
  | int n => exact if_pos h
  | null | bytes | text | date | list => rfl

/-- What a command makes of a register that was read. -/
def registerOutcome (value : Except GatewayError RegisterValue) : Except PyExc Answer :=
  (value.mapError .gateway).map RegisterValue.answer

section Reading

variable {E : Emulator} {attempt : Nat} {server : Int} {objects : MeterObjects} {l : Line Session}

/-- The GET of the scaler of a register. -/
def scalerRequest (target : Bytes) : Bytes :=
  getRequestTag :: getRequestNormal :: 1 ::
    ([0x00, 0x03] ++ target ++ [registerScalerUnitAttribute] ++ [0x00])

/-- The request for the scaler and unit of a register is the one the emulator knows as such. -/
theorem buildGetRequest_scaler {target : Bytes} (htarget : target.length = 6) :
    buildGetRequest target 1 registerScalerUnitAttribute registerClassId =
      .ok (scalerRequest target) := by
  rw [buildGetRequest_eq htarget, show toBytes 2 registerClassId = .ok [0x00, 0x03] by decide]
  rfl

/-- Asked for the scaler and unit of a register, the emulator answers with them and its memory stays
    as it was. -/
theorem answerRequest_scaler {target bytes : Bytes} (htarget : target.length = 6)
    (hbytes : E.scalerUnit target = .ok bytes) (objects : MeterObjects) :
    E.answerRequest (scalerRequest target) objects =
      (.ok (.value, buildGetResponseData 1 bytes), objects) := by
  rw [scalerRequest, answerRequest_get E (parseGetRequest_build (buildGetRequest_scaler htarget)),
    Emulator.answerGet, if_pos ⟨rfl, rfl⟩, hbytes]
  rfl

/-- The GET of an object of another class. -/
def objectRequest (cls target : Bytes) : Bytes :=
  getRequestTag :: getRequestNormal :: 1 ::
    (cls ++ target ++ [registerValueAttribute] ++ [0x00])

/-- The request for the value of any other object has its class in two bytes. -/
theorem buildGetRequest_object {target cls : Bytes} {classId : Int} (htarget : target.length = 6)
    (hcls : toBytes 2 classId = .ok cls) :
    buildGetRequest target 1 registerValueAttribute classId = .ok (objectRequest cls target) := by
  rw [buildGetRequest_eq htarget, hcls]
  rfl

/-- Asked for an object that is no register, the emulator answers from its data values, or that it
    has no such object. -/
theorem answerRequest_object {target cls : Bytes} {classId : Int} (htarget : target.length = 6)
    (hclass : classId ≠ registerClassId) (hcls : toBytes 2 classId = .ok cls)
    (objects : MeterObjects) :
    E.answerRequest (objectRequest cls target) objects =
      (.ok (.closed, Emulator.getResponse 1 (objects.dataValues.bind fun t => t.get target)),
        objects) := by
  rw [objectRequest, answerRequest_get E (parseGetRequest_build (buildGetRequest_object htarget hcls)),
    Emulator.answerGet, if_neg fun h => hclass h.1, if_neg hclass]
  rfl

/-- The scaler of a register, the first of its two exchanges. -/
theorem getScaler_talk (hE : E.Proper) (hcalm : E.Calm attempt) (hs : 0 ≤ server ∧ server < 2 ^ 28)
    {target : Bytes} (htarget : target.length = 6)
    (hl : Talk ⟨.request, objects, attempt⟩ l []) :
    ∃ l' frame, getScaler E.meterSocket server defaultClientAddress 1 1 target
        registerClassId l = (.ok frame, l') ∧
      scalerAnswer frame = .ok (.list [.int (E.scaler target), .int (E.unit target)]) ∧
      Talk ⟨.value, objects, attempt⟩ l' [] := by
  obtain ⟨bytes, hbytes, hlength, hdecodes⟩ := scalerUnit_decodes hE target
  obtain ⟨l₁, l', frame, hsend, hrecv, hpayload, hl'⟩ := request_exchange hs hcalm (scalerRequest target)
    (by simp [scalerRequest, htarget]) (by simp [buildGetResponseData, hlength])
    (asksForProfile_plain E rfl htarget 1 registerScalerUnitAttribute)
    (answerRequest_scaler htarget hbytes objects) hl
  refine ⟨l', frame, ?_, ?_, hl'⟩
  · unfold getScaler getAttribute
    rw [show buildGetRequest target (UInt8.ofNat 1) registerScalerUnitAttribute registerClassId = _
      from buildGetRequest_scaler htarget, lift_ok_bind_run, bind_ok hsend]
    exact hrecv
  · unfold scalerAnswer getAnswer
    rw [hpayload, Result.ok_bind, parseGetResponse_build 1 hdecodes]

/-- The value of a register, behind its scaler: the answer says what is configured. -/
theorem getValue_talk (hE : E.Proper) (hs : 0 ≤ server ∧ server < 2 ^ 28) {valueTarget : Bytes}
    (htarget : valueTarget.length = 6) (hl : Talk ⟨.value, objects, attempt⟩ l []) :
    ∃ l' frame, getValue E.meterSocket server defaultClientAddress 2 2 valueTarget
        registerClassId l = (.ok frame, l') ∧
      getAnswer frame = answered ((E.obisValues.get valueTarget).map .int) ∧
      l'.server.objects = objects := by
  have hvalue : ∃ value, E.registerValue valueTarget = .ok value ∧
      (∀ bytes ∈ value, bytes.length ≤ maxValueLength) ∧
      ∀ invokeId, parseGetResponse (Emulator.getResponse invokeId value) =
        answered ((E.obisValues.get valueTarget).map .int) := by
    cases hget : E.obisValues.get valueTarget with
    | none =>
      refine ⟨none, ?_, fun bytes h => (by cases h), parseGetResponse_undefined⟩
      rw [Emulator.registerValue, hget]
    | some raw =>
      obtain ⟨bytes, hbytes, hlength, hdecodes⟩ := registerValue_decodes hE hget
      refine ⟨some bytes, hbytes, fun b h => ?_, fun invokeId => parseGetResponse_build invokeId hdecodes⟩
      cases h
      exact Nat.le_trans (Nat.le_of_eq hlength) (by decide)
  obtain ⟨value, hvalue, hshort, hparse⟩ := hvalue
  have hbuild : buildGetRequest valueTarget (UInt8.ofNat 2) registerValueAttribute registerClassId =
      .ok (getRequestTag :: getRequestNormal :: 2 ::
        ([0x00, 0x03] ++ valueTarget ++ [registerValueAttribute] ++ [0x00])) := by
    rw [buildGetRequest_eq htarget, show toBytes 2 registerClassId = .ok [0x00, 0x03] by decide]
    rfl
  obtain ⟨l₁, l', frame, hsend, hrecv, hpayload, hl'⟩ := value_exchange hs
    (by simp [htarget]) (parseGetRequest_build hbuild) hvalue (getResponse_length _ hshort) hl
  refine ⟨l', frame, ?_, ?_, by rw [hl'.server]⟩
  · unfold getValue getAttribute
    rw [hbuild, lift_ok_bind_run, bind_ok hsend]
    exact hrecv
  · unfold getAnswer
    rw [hpayload, Result.ok_bind, hparse]

/-- An object of another class: the answer says what is stored. -/
theorem getObject_talk (hcalm : E.Calm attempt) (hs : 0 ≤ server ∧ server < 2 ^ 28)
    {valueTarget cls : Bytes} {classId : Int} (htarget : valueTarget.length = 6)
    (hclass : classId ≠ registerClassId) (hcls : toBytes 2 classId = .ok cls)
    (hshort : ∀ bytes ∈ objects.dataValues.bind fun t => t.get valueTarget,
      bytes.length ≤ maxValueLength)
    (hl : Talk ⟨.request, objects, attempt⟩ l []) :
    ∃ l' frame, getValue E.meterSocket server defaultClientAddress 1 1 valueTarget classId l =
        (.ok frame, l') ∧
      getAnswer frame = parseGetResponse
        (Emulator.getResponse 1 (objects.dataValues.bind fun t => t.get valueTarget)) ∧
      l'.server.objects = objects := by
  have htwo := toBytes_length hcls
  obtain ⟨l₁, l', frame, hsend, hrecv, hpayload, hl'⟩ := request_exchange hs hcalm
    (objectRequest cls valueTarget) (by simp [objectRequest, htarget, htwo]) (getResponse_length 1 hshort)
    (asksForProfile_plain E htwo htarget 1 registerValueAttribute)
    (answerRequest_object htarget hclass hcls objects) hl
  refine ⟨l', frame, ?_, ?_, by rw [hl'.server]⟩
  · unfold getValue getAttribute
    rw [show buildGetRequest valueTarget (UInt8.ofNat 1) registerValueAttribute classId = _
      from buildGetRequest_object htarget hcls, lift_ok_bind_run, bind_ok hsend]
    exact hrecv
  · unfold getAnswer
    rw [hpayload, Result.ok_bind]

/-- An object that is stored decodes to its value, another one is undefined. -/
theorem parseGetResponse_stored {tree : Option Tree} {bytes : Option Bytes} (h : Stored tree bytes)
    (invokeId : UInt8) : parseGetResponse (Emulator.getResponse invokeId bytes) =
      answered (tree.map fun tree => tree.value.wholeSeconds) ∧
    ∀ b ∈ bytes, b.length ≤ maxValueLength := by
  cases tree with
  | none =>
    cases bytes with
    | none => exact ⟨rfl, fun b hb => (by cases hb)⟩
    | some bytes => cases h
  | some tree =>
    cases bytes with
    | none => cases h
    | some bytes =>
      refine ⟨parseGetResponse_build invokeId (Tree.encode_decodes_whole h.1), fun b hb => ?_⟩
      cases hb
      exact h.2

/-- The code whose value is read can be parsed into six bytes, or it is refused with a message. -/
theorem valueTarget_cases (obis : String) {target : Bytes} (htarget : target.length = 6) :
    (∃ vt, (if valueObis obis ≠ obis then parseObis (valueObis obis) else .ok target) = .ok vt ∧
      vt.length = 6) ∨
    (∃ message, (if valueObis obis ≠ obis then parseObis (valueObis obis) else .ok target) =
      .error (.plain message)) := by
  split
  · exact parseObis_cases (valueObis obis)
  · exact .inl ⟨target, rfl, htarget⟩

/-- The value GET, with what is made of its answer. -/
theorem readValue_run {S : MeterSocket (Line Session)} {sendSeq invokeId : Nat} {obis : String}
    {valueTarget : Bytes} {classId : Int} {scalerUnit : Value} {frame : HdlcFrame}
    {l' : Line Session} (answer : Option Value)
    (hget : getValue S server defaultClientAddress sendSeq invokeId valueTarget classId l =
      (.ok frame, l'))
    (hanswer : getAnswer frame = answered answer) :
    readValue S server defaultClientAddress sendSeq invokeId obis valueTarget classId scalerUnit l =
      (.ok (answeredRegister obis classId scalerUnit answer, sendSeq + 1), l') := by
  unfold readValue
  rw [bind_ok hget, hanswer]
  cases answer with
  | some raw => rfl
  | none => rfl

/-- **Reading.**  One register, or one object, as the abstract meter has it. -/
theorem readOneRegister_talk (hE : E.Proper) (hs : 0 ≤ server ∧ server < 2 ^ 28) {m : Memory}
    (hm : Represents m objects) (obis : String) (classId : Int)
    (hcalm : (Command.read obis classId).request.isOk = true → E.Calm attempt)
    (hl : Talk ⟨.request, objects, attempt⟩ l []) :
    ∃ r l', readOneRegister E.meterSocket server defaultClientAddress 1 obis classId 1 l =
        (r, l') ∧
      l'.server.objects = objects ∧
      E.readOut obis classId m = (r >>= fun p => registerOutcome p.1, m) := by
  unfold readOneRegister Emulator.readOut
  rw [Command.request] at hcalm
  rcases parseObis_cases obis with ⟨target, htarget, hlength⟩ | ⟨message, hbad⟩
  swap
  · rw [hbad]
    exact ⟨_, l, rfl, by rw [hl.server], rfl⟩
  rw [htarget, Result.ok_bind] at hcalm
  rw [htarget, lift_ok_bind_run, lift_ok_bind_run]
  rcases valueTarget_cases obis hlength with ⟨vt, hvt, hvlength⟩ | ⟨message, hbad⟩
  swap
  · rw [hbad]
    exact ⟨_, l, rfl, by rw [hl.server], rfl⟩
  rw [hvt, Result.ok_bind] at hcalm
  rw [hvt, lift_ok_bind_run, lift_ok_bind_run]
  by_cases hclass : classId = registerClassId
  · subst hclass
    rw [if_pos rfl, buildGetRequest_scaler hlength] at hcalm
    have hcalm := hcalm rfl
    obtain ⟨l₁, frame, hscaler, hunit, hl₁⟩ := getScaler_talk hE hcalm hs hlength hl
    obtain ⟨l₂, frame₂, hget, hanswer, hobjects⟩ :=
      getValue_talk hE hs hvlength hl₁
    rw [if_pos rfl, if_pos rfl, bind_ok hscaler, hunit, lift_ok_bind_run]
    cases hraw : E.obisValues.get vt with
    | none =>
      rw [hraw] at hanswer
      exact ⟨_, l₂, readValue_run none hget hanswer, hobjects, rfl⟩
    | some raw =>
      rw [hraw] at hanswer
      obtain ⟨v, hv, hreading⟩ := interpretValue_reading hE obis target (hE.values vt raw hraw)
      refine ⟨_, l₂, readValue_run (some (.int raw)) hget hanswer, hobjects, ?_⟩
      show (Except.ok (Answer.number (E.reading target raw)), m) =
        (registerOutcome (interpretValue obis registerClassId
          (.list [.int (E.scaler target), .int (E.unit target)]) (.int raw)), m)
      rw [hv, ← hreading]
      rfl
  · rw [if_neg hclass, if_neg hclass]
    rcases hcls : toBytes 2 classId with e | cls
    · refine ⟨.error e, l, ?_, by rw [hl.server], rfl⟩
      unfold readValue getValue getAttribute
      rw [buildGetRequest_eq hvlength, hcls]
      rfl
    · rw [if_neg hclass, buildGetRequest_object hvlength hcls] at hcalm
      have hcalm := hcalm rfl
      obtain ⟨t, ht, hstored⟩ := hm.dataValues
      obtain ⟨hparse, hshort⟩ := parseGetResponse_stored (hstored vt) 1
      have hbind : objects.dataValues.bind (fun t => t.get vt) = t.get vt := by
        rw [ht]
        rfl
      obtain ⟨l', frame, hget, hanswer, hobjects⟩ := getObject_talk hcalm hs hvlength hclass hcls
        (by rw [hbind]; exact hshort) hl
      rw [hbind, hparse] at hanswer
      cases hdata : m.data vt with
      | none =>
        rw [hdata] at hanswer
        refine ⟨_, l', readValue_run none hget hanswer, hobjects, ?_⟩
        rw [lift_ok_bind_run, gets_bind_run, hdata]
        rfl
      | some tree =>
        rw [hdata] at hanswer
        refine ⟨_, l', readValue_run (some _) hget hanswer, hobjects, ?_⟩
        rw [lift_ok_bind_run, gets_bind_run, hdata]
        show _ = (registerOutcome (interpretValue obis classId .null tree.value.wholeSeconds), m)
        rw [interpretValue_object obis hclass]
        rfl

end Reading

/-! ## Writing and acting -/

/-- If the memory represents the objects, it still does after both have taken the same write. -/
theorem Represents.write {m : Memory} {o : MeterObjects} (h : Represents m o) (target : Bytes)
    {value : Tree} {encoded : Bytes} (hencoded : value.encode = .ok encoded)
    (hshort : encoded.length ≤ maxValueLength) :
    Represents { m with data := Function.update m.data target (some value) }
      { o with dataValues := o.dataValues.map fun t => t.setItem target encoded } := by
  obtain ⟨t, ht, hstored⟩ := h.dataValues
  refine ⟨⟨t.setItem target encoded, Option.map_eq_some_iff.mpr ⟨t, ht, rfl⟩, fun k => ?_⟩,
    h.actionState,
    h.actionParametersState⟩
  by_cases hk : k = target
  · subst hk
    show Stored (Function.update m.data k (some value) k) _
    rw [Function.update_self, Table.get_setItem_self]
    exact ⟨hencoded, hshort⟩
  · show Stored (Function.update m.data target (some value) k) _
    rw [Function.update_of_ne hk, Table.get_setItem_ne _ hk]
    exact hstored k

/-- A table that is written where the memory is. -/
theorem get_setItem_update {κ ρ : Type} [DecidableEq κ] {t : Table κ ρ} {f : κ → Option ρ}
    (h : ∀ k, t.get k = f k) (target : κ) (r : ρ) (k : κ) :
    (t.setItem target r).get k = Function.update f target (some r) k := by
  by_cases hk : k = target
  · subst hk
    rw [Function.update_self, Table.get_setItem_self]
  · rw [Function.update_of_ne hk, Table.get_setItem_ne _ hk, h]

/-- An action is remembered, its method and its parameters. -/
theorem Represents.act {m : Memory} {o : MeterObjects} (h : Represents m o) (target : Bytes)
    (methodId : UInt8) (parameters : Option Bytes) :
    Represents
      { m with actions := Function.update m.actions target (some (methodId, parameters)) }
      { o with
        actionState := o.actionState.map fun t => t.setItem target methodId
        actionParametersState :=
          o.actionParametersState.map fun t => t.setItem target parameters } := by
  obtain ⟨t, ht, hmethods⟩ := h.actionState
  obtain ⟨u, hu, hparameters⟩ := h.actionParametersState
  refine ⟨h.dataValues,
    ⟨t.setItem target methodId, Option.map_eq_some_iff.mpr ⟨t, ht, rfl⟩, fun k => ?_⟩,
    ⟨u.setItem target parameters, Option.map_eq_some_iff.mpr ⟨u, hu, rfl⟩, fun k => ?_⟩⟩
  · rw [get_setItem_update hmethods]
    simp only [Function.update_apply]
    split <;> rfl
  · rw [get_setItem_update hparameters]
    simp only [Function.update_apply]
    split <;> rfl

section Commands

variable {E : Emulator} {attempt : Nat} {server : Int} {objects : MeterObjects}

/-- A request in one frame and its answer, parsed. -/
theorem request_answered (hs : 0 ≤ server ∧ server < 2 ^ 28) (hcalm : E.Calm attempt)
    {apdu info : Bytes} {objects' : MeterObjects} {l : Line Session}
    (parse : Bytes → Except PyExc Unit) (hlen : apdu.length ≤ 1990) (hinfo : info.length ≤ 2000)
    (hprofile : E.asksForProfile apdu = false)
    (hanswer : E.answerRequest apdu objects = (.ok (.closed, info), objects'))
    (hl : Talk ⟨.request, objects, attempt⟩ l []) :
    ∃ l', (do
        sendIFrame E.meterSocket server defaultClientAddress 1 1 (wrapLlcCommand apdu)
        let responseFrame ← recvIFrame E.meterSocket
        lift (unwrapLlc responseFrame.information >>= parse)) l = (parse info, l') ∧
      l'.server.objects = objects' := by
  obtain ⟨l₁, l', frame, hsend, hrecv, hpayload, hl'⟩ :=
    request_exchange hs hcalm apdu hlen hinfo hprofile hanswer hl
  refine ⟨l', ?_, by rw [hl'.server]⟩
  rw [bind_ok hsend, bind_ok hrecv, hpayload]
  rfl

/-- With the password an operation goes on after the association, without it ends there. -/
theorem opened_run {α : Type} {serial : String} (haddr : serverAddress serial = .ok server)
    {password aarq : Bytes} (haarq : buildAarq password userInformationInitiate = .ok aarq)
    {l : Line Session} (hl : Talk ⟨.snrm, objects, attempt⟩ l [])
    (rest : Int → Proc PyExc (Line Session) α) :
    ∃ l', (do
        establishLinkTo E.meterSocket serial
        let server ← lift (serverAddress serial)
        associate E.meterSocket server defaultClientAddress password userInformationInitiate {}
        rest server) l =
          (if E.accepts password then rest server l' else (.error authFailed, l')) ∧
      Talk ⟨if E.accepts password then .request else .closed, objects, attempt⟩ l' [] := by
  obtain ⟨l₁, l₂, hlink, hassociate, hl₂⟩ := opening_talk haddr haarq hl
  refine ⟨l₂, ?_, hl₂⟩
  rw [bind_ok hlink, haddr, lift_ok_bind_run]
  unfold Emulator.opens at hassociate
  by_cases haccepts : E.accepts password = true
  · rw [if_pos haccepts] at hassociate ⊢
    rw [bind_ok hassociate]
  · rw [if_neg haccepts] at hassociate ⊢
    exact bind_error hassociate

/-- The meter takes a SET and says so. -/
theorem answerRequest_set (E : Emulator) {target encoded cls : Bytes} {value : Tree} {classId : Int}
    (hencoded : value.encode = .ok encoded) (htarget : target.length = 6)
    (hcls : toBytes 2 classId = .ok cls) (objects : MeterObjects) :
    E.answerRequest (setRequestTag :: setRequestNormal :: 1 ::
        (cls ++ target ++ [registerValueAttribute] ++ [0x00] ++ encoded)) objects =
      (.ok (.closed, buildSetResponse 1 setResultSuccess),
        { objects with
          dataValues := objects.dataValues.map fun t => t.setItem target encoded }) := by
  have hbuild : buildSetRequest target encoded 1 registerValueAttribute classId =
      .ok (setRequestTag :: setRequestNormal :: 1 ::
        (cls ++ target ++ [registerValueAttribute] ++ [0x00] ++ encoded)) := by
    rw [buildSetRequest_eq htarget, hcls]
    rfl
  unfold Emulator.answerRequest
  rw [List.head?_cons, if_neg (by decide), if_pos rfl,
    parseSetRequest_build (Tree.encode_decodes_whole hencoded) hbuild, lift_ok_bind_run]
  rfl

/-- The meter records an ACTION and answers as it is told to. -/
theorem answerRequest_action (E : Emulator) {target cls : Bytes} {methodId : UInt8} {classId : Int}
    {parameters : Option Bytes} (hparameters : parameters ≠ some []) (htarget : target.length = 6)
    (hcls : toBytes 2 classId = .ok cls) (objects : MeterObjects) :
    E.answerRequest (actionRequestTag :: actionRequestNormal :: 1 ::
        (cls ++ target ++ [methodId] ++ parameters.elim [0x00] fun p => 0x01 :: p)) objects =
      (.ok (.closed, buildActionResponse 1 (E.actionForceResult.getD actionResultSuccess)),
        { objects with
          actionState := objects.actionState.map fun t => t.setItem target methodId
          actionParametersState :=
            objects.actionParametersState.map fun t => t.setItem target parameters }) := by
  have hbuild : buildActionRequest target methodId classId 1 parameters =
      .ok (actionRequestTag :: actionRequestNormal :: 1 ::
        (cls ++ target ++ [methodId] ++ parameters.elim [0x00] fun p => 0x01 :: p)) := by
    rw [buildActionRequest_eq htarget, hcls]
    rfl
  unfold Emulator.answerRequest
  rw [List.head?_cons, if_pos rfl,
    parseActionRequest_build hparameters hbuild, lift_ok_bind_run]
  rfl

/-- The answer to an action is a success exactly if its result is the code of success. -/
theorem parseActionResponse_build (result : UInt8) :
    parseActionResponse (buildActionResponse 1 result) =
      if result = actionResultSuccess then .ok () else .error (actionRefused result) := by
  show (if result ≠ actionResultSuccess then _ else _) = _
  by_cases h : result = actionResultSuccess
  · rw [if_neg (not_not_intro h), if_pos h]
  · rw [if_pos h, if_neg h]
    rfl

/-- A write behind the association ends as the abstract meter says, and leaves the objects it
    represents. -/
theorem store_talk (hs : 0 ≤ server ∧ server < 2 ^ 28) {m : Memory} (hm : Represents m objects)
    (obis : String) {value : Tree} {encoded : Bytes} (hencoded : value.encode = .ok encoded)
    (hshort : encoded.length ≤ maxValueLength) (classId : Int)
    (hcalm : (Command.write obis value classId).request.isOk = true → E.Calm attempt)
    {l : Line Session} (hl : Talk ⟨.request, objects, attempt⟩ l []) :
    ∃ r l' m', (do
        let parsedObis ← lift (parseObis obis)
        let request ← lift (buildSetRequest parsedObis encoded 1 registerValueAttribute classId)
        sendIFrame E.meterSocket server defaultClientAddress 1 1 (wrapLlcCommand request)
        let responseFrame ← recvIFrame E.meterSocket
        lift (unwrapLlc responseFrame.information >>= parseSetResponse)) l = (r, l') ∧
      Emulator.store obis value classId m = (r.map fun _ => .done, m') ∧
      Represents m' l'.server.objects := by
  have hhere : Represents m l.server.objects := by rw [hl.server]; exact hm
  unfold Emulator.store
  rw [Command.request] at hcalm
  rw [hencoded, Result.ok_bind] at hcalm
  rcases parseObis_cases obis with ⟨target, htarget, hlength⟩ | ⟨message, hbad⟩
  swap
  · rw [hbad]
    exact ⟨_, l, m, rfl, rfl, hhere⟩
  rw [htarget, Result.ok_bind, buildSetRequest_eq hlength] at hcalm
  rw [htarget, lift_ok_bind_run, lift_ok_bind_run, buildSetRequest_eq hlength]
  rcases hcls : toBytes 2 classId with e | cls
  · exact ⟨_, l, m, rfl, rfl, hhere⟩
  rw [hcls] at hcalm
  have hcalm := hcalm rfl
  have htwo := toBytes_length hcls
  have hfit : encoded.length ≤ 1900 := hshort
  obtain ⟨l', hrun, hobjects⟩ := request_answered hs hcalm parseSetResponse
    (by simp only [List.length_cons, List.length_append, List.length_nil, hlength, htwo]; omega)
    (show (buildSetResponse 1 setResultSuccess).length ≤ 2000 by decide)
    (asksForProfile_tag E (by decide) _)
    (answerRequest_set E hencoded hlength hcls objects) hl
  exact ⟨_, l', _, hrun, rfl, hobjects ▸ hm.write target hencoded hshort⟩

/-- An action behind the association ends as the abstract meter says, and leaves the objects it
    represents. -/
theorem execute_talk (hs : 0 ≤ server ∧ server < 2 ^ 28) {m : Memory} (hm : Represents m objects)
    (obis : String) (methodId : UInt8) (classId : Int) {parameters : Option Bytes}
    (hfits : (Command.act obis methodId classId parameters).Fits)
    (hcalm : (Command.act obis methodId classId parameters).request.isOk = true → E.Calm attempt)
    {l : Line Session} (hl : Talk ⟨.request, objects, attempt⟩ l []) :
    ∃ r l' m', (do
        let parsedObis ← lift (parseObis obis)
        let request ← lift (buildActionRequest parsedObis methodId classId 1 parameters)
        sendIFrame E.meterSocket server defaultClientAddress 1 1 (wrapLlcCommand request)
        let responseFrame ← recvIFrame E.meterSocket
        lift (unwrapLlc responseFrame.information >>= parseActionResponse)) l = (r, l') ∧
      E.execute obis methodId classId parameters m = (r.map fun _ => .done, m') ∧
      Represents m' l'.server.objects := by
  have hhere : Represents m l.server.objects := by rw [hl.server]; exact hm
  unfold Emulator.execute
  rw [Command.request] at hcalm
  rcases parseObis_cases obis with ⟨target, htarget, hlength⟩ | ⟨message, hbad⟩
  swap
  · rw [hbad]
    exact ⟨_, l, m, rfl, rfl, hhere⟩
  rw [htarget, Result.ok_bind, buildActionRequest_eq hlength] at hcalm
  rw [htarget, lift_ok_bind_run, lift_ok_bind_run, buildActionRequest_eq hlength]
  rcases hcls : toBytes 2 classId with e | cls
  · exact ⟨_, l, m, rfl, rfl, hhere⟩
  rw [hcls] at hcalm
  have hcalm := hcalm rfl
  have htwo := toBytes_length hcls
  have hdata := hfits.parameters_length
  obtain ⟨l', hrun, hobjects⟩ := request_answered hs hcalm parseActionResponse
    (by simp only [List.length_cons, List.length_append, List.length_nil, hlength, htwo]; omega)
    (show (buildActionResponse 1 _).length ≤ 2000 from Nat.le_of_ble_eq_true rfl)
    (asksForProfile_tag E (by decide) _)
    (answerRequest_action E hfits.1 hlength hcls objects) hl
  refine ⟨_, l', _, hrun, ?_, hobjects ▸ hm.act target methodId parameters⟩
  rw [lift_ok_bind_run, modify_bind_run, parseActionResponse_build]
  split <;> rfl

/-! ## Commands -/

/-- With the password the meter does what the command says. -/
theorem perform_run (password : Bytes) {c : Command} (hencoded : c.encoded = .ok ()) (m : Memory) :
    E.perform password c m = if E.accepts password then E.obey c m else (.error authFailed, m) := by
  unfold Emulator.perform Emulator.opens
  rw [hencoded, lift_ok_bind_run]
  split <;> rfl

/-- A command that cannot be encoded does nothing on the abstract meter but fail. -/
theorem perform_unencoded (password : Bytes) {c : Command} {e : PyExc} (h : c.encoded = .error e)
    (m : Memory) : E.perform password c m = (.error e, m) := by
  unfold Emulator.perform
  rw [h, lift_error_bind_run]

/-- A command that cannot be encoded fails before anything is sent. -/
theorem run_unencoded {σ : Type} {S : MeterSocket σ} {serial : String} {password : Bytes} {c : Command}
    {e : PyExc} (h : c.encoded = .error e) (s : σ) : c.run S serial password s = (.error e, s) := by
  cases c with
  | write obis value classId =>
    cases hencoded : value.encode with
    | ok encoded =>
      rw [Command.encoded, hencoded] at h
      cases h
    | error e' =>
      rw [Command.encoded, hencoded] at h
      cases h
      rw [Command.run, hencoded]
      rfl
  | read | act => cases h

section Rest

variable {σ : Type} (S : MeterSocket σ) (server : Int)

/-- `read_register_via_established_link` behind the association. -/
def readBehind (obis : String) (classId : Int) : Proc PyExc σ RegisterValue := do
  let (value, _) ← readOneRegister S server defaultClientAddress 1 obis classId 1
  lift (value.mapError .gateway)

/-- `write_register_via_established_link` behind the association. -/
def writeBehind (obis : String) (encoded : Bytes) (classId : Int) : Proc PyExc σ Unit := do
  let parsedObis ← lift (parseObis obis)
  let request ← lift (buildSetRequest parsedObis encoded 1 registerValueAttribute classId)
  sendIFrame S server defaultClientAddress 1 1 (wrapLlcCommand request)
  let responseFrame ← recvIFrame S
  lift (unwrapLlc responseFrame.information >>= parseSetResponse)

/-- `execute_action_via_established_link` behind the association. -/
def actBehind (obis : String) (methodId : UInt8) (classId : Int) (parameters : Option Bytes) :
    Proc PyExc σ Unit := do
  let parsedObis ← lift (parseObis obis)
  let request ← lift (buildActionRequest parsedObis methodId classId 1 parameters)
  sendIFrame S server defaultClientAddress 1 1 (wrapLlcCommand request)
  let responseFrame ← recvIFrame S
  lift (unwrapLlc responseFrame.information >>= parseActionResponse)

/-- What a command does behind the association. -/
def Command.rest : Command → Proc PyExc σ Answer
  | .read obis classId => do
    let value ← readBehind S server obis classId
    pure value.answer
  | .write obis value classId => do
    let encoded ← lift value.encode
    writeBehind S server obis encoded classId
    pure .done
  | .act obis methodId classId parameters => do
    actBehind S server obis methodId classId parameters
    pure .done

end Rest

/-- A command is its opening and its rest. -/
theorem command_opened {serial : String} (haddr : serverAddress serial = .ok server)
    {password aarq : Bytes} (haarq : buildAarq password userInformationInitiate = .ok aarq)
    {l : Line Session} (hl : Talk ⟨.snrm, objects, attempt⟩ l []) {c : Command}
    (hencoded : c.encoded = .ok ()) :
    ∃ l', c.run E.meterSocket serial password l =
          (if E.accepts password then c.rest E.meterSocket server l' else (.error authFailed, l')) ∧
      Talk ⟨if E.accepts password then .request else .closed, objects, attempt⟩ l' [] := by
  -- what is done with the result is done behind the association, too
  have hfinish : ∀ {α : Type} (op : Proc PyExc (Line Session) α)
      (behind : Int → Proc PyExc (Line Session) α) (finish : α → Proc PyExc (Line Session) Answer)
      {l' : Line Session},
      op l = (if E.accepts password then behind server l' else (.error authFailed, l')) →
      (op >>= finish) l =
        (if E.accepts password then (behind server >>= finish) l' else (.error authFailed, l')) := by
    intro α op behind finish l' hop
    by_cases haccepts : E.accepts password = true
    · rw [if_pos haccepts] at hop ⊢
      exact bind_same_run hop finish
    · rw [if_neg haccepts] at hop ⊢
      exact bind_error hop
  cases c with
  | read obis classId =>
    obtain ⟨l', hrun, hl'⟩ := opened_run (E := E) haddr haarq hl
      fun server => readBehind E.meterSocket server obis classId
    exact ⟨l', hfinish (readRegister E.meterSocket serial password obis classId)
      (fun server => readBehind E.meterSocket server obis classId) _ hrun, hl'⟩
  | act obis methodId classId parameters =>
    obtain ⟨l', hrun, hl'⟩ := opened_run (E := E) haddr haarq hl
      fun server => actBehind E.meterSocket server obis methodId classId parameters
    exact ⟨l', hfinish (executeAction E.meterSocket serial password obis methodId classId parameters)
      (fun server => actBehind E.meterSocket server obis methodId classId parameters) _ hrun, hl'⟩
  | write obis value classId =>
    obtain ⟨encoded, hvalue⟩ : ∃ encoded, value.encode = .ok encoded := by
      cases hvalue : value.encode with
      | ok encoded => exact ⟨encoded, rfl⟩
      | error e =>
        rw [Command.encoded, hvalue] at hencoded
        cases hencoded
    obtain ⟨l', hrun, hl'⟩ := opened_run (E := E) haddr haarq hl
      fun server => writeBehind E.meterSocket server obis encoded classId
    refine ⟨l', ?_, hl'⟩
    rw [Command.run, Command.rest, hvalue]
    exact hfinish (writeRegister E.meterSocket serial password obis encoded classId)
      (fun server => writeBehind E.meterSocket server obis encoded classId) _ hrun

/-- Behind the association, whatever the command, the calm emulator answers as the abstract meter
    does. -/
theorem rest_agrees (hE : E.Proper) (hs : 0 ≤ server ∧ server < 2 ^ 28) {m : Memory}
    (hm : Represents m objects) {c : Command} (hencoded : c.encoded = .ok ()) (hfits : c.Fits)
    (hcalm : c.request.isOk = true → E.Calm attempt) {l : Line Session}
    (hl : Talk ⟨.request, objects, attempt⟩ l []) :
    ∃ r l' m', c.rest E.meterSocket server l = (r, l') ∧ E.obey c m = (r, m') ∧
      Represents m' l'.server.objects := by
  cases c with
  | read obis classId =>
    obtain ⟨r, l', hone, hobjects, hout⟩ := readOneRegister_talk hE hs hm obis classId hcalm hl
    refine ⟨_, l', m, ?_, hout, hobjects ▸ hm⟩
    rw [Command.rest, readBehind, bind_assoc_run]
    cases r with
    | error e => exact bind_error hone
    | ok p =>
      rw [bind_ok hone]
      obtain ⟨value | value, next⟩ := p <;> rfl
  | write obis value classId =>
    cases hvalue : value.encode with
    | error e =>
      rw [Command.encoded, hvalue] at hencoded
      cases hencoded
    | ok encoded =>
      obtain ⟨r, l', m', hrun, hout, hm'⟩ :=
        store_talk hs hm obis hvalue (hfits encoded hvalue) classId hcalm hl
      refine ⟨_, l', m', ?_, hout, hm'⟩
      rw [Command.rest, hvalue, lift_ok_bind_run]
      cases r with
      | error e => exact bind_error hrun
      | ok u => exact bind_ok hrun
  | act obis methodId classId parameters =>
    obtain ⟨r, l', m', hrun, hout, hm'⟩ :=
      execute_talk hs hm obis methodId classId hfits hcalm hl
    refine ⟨_, l', m', ?_, hout, hm'⟩
    rw [Command.rest]
    cases r with
    | error e => exact bind_error hrun
    | ok u => exact bind_ok hrun

/-- **One command.**  On a calm connection it ends as on the abstract meter, and the objects
    represent its memory. -/
theorem command_agrees (hE : E.Proper) {serial : String} (haddr : serverAddress serial = .ok server)
    {password aarq : Bytes} (haarq : buildAarq password userInformationInitiate = .ok aarq) {m : Memory}
    (hm : Represents m objects) {c : Command} (hfits : c.Fits)
    (hcalm : E.accepts password = true → c.request.isOk = true → E.Calm attempt) {l : Line Session}
    (hl : Talk ⟨.snrm, objects, attempt⟩ l []) :
    ∃ r m' l', E.perform password c m = (r, m') ∧ c.run E.meterSocket serial password l = (r, l') ∧
      Represents m' l'.server.objects := by
  cases hencoded : c.encoded with
  | error e =>
    exact ⟨.error e, m, l, perform_unencoded password hencoded m, run_unencoded hencoded l,
      hl.server ▸ hm⟩
  | ok u =>
    obtain ⟨l₁, hrun, hl₁⟩ := command_opened haddr haarq hl hencoded
    rw [hrun, perform_run password hencoded]
    by_cases haccepts : E.accepts password = true
    · rw [if_pos haccepts] at hl₁
      obtain ⟨r, l', m', hr, hm', hleft⟩ := rest_agrees hE (serverAddress_bounds haddr) hm hencoded
        hfits (hcalm haccepts) hl₁
      rw [if_pos haccepts, if_pos haccepts]
      exact ⟨r, m', l', hm', hr, hleft⟩
    · rw [if_neg haccepts, if_neg haccepts]
      exact ⟨.error authFailed, m, l₁, rfl, rfl, hl₁.server ▸ hm⟩

end Commands

end RiseSun.Gateway
