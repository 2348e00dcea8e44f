/-
  A batch of registers over one association: when the outcomes collected so far survive.

  The loop of `read_registers_via_established_link` breaks off, and returns what it has, on the
  exceptions that mean the loss of the link.  Everything else that a register raises goes through
  the loop and takes the collected outcomes with it.

  1. **Frames** (`FramesIntact`) — what may come after a request so that `_recv_i_frame` raises
     nothing but the loss of the link.

  2. **One register** (`RegisterIntact`) — the same for a whole register: OBIS codes, class id,
     frames, and answers that the decoder can read (`AnswerReadable`).

  3. **The batch** (`registerLoop_returns_iff`) — the loop returns iff every register it reaches is
     intact, and then what it returns is what the registers gave, one by one (`Collects`).
-/
import RiseSun.Gateway.Meter
import RiseSun.Gateway.ValueLayout

namespace RiseSun.Gateway

open Proc

variable {σ : Type}

/-- The exceptions on which the register loop breaks off. -/
def LinkLoss (e : PyExc) : Prop := e.isLinkLoss = true

/-- A caller of a register: it takes the loss of the link while a request is sent, and none of the
    exceptions of the runtime that a request or an answer can end with. -/
structure RegisterCaller (P : PyExc → Prop) : Prop where
  connectionLost : P connectionLostOnSend
  unicode : ¬ P .unicodeError
  value : ∀ message, ¬ P (.valueError message)
  overflow : ¬ P .overflowError

theorem LinkLoss.caller : RegisterCaller LinkLoss :=
  ⟨rfl, fun h => (nomatch h), fun _ h => (nomatch h), fun h => (nomatch h)⟩

/-! ## Frames -/

/-- Up to the first I-frame, and for at most `left` frames, every frame that comes is accepted by
    the frame reader and the frame decoder, or the link is lost instead. -/
def FramesIntact (S : MeterSocket σ) : (left : Nat) → σ → Prop
  | 0, _ => False
  | left + 1, s =>
    match readFrameFromTransport S s with
    | (.error e, _) => LinkLoss e
    | (.ok raw, s') => ∃ frame, HdlcFrame.decode raw = .ok frame ∧
        (frame.control &&& 0x01 = 0 ∨ FramesIntact S left s')

theorem recvIFrameLoop_raises (S : MeterSocket σ) : ∀ (left : Nat) (s : σ),
    RaisesOnly LinkLoss (recvIFrameLoop S left) s ↔ FramesIntact S left s := by
  intro left
  induction left with
  | zero =>
    intro s
    rw [recvIFrameLoop, raisesOnly_raise]
    exact ⟨fun h => (by cases h), False.elim⟩
  | succ left ih =>
    intro s
    rw [FramesIntact]
    rcases hread : readFrameFromTransport S s with ⟨e | raw, s'⟩
    · exact recvIFrameLoop_raises_unread left hread
    · rw [recvIFrameLoop_raises_read left hread]
      cases hd : HdlcFrame.decode raw with
      | error e =>
        -- a frame that is not accepted never counts as the loss of the link
        constructor
        · intro hloss
          dsimp only at hloss
          rcases HdlcFrame.decode_error hd with hbad | rfl
          · rw [LinkLoss, PyExc.isBadAnswer_not_linkLoss hbad] at hloss
            cases hloss
          · cases hloss
        · rintro ⟨frame, hframe, _⟩
          rw [hd] at hframe
          cases hframe
      | ok frame =>
        dsimp only
        rw [ih]
        constructor
        · intro h
          exact ⟨frame, hd, h⟩
        · rintro ⟨frame', hframe, h⟩
          rw [hd] at hframe
          cases hframe
          exact h

/-! ## One GET -/

/-- The decoder can read the value that the answer brings: where it looks, it meets neither text that
    is not ASCII nor an impossible date.  A refusal and malformed data are answers, too. -/
def AnswerReadable (frame : HdlcFrame) : Prop :=
  ∀ data, unwrapLlc frame.information = .ok data → BringsValue data → Readable data 4

theorem getAnswer_error {frame : HdlcFrame} {e : PyExc} (h : getAnswer frame = .error e) :
    e.isGatewayError = true ∨ e.isValueError = true := by
  unfold getAnswer at h
  rcases Result.bind_eq_error h with h | ⟨data, _, h⟩
  · exact .inl (PyExc.isBadAnswer_isGatewayError (unwrapLlc_error h))
  · exact parseGetResponse_error h

/-- An answer that can be read is one for which the two `except` clauses are enough. -/
theorem answerReadable_iff {frame : HdlcFrame} :
    AnswerReadable frame ↔ ∀ e, getAnswer frame = .error e → e.isAnswerFailure = true := by
  unfold AnswerReadable getAnswer
  cases hdata : unwrapLlc frame.information with
  | error e' =>
    constructor
    · rintro - e ⟨⟩
      have hgateway := PyExc.isBadAnswer_isGatewayError (unwrapLlc_error hdata)
      cases e' with
      | gateway => rfl
      | dlmsData | valueError | unicodeError | indexError | overflowError | typeError
      | unboundLocalError | assertionError | socket => cases hgateway
    · intro _ data hok
      cases hok
  | ok data =>
    rw [Result.ok_bind]
    refine Iff.trans ?_ (parseGetResponse_declared_iff data).symm
    constructor
    · intro h
      exact h data rfl
    · rintro h _ ⟨⟩
      exact h

/-- What the two `except` clauses around an answer let through. -/
theorem getAnswer_uncaught {frame : HdlcFrame} {e : PyExc} (h : getAnswer frame = .error e)
    (hfail : e.isAnswerFailure = false) : e = .unicodeError ∨ ∃ message, e = .valueError message := by
  have hkind := getAnswer_error h
  cases e with
  | gateway e => cases hfail
  | dlmsData message => cases hfail
  | unicodeError => exact .inl rfl
  | valueError message => exact .inr ⟨message, rfl⟩
  | indexError | overflowError | typeError | unboundLocalError | assertionError | socket e =>
    rcases hkind with hkind | hkind
    · cases hkind
    · cases hkind

section Answers

variable {P : PyExc → Prop} (hP : RegisterCaller P)

include hP

/-- What an answer makes the code raise is not for its caller. -/
theorem getAnswer_not_taken {frame : HdlcFrame} {e : PyExc} (h : getAnswer frame = .error e)
    (hfail : e.isAnswerFailure = false) : ¬ P e := by
  rcases getAnswer_uncaught h hfail with rfl | ⟨message, rfl⟩
  · exact hP.unicode
  · exact hP.value message

theorem scalerAnswer_raises {frame : HdlcFrame} {s : σ} :
    RaisesOnly P (lift (scalerAnswer frame)) s ↔ AnswerReadable frame := by
  rw [raisesOnly_lift, answerReadable_iff]
  unfold scalerAnswer
  cases hanswer : getAnswer frame with
  | ok value => exact ⟨fun _ e he => (nomatch he), fun _ e he => (nomatch he)⟩
  | error e' =>
    dsimp only
    cases hfail : e'.isAnswerFailure with
    | true =>
      rw [if_pos rfl]
      refine ⟨fun _ e he => ?_, fun _ e he => (nomatch he)⟩
      cases he
      exact hfail
    | false =>
      rw [if_neg Bool.false_ne_true]
      constructor
      · intro h
        exact absurd (h e' rfl) (getAnswer_not_taken hP hanswer hfail)
      · intro h
        have := h e' rfl
        rw [hfail] at this
        cases this

end Answers

theorem scalerAnswer_ok {frame : HdlcFrame} (h : AnswerReadable frame) :
    ∃ value, scalerAnswer frame = .ok value := by
  unfold scalerAnswer
  cases hanswer : getAnswer frame with
  | ok value => exact ⟨value, rfl⟩
  | error e => exact ⟨.null, if_pos (answerReadable_iff.mp h e hanswer)⟩

/-- A request for six OBIS bytes and a class id of two bytes is built. -/
theorem buildGetRequest_ok {obis : Bytes} {classId : Int} (hobis : obis.length = 6)
    (hclass : 0 ≤ classId ∧ classId < 65536) (invokeId attributeId : UInt8) :
    ∃ request, buildGetRequest obis invokeId attributeId classId = .ok request ∧
      request.length = 13 := by
  have hcls : toBytes 2 classId = .ok (Bytes.toBE 2 classId.toNat) := if_pos hclass
  refine ⟨[getRequestTag, getRequestNormal, invokeId] ++
    (Bytes.toBE 2 classId.toNat ++ obis ++ [attributeId]) ++ [0x00], ?_, ?_⟩
  · unfold buildGetRequest attributeDescriptor
    rw [if_neg (by omega), hcls]
    rfl
  · simp only [List.length_append, List.length_cons, List.length_nil, Bytes.toBE_length, hobis]

/-- Sending raises that the connection is lost, and nothing else. -/
theorem send_raises_lost (S : MeterSocket σ) (data : Bytes) (s : σ) :
    RaisesOnly (· = connectionLostOnSend) (send S data) s := by
  unfold send
  rw [raisesOnly_bind]
  refine ⟨raisesOnly_of_ok rfl, ?_⟩
  rintro (e | ⟨⟩) s' _
  · exact raisesOnly_raise.mpr rfl
  · exact raisesOnly_of_ok rfl

section Get

variable (S : MeterSocket σ) (server client : Int)

/-- After the GET, good frames come up to an answer that can be read, or the link is lost. -/
def GetIntact (sendSeq invokeId : Nat) (obis : Bytes) (attributeId : UInt8) (classId : Int)
    (s : σ) : Prop :=
  (∀ request s₁, buildGetRequest obis (UInt8.ofNat invokeId) attributeId classId = .ok request →
    sendIFrame S server client sendSeq sendSeq (wrapLlcCommand request) s = (.ok (), s₁) →
    FramesIntact S maxSupervisoryFramesSkipped s₁) ∧
  ∀ frame s₂, getAttribute S server client sendSeq invokeId obis attributeId classId s =
    (.ok frame, s₂) → AnswerReadable frame

variable {S server client} {sendSeq invokeId : Nat} {obis : Bytes} {attributeId : UInt8}
  {classId : Int}

section Caller

variable {P : PyExc → Prop} (hP : RegisterCaller P)

include hP

/-- The GET itself raises only what is taken iff the wait for its answer does. -/
theorem getAttribute_within (hs : 0 ≤ server ∧ server < 2 ^ 28) (hc : 0 ≤ client ∧ client < 2 ^ 28)
    (hobis : obis.length = 6) (hclass : 0 ≤ classId ∧ classId < 65536) (s : σ) :
    RaisesOnly P (getAttribute S server client sendSeq invokeId obis attributeId classId) s ↔
      ∀ request s₁, buildGetRequest obis (UInt8.ofNat invokeId) attributeId classId = .ok request →
        sendIFrame S server client sendSeq sendSeq (wrapLlcCommand request) s = (.ok (), s₁) →
        RaisesOnly P (recvIFrame S) s₁ := by
  obtain ⟨request, hbuild, hlen⟩ :=
    buildGetRequest_ok hobis hclass (UInt8.ofNat invokeId) attributeId
  obtain ⟨raw, hraw⟩ := iFrame_ok hs hc sendSeq sendSeq
    (show (wrapLlcCommand request).length ≤ 2000 by
      rw [wrapLlcCommand, List.length_append, hlen]
      decide)
  unfold getAttribute
  rw [raisesOnly_bind, hbuild]
  have hsend : RaisesOnly P
      (sendIFrame S server client sendSeq sendSeq (wrapLlcCommand request)) s := by
    unfold sendIFrame
    rw [hraw, raisesOnly_bind]
    refine ⟨raisesOnly_of_ok rfl, ?_⟩
    rintro _ _ ⟨⟩ e s' he
    exact send_raises_lost S raw s e s' he ▸ hP.connectionLost
  constructor
  · rintro ⟨_, h⟩ request' s₁ heq hrun
    cases heq
    exact (raisesOnly_bind.mp (h request s rfl)).2 () s₁ hrun
  · intro h
    refine ⟨raisesOnly_of_ok rfl, ?_⟩
    rintro _ _ ⟨⟩
    rw [raisesOnly_bind]
    refine ⟨hsend, ?_⟩
    rintro ⟨⟩ s₁ hrun
    exact h request s₁ rfl hrun

/-- A class id that does not fit its two bytes is an `OverflowError`. -/
theorem getAttribute_overflow (hobis : obis.length = 6) (hclass : ¬ (0 ≤ classId ∧ classId < 65536))
    (s : σ) :
    ¬ RaisesOnly P (getAttribute S server client sendSeq invokeId obis attributeId classId) s := by
  have hcls : toBytes 2 classId = .error .overflowError := if_neg hclass
  have hbuild : buildGetRequest obis (UInt8.ofNat invokeId) attributeId classId =
      .error .overflowError := by
    unfold buildGetRequest attributeDescriptor
    rw [if_neg (by omega), hcls]
    rfl
  intro h
  unfold getAttribute at h
  rw [raisesOnly_bind, hbuild, raisesOnly_lift] at h
  exact hP.overflow (h.1 _ rfl)

/-- The value GET raises only what is taken iff the GET does and its answer can be read. -/
theorem readValue_within {text : String} {scalerUnit : Value} {s : σ} :
    RaisesOnly P (readValue S server client sendSeq invokeId text obis classId scalerUnit) s ↔
      RaisesOnly P (getAttribute S server client sendSeq invokeId obis registerValueAttribute
        classId) s ∧
      ∀ frame s₂, getAttribute S server client sendSeq invokeId obis registerValueAttribute classId
        s = (.ok frame, s₂) → AnswerReadable frame := by
  unfold readValue getValue
  rw [raisesOnly_bind]
  refine and_congr_right fun _ => forall_congr' fun frame => forall_congr' fun s₂ =>
    imp_congr_right fun _ => ?_
  rw [answerReadable_iff]
  cases hanswer : getAnswer frame with
  | ok raw => exact ⟨fun _ e he => (nomatch he), fun _ => raisesOnly_of_ok rfl⟩
  | error e' =>
    dsimp only
    cases hfail : e'.isAnswerFailure with
    | true =>
      rw [if_pos rfl]
      refine ⟨fun _ e he => ?_, fun _ => raisesOnly_of_ok rfl⟩
      cases he
      exact hfail
    | false =>
      rw [if_neg Bool.false_ne_true, raisesOnly_raise]
      constructor
      · intro h
        exact absurd h (getAnswer_not_taken hP hanswer hfail)
      · intro h
        have := h e' rfl
        rw [hfail] at this
        cases this

/-- What a register has to be when its OBIS codes are well formed: the class id fits its two bytes,
    and the answers to its GETs are `intact`. -/
theorem readRegister_within (intact : (sendSeq invokeId : Nat) → Bytes → UInt8 → σ → Prop)
    (hintact : ∀ {sendSeq invokeId : Nat} {obis : Bytes} {attributeId : UInt8} {s : σ},
      obis.length = 6 → 0 ≤ classId ∧ classId < 65536 →
      ((RaisesOnly P (getAttribute S server client sendSeq invokeId obis attributeId classId) s ∧
        ∀ frame s₂, getAttribute S server client sendSeq invokeId obis attributeId classId s =
          (.ok frame, s₂) → AnswerReadable frame) ↔ intact sendSeq invokeId obis attributeId s))
    (sendSeq invokeId : Nat) (text : String) {parsedObis parsedValueObis : Bytes}
    (hobis : parsedObis.length = 6) (hvalue : parsedValueObis.length = 6) (s : σ) :
    RaisesOnly P (if classId = registerClassId then do
        let frame ← getScaler S server client sendSeq invokeId parsedObis classId
        let scalerUnit ← lift (scalerAnswer frame)
        readValue S server client (sendSeq + 1) (invokeId + 1) text parsedValueObis classId scalerUnit
      else readValue S server client sendSeq invokeId text parsedValueObis classId .null) s ↔
    (0 ≤ classId ∧ classId < 65536) ∧
    if classId = registerClassId then
      intact sendSeq invokeId parsedObis registerScalerUnitAttribute s ∧
      ∀ frame s', getScaler S server client sendSeq invokeId parsedObis classId s = (.ok frame, s') →
        intact (sendSeq + 1) (invokeId + 1) parsedValueObis registerValueAttribute s'
    else intact sendSeq invokeId parsedValueObis registerValueAttribute s := by
  by_cases hclass : 0 ≤ classId ∧ classId < 65536
  swap
  · refine ⟨fun h => ?_, fun h => absurd h.1 hclass⟩
    split at h
    · exact absurd (raisesOnly_bind.mp h).1 (getAttribute_overflow hP hobis hclass s)
    · exact absurd ((readValue_within hP).mp h).1 (getAttribute_overflow hP hvalue hclass s)
  rw [and_iff_right hclass]
  split
  · rw [raisesOnly_bind, ← hintact hobis hclass]
    -- the scaler is read out of the first answer whenever that can be read
    have hrest : ∀ frame s', RaisesOnly P (lift (scalerAnswer frame) >>= fun scalerUnit =>
        readValue S server client (sendSeq + 1) (invokeId + 1) text parsedValueObis classId
          scalerUnit) s' ↔
        AnswerReadable frame ∧
          intact (sendSeq + 1) (invokeId + 1) parsedValueObis registerValueAttribute s' := by
      intro frame s'
      rw [raisesOnly_bind, scalerAnswer_raises hP]
      refine and_congr_right fun hread => ?_
      obtain ⟨scalerUnit, hscaler⟩ := scalerAnswer_ok hread
      rw [hscaler, ← hintact hvalue hclass, ← readValue_within hP]
      constructor
      · intro h
        exact h scalerUnit s' rfl
      · rintro h _ _ ⟨⟩
        exact h
    constructor
    · rintro ⟨hget, h⟩
      exact ⟨⟨hget, fun frame s' hframe => ((hrest frame s').mp (h frame s' hframe)).1⟩,
        fun frame s' hframe => ((hrest frame s').mp (h frame s' hframe)).2⟩
    · rintro ⟨⟨hget, hread⟩, h⟩
      exact ⟨hget, fun frame s' hframe =>
        (hrest frame s').mpr ⟨hread frame s' hframe, h frame s' hframe⟩⟩
  · rw [← hintact hvalue hclass]
    exact readValue_within hP

end Caller

/-- A GET raises nothing but the loss of the link, and its answer can be read, iff it is intact. -/
theorem getIntact_iff (hs : 0 ≤ server ∧ server < 2 ^ 28) (hc : 0 ≤ client ∧ client < 2 ^ 28)
    (hobis : obis.length = 6) (hclass : 0 ≤ classId ∧ classId < 65536) {s : σ} :
    (RaisesOnly LinkLoss (getAttribute S server client sendSeq invokeId obis attributeId classId) s ∧
      ∀ frame s₂, getAttribute S server client sendSeq invokeId obis attributeId classId s =
        (.ok frame, s₂) → AnswerReadable frame) ↔
    GetIntact S server client sendSeq invokeId obis attributeId classId s := by
  rw [getAttribute_within LinkLoss.caller hs hc hobis hclass]
  unfold GetIntact recvIFrame
  simp only [recvIFrameLoop_raises]

/-! ## One register -/

variable (S server client)

/-- Both OBIS codes are well formed, the class id fits its two bytes, and so do the answers of the
    meter to the GETs of the register. -/
def RegisterIntact (sendSeq : Nat) (obis : String) (classId : Int) (invokeId : Nat) (s : σ) :
    Prop :=
  ∃ parsedObis parsedValueObis, parseObis obis = .ok parsedObis ∧
    parseObis (valueObis obis) = .ok parsedValueObis ∧ (0 ≤ classId ∧ classId < 65536) ∧
    if classId = registerClassId then
      GetIntact S server client sendSeq invokeId parsedObis registerScalerUnitAttribute classId s ∧
      ∀ frame s', getScaler S server client sendSeq invokeId parsedObis classId s =
        (.ok frame, s') →
        GetIntact S server client (sendSeq + 1) (invokeId + 1) parsedValueObis
          registerValueAttribute classId s'
    else
      GetIntact S server client sendSeq invokeId parsedValueObis registerValueAttribute classId s

variable {S server client}

/-- The OBIS code whose value is read is parsed after the OBIS code itself. -/
theorem parseValueObis_eq {text : String} {parsedObis : Bytes} (h : parseObis text = .ok parsedObis) :
    (if valueObis text ≠ text then parseObis (valueObis text) else .ok parsedObis) =
      parseObis (valueObis text) := by
  by_cases hsame : valueObis text = text
  · rw [if_neg (not_not.mpr hsame), hsame, h]
  · rw [if_pos hsame]

/-- An OBIS code that is not well formed is a plain `GatewayError`. -/
theorem parseObis_raises {text : String} {s : σ} :
    RaisesOnly LinkLoss (lift (parseObis text)) s ↔ ∃ obis, parseObis text = .ok obis := by
  rw [raisesOnly_lift]
  rcases parseObis_cases text with ⟨obis, hok, _⟩ | ⟨message, herr⟩
  · rw [hok]
    exact ⟨fun _ => ⟨obis, rfl⟩, fun _ e he => (nomatch he)⟩
  · rw [herr]
    exact ⟨fun h => (nomatch h _ rfl), fun ⟨_, h⟩ => (nomatch h)⟩

theorem parseObis_length {text : String} {obis : Bytes} (h : parseObis text = .ok obis) :
    obis.length = 6 := by
  rcases parseObis_cases text with ⟨obis', hok, hlen⟩ | ⟨message, herr⟩
  · rw [hok] at h
    cases h
    exact hlen
  · rw [herr] at h
    cases h

/-- **One register** raises nothing but the loss of the link iff it is intact. -/
theorem readOneRegister_raises (hs : 0 ≤ server ∧ server < 2 ^ 28)
    (hc : 0 ≤ client ∧ client < 2 ^ 28) {text : String} {s : σ} :
    RaisesOnly LinkLoss (readOneRegister S server client sendSeq text classId invokeId) s ↔
      RegisterIntact S server client sendSeq text classId invokeId s := by
  unfold readOneRegister RegisterIntact
  rw [raisesOnly_bind, parseObis_raises]
  have hregister : ∀ {parsedObis parsedValueObis : Bytes}, parseObis text = .ok parsedObis →
      parseObis (valueObis text) = .ok parsedValueObis → _ := fun {_ _} hobis hvalue =>
    readRegister_within LinkLoss.caller
      (fun sendSeq invokeId obis attributeId s =>
        GetIntact S server client sendSeq invokeId obis attributeId classId s)
      (fun hobis hclass => getIntact_iff hs hc hobis hclass) sendSeq invokeId text
      (parseObis_length hobis) (parseObis_length hvalue) s
  constructor
  · rintro ⟨⟨parsedObis, hobis⟩, h⟩
    have h := h parsedObis s (by rw [lift_run, hobis])
    rw [parseValueObis_eq hobis, raisesOnly_bind, parseObis_raises] at h
    obtain ⟨⟨parsedValueObis, hvalue⟩, h⟩ := h
    have h := h parsedValueObis s (by rw [lift_run, hvalue])
    exact ⟨parsedObis, parsedValueObis, hobis, hvalue, (hregister hobis hvalue).mp h⟩
  · rintro ⟨parsedObis, parsedValueObis, hobis, hvalue, h⟩
    refine ⟨⟨parsedObis, hobis⟩, fun a s' ha => ?_⟩
    rw [lift_run, hobis] at ha
    cases ha
    rw [parseValueObis_eq hobis, raisesOnly_bind, parseObis_raises]
    refine ⟨⟨parsedValueObis, hvalue⟩, fun a s' ha => ?_⟩
    rw [lift_run, hvalue] at ha
    cases ha
    exact (hregister hobis hvalue).mpr h

end Get

/-! ## The batch -/

section Batch

variable (S : MeterSocket σ) (server client : Int)

/-- Every register that the batch reaches is intact. -/
def BatchIntact : List (String × Int) → (sendSeq invokeId : Nat) → σ → Prop
  | [], _, _, _ => True
  | (obis, rawClassId) :: specs, sendSeq, invokeId, s =>
    RegisterIntact S server client sendSeq obis (effectiveClassId rawClassId) invokeId s ∧
    ∀ value next s', readOneRegister S server client sendSeq obis (effectiveClassId rawClassId)
      invokeId s = (.ok (value, next), s') →
      BatchIntact specs next (nextInvokeId (effectiveClassId rawClassId) invokeId) s'

/-- What the registers give, read one after the other on the same link up to the end of the list
    or to the register during which the link is lost. -/
inductive Collects : List (String × Int) → (sendSeq invokeId : Nat) → σ →
    List RegisterReadOutcome → σ → Prop
  | done {sendSeq invokeId s} : Collects [] sendSeq invokeId s [] s
  | lost {obis rawClassId specs sendSeq invokeId s e s'}
      (raised : readOneRegister S server client sendSeq obis (effectiveClassId rawClassId) invokeId s
        = (.error e, s'))
      (loss : LinkLoss e) : Collects ((obis, rawClassId) :: specs) sendSeq invokeId s [] s'
  | read {obis rawClassId specs sendSeq invokeId s value next s₁ outcomes s'}
      (returned : readOneRegister S server client sendSeq obis (effectiveClassId rawClassId) invokeId
        s = (.ok (value, next), s₁))
      (rest : Collects specs next (nextInvokeId (effectiveClassId rawClassId) invokeId) s₁
        outcomes s') :
      Collects ((obis, rawClassId) :: specs) sendSeq invokeId s (.of obis value :: outcomes) s'

/-- An outcome is a value or an error. -/
def RegisterReadOutcome.Definite (o : RegisterReadOutcome) : Prop :=
  if o.ok then o.value.isSome ∧ o.error = none else o.value = none ∧ o.error.isSome

variable {S server client}

/-- The outcomes stand at the positions of their registers, and each is a value or an error. -/
theorem Collects.aligned {specs : List (String × Int)} {sendSeq invokeId : Nat} {s s' : σ}
    {outcomes : List RegisterReadOutcome}
    (h : Collects S server client specs sendSeq invokeId s outcomes s') :
    outcomes.map RegisterReadOutcome.obis <+: specs.map Prod.fst ∧
      ∀ o ∈ outcomes, o.Definite := by
  induction h with
  | done => exact ⟨List.prefix_refl [], fun o ho => (nomatch ho)⟩
  | lost _ _ => exact ⟨List.nil_prefix, fun o ho => (nomatch ho)⟩
  | @read obis _ _ _ _ _ value _ _ _ _ _ _ ih =>
    obtain ⟨hpre, hdefinite⟩ := ih
    constructor
    · cases value with
      | ok v => exact List.cons_prefix_cons.mpr ⟨rfl, hpre⟩
      | error e => exact List.cons_prefix_cons.mpr ⟨rfl, hpre⟩
    · intro o ho
      rcases List.mem_cons.mp ho with rfl | ho
      · cases value with
        | ok v => exact ⟨rfl, rfl⟩
        | error e => exact ⟨rfl, rfl⟩
      · exact hdefinite o ho

/-- The loop returns iff every register it reaches is intact, and it returns what they gave. -/
theorem registerLoop_returns_iff (hs : 0 ≤ server ∧ server < 2 ^ 28)
    (hc : 0 ≤ client ∧ client < 2 ^ 28) : ∀ (specs : List (String × Int)) (sendSeq invokeId : Nat)
      (results : List RegisterReadOutcome) (s : σ),
    (∃ outcomes s', registerLoop S server client specs sendSeq invokeId results s =
        (.ok (results ++ outcomes), s') ∧
      Collects S server client specs sendSeq invokeId s outcomes s') ↔
    BatchIntact S server client specs sendSeq invokeId s := by
  intro specs
  induction specs with
  | nil =>
    intro sendSeq invokeId results s
    refine ⟨fun _ => trivial, fun _ => ⟨[], s, ?_, .done⟩⟩
    rw [List.append_nil]
    rfl
  | cons spec specs ih =>
    obtain ⟨obis, rawClassId⟩ := spec
    intro sendSeq invokeId results s
    rw [BatchIntact, ← readOneRegister_raises hs hc, registerLoop, attempt_bind_run]
    rcases hread : readOneRegister S server client sendSeq obis (effectiveClassId rawClassId)
      invokeId s with ⟨e | ⟨value, next⟩, s₁⟩
    · rw [raisesOnly_of_error hread]
      constructor
      · rintro ⟨outcomes, s', _, hcollects⟩
        refine ⟨?_, fun value next s' heq => (nomatch heq)⟩
        cases hcollects with
        | lost raised loss =>
          rw [hread] at raised
          cases raised
          exact loss
        | read returned _ =>
          rw [hread] at returned
          cases returned
      · rintro ⟨hloss, _⟩
        refine ⟨[], s₁, ?_, .lost hread hloss⟩
        rw [List.append_nil]
        have hbreak : (if e.isLinkLoss = true then pure results else raise e :
            Proc PyExc σ (List RegisterReadOutcome)) = pure results := if_pos hloss
        exact congrFun hbreak s₁
    · constructor
      · rintro ⟨outcomes, s', hrun, hcollects⟩
        refine ⟨raisesOnly_of_ok hread, ?_⟩
        rintro _ _ _ ⟨⟩
        cases hcollects with
        | lost raised loss =>
          rw [hread] at raised
          cases raised
        | read returned rest =>
          rw [hread] at returned
          cases returned
          refine (ih _ _ (results ++ [.of obis value]) s₁).mp ⟨_, s', ?_, rest⟩
          rw [List.append_assoc]
          exact hrun
      · rintro ⟨_, hrest⟩
        obtain ⟨outcomes, s', hrun, hcollects⟩ :=
          (ih _ _ (results ++ [.of obis value]) s₁).mpr (hrest value next s₁ rfl)
        refine ⟨.of obis value :: outcomes, s', ?_, .read hread hcollects⟩
        rw [List.append_assoc] at hrun
        exact hrun

end Batch

/-- **Partial results.**  Once the association is accepted, the batch returns outcomes at the
    positions of their registers, each a value or an error, with everything that was collected up to
    the loss of the link, iff every register it reaches is intact. -/
theorem readRegisters_partialResults {S : MeterSocket σ} {physicalAddress : String}
    {password userInformation : Bytes} {options : AarqOptions} {server : Int} {s₀ s : σ}
    (hserver : serverHdlcAddress physicalAddress 1 = .ok server)
    (haccepted : associate S server defaultClientAddress password userInformation options s₀ =
      (.ok (), s))
    (obisSpecs : List (String × Int)) :
    (∃ outcomes s', readRegistersViaEstablishedLink S physicalAddress password userInformation
        options obisSpecs s₀ = (.ok outcomes, s') ∧
      Collects S server defaultClientAddress obisSpecs 1 1 s outcomes s' ∧
      outcomes.map RegisterReadOutcome.obis <+: obisSpecs.map Prod.fst ∧
      ∀ o ∈ outcomes, o.Definite) ↔
    BatchIntact S server defaultClientAddress obisSpecs 1 1 s := by
  have hs : 0 ≤ server ∧ server < 2 ^ 28 := serverHdlcAddress_bounds hserver
  have hc : 0 ≤ defaultClientAddress ∧ defaultClientAddress < 2 ^ 28 := by decide
  have hrun : readRegistersViaEstablishedLink S physicalAddress password userInformation options
      obisSpecs s₀ = registerLoop S server defaultClientAddress obisSpecs 1 1 [] s := by
    unfold readRegistersViaEstablishedLink
    rw [hserver, lift_ok_bind_run, bind_ok haccepted]
  rw [hrun, ← registerLoop_returns_iff hs hc obisSpecs 1 1 []]
  constructor
  · rintro ⟨outcomes, s', hret, hcollects, _⟩
    exact ⟨outcomes, s', hret, hcollects⟩
  · rintro ⟨outcomes, s', hret, hcollects⟩
    exact ⟨outcomes, s', hret, hcollects, hcollects.aligned⟩

/-- A frame whose last checksum is off. -/
def damagedFrame : Bytes :=
  [0x7E, 0xA0, 0x15, 0x61, 0, 2, 0, 3, 0x10, 0x0E, 0x3B, 0xE6, 0xE7, 0, 0xC4, 1, 2, 0, 0x11, 43,
   0, 0, 0x7E]

/-- Two Data objects; the first answers 42, the second with a damaged frame. -/
def brokenSecondAnswer : Wire :=
  arrived [meterFrame aareAccepted, meterFrame [0xC4, 1, 1, 0, 0x11, 42], damagedFrame]

def twoDataObjects : List (String × Int) := [("0.0.60.1.0.ff", 1), ("0.0.60.1.1.ff", 1)]

theorem associate_brokenSecondAnswer :
    associate scheduled 0x4001 defaultClientAddress [0x31] userInformationInitiate {}
        brokenSecondAnswer =
      (.ok (), (associate scheduled 0x4001 defaultClientAddress [0x31] userInformationInitiate {}
        brokenSecondAnswer).2) :=
  run_eq (by decide +kernel)

/-- The theorem on the traffic with two data objects, where both results are returned. -/
theorem readRegisters_partialResults_twoDataObjects :
    (∃ outcomes s', readRegistersViaEstablishedLink scheduled "1" [0x31] userInformationInitiate {}
        twoDataObjects brokenSecondAnswer = (.ok outcomes, s') ∧
      Collects scheduled 0x4001 defaultClientAddress twoDataObjects 1 1
        (associate scheduled 0x4001 defaultClientAddress [0x31] userInformationInitiate {}
          brokenSecondAnswer).2 outcomes s' ∧
      outcomes.map RegisterReadOutcome.obis <+: twoDataObjects.map Prod.fst ∧
      ∀ o ∈ outcomes, o.Definite) ↔
    BatchIntact scheduled 0x4001 defaultClientAddress twoDataObjects 1 1
      (associate scheduled 0x4001 defaultClientAddress [0x31] userInformationInitiate {}
        brokenSecondAnswer).2 :=
  readRegisters_partialResults (by decide) associate_brokenSecondAnswer twoDataObjects

/-- The association is accepted and the first register is read, then the exception that the second
    answer raises drops it. -/
theorem readRegisters_dropped :
    (associate scheduled 0x4001 defaultClientAddress [0x31] userInformationInitiate {}
      brokenSecondAnswer).1 = .ok () ∧
    (readOneRegister scheduled 0x4001 defaultClientAddress 1 "0.0.60.1.0.ff" 1 1
      (associate scheduled 0x4001 defaultClientAddress [0x31] userInformationInitiate {}
        brokenSecondAnswer).2).1 = .ok (.ok (.plain (.int 42)), 2) ∧
    (readRegistersViaEstablishedLink scheduled "1" [0x31] userInformationInitiate {} twoDataObjects
      brokenSecondAnswer).1 =
        .error (.crc [.text "Контрольная сумма кадра HDLC (FCS) не сошлась"] damagedFrame) := by
  decide +kernel

end RiseSun.Gateway
