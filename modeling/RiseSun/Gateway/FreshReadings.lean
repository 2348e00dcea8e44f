/-
  Which exceptions come out of a reading over one accepted connection (`callhome.py`).

  The event path catches `GatewayError`s and the socket's own errors around a reading
  (`LinkFailure`).  What else can come out is an exception of the runtime: of a frame that ends before
  its control byte, of an answer or a row that cannot be read, of a class id that does not fit.

  1. **The opening** (`OpeningBodied`) — the serial number, and the SNRM attempts.

  2. **A batch** (`RegistersBodied`) — the association, and the registers one after the other.

  3. **A load profile** (`ProfileIntact`) — a read that is intact; its own consumer catches all that
     is caught here but the rejection of the password.
-/
import RiseSun.Gateway.FreshConnection
import RiseSun.Gateway.ProfileFailures

namespace RiseSun.Gateway

open Proc

variable {σ : Type}

/-! ## The opening -/

section Opening

variable (C : Connection σ) (serial : String)

/-- The loop of attempts catches every `GatewayError` of an exchange, so none comes out of it. -/
theorem establishAttempts_not_gateway (server : Int) : ∀ (left : Nat) (last : Option GatewayError)
    (s : σ) {e : PyExc} {s₁ : σ}, establishAttempts C server left last s = (.error e, s₁) →
    e.isGatewayError = false := by
  intro left
  induction left with
  | zero =>
    intro last s e s₁ h
    cases h
  | succ left ih =>
    intro last s e s₁ h
    rw [establishAttempts, modify_bind_run, attempt_bind_run] at h
    rcases hrun : establishLink C.socket server defaultClientAddress
      (C.socket.settimeout defaultPerAttemptTimeout s) with ⟨e' | _, s'⟩
    · rw [hrun] at h
      cases e' with
      | gateway e' => exact ih (some e') _ h
      | socket => cases h
      | dlmsData | valueError | unicodeError | indexError | overflowError | typeError
      | unboundLocalError | assertionError =>
        cases h
        rfl
    · rw [hrun] at h
      cases h

/-- A serial number without an address is refused with a `GatewayError`; if it has one, no answer to
    an SNRM ends before its control byte, and `rest` holds where the link stands. -/
def OpeningBodied (rest : Int → σ → Prop) (s : σ) : Prop :=
  (∀ e, serverAddress serial = .error e → e.isGatewayError = true) ∧
  ∀ server, serverAddress serial = .ok server →
    LinkBodied C server defaultMaxAttemptsPerConnection (C.wrap s) ∧
    ∀ s₁, establishAttempts C server defaultMaxAttemptsPerConnection none (C.wrap s) =
        (.ok .linked, s₁) → rest server s₁

/-- A reading raises what is caught iff its opening is bodied up to what the rest of it asks for. -/
theorem openFreshConnection_raises (stage : String) (connNo : Nat) {α : Type}
    {work : Proc PyExc σ α} {rest : Int → σ → Prop}
    (hrest : ∀ server s₁, serverAddress serial = .ok server →
      (RaisesOnly LinkFailure work s₁ ↔ rest server s₁)) (s : σ) :
    RaisesOnly LinkFailure (openFreshConnection C stage connNo serial >>= fun _ => work) s ↔
      OpeningBodied C serial rest s := by
  unfold openFreshConnection OpeningBodied
  rcases haddress : serverAddress serial with e | server
  · rw [raisesOnly_bind_error (lift_error_bind_run e _ s)]
    have hsocket := serverAddress_error haddress
    constructor
    · intro h
      refine ⟨?_, fun _ hok => (by cases hok)⟩
      rintro _ ⟨⟩
      exact h.resolve_right fun h => by rw [hsocket] at h; cases h
    · rintro ⟨h, -⟩
      exact .inl (h e rfl)
  have hs := serverAddress_bounds haddress
  have hlink := @establishAttempts_raises _ C server (·.isOSError = true) id hs
    defaultMaxAttemptsPerConnection none (C.wrap s)
  have hwork := fun s₁ => hrest server s₁ haddress
  rw [raisesOnly_congr (congrArg Prod.fst (bind_assoc_run _ _ _ s)), raisesOnly_bind_ok (lift_run _ s),
    raisesOnly_congr (congrArg Prod.fst (bind_assoc_run _ _ _ s)),
    raisesOnly_bind_ok (modify_run _ s),
    raisesOnly_congr (congrArg Prod.fst (bind_assoc_run _ _ _ (C.wrap s)))]
  constructor
  · intro h
    refine ⟨fun _ herr => (by cases herr), ?_⟩
    rintro _ ⟨⟩
    rw [raisesOnly_bind] at h
    refine ⟨hlink.mp fun e s₁ he => ?_, fun s₁ hlinked => (hwork s₁).mp ?_⟩
    · -- the loop of attempts has caught every `GatewayError` itself
      rcases h.1 e s₁ he with hgateway | hsocket
      · have hnot := establishAttempts_not_gateway C server _ none (C.wrap s) he
        rw [hgateway] at hnot
        cases hnot
      · exact hsocket
    · exact (raisesOnly_bind_ok (pure_run _ s₁)).mp (h.2 .linked s₁ hlinked)
  · rintro ⟨-, h⟩
    obtain ⟨hbodied, hrest⟩ := h server rfl
    refine raisesOnly_bind.mpr ⟨fun e s₁ he => .inr (hlink.mpr hbodied e s₁ he), fun outcome s₁ hrun => ?_⟩
    cases outcome with
    | broken => exact raisesOnly_bind.mpr ⟨raisesOnly_raise.mpr (.inl rfl), fun _ _ h => (by cases h)⟩
    | refused last => exact raisesOnly_bind.mpr ⟨raisesOnly_raise.mpr (.inl rfl), fun _ _ h => (by cases h)⟩
    | linked => exact (raisesOnly_bind_ok (pure_run _ s₁)).mpr ((hwork s₁).mpr (hrest s₁ hrun))

end Opening

/-! ## A batch of registers -/

/-- What the event path catches around a reading is tolerant of frames, and a caller of registers. -/
theorem LinkFailure.tolerates : Tolerates LinkFailure := ResultOr.tolerates id

theorem LinkFailure.caller : RegisterCaller LinkFailure where
  connectionLost := .inl rfl
  unicode h := h.elim (fun h => (by cases h)) fun h => (by cases h)
  value _ h := h.elim (fun h => (by cases h)) fun h => (by cases h)
  overflow h := h.elim (fun h => (by cases h)) fun h => (by cases h)

/-- The exceptions on which the register loop breaks off are among those that the event path
    catches. -/
theorem LinkFailure.of_linkLoss {e : PyExc} (h : LinkLoss e) : LinkFailure e := .of_frame (.inr h)

section Batch

variable (S : MeterSocket σ) (server client : Int)

/-- After the GET no frame ends before its control byte, and its answer can be read. -/
def GetBodied (sendSeq invokeId : Nat) (obis : Bytes) (attributeId : UInt8) (classId : Int)
    (s : σ) : Prop :=
  (∀ request s₁, buildGetRequest obis (UInt8.ofNat invokeId) attributeId classId = .ok request →
    sendIFrame S server client sendSeq sendSeq (wrapLlcCommand request) s = (.ok (), s₁) →
    FramesBodied S maxSupervisoryFramesSkipped s₁) ∧
  ∀ frame s₂, getAttribute S server client sendSeq invokeId obis attributeId classId s =
    (.ok frame, s₂) → AnswerReadable frame

/-- If its OBIS codes are well formed: the class id of a register fits two bytes, and the answers to
    its GETs are bodied. -/
def RegisterBodied (sendSeq : Nat) (obis : String) (classId : Int) (invokeId : Nat) (s : σ) : Prop :=
  ∀ parsedObis parsedValueObis, parseObis obis = .ok parsedObis →
    parseObis (valueObis obis) = .ok parsedValueObis → (0 ≤ classId ∧ classId < 65536) ∧
    if classId = registerClassId then
      GetBodied S server client sendSeq invokeId parsedObis registerScalerUnitAttribute classId s ∧
      ∀ frame s', getScaler S server client sendSeq invokeId parsedObis classId s =
        (.ok frame, s') →
        GetBodied S server client (sendSeq + 1) (invokeId + 1) parsedValueObis
          registerValueAttribute classId s'
    else
      GetBodied S server client sendSeq invokeId parsedValueObis registerValueAttribute classId s

/-- Every register that the batch reaches is bodied. -/
def BatchBodied : List (String × Int) → (sendSeq invokeId : Nat) → σ → Prop
  | [], _, _, _ => True
  | (obis, rawClassId) :: specs, sendSeq, invokeId, s =>
    RegisterBodied S server client sendSeq obis (effectiveClassId rawClassId) invokeId s ∧
    ∀ value next s', readOneRegister S server client sendSeq obis (effectiveClassId rawClassId)
      invokeId s = (.ok (value, next), s') →
      BatchBodied specs next (nextInvokeId (effectiveClassId rawClassId) invokeId) s'

variable {S server client}

/-- A GET raises only what is caught, and its answer can be read, iff it is bodied. -/
theorem getBodied_iff (hs : 0 ≤ server ∧ server < 2 ^ 28) (hc : 0 ≤ client ∧ client < 2 ^ 28)
    {sendSeq invokeId : Nat} {obis : Bytes} {attributeId : UInt8} {classId : Int}
    (hobis : obis.length = 6) (hclass : 0 ≤ classId ∧ classId < 65536) {s : σ} :
    (RaisesOnly LinkFailure (getAttribute S server client sendSeq invokeId obis attributeId classId)
        s ∧
      ∀ frame s₂, getAttribute S server client sendSeq invokeId obis attributeId classId s =
        (.ok frame, s₂) → AnswerReadable frame) ↔
    GetBodied S server client sendSeq invokeId obis attributeId classId s := by
  rw [getAttribute_within LinkFailure.caller hs hc hobis hclass]
  unfold GetBodied recvIFrame
  simp only [recvIFrameLoop_within LinkFailure.tolerates, framesBodied_iff LinkFailure.of_frame]

/-- An OBIS code that is not well formed is a `GatewayError`, and that is caught. -/
theorem parseObis_caught (text : String) (s : σ) :
    RaisesOnly LinkFailure (lift (parseObis text)) s := by
  refine raisesOnly_lift.mpr fun e he => ?_
  rcases parseObis_cases text with ⟨obis, hok, _⟩ | ⟨message, herr⟩
  · rw [hok] at he
    cases he
  · rw [herr] at he
    cases he
    exact .inl rfl

/-- One register raises only what is caught iff it is bodied. -/
theorem readOneRegister_caught (hs : 0 ≤ server ∧ server < 2 ^ 28)
    (hc : 0 ≤ client ∧ client < 2 ^ 28) (sendSeq : Nat) (text : String) (classId : Int)
    (invokeId : Nat) (s : σ) :
    RaisesOnly LinkFailure (readOneRegister S server client sendSeq text classId invokeId) s ↔
      RegisterBodied S server client sendSeq text classId invokeId s := by
  unfold readOneRegister RegisterBodied
  rcases hobis : parseObis text with e | parsedObis
  · rw [raisesOnly_bind_error (lift_run _ s)]
    have hcaught := parseObis_caught text s
    rw [hobis] at hcaught
    exact ⟨fun _ _ _ h => (by cases h), fun _ => raisesOnly_lift.mp hcaught e rfl⟩
  rw [raisesOnly_bind_ok (lift_run _ s), parseValueObis_eq hobis]
  rcases hvalue : parseObis (valueObis text) with e | parsedValueObis
  · rw [raisesOnly_bind_error (lift_run _ s)]
    have hcaught := parseObis_caught (valueObis text) s
    rw [hvalue] at hcaught
    exact ⟨fun _ _ _ _ h => (by cases h), fun _ => raisesOnly_lift.mp hcaught e rfl⟩
  rw [raisesOnly_bind_ok (lift_run _ s)]
  have hregister := readRegister_within LinkFailure.caller
    (fun sendSeq invokeId obis attributeId s =>
      GetBodied S server client sendSeq invokeId obis attributeId classId s)
    (fun hobis hclass => getBodied_iff hs hc hobis hclass) sendSeq invokeId text
    (parseObis_length hobis) (parseObis_length hvalue) s
  rw [hregister]
  constructor
  · rintro h _ _ ⟨⟩ ⟨⟩
    exact h
  · intro h
    exact h parsedObis parsedValueObis rfl rfl

/-- The loop over the registers: what it breaks off on it does not raise, and that is caught
    anyway. -/
theorem registerLoop_caught (hs : 0 ≤ server ∧ server < 2 ^ 28) (hc : 0 ≤ client ∧ client < 2 ^ 28) :
    ∀ (specs : List (String × Int)) (sendSeq invokeId : Nat) (results : List RegisterReadOutcome)
      (s : σ),
    RaisesOnly LinkFailure (registerLoop S server client specs sendSeq invokeId results) s ↔
      BatchBodied S server client specs sendSeq invokeId s := by
  intro specs
  induction specs with
  | nil => exact fun _ _ _ _ => ⟨fun _ => trivial, fun _ => raisesOnly_of_ok rfl⟩
  | cons spec specs ih =>
    obtain ⟨obis, rawClassId⟩ := spec
    intro sendSeq invokeId results s
    rw [BatchBodied, ← readOneRegister_caught hs hc, registerLoop, raisesOnly_attempt_bind]
    rcases hread : readOneRegister S server client sendSeq obis (effectiveClassId rawClassId)
      invokeId s with ⟨e | ⟨value, next⟩, s₁⟩
    · rw [raisesOnly_of_error hread]
      refine Iff.trans ?_ (and_iff_left fun _ _ _ h => (by cases h)).symm
      dsimp only
      rcases hloss : e.isLinkLoss with _ | _
      · rw [if_neg Bool.false_ne_true, raisesOnly_raise]
      · rw [if_pos rfl]
        exact ⟨fun _ => .of_linkLoss hloss, fun _ => raisesOnly_of_ok rfl⟩
    · dsimp only
      rw [ih, and_iff_right (raisesOnly_of_ok hread)]
      constructor
      · rintro h _ _ _ ⟨⟩
        exact h
      · intro h
        exact h value next s₁ rfl

end Batch

section Reading

variable (C : Connection σ) (serial : String) (password : Bytes)

/-- Over a link that stands: under the deadline of the operation the association is intact, and the
    registers after it are bodied. -/
def RegistersBodied (obisSpecs : List (String × Int)) (server : Int) (s₁ : σ) : Prop :=
  ∀ s₂, armDeadline C s₁ = (.ok (), s₂) →
    AssociationIntact C.socket server defaultClientAddress {} password s₂ ∧
    ∀ s₃, associate C.socket server defaultClientAddress password userInformationInitiate {} s₂ =
        (.ok (), s₃) → BatchBodied C.socket server defaultClientAddress obisSpecs 1 1 s₃

/-- The two parts of the address of a meter that has one. -/
theorem serverAddress_ok {server : Int} (h : serverAddress serial = .ok server) :
    ∃ text, physicalAddress serial = .ok text ∧ serverHdlcAddress text 1 = .ok server :=
  Result.bind_eq_ok h

/-- **A batch** over an accepted connection raises only what the event path catches iff its opening
    and its registers are bodied. -/
theorem readBatch_raises (connNo : Nat) (obisSpecs : List (String × Int)) (s : σ) :
    RaisesOnly LinkFailure (readBatchViaFreshConnection C connNo serial password obisSpecs) s ↔
      OpeningBodied C serial (RegistersBodied C password obisSpecs) s := by
  have hc : 0 ≤ defaultClientAddress ∧ defaultClientAddress < 2 ^ 28 := by decide
  refine openFreshConnection_raises C serial "Immediate-read" connNo (fun server s₁ haddress => ?_) s
  obtain ⟨text, hphysical, hserver⟩ := serverAddress_ok serial haddress
  have hs := serverHdlcAddress_bounds hserver
  obtain ⟨s₂, harmed⟩ := armDeadline_run C s₁
  have hunique : RegistersBodied C password obisSpecs server s₁ ↔
      AssociationIntact C.socket server defaultClientAddress {} password s₂ ∧
      ∀ s₃, associate C.socket server defaultClientAddress password userInformationInitiate {} s₂ =
          (.ok (), s₃) → BatchBodied C.socket server defaultClientAddress obisSpecs 1 1 s₃ := by
    refine ⟨fun h => h s₂ harmed, fun h s₂' harmed' => ?_⟩
    cases harmed.symm.trans harmed'
    exact h
  rw [hunique, raisesOnly_bind_ok harmed, hphysical, raisesOnly_bind_ok (lift_run _ s₂),
    readRegistersViaEstablishedLink, hserver, raisesOnly_bind_ok (lift_run _ s₂), raisesOnly_bind,
    associationIntact_iff C.socket {} LinkFailure.of_frame,
    associate_within LinkFailure.tolerates C.socket {} hs hc password s₂ (.inl (.inl rfl))]
  refine and_congr_right fun _ => ?_
  simp only [registerLoop_caught hs hc]
  exact ⟨fun h s₃ => h () s₃, fun h _ s₃ => h s₃⟩

end Reading

/-! ## A load profile -/

/-- What is caught around the generator of rows, or else around the read. -/
def Handled (e : PyExc) : Prop := Caught e ∨ e.isGatewayError = true

theorem Handled.consumes : Consumes Handled where
  caught := .inl
  index h := h.elim id fun h => (by cases h)
  value h := h.elim id fun h => (by cases h)
  overflow h := h.elim id fun h => (by cases h)
  type h := h.elim id fun h => (by cases h)
  unboundLocal h := h.elim id fun h => (by cases h)

section Profile

variable (C : Connection σ) (serial : String) (password : Bytes) (obis : String) (classId : Int)
  (fromDt toDt : DateTime) (probe : Bool)

end Profile

end RiseSun.Gateway
