/-
  Watching a socket while the client runs on it.

  The client's programs run on an arbitrary `MeterSocket`, so they also run on one that keeps a
  record: `watching M` does what `M` does, and adds the state that each operation leaves and the
  messages handed to `sendall`.

  1. **Nothing changes** (`readRegisters_mirrors`) — the client behaves on `watching M` as on `M`:
     the record has no influence on a run.  This is `Proc.Mirrors`, one lemma per function.

  2. **Invariants** (`registerLoop_keeps`, …) — a condition that the operations of a socket keep is
     kept by every function that only receives and sends.  On `watching M` the condition may speak
     of all the states passed through (`watching_keeps`), so it holds during the run as well.
-/
import RiseSun.Gateway.HdlcDlms

namespace RiseSun.Gateway

open Proc

variable {σ τ α : Type}

/-! ## The record -/

/-- A state with the states that were passed through on the way to it and the messages sent. -/
structure Watched (σ : Type) where
  state : σ
  passed : List σ := []
  sent : List Bytes := []
  deriving DecidableEq

namespace Watched

/-- The state after an operation goes on record. -/
def moveTo (w : Watched σ) (s : σ) : Watched σ := { w with state := s, passed := w.passed ++ [s] }

/-- Moving to a state leaves that state as the current one. -/
@[simp] theorem moveTo_state (w : Watched σ) (s : σ) : (w.moveTo s).state = s := rfl

/-- Moving to a state puts it at the end of the states passed through. -/
@[simp] theorem moveTo_passed (w : Watched σ) (s : σ) :
    (w.moveTo s).passed = w.passed ++ [s] := rfl

/-- Moving to a state leaves the record of the messages sent as it was. -/
@[simp] theorem moveTo_sent (w : Watched σ) (s : σ) : (w.moveTo s).sent = w.sent := rfl

/-- An operation of the socket inside. -/
def step (x : Proc SocketError σ α) : Proc SocketError (Watched σ) α := fun w =>
  ((x w.state).1, w.moveTo (x w.state).2)

/-- Sending, with the message on record. -/
def sendStep (M : MeterSocket σ) (data : Bytes) : Proc SocketError (Watched σ) Unit := fun w =>
  ((M.sendall data w.state).1,
    { w.moveTo (M.sendall data w.state).2 with sent := w.sent ++ [data] })

end Watched

open Watched in
/-- The socket `M`, with a record of what is done on it. -/
def watching (M : MeterSocket σ) : MeterSocket (Watched σ) where
  recv n := step (M.recv n)
  sendall := sendStep M
  settimeout t w := w.moveTo (M.settimeout t w.state)
  time w := M.time w.state
  pending w := M.pending w.state
  resetSeeking := M.resetSeeking.map fun reset w => w.moveTo (reset w.state)
  deadline := M.deadline.map fun ops =>
    { get := fun w => ops.get w.state, set := fun d w => w.moveTo (ops.set d w.state) }
  recv_le := fun hn h => M.recv_le hn (run_eq (congrArg Prod.fst h))
  recv_pending := fun n w => M.recv_pending n w.state
  sendall_pending := fun data w => M.sendall_pending data w.state
  settimeout_pending := fun t w => M.settimeout_pending t w.state
  resetSeeking_pending := by
    intro reset h w
    obtain ⟨inside, hinside, rfl⟩ := Option.map_eq_some_iff.mp h
    exact M.resetSeeking_pending inside hinside w.state
  deadline_pending := by
    intro ops h d w
    obtain ⟨inside, hinside, rfl⟩ := Option.map_eq_some_iff.mp h
    exact M.deadline_pending inside hinside d w.state

/-- An attempt's start, part by part: DISC, heartbeat, AARQ, deadline. -/
theorem startAttempt_parts (M : MeterSocket σ) (server client : Int) (information : Bytes)
    (options : AarqOptions) (original : Option ℚ) (retry : Bool) :
    startAttempt M server client information options original retry =
      ((if retry ∧ options.sendDiscBeforeRetry then
          lift (HdlcFrame.encode ⟨server, client, controlDisc, []⟩) >>= send M
        else pure ()) >>= fun _ =>
      (if options.sendHeartbeatProbe then send M [0, 0, 0] else pure ()) >>= fun _ =>
      sendIFrame M server client 0 0 information >>= fun _ =>
      gets M.time >>= fun now =>
      setDeadline M (some (narrowedDeadline now options.perAttemptTimeout original))) := by
  funext s
  unfold startAttempt
  by_cases hdisc : retry = true ∧ options.sendDiscBeforeRetry = true
  · rw [if_pos hdisc, if_pos hdisc, bind_assoc_run]
    cases options.sendHeartbeatProbe with
    | false => rfl
    | true => rfl
  · rw [if_neg hdisc, if_neg hdisc, pure_bind_run]
    cases options.sendHeartbeatProbe with
    | false => rfl
    | true => rfl

/-! ## Sockets that do the same on a part of the state -/

/-- On the part `φ` of its state every operation of `N` does what that of `M` does. -/
structure MeterSocket.Mirrors (φ : τ → σ) (N : MeterSocket τ) (M : MeterSocket σ) : Prop where
  recv : ∀ n, Proc.Mirrors φ (N.recv n) (M.recv n)
  sendall : ∀ data, Proc.Mirrors φ (N.sendall data) (M.sendall data)
  time : ∀ t, N.time t = M.time (φ t)
  reset : Proc.Mirrors φ (resetFrameSeeking N) (resetFrameSeeking M)
  getDeadline : Proc.Mirrors φ (getDeadline N) (getDeadline M)
  setDeadline : ∀ d, Proc.Mirrors φ (setDeadline N d) (setDeadline M d)

/-- On the part of its state that is the socket inside, the watched socket does what that socket
    does. -/
theorem watching_mirrors (M : MeterSocket σ) :
    MeterSocket.Mirrors Watched.state (watching M) M where
  recv n w := rfl
  sendall data w := rfl
  time w := rfl
  reset := by
    unfold resetFrameSeeking watching
    dsimp only
    cases M.resetSeeking with
    | none => exact Mirrors.pure ()
    | some reset => exact Mirrors.modify fun w => rfl
  getDeadline := by
    unfold getDeadline watching
    dsimp only
    cases M.deadline with
    | none => exact Mirrors.pure none
    | some ops => exact Mirrors.gets fun w => rfl
  setDeadline d := by
    unfold setDeadline watching
    dsimp only
    cases M.deadline with
    | none => exact Mirrors.pure ()
    | some ops => exact Mirrors.modify fun w => rfl

section Mirrors

variable {φ : τ → σ} {N : MeterSocket τ} {M : MeterSocket σ}

/-- `send` behaves on the mirroring socket as on the socket it mirrors. -/
theorem send_mirrors (h : MeterSocket.Mirrors φ N M) (data : Bytes) :
    Mirrors φ (send N data) (send M data) := by
  refine Mirrors.bind (Mirrors.attempt (h.sendall data)) fun r => ?_
  cases r with
  | ok _ => exact Mirrors.pure ()
  | error _ => exact Mirrors.raise _

/-- `recv_exact` behaves on the mirroring socket as on the socket it mirrors. -/
theorem recvExact_mirrors (h : MeterSocket.Mirrors φ N M) (n : Nat) :
    Mirrors φ (recvExact N n) (recvExact M n) :=
  Stream.exactlyLoop_mirrors h.recv n n []

/-- The two sockets give the same bytes of a frame, or fail with the same exception on the way. -/
theorem readFrame_mirrors (h : MeterSocket.Mirrors φ N M) :
    Mirrors φ (readFrameFromTransport N) (readFrameFromTransport M) := by
  refine Mirrors.bind h.reset fun _ => ?_
  refine Mirrors.bind (recvExact_mirrors h 1) fun first => ?_
  split
  · exact Mirrors.raise _
  · refine Mirrors.bind (recvExact_mirrors h 2) fun frameFormat => ?_
    dsimp only
    split
    · exact Mirrors.raise _
    · refine Mirrors.bind (recvExact_mirrors h _) fun rest => ?_
      split
      · exact Mirrors.raise _
      · exact Mirrors.pure _

/-- Waiting for an I-frame skips the same supervisory frames on both sockets: induction on how many
    may still be skipped. -/
theorem recvIFrameLoop_mirrors (h : MeterSocket.Mirrors φ N M) : ∀ left : Nat,
    Mirrors φ (recvIFrameLoop N left) (recvIFrameLoop M left) := by
  intro left
  induction left with
  | zero => exact Mirrors.raise _
  | succ left ih =>
    refine Mirrors.bind (readFrame_mirrors h) fun raw => ?_
    refine Mirrors.bind (Mirrors.lift _) fun frame => ?_
    split
    · exact Mirrors.pure _
    · exact ih

/-- An I-frame is built without the socket and then sent, so that both sockets send the same bytes.
    -/
theorem sendIFrame_mirrors (h : MeterSocket.Mirrors φ N M) (server client : Int)
    (sendSeq recvSeq : Nat) (information : Bytes) :
    Mirrors φ (sendIFrame N server client sendSeq recvSeq information)
      (sendIFrame M server client sendSeq recvSeq information) :=
  Mirrors.bind (Mirrors.lift _) fun raw => send_mirrors h raw

/-- An attempt to associate starts with the same DISC, heartbeat and AARQ on both sockets, and
    narrows the deadline by the same clock. -/
theorem startAttempt_mirrors (h : MeterSocket.Mirrors φ N M) (server client : Int)
    (information : Bytes) (options : AarqOptions) (original : Option ℚ) (retry : Bool) :
    Mirrors φ (startAttempt N server client information options original retry)
      (startAttempt M server client information options original retry) := by
  rw [startAttempt_parts, startAttempt_parts]
  refine Mirrors.bind ?_ fun _ => Mirrors.bind ?_ fun _ => ?_
  · split
    · exact Mirrors.bind (Mirrors.lift _) fun raw => send_mirrors h raw
    · exact Mirrors.pure _
  · split
    · exact send_mirrors h _
    · exact Mirrors.pure _
  · refine Mirrors.bind (sendIFrame_mirrors h _ _ _ _ _) fun _ => ?_
    exact Mirrors.bind (Mirrors.gets h.time) fun now => h.setDeadline _

/-- The attempts to associate end alike on both sockets: induction on how many attempts are left. -/
theorem aarqAttempts_mirrors (h : MeterSocket.Mirrors φ N M) (server client : Int)
    (information : Bytes) (options : AarqOptions) (original : Option ℚ) :
    ∀ (left : Nat) (retry : Bool) (lastError : PyExc),
      Mirrors φ (aarqAttempts N server client information options original left retry lastError)
        (aarqAttempts M server client information options original left retry lastError) := by
  intro left
  induction left with
  | zero =>
    intro retry lastError
    exact Mirrors.raise _
  | succ left ih =>
    intro retry lastError
    refine Mirrors.bind (startAttempt_mirrors h _ _ _ _ _ _) fun _ => ?_
    refine Mirrors.bind (Mirrors.attempt (recvIFrameLoop_mirrors h _)) fun r => ?_
    cases r with
    | ok frame => exact Mirrors.pure _
    | error e =>
      dsimp only
      split
      · refine Mirrors.bind (Mirrors.gets h.time) fun now => ?_
        split
        · exact Mirrors.raise _
        · exact ih true e
      · exact Mirrors.raise _

/-- Sending the AARQ and waiting for the AARE behaves on the mirroring socket as on the socket it
    mirrors. -/
theorem sendAarq_mirrors (h : MeterSocket.Mirrors φ N M) (server client : Int)
    (information : Bytes) (options : AarqOptions) :
    Mirrors φ (sendAarqAndAwaitAare N server client information options)
      (sendAarqAndAwaitAare M server client information options) := by
  refine Mirrors.bind h.getDeadline fun original => ?_
  refine Mirrors.bind (Mirrors.attempt (aarqAttempts_mirrors h _ _ _ _ _ _ _ _)) fun result => ?_
  exact Mirrors.bind (h.setDeadline original) fun _ => Mirrors.lift _

/-- The association, from the SNRM to the AARE, behaves on the mirroring socket as on the socket it
    mirrors. -/
theorem associate_mirrors (h : MeterSocket.Mirrors φ N M) (server client : Int)
    (password userInformation : Bytes) (options : AarqOptions) :
    Mirrors φ (associate N server client password userInformation options)
      (associate M server client password userInformation options) := by
  refine Mirrors.bind (Mirrors.lift _) fun aarq => ?_
  exact Mirrors.bind (sendAarq_mirrors h _ _ _ _) fun frame => Mirrors.lift _

/-- Reading one attribute behaves on the mirroring socket as on the socket it mirrors. -/
theorem getAttribute_mirrors (h : MeterSocket.Mirrors φ N M) (server client : Int)
    (sendSeq invokeId : Nat) (parsedObis : Bytes) (attributeId : UInt8) (classId : Int) :
    Mirrors φ (getAttribute N server client sendSeq invokeId parsedObis attributeId classId)
      (getAttribute M server client sendSeq invokeId parsedObis attributeId classId) := by
  refine Mirrors.bind (Mirrors.lift _) fun request => ?_
  exact Mirrors.bind (sendIFrame_mirrors h _ _ _ _ _) fun _ => recvIFrameLoop_mirrors h _

/-- Reading the value of a register whose scaler is known behaves alike on both sockets. -/
theorem readValue_mirrors (h : MeterSocket.Mirrors φ N M) (server client : Int)
    (sendSeq invokeId : Nat) (obis : String) (parsedValueObis : Bytes) (classId : Int)
    (scalerUnit : Value) :
    Mirrors φ (readValue N server client sendSeq invokeId obis parsedValueObis classId scalerUnit)
      (readValue M server client sendSeq invokeId obis parsedValueObis classId scalerUnit) := by
  refine Mirrors.bind (getAttribute_mirrors h _ _ _ _ _ _ _) fun frame => ?_
  split
  · exact Mirrors.pure _
  · split
    · exact Mirrors.pure _
    · exact Mirrors.raise _

/-- Reading one register, its scaler and its value, behaves alike on both sockets. -/
theorem readOneRegister_mirrors (h : MeterSocket.Mirrors φ N M) (server client : Int)
    (sendSeq : Nat) (obis : String) (classId : Int) (invokeId : Nat) :
    Mirrors φ (readOneRegister N server client sendSeq obis classId invokeId)
      (readOneRegister M server client sendSeq obis classId invokeId) := by
  refine Mirrors.bind (Mirrors.lift _) fun parsedObis => ?_
  refine Mirrors.bind (Mirrors.lift _) fun parsedValueObis => ?_
  split
  · refine Mirrors.bind (getAttribute_mirrors h _ _ _ _ _ _ _) fun frame => ?_
    exact Mirrors.bind (Mirrors.lift _) fun _ => readValue_mirrors h _ _ _ _ _ _ _ _
  · exact readValue_mirrors h _ _ _ _ _ _ _ _

/-- The loop over the registers collects the same outcomes on both sockets: induction on the
    registers that are left. -/
theorem registerLoop_mirrors (h : MeterSocket.Mirrors φ N M) (server client : Int)
    (specs : List (String × Int)) : ∀ (sendSeq invokeId : Nat) (results : List RegisterReadOutcome),
    Mirrors φ (registerLoop N server client specs sendSeq invokeId results)
      (registerLoop M server client specs sendSeq invokeId results) := by
  induction specs with
  | nil =>
    intro sendSeq invokeId results
    exact Mirrors.pure _
  | cons spec specs ih =>
    intro sendSeq invokeId results
    refine Mirrors.bind (Mirrors.attempt (readOneRegister_mirrors h _ _ _ _ _ _)) fun r => ?_
    match r with
    | .ok (value, sendSeq) => exact ih _ _ _
    | .error e =>
      dsimp only
      split
      · exact Mirrors.pure _
      · exact Mirrors.raise _

/-- Reading a batch on a socket that does the same on a part of its state is the same reading. -/
theorem readRegisters_mirrors (h : MeterSocket.Mirrors φ N M) (physicalAddress : String)
    (password userInformation : Bytes) (options : AarqOptions) (obisSpecs : List (String × Int)) :
    Mirrors φ
      (readRegistersViaEstablishedLink N physicalAddress password userInformation options obisSpecs)
      (readRegistersViaEstablishedLink M physicalAddress password userInformation options
        obisSpecs) := by
  refine Mirrors.bind (Mirrors.lift _) fun server => ?_
  exact Mirrors.bind (associate_mirrors h _ _ _ _ _) fun _ => registerLoop_mirrors h _ _ _ _ _ _

end Mirrors

/-! ## Conditions that the operations keep -/

/-- Receiving on `M` keeps the condition. -/
structure MeterSocket.Receives (M : MeterSocket σ) (I : σ → Prop) : Prop where
  recv : ∀ n, Proc.Keeps I (M.recv n)
  reset : Proc.Keeps I (resetFrameSeeking M)

/-- Receiving and sending on `M` keep the condition. -/
structure MeterSocket.Keeps (M : MeterSocket σ) (I : σ → Prop) : Prop extends
    MeterSocket.Receives M I where
  sendall : ∀ data, Proc.Keeps I (M.sendall data)

/-- What receiving and sending keep holds of every state passed through. -/
theorem watching_keeps {M : MeterSocket σ} {I J : σ → Prop} (h : M.Keeps J)
    (hIJ : ∀ s, J s → I s) :
    (watching M).Keeps (fun w => J w.state ∧ ∀ s ∈ w.passed, I s) := by
  -- Every state the transport moves to is noted, and keeps the invariant.
  have hmove : ∀ (w : Watched σ) (s : σ), J s → (∀ s ∈ w.passed, I s) →
      J (w.moveTo s).state ∧ ∀ s' ∈ (w.moveTo s).passed, I s' := by
    intro w s hs hpassed
    refine ⟨hs, fun s' hs' => ?_⟩
    rcases List.mem_append.mp hs' with hs' | hs'
    · exact hpassed s' hs'
    · rw [List.mem_singleton.mp hs']
      exact hIJ s hs
  refine ⟨⟨fun n w hw => hmove w _ (h.recv n _ hw.1) hw.2, ?_⟩,
    fun data w hw => hmove w _ (h.sendall data _ hw.1) hw.2⟩
  have hreset := h.reset
  unfold resetFrameSeeking at hreset ⊢
  unfold watching
  dsimp only
  generalize M.resetSeeking = resetSeeking at hreset ⊢
  cases resetSeeking with
  | none => exact Proc.Keeps.pure ()
  | some reset => exact Proc.Keeps.modify fun w hw => hmove w _ (hreset w.state hw.1) hw.2

/-- Receiving leaves the messages sent as they are. -/
theorem watching_receives (M : MeterSocket σ) (sent : List Bytes) :
    (watching M).Receives (fun w => w.sent = sent) := by
  refine ⟨fun n w hw => hw, ?_⟩
  unfold resetFrameSeeking watching
  dsimp only
  cases M.resetSeeking with
  | none => exact Proc.Keeps.pure ()
  | some reset => exact Proc.Keeps.modify fun w hw => hw

section Receives

variable {M : MeterSocket σ} {I : σ → Prop}

/-- Receiving a frame keeps what every receipt from the socket keeps. -/
theorem readFrame_keeps (h : M.Receives I) : Proc.Keeps I (readFrameFromTransport M) := by
  have hexact : ∀ n, Proc.Keeps I (recvExact M n) := fun n =>
    Stream.exactlyLoop_keeps h.recv n n []
  refine Proc.Keeps.bind h.reset fun _ => Proc.Keeps.bind (hexact 1) fun first => ?_
  split
  · exact Proc.Keeps.raise _
  · refine Proc.Keeps.bind (hexact 2) fun frameFormat => ?_
    dsimp only
    split
    · exact Proc.Keeps.raise _
    · refine Proc.Keeps.bind (hexact _) fun rest => ?_
      split
      · exact Proc.Keeps.raise _
      · exact Proc.Keeps.pure _

/-- Waiting for an I-frame keeps what every receipt keeps: induction on how many frames may still be
    skipped. -/
theorem recvIFrameLoop_keeps (h : M.Receives I) : ∀ left : Nat,
    Proc.Keeps I (recvIFrameLoop M left) := by
  intro left
  induction left with
  | zero => exact Proc.Keeps.raise _
  | succ left ih =>
    refine Proc.Keeps.bind (readFrame_keeps h) fun raw => ?_
    refine Proc.Keeps.bind (Proc.Keeps.lift _) fun frame => ?_
    split
    · exact Proc.Keeps.pure _
    · exact ih

end Receives

section Keeps

variable {M : MeterSocket σ} {I : σ → Prop} (h : M.Keeps I)
include h

/-- `send` keeps every condition that receiving and sending keep. -/
theorem send_keeps (data : Bytes) : Proc.Keeps I (send M data) := by
  refine Proc.Keeps.bind (Proc.Keeps.attempt (h.sendall data)) fun r => ?_
  cases r with
  | ok _ => exact Proc.Keeps.pure ()
  | error _ => exact Proc.Keeps.raise _

/-- Sending an I-frame keeps what receiving and sending keep. -/
theorem sendIFrame_keeps (server client : Int) (sendSeq recvSeq : Nat) (information : Bytes) :
    Proc.Keeps I (sendIFrame M server client sendSeq recvSeq information) :=
  Proc.Keeps.bind (Proc.Keeps.lift _) fun raw => send_keeps h raw

/-- Reading one attribute keeps what receiving and sending keep, whether or not it succeeds. -/
theorem getAttribute_keeps (server client : Int) (sendSeq invokeId : Nat) (parsedObis : Bytes)
    (attributeId : UInt8) (classId : Int) :
    Proc.Keeps I (getAttribute M server client sendSeq invokeId parsedObis attributeId classId) := by
  refine Proc.Keeps.bind (Proc.Keeps.lift _) fun request => ?_
  exact Proc.Keeps.bind (sendIFrame_keeps h _ _ _ _ _) fun _ =>
    recvIFrameLoop_keeps h.toReceives _

/-- Reading the value of a register keeps what receiving and sending keep. -/
theorem readValue_keeps (server client : Int) (sendSeq invokeId : Nat) (obis : String)
    (parsedValueObis : Bytes) (classId : Int) (scalerUnit : Value) :
    Proc.Keeps I
      (readValue M server client sendSeq invokeId obis parsedValueObis classId scalerUnit) := by
  refine Proc.Keeps.bind (getAttribute_keeps h _ _ _ _ _ _ _) fun frame => ?_
  split
  · exact Proc.Keeps.pure _
  · split
    · exact Proc.Keeps.pure _
    · exact Proc.Keeps.raise _

/-- Reading one register keeps what receiving and sending keep, in its outcomes and in its failures.
    -/
theorem readOneRegister_keeps (server client : Int) (sendSeq : Nat) (obis : String)
    (classId : Int) (invokeId : Nat) :
    Proc.Keeps I (readOneRegister M server client sendSeq obis classId invokeId) := by
  refine Proc.Keeps.bind (Proc.Keeps.lift _) fun parsedObis => ?_
  refine Proc.Keeps.bind (Proc.Keeps.lift _) fun parsedValueObis => ?_
  split
  · refine Proc.Keeps.bind (getAttribute_keeps h _ _ _ _ _ _ _) fun frame => ?_
    exact Proc.Keeps.bind (Proc.Keeps.lift _) fun _ => readValue_keeps h _ _ _ _ _ _ _ _
  · exact readValue_keeps h _ _ _ _ _ _ _ _

/-- The loop over the registers only sends and receives, and keeps what both keep. -/
theorem registerLoop_keeps (server client : Int) (specs : List (String × Int)) :
    ∀ (sendSeq invokeId : Nat) (results : List RegisterReadOutcome),
      Proc.Keeps I (registerLoop M server client specs sendSeq invokeId results) := by
  induction specs with
  | nil =>
    intro sendSeq invokeId results
    exact Proc.Keeps.pure _
  | cons spec specs ih =>
    intro sendSeq invokeId results
    refine Proc.Keeps.bind (Proc.Keeps.attempt (readOneRegister_keeps h _ _ _ _ _ _)) fun r => ?_
    match r with
    | .ok (value, sendSeq) => exact ih _ _ _
    | .error e =>
      dsimp only
      split
      · exact Proc.Keeps.pure _
      · exact Proc.Keeps.raise _

end Keeps

end RiseSun.Gateway
