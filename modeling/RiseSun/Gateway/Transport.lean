/-
  The transport (`transport.py`) and the frame reader over it (`protocols/hdlc.py`).

  A `MeterSocket` is a stream socket with the two optional abilities the code looks up by name
  (`getattr(sock, "reset_seeking", None)`, `get_deadline`/`set_deadline`): a plain TCP socket has
  neither, the call-home filter has both.  `recvExact` is the library loop `Stream.exactly` with the
  transport's errors; `readFrameFromTransport` trusts the length in the frame format.
-/
import RiseSun.Lib.Stream
import RiseSun.Gateway.Hdlc

namespace RiseSun.Gateway

open Proc

/-- The absolute deadline some sockets carry. -/
structure DeadlineOps (σ : Type) where
  get : σ → Option ℚ
  set : Option ℚ → σ → σ

/-- A socket to a meter, with the abilities the code looks up by name. -/
structure MeterSocket (σ : Type) extends Socket σ where
  resetSeeking : Option (σ → σ) := none
  deadline : Option (DeadlineOps σ) := none
  resetSeeking_pending : ∀ reset ∈ resetSeeking, ∀ s, pending (reset s) ≤ pending s
  deadline_pending : ∀ ops ∈ deadline, ∀ d s, pending (ops.set d s) ≤ pending s

/-- A plain socket has none of them. -/
def MeterSocket.plain {σ : Type} (S : Socket σ) : MeterSocket σ where
  toSocket := S
  resetSeeking_pending := by
    intro reset h
    cases h
  deadline_pending := by
    intro ops h
    cases h

variable {σ : Type}

/-! ## `TcpTransport` -/

def connectionLostOnSend : PyExc :=
  .gateway { cls := .connectionLostError, message := [.text "Обрыв при отправке данных: "] }

/-- `send`: any `OSError` means that the connection is lost. -/
def send (S : MeterSocket σ) (data : Bytes) : Proc PyExc σ Unit := do
  match ← attempt (S.sendall data) with
  | .ok () => pure ()
  | .error _ => raise connectionLostOnSend

/-- What the socket takes is sent, and `send` adds nothing to it. -/
theorem send_ok {S : MeterSocket σ} {data : Bytes} {s s' : σ}
    (h : S.sendall data s = (.ok (), s')) : send S data s = (.ok (), s') := by
  unfold send
  rw [attempt_bind_run, h]
  rfl

/-- What `recv_exact` raises after `buf`: closed by the peer, timed out, or an `OSError` as it is. -/
def recvExactFailed (buf : Bytes) : Option SocketError → PyExc
  | none => .gateway {
      cls := .connectionLostError
      message := [.text "Соединение закрыто счётчиком при частичном чтении кадра"]
      isPartial := decide (0 < buf.length), rawFrame := some buf }
  | some .timeout => .gateway {
      cls := .meterTimeoutError
      message := [.text "Таймаут при чтении кадра"]
      isPartial := decide (0 < buf.length), rawFrame := some buf }
  | some e => .socket e

def recvExact (S : MeterSocket σ) (n : Nat) : Proc PyExc σ Bytes :=
  Stream.exactly S.recv recvExactFailed n

/-- `reset_frame_seeking`: nothing for a socket that does not filter. -/
def resetFrameSeeking (S : MeterSocket σ) : Proc PyExc σ Unit :=
  match S.resetSeeking with
  | some reset => modify reset
  | none => pure ()

/-- Every failure of `recvExact` means that the link is gone. -/
theorem recvExactFailed_isLinkLoss (buf : Bytes) (cause : Option SocketError) :
    (recvExactFailed buf cause).isLinkLoss = true := by
  cases cause with
  | none => rfl
  | some e => cases e <;> rfl

/-! ## `read_frame_from_transport` -/

def readFrameFromTransport (S : MeterSocket σ) : Proc PyExc σ Bytes := do
  resetFrameSeeking S
  let first ← recvExact S 1
  if first ≠ [flag] then
    raise (.plain [.text "Ожидался открывающий флаг HDLC 0x", .hexByte flag.toNat,
      .text ", получено: ", .hex first])
  else do
    let frameFormat ← recvExact S 2
    let declaredLen := Bytes.fromBE frameFormat &&& 0x07FF
    if declaredLen < 2 then
      raise (.crc [.text "Некорректная длина в поле Frame Format HDLC-кадра"]
        (first ++ frameFormat))
    else do
      -- two bytes of the declared length are read already, the closing flag is not counted in it
      let rest ← recvExact S (declaredLen - 2 + 1)
      if rest.getLast? ≠ some flag then
        raise (.crc [.text "Не найден закрывающий флаг HDLC на ожидаемой по длине позиции"]
          (first ++ frameFormat ++ rest))
      else pure (first ++ frameFormat ++ rest)

theorem resetFrameSeeking_spends (S : MeterSocket σ) :
    Spends S.pending (fun _ => 0) (resetFrameSeeking S) := by
  unfold resetFrameSeeking
  cases h : S.resetSeeking with
  | none => exact Spends.pure S.pending rfl
  | some reset => exact Spends.modify (S.resetSeeking_pending reset (by rw [h]; rfl))

theorem send_spends (S : MeterSocket σ) (data : Bytes) :
    Spends S.pending (fun _ => 0) (send S data) := by
  unfold send
  refine Spends.bind (Spends.attempt (S.sendall_pending data)) ?_
  intro r
  cases r with
  | ok _ => exact Spends.pure S.pending rfl
  | error _ => exact Spends.raise S.pending _ _

/-- A frame that is returned has cost at least one byte. -/
theorem readFrameFromTransport_spends (S : MeterSocket σ) :
    Spends S.pending (fun _ => 1) (readFrameFromTransport S) := by
  have hexact := Stream.exactly_spends recvExactFailed S.recv_pending
  unfold readFrameFromTransport
  refine Spends.bind (resetFrameSeeking_spends S) fun _ => ?_
  refine Spends.bind (hexact 1) fun first => ?_
  by_cases hfirst : first ≠ [flag]
  · rw [if_pos hfirst]
    exact Spends.raise S.pending _ _
  · rw [if_neg hfirst]
    rw [not_not] at hfirst
    refine Spends.bind (hexact 2) fun frameFormat => ?_
    dsimp only
    split
    · exact Spends.raise S.pending _ _
    · refine Spends.bind (hexact _) fun rest => ?_
      split
      · exact Spends.raise S.pending _ _
      · refine Spends.pure S.pending ?_
        rw [hfirst, List.length_singleton]
        omega

/-- The three reads of the frame reader put an encoded frame together again. -/
theorem readFrame_parts (S : MeterSocket σ) {frame : HdlcFrame} {raw : Bytes}
    (hraw : frame.encode = .ok raw) (hlen : raw.length ≤ 2047 + 2) :
    ∃ format rest, raw = flag :: (format ++ rest) ∧ format.length = 2 ∧
      ∀ {s s₀ s₁ s₂ s₃ : σ}, resetFrameSeeking S s = (.ok (), s₀) →
        recvExact S 1 s₀ = (.ok [flag], s₁) → recvExact S format.length s₁ = (.ok format, s₂) →
        recvExact S rest.length s₂ = (.ok rest, s₃) →
        readFrameFromTransport S s = (.ok raw, s₃) := by
  obtain ⟨mid, hshape⟩ := encode_shape hraw
  have hformat : (frameFormatField (raw.length - 2)).length = 2 := Bytes.toBE_length 2 _
  have hrawLen : raw.length = mid.length + 4 := by
    have hl := congrArg List.length hshape
    simp only [List.length_cons, List.length_append, hformat, List.length_nil] at hl
    omega
  have hdecl : Bytes.fromBE (frameFormatField (raw.length - 2)) &&& 0x07FF = raw.length - 2 :=
    declaredLen_frameFormatField (by omega)
  have hrest : (mid ++ [flag]).length = raw.length - 2 - 2 + 1 := by
    rw [List.length_append, List.length_singleton]
    omega
  refine ⟨frameFormatField (raw.length - 2), mid ++ [flag], hshape, hformat, ?_⟩
  intro s s₀ s₁ s₂ s₃ hreset hfirst hsecond hthird
  rw [hformat] at hsecond
  rw [hrest] at hthird
  rw [readFrameFromTransport, bind_ok hreset, bind_ok hfirst, if_neg (by simp), bind_ok hsecond]
  simp only [hdecl]
  rw [if_neg (by omega), bind_ok hthird, if_neg (by simp)]
  conv_rhs => rw [hshape]
  rfl

/-- `count` successive calls. -/
def readFrames (S : MeterSocket σ) : Nat → Proc PyExc σ (List Bytes)
  | 0 => pure []
  | count + 1 => do
    let frame ← readFrameFromTransport S
    let frames ← readFrames S count
    pure (frame :: frames)

end RiseSun.Gateway
