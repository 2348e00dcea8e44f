/-
  The client and the emulator on one connection: what one exchange of frames does to both.

  1. **Frames on a line** — a frame on its way is read whole; a frame that is sent is one step of the
     emulator (`sendFrame_talk`).  `exchange` is both: request out, I-frame in.

  2. **Opening** — SNRM/UA and AARQ/AARE.  The association is accepted iff the emulator accepts the
     password, and a refusal leaves the session closed.
-/
import RiseSun.Gateway.Dialogue
import RiseSun.Gateway.Emulator

namespace RiseSun.Gateway

open Proc Server

/-! ## Frames on a line -/

section Line

variable {π : Type} (V : Server π)

/-- A frame on its way is read whole, and what is behind it stays. -/
theorem readFrame_talk {p : π} {l : Line π} {raw later : Bytes} {frame : HdlcFrame}
    (h : SentFrame raw frame) (hl : Talk p l (raw ++ later)) :
    ∃ l', readFrameFromTransport (.plain V.socket) l = (.ok raw, l') ∧ Talk p l' later := by
  obtain ⟨format, rest, hraw, hformat, hparts⟩ :=
    readFrame_parts (.plain V.socket) h.encoded h.short
  have hfeeds := V.recv_feeds p
  have hstart : Talk p l ([flag] ++ (format ++ (rest ++ later))) := by
    rw [hraw] at hl
    rwa [List.cons_append, List.append_assoc] at hl
  obtain ⟨l₁, hfirst, hl₁⟩ := Stream.exactly_feeds recvExactFailed hfeeds hstart
  obtain ⟨l₂, hsecond, hl₂⟩ := Stream.exactly_feeds recvExactFailed hfeeds hl₁
  obtain ⟨l₃, hthird, hl₃⟩ := Stream.exactly_feeds recvExactFailed hfeeds hl₂
  exact ⟨l₃, hparts rfl hfirst hsecond hthird, hl₃⟩

/-- An I-frame on its way is received. -/
theorem recvIFrame_talk {p : π} {l : Line π} {raw later : Bytes} {frame : HdlcFrame}
    (h : SentFrame raw frame) (hcontrol : frame.control &&& 0x01 = 0)
    (hl : Talk p l (raw ++ later)) :
    ∃ l', recvIFrame (.plain V.socket) l = (.ok frame, l') ∧ Talk p l' later := by
  obtain ⟨l', hread, hl'⟩ := readFrame_talk V h hl
  refine ⟨l', ?_, hl'⟩
  show recvIFrameLoop _ (19 + 1) l = _
  rw [recvIFrameLoop, bind_ok hread, h.decode, lift_ok_bind_run, if_pos hcontrol]
  rfl

end Line

/-- A frame is cut from the stream as it was sent. -/
theorem cutFrame_sent {raw : Bytes} {frame : HdlcFrame} (h : SentFrame raw frame) :
    cutFrame raw = some (raw, []) := by
  obtain ⟨mid, hshape⟩ := encode_shape h.encoded
  have hformat : (frameFormatField (raw.length - 2)).length = 2 := Bytes.toBE_length 2 _
  have hlen : raw.length = mid.length + 4 := by
    have hl := congrArg List.length hshape
    simp only [List.length_cons, List.length_append, hformat, List.length_nil] at hl
    omega
  have hslice : Bytes.slice raw 1 3 = frameFormatField (raw.length - 2) := by
    have hmid := Bytes.slice_mid [flag] (frameFormatField (raw.length - 2)) (mid ++ [flag])
    rw [hformat] at hmid
    conv_lhs => rw [hshape]
    exact hmid
  have hdeclared : Bytes.fromBE (Bytes.slice raw 1 3) &&& 0x07FF = raw.length - 2 := by
    rw [hslice]
    exact declaredLen_frameFormatField (by have := h.short; omega)
  unfold cutFrame
  simp only [hdeclared]
  rw [if_neg (by omega), List.take_of_length_le (by omega), List.drop_of_length_le (by omega)]

theorem SentFrame.head {raw : Bytes} {frame : HdlcFrame} (h : SentFrame raw frame) :
    raw.head? = some flag := by
  obtain ⟨mid, hshape⟩ := encode_shape h.encoded
  rw [hshape]
  rfl

section Emulated

variable (E : Emulator) {attempt : Nat}

/-- A frame that reaches the waiting emulator is one step of it. -/
theorem sendFrame_talk {s : Session} {l : Line Session} {raw inbox : Bytes} {frame : HdlcFrame}
    (hopen : s.stage ≠ .closed) (h : SentFrame raw frame) (hl : Talk s l inbox) :
    ∃ l', send E.meterSocket raw l = (.ok (), l') ∧
      Talk (E.serveFrame s raw).1 l' (inbox ++ (E.serveFrame s raw).2) := by
  have hne : raw ≠ [] := fun hnil => by
    have hhead := h.head
    rw [hnil] at hhead
    cases hhead
  have hstep : E.server.step s raw =
      some ((E.serveFrame s raw).1, [], (E.serveFrame s raw).2) := by
    show E.serverStep s raw = _
    rw [Emulator.serverStep, if_neg hopen, if_neg hne, if_neg (not_not_intro h.head),
      cutFrame_sent h]
    rfl
  obtain ⟨l', hsend, hl'⟩ :=
    E.server.sendall_step (decide_eq_false hopen) hstep hl
  exact ⟨l', send_ok hsend, hl'⟩

/-- The handler returned: that is what the session does. -/
theorem serveFrame_ok {raw out : Bytes} {stage stage' : SessionStage} {objects objects' : MeterObjects}
    (h : E.onFrame attempt stage raw objects = (.ok (stage', out), objects')) :
    E.serveFrame ⟨stage, objects, attempt⟩ raw = (⟨stage', objects', attempt⟩, out) := by
  rw [Emulator.serveFrame, h]

/-- A request in an I-frame and the I-frame that answers it. -/
structure Exchanged (s : Session) (raw : Bytes) (s' : Session) (payload : Bytes) : Prop where
  answered : ∃ out frame, E.serveFrame s raw = (s', out) ∧ SentFrame out frame ∧
    frame.control &&& 0x01 = 0 ∧ unwrapLlc frame.information = .ok payload

/-- **One exchange.**  What the client receives is what the emulator makes of the request. -/
theorem exchange {server client : Int} {sendSeq recvSeq : Nat} {information raw payload : Bytes}
    {s s' : Session} {l : Line Session} {request : HdlcFrame} (hopen : s.stage ≠ .closed)
    (hraw : iFrame server client sendSeq recvSeq information = .ok raw)
    (hrequest : SentFrame raw request) (h : Exchanged E s raw s' payload)
    (hl : Talk s l []) :
    ∃ l₁ l' frame, sendIFrame E.meterSocket server client sendSeq recvSeq information l =
        (.ok (), l₁) ∧
      recvIFrame E.meterSocket l₁ = (.ok frame, l') ∧
      unwrapLlc frame.information = .ok payload ∧ Talk s' l' [] := by
  obtain ⟨out, frame, hserve, hout, hcontrol, hpayload⟩ := h.answered
  obtain ⟨l₁, hsend, hl₁⟩ := sendFrame_talk E hopen hrequest hl
  rw [hserve] at hl₁
  have hl₁ : Talk s' l₁ (out ++ []) := by
    rw [List.append_nil]
    exact hl₁
  obtain ⟨l', hrecv, hl'⟩ := recvIFrame_talk E.server hout hcontrol hl₁
  refine ⟨l₁, l', frame, ?_, hrecv, hpayload, hl'⟩
  unfold sendIFrame
  rw [hraw, lift_ok_bind_run]
  exact hsend

/-! ## Opening -/

variable {server client : Int}

/-- The client's frames with little information can be sent, whatever their control byte. -/
theorem clientFrame_sent (hs : 0 ≤ server ∧ server < 2 ^ 28) (hc : 0 ≤ client ∧ client < 2 ^ 28)
    (control : UInt8) (information : Bytes) (hlen : information.length ≤ 2000) :
    ∃ raw, SentFrame raw ⟨server, client, control, information⟩ := by
  obtain ⟨raw, hraw⟩ := encode_short (f := ⟨server, client, control, information⟩) ⟨hs, hc⟩
    (Nat.le_trans hlen (by decide))
  exact ⟨raw, .of_short hraw (Nat.le_trans hlen (by decide))⟩

/-- The emulator's answers with a short APDU can be sent. -/
theorem answerFrame_sent (req : HdlcFrame) (haddr : req.Addressed) (sendSeq recvSeq : Nat)
    {info : Bytes} (hlen : info.length ≤ 2000) :
    ∃ raw, answerFrame req sendSeq recvSeq info = .ok raw ∧
      SentFrame raw ⟨req.source, req.destination, controlInformationFrame sendSeq recvSeq,
        wrapLlcResponse info⟩ := by
  have hinformation : (wrapLlcResponse info).length = 3 + info.length := List.length_append
  obtain ⟨raw, hraw⟩ := encode_short
    (f := ⟨req.source, req.destination, controlInformationFrame sendSeq recvSeq,
      wrapLlcResponse info⟩) ⟨haddr.2, haddr.1⟩
    (Nat.le_trans (Nat.le_of_eq hinformation) (by omega))
  exact ⟨raw, hraw, .of_short hraw (Nat.le_trans (Nat.le_of_eq hinformation) (by omega))⟩

/-- The link is established on a fresh connection: the SNRM is sent, and the UA received. -/
theorem establishLink_talk (hs : 0 ≤ server ∧ server < 2 ^ 28) (hc : 0 ≤ client ∧ client < 2 ^ 28)
    {objects : MeterObjects} {l : Line Session}
    (hl : Talk ⟨.snrm, objects, attempt⟩ l []) :
    ∃ l', establishLink E.meterSocket server client l = (.ok (), l') ∧
      Talk ⟨.aarq, objects, attempt⟩ l' [] := by
  obtain ⟨raw, hraw⟩ := clientFrame_sent hs hc controlSnrm snrmParameterNegotiation
    (show snrmParameterNegotiation.length ≤ 2000 by decide)
  obtain ⟨ua, hua⟩ := clientFrame_sent hc hs controlUa [] (Nat.zero_le _)
  have hhandler : E.onFrame attempt .snrm raw objects = (.ok (.aarq, ua), objects) := by
    show ((Emulator.onSnrm raw : Except PyExc (SessionStage × Bytes)), objects) = _
    unfold Emulator.onSnrm
    rw [hraw.decode, Result.ok_bind, if_neg (fun h => h rfl), hua.encoded]
    rfl
  obtain ⟨l₁, hsend, hl₁⟩ := sendFrame_talk E (s := ⟨.snrm, objects, attempt⟩)
    (show SessionStage.snrm ≠ .closed by decide) hraw hl
  rw [serveFrame_ok E hhandler] at hl₁
  have hl₁ : Talk ⟨.aarq, objects, attempt⟩ l₁ (ua ++ []) := by
    rw [List.append_nil]
    exact hl₁
  obtain ⟨l', hread, hl'⟩ := readFrame_talk E.server hua hl₁
  refine ⟨l', ?_, hl'⟩
  unfold establishLink
  rw [hraw.encoded, lift_ok_bind_run, bind_ok hsend]
  rw [bind_ok (show readFrameFromTransport E.meterSocket l₁ = _ from hread), hua.decode,
    lift_ok_bind_run, if_neg (fun h => h rfl)]
  rfl

/-- The first attempt brings an answer: that is the outcome, and a plain socket has no deadline to
    put back. -/
theorem sendAarq_first {σ : Type} {S : MeterSocket σ} (hplain : S.deadline = none)
    {information : Bytes} {frame : HdlcFrame} {s s₁ s' : σ}
    (hsend : sendIFrame S server client 0 0 information s = (.ok (), s₁))
    (hrecv : recvIFrame S s₁ = (.ok frame, s')) :
    sendAarqAndAwaitAare S server client information {} s = (.ok frame, s') := by
  have hset : ∀ d t, setDeadline S d t = (.ok (), t) := by
    intro d t
    unfold setDeadline
    rw [hplain]
    rfl
  have hget : getDeadline S s = (.ok none, s) := by
    unfold getDeadline
    rw [hplain]
    rfl
  have hstart : startAttempt S server client information {} none false s = (.ok (), s₁) := by
    -- neither DISC nor heartbeat goes before the first AARQ
    show (sendIFrame S server client 0 0 information >>= fun _ =>
      gets S.time >>= fun now => setDeadline S (some (narrowedDeadline now 5 none))) s = _
    rw [bind_ok hsend, gets_bind_run, hset]
  have hattempts : ∀ e, aarqAttempts S server client information {} none (19 + 1) false e s =
      (.ok frame, s') := by
    intro e
    rw [aarqAttempts, bind_ok hstart, bind_ok (attempt_run hrecv)]
    rfl
  unfold sendAarqAndAwaitAare
  rw [bind_ok hget, bind_ok (attempt_run (hattempts _)), bind_ok (hset none s')]
  rfl

theorem parseAare_buildAare (accepted : Bool) :
    parseAare (buildAare accepted) = if accepted then .ok () else .error authFailed := by
  cases accepted with
  | true => rfl
  | false => rfl

/-- **AARQ and AARE.**  The client goes on iff the emulator accepts the password. -/
theorem associate_talk (hs : 0 ≤ server ∧ server < 2 ^ 28) (hc : 0 ≤ client ∧ client < 2 ^ 28)
    {password aarq : Bytes} (haarq : buildAarq password userInformationInitiate = .ok aarq)
    {objects : MeterObjects} {l : Line Session}
    (hl : Talk ⟨.aarq, objects, attempt⟩ l []) :
    ∃ l', associate E.meterSocket server client password userInformationInitiate {} l =
        (if E.accepts password then .ok () else .error authFailed, l') ∧
      Talk ⟨if E.accepts password then .request else .closed, objects, attempt⟩ l'
        [] := by
  have hlen : (wrapLlcCommand aarq).length ≤ 2000 := by
    obtain ⟨rest, rfl, hrest⟩ := buildAarq_tag haarq
    have hwrapped : (wrapLlcCommand (aarqTag :: rest)).length = 3 + (rest.length + 1) :=
      List.length_append
    omega
  obtain ⟨raw, hraw⟩ := clientFrame_sent hs hc (controlInformationFrame 0 0) _ hlen
  have hpassword : parseAarq aarq = .ok password :=
    parseAarq_build (by decide) (by simp)
      (show buildAarqFor password 1 (some userInformationInitiate) = .ok aarq from haarq)
  have hshort : (buildAare (E.accepts password)).length ≤ 2000 := by
    cases E.accepts password with
    | true => decide
    | false => decide
  obtain ⟨aare, haare, hsent⟩ := answerFrame_sent
    ⟨server, client, controlInformationFrame 0 0, wrapLlcCommand aarq⟩ ⟨hs, hc⟩ 0 1 hshort
  have hhandler : E.onFrame attempt .aarq raw objects =
      (.ok (if E.accepts password then .request else .closed, aare), objects) := by
    show ((E.onAarq raw : Except PyExc (SessionStage × Bytes)), objects) = _
    unfold Emulator.onAarq
    rw [hraw.decode, Result.ok_bind]
    show ((do
      let password ← parseAarq aarq
      let aare ← answerFrame _ 0 1 (buildAare (E.accepts password))
      .ok (if E.accepts password then .request else .closed, aare) :
        Except PyExc (SessionStage × Bytes)), objects) = _
    rw [hpassword, Result.ok_bind, haare]
    rfl
  obtain ⟨l₁, l', frame, hsend, hrecv, hpayload, hl'⟩ := exchange E
    (s := ⟨.aarq, objects, attempt⟩) (show SessionStage.aarq ≠ .closed by decide) hraw.encoded hraw
    ⟨aare, _, serveFrame_ok E hhandler, hsent, controlInformationFrame_even 0 1, rfl⟩ hl
  refine ⟨l', ?_, hl'⟩
  unfold associate
  rw [haarq, lift_ok_bind_run, bind_ok (sendAarq_first rfl hsend hrecv), hpayload]
  show ((Except.ok (buildAare (E.accepts password)) >>= parseAare : Except PyExc Unit), l') = _
  rw [Result.ok_bind, parseAare_buildAare]

end Emulated

end RiseSun.Gateway
