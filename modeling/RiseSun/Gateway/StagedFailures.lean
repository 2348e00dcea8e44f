/-
  The failures that the emulator stages, as the client sees them.

  1. **A corrupted frame** (`decode_corrupted`) — with one byte of its FCS inverted a frame is read
     whole and refused for its checksum.

  2. **A frame cut short** — the connection is closed in the middle of it.

  3. **One try** (`lost_exchange`) — either way the exchange ends with an error that is worth another
     try, and the meter has done what it was asked to do.
-/
import RiseSun.Gateway.MeterCommands

namespace RiseSun.Gateway

open Proc Server

/-! ## A corrupted frame -/

/-- Changing the byte behind a front part leaves the front part and the rest as they were. -/
theorem modify_behind (front rest : Bytes) (x : UInt8) (f : UInt8 → UInt8) :
    (front ++ x :: rest).modify front.length f = front ++ f x :: rest :=
  List.modifyTailIdx_add (List.modifyHead f) 0 front (x :: rest)

/-- Two bytes of a checksum with the lower one inverted are another checksum. -/
theorem fromLE_corrupted {lo hi : UInt8} {crc : Nat} (h : Bytes.toLE 2 crc = [lo, hi]) :
    Bytes.fromLE [lo ^^^ 0xFF, hi] ≠ crc := by
  intro heq
  have hback : Bytes.toLE 2 (Bytes.fromLE [lo ^^^ 0xFF, hi]) = [lo ^^^ 0xFF, hi] :=
    Bytes.toLE_fromLE [lo ^^^ 0xFF, hi]
  rw [heq, h] at hback
  have hlo : lo = lo ^^^ 0xFF := (List.cons.inj hback).1
  have hzero : lo ^^^ lo = lo ^^^ (lo ^^^ 0xFF) := congrArg (lo ^^^ ·) hlo
  rw [← UInt8.xor_assoc, UInt8.xor_self, UInt8.zero_xor] at hzero
  exact absurd hzero (by decide)

/-- What a frame looks like with its FCS corrupted: of the same length, under the same format field,
    and refused for the checksum. -/
structure Corrupted (raw bad : Bytes) : Prop where
  shape : ∃ mid, bad = flag :: (frameFormatField (raw.length - 2) ++ (mid ++ [flag])) ∧
    mid.length + 4 = raw.length
  refused : ∃ message, HdlcFrame.decode bad = .error (.crc message bad)

theorem corrupted_spec {frame : HdlcFrame} {raw : Bytes} (h : SentFrame raw frame) :
    Corrupted raw (corrupted raw) := by
  obtain ⟨haddr, htotal⟩ := encode_totalLength h.encoded
  obtain ⟨⟨hd0, hd1⟩, hs0, hs1⟩ := haddr
  obtain ⟨destination, source, hd, hs, hraw⟩ := encode_layout h.encoded
  obtain ⟨destination', hd', hdpos, -, -, hdec⟩ := decodeHdlcAddress_encode _ hd0 hd1
  obtain ⟨source', hs', hspos, -, -, hsec⟩ := decodeHdlcAddress_encode _ hs0 hs1
  obtain rfl : destination = destination' := Except.ok.inj (hd.symm.trans hd')
  obtain rfl : source = source' := Except.ok.inj (hs.symm.trans hs')
  have hformat : (frameFormatField (raw.length - 2)).length = 2 := Bytes.toBE_length 2 _
  have hdeclared : Bytes.fromBE (frameFormatField (raw.length - 2)) &&& 0x07FF = raw.length - 2 :=
    declaredLen_frameFormatField (by have := h.short; omega)
  have hlength := congrArg List.length hraw
  rw [sealFrame_length] at hlength
  simp only [List.length_append, List.length_cons, List.length_nil, hformat] at hlength
  rw [sealFrame] at hraw
  generalize hheader : frameFormatField (raw.length - 2) ++ (destination ++ source ++ [frame.control]) =
    header at hraw
  have hhcs : Bytes.fromLE (Bytes.toLE 2 (crc16X25 header)) = crc16X25 header := by
    rw [Bytes.fromLE_toLE, Nat.mod_eq_of_lt (crc16X25_lt header)]
  have htwo := Bytes.toLE_length 2 (crc16X25 header)
  generalize Bytes.toLE 2 (crc16X25 header) = hcs at hraw hhcs htwo
  obtain ⟨lo, hi, hfcs⟩ := List.length_eq_two.mp
    (Bytes.toLE_length 2 (crc16X25 (header ++ hcs ++ frame.information)))
  rw [hfcs] at hraw
  have hbad : corrupted raw =
      flag :: (header ++ hcs ++ frame.information ++ [lo ^^^ 0xFF, hi] ++ [flag]) := by
    have hbehind :=
      modify_behind (flag :: (header ++ hcs ++ frame.information)) [hi, flag] lo (· ^^^ 0xFF)
    have hat : raw.length - 3 = (flag :: (header ++ hcs ++ frame.information)).length := by
      rw [hraw]
      simp only [List.length_cons, List.length_append, List.length_nil]
      omega
    unfold corrupted
    rw [hat]
    conv_lhs => rw [hraw]
    simp only [List.append_assoc, List.cons_append, List.nil_append] at hbehind ⊢
    exact hbehind
  have hcut := decode_cut frame.control frame.information hdec hsec hformat
    htwo (show [lo ^^^ 0xFF, hi].length = 2 from rfl) ⟨hdpos, hspos⟩ (by rw [hdeclared]; omega)
    (by rw [hheader]; exact hhcs)
  rw [hheader, if_pos (fromLE_corrupted hfcs)] at hcut
  refine ⟨⟨destination ++ source ++ [frame.control] ++ hcs ++ frame.information ++
    [lo ^^^ 0xFF, hi], ?_, ?_⟩, ⟨_, by rw [hbad]; exact hcut⟩⟩
  · rw [hbad, ← hheader]
    simp only [List.append_assoc]
  · simp only [List.length_append, List.length_cons, List.length_nil, htwo]
    omega

/-! ## Reading what is not whole -/

section Reading

variable {E : Emulator}

/-- The reader up to the bytes that the format field declares. -/
theorem readFrame_declared {σ : Type} {S : MeterSocket σ} {format : Bytes} {n : Nat}
    {s s₀ s₁ s₂ : σ} (hreset : resetFrameSeeking S s = (.ok (), s₀))
    (hfirst : recvExact S 1 s₀ = (.ok [flag], s₁)) (hsecond : recvExact S 2 s₁ = (.ok format, s₂))
    (hdeclared : Bytes.fromBE format &&& 0x07FF = n + 2) :
    readFrameFromTransport S s = (do
      let rest ← recvExact S (n + 1)
      if rest.getLast? ≠ some flag then
        raise (.crc [.text "Не найден закрывающий флаг HDLC на ожидаемой по длине позиции"]
          ([flag] ++ format ++ rest))
      else pure ([flag] ++ format ++ rest)) s₂ := by
  rw [readFrameFromTransport, bind_ok hreset, bind_ok hfirst, if_neg (by simp), bind_ok hsecond]
  simp only [hdeclared]
  rw [if_neg (by omega), show n + 2 - 2 + 1 = n + 1 by omega]

/-- Flag and format field are on their way: the reader waits for the rest. -/
theorem readFrame_started {s : Session} {l : Line Session} {format later : Bytes} {n : Nat}
    (hformat : format.length = 2) (hdeclared : Bytes.fromBE format &&& 0x07FF = n + 2)
    (hl : Talk s l (flag :: (format ++ later))) :
    ∃ l₂, Talk s l₂ later ∧ readFrameFromTransport E.meterSocket l = (do
      let rest ← recvExact E.meterSocket (n + 1)
      if rest.getLast? ≠ some flag then
        raise (.crc [.text "Не найден закрывающий флаг HDLC на ожидаемой по длине позиции"]
          ([flag] ++ format ++ rest))
      else pure ([flag] ++ format ++ rest)) l₂ := by
  have hfeeds := E.server.recv_feeds s
  obtain ⟨l₁, hfirst, hl₁⟩ := Stream.exactly_feeds recvExactFailed hfeeds
    (show Talk s l ([flag] ++ (format ++ later)) from hl)
  obtain ⟨l₂, hsecond, hl₂⟩ := Stream.exactly_feeds recvExactFailed hfeeds hl₁
  rw [hformat] at hsecond
  exact ⟨l₂, hl₂, readFrame_declared rfl hfirst hsecond hdeclared⟩

/-- A corrupted frame is read whole and refused. -/
theorem recvIFrame_corrupted {s : Session} {l : Line Session} {raw bad : Bytes} {frame : HdlcFrame}
    (h : SentFrame raw frame) (hbad : Corrupted raw bad) (hl : Talk s l bad) :
    ∃ message l', recvIFrame E.meterSocket l = (.error (.crc message bad), l') ∧ Talk s l' [] := by
  obtain ⟨mid, hshape, hlength⟩ := hbad.shape
  obtain ⟨message, hrefused⟩ := hbad.refused
  have hdeclared : Bytes.fromBE (frameFormatField (raw.length - 2)) &&& 0x07FF = mid.length + 2 := by
    rw [declaredLen_frameFormatField (by have := h.short; omega)]
    omega
  have hl' := hl
  rw [hshape] at hl'
  obtain ⟨l₂, hl₂, hread⟩ := readFrame_started (E := E) (Bytes.toBE_length 2 _) hdeclared hl'
  obtain ⟨l₃, hthird, hl₃⟩ := Stream.exactly_feeds recvExactFailed (E.server.recv_feeds s)
    (show Talk s l₂ ((mid ++ [flag]) ++ []) by rw [List.append_nil]; exact hl₂)
  rw [List.length_append] at hthird
  have hwhole : readFrameFromTransport E.meterSocket l = (.ok bad, l₃) := by
    rw [hread, bind_ok (show recvExact E.meterSocket (mid.length + 1) l₂ = _ from hthird),
      if_neg (by simp), hshape]
    rfl
  refine ⟨message, l₃, ?_, hl₃⟩
  show recvIFrameLoop _ (19 + 1) l = _
  rw [recvIFrameLoop, bind_ok hwhole, hrefused]
  rfl

/-- A frame that ends in the middle: the connection is lost. -/
theorem recvIFrame_cut {s : Session} {l : Line Session} {raw : Bytes} {frame : HdlcFrame} {k : Nat}
    (h : SentFrame raw frame) (hclosed : s.stage = .closed) (hk : 3 ≤ k) (hcut : k < raw.length)
    (hl : Talk s l (raw.take k)) :
    ∃ e l', recvIFrame E.meterSocket l = (.error (.gateway e), l') ∧ e.cls = .connectionLostError ∧
      Talk s l' [] := by
  obtain ⟨mid, hshape⟩ := encode_shape h.encoded
  have hformat : (frameFormatField (raw.length - 2)).length = 2 := Bytes.toBE_length 2 _
  have hlength : raw.length = mid.length + 4 := by
    have hl := congrArg List.length hshape
    simp only [List.length_cons, List.length_append, hformat, List.length_nil] at hl
    omega
  have hdeclared : Bytes.fromBE (frameFormatField (raw.length - 2)) &&& 0x07FF = mid.length + 2 := by
    rw [declaredLen_frameFormatField (by have := h.short; omega)]
    omega
  have htake : raw.take k =
      flag :: (frameFormatField (raw.length - 2) ++ (mid ++ [flag]).take (k - 3)) := by
    obtain ⟨k, rfl⟩ : ∃ m, k = m + 3 := ⟨k - 3, by omega⟩
    conv_lhs => rw [hshape]
    rw [List.take_succ_cons, List.take_append, hformat, List.take_of_length_le (by omega)]
    rfl
  rw [htake] at hl
  obtain ⟨l₂, hl₂, hread⟩ := readFrame_started (E := E) hformat hdeclared hl
  obtain ⟨l₃, hthird, hl₃⟩ := Stream.exactly_closed recvExactFailed (E.server.recv_feeds s)
    (fun n l' _ hl' => ⟨l', E.server.recv_closed (decide_eq_true hclosed) hl' n, hl'⟩)
    (n := mid.length + 1)
    (by rw [List.length_take, List.length_append, List.length_singleton]; omega) hl₂
  obtain ⟨e, he, hcls⟩ : ∃ e, recvExactFailed ((mid ++ [flag]).take (k - 3)) none = .gateway e ∧
    e.cls = .connectionLostError := ⟨_, rfl, rfl⟩
  rw [he] at hthird
  have hlost : recvExact E.meterSocket (mid.length + 1) l₂ = _ := hthird
  refine ⟨e, l₃, ?_, hcls, hl₃⟩
  show recvIFrameLoop _ (19 + 1) l = _
  rw [recvIFrameLoop]
  refine bind_error ?_
  rw [hread]
  exact bind_error hlost

/-! ## One try -/

/-- A failure is staged for this connection. -/
def Emulator.Staged (E : Emulator) (attempt : Nat) : Prop :=
  (E.errorInjection.forceCrcError = true ∨ E.errorInjection.forcePartialDisconnect = true) ∧
    attempt ≤ E.errorInjection.failAttempts

variable {attempt : Nat}

/-- The staged failure: the frame is corrupted or cut in half, and the session is over. -/
theorem Emulator.Staged.inject (h : E.Staged attempt) (encoded : Bytes) :
    E.inject attempt encoded = (corrupted encoded, false) ∨
      E.inject attempt encoded = (encoded.take (encoded.length / 2), false) := by
  obtain ⟨hforced, hle⟩ := h
  unfold Emulator.inject
  by_cases hcrc : E.errorInjection.forceCrcError = true
  · exact .inl (if_pos ⟨hcrc, hle⟩)
  · right
    rw [if_neg fun h => hcrc h.1, if_pos ⟨hforced.resolve_left hcrc, hle⟩]

/-- **One try.**  The request is answered by half a frame or a bad one: the meter has handled it, and
    the client has an error that is worth another try. -/
theorem lost_exchange {server : Int} (hs : 0 ≤ server ∧ server < 2 ^ 28) (hstaged : E.Staged attempt)
    (apdu : Bytes) {info : Bytes} {objects objects' : MeterObjects} {next : SessionStage}
    {l : Line Session} (hlen : apdu.length ≤ 1990) (hinfo : info.length ≤ 2000)
    (hprofile : E.asksForProfile apdu = false)
    (hanswer : E.answerRequest apdu objects = (.ok (next, info), objects'))
    (hl : Talk ⟨.request, objects, attempt⟩ l []) :
    ∃ l₁ e l', sendIFrame E.meterSocket server defaultClientAddress 1 1 (wrapLlcCommand apdu) l =
        (.ok (), l₁) ∧
      recvIFrame E.meterSocket l₁ = (.error e, l') ∧ e.isRetryable = true ∧
      l'.server.objects = objects' := by
  obtain ⟨raw, hraw⟩ := clientFrame_sent hs clientAddress_bounds (controlInformationFrame 1 1)
    (wrapLlcCommand apdu) (by rw [wrapLlcCommand_length]; omega)
  obtain ⟨out, hout, hsent⟩ := answerFrame_sent
    ⟨server, defaultClientAddress, controlInformationFrame 1 1, wrapLlcCommand apdu⟩
    ⟨hs, clientAddress_bounds⟩ 1 2 hinfo
  generalize hcut : E.inject attempt out = injected
  have hfirst : E.sendFirst attempt next
      ⟨server, defaultClientAddress, controlInformationFrame 1 1, wrapLlcCommand apdu⟩ info =
        .ok (if injected.2 then next else .closed, injected.1) := by
    unfold Emulator.sendFirst
    rw [hout, Result.ok_bind, hcut]
  have hhandler : E.onFrame attempt .request raw objects =
      (.ok (if injected.2 then next else .closed, injected.1), objects') := by
    show E.onRequest attempt raw objects = _
    unfold Emulator.onRequest
    rw [hraw.decode, lift_ok_bind_run]
    show ((lift (.ok apdu) : Proc PyExc MeterObjects Bytes) >>= _) objects = _
    rw [lift_ok_bind_run, if_neg (ne_true_of_eq_false hprofile), bind_ok hanswer]
    exact congrArg (fun r => (r, objects')) hfirst
  obtain ⟨l₁, hsend, hl₁⟩ := sendFrame_talk E (s := ⟨.request, objects, attempt⟩)
    (show SessionStage.request ≠ .closed by decide) hraw hl
  rw [serveFrame_ok E hhandler, List.nil_append] at hl₁
  have hsendFrame : sendIFrame E.meterSocket server defaultClientAddress 1 1 (wrapLlcCommand apdu) l =
      (.ok (), l₁) := by
    unfold sendIFrame
    rw [show iFrame server defaultClientAddress 1 1 _ = .ok raw from hraw.encoded, lift_ok_bind_run]
    exact hsend
  rcases hstaged.inject out with h | h
  · obtain rfl := hcut.symm.trans h
    obtain ⟨message, l', hrecv, hl'⟩ := recvIFrame_corrupted hsent (corrupted_spec hsent) hl₁
    exact ⟨l₁, _, l', hsendFrame, hrecv, rfl, by rw [hl'.server]⟩
  · obtain rfl := hcut.symm.trans h
    have hlong : 9 ≤ out.length := by
      rw [(encode_totalLength hsent.encoded).2, HdlcFrame.totalLength]
      exact Nat.le_add_left 9 _
    obtain ⟨e, l', hrecv, hcls, hl'⟩ := recvIFrame_cut hsent rfl (by omega) (by omega) hl₁
    refine ⟨l₁, _, l', hsendFrame, hrecv, ?_, by rw [hl'.server]⟩
    show (e.cls == _ || e.cls == _ || e.cls == _) = true
    rw [hcls]
    rfl

/-! ## One command -/

section Lost

variable {server : Int} {objects : MeterObjects} {l : Line Session}

theorem getScaler_lost (hE : E.Proper) (hstaged : E.Staged attempt)
    (hs : 0 ≤ server ∧ server < 2 ^ 28) {target : Bytes} (htarget : target.length = 6)
    (hl : Talk ⟨.request, objects, attempt⟩ l []) :
    ∃ e l', getScaler E.meterSocket server defaultClientAddress 1 1 target registerClassId l =
        (.error e, l') ∧ e.isRetryable = true ∧ l'.server.objects = objects := by
  obtain ⟨bytes, hbytes, hlength, -⟩ := scalerUnit_decodes hE target
  obtain ⟨l₁, e, l', hsend, hrecv, hretry, hobjects⟩ := lost_exchange hs hstaged (scalerRequest target)
    (by simp [scalerRequest, htarget]) (by simp [buildGetResponseData, hlength])
    (asksForProfile_plain E rfl htarget 1 registerScalerUnitAttribute)
    (answerRequest_scaler htarget hbytes objects) hl
  refine ⟨e, l', ?_, hretry, hobjects⟩
  unfold getScaler getAttribute
  rw [show buildGetRequest target (UInt8.ofNat 1) registerScalerUnitAttribute registerClassId = _
    from buildGetRequest_scaler htarget, lift_ok_bind_run, bind_ok hsend]
  exact hrecv

theorem getObject_lost (hstaged : E.Staged attempt) (hs : 0 ≤ server ∧ server < 2 ^ 28)
    {valueTarget cls : Bytes} {classId : Int} (htarget : valueTarget.length = 6)
    (hclass : classId ≠ registerClassId) (hcls : toBytes 2 classId = .ok cls)
    (hshort : ∀ bytes ∈ objects.dataValues.bind fun t => t.get valueTarget,
      bytes.length ≤ maxValueLength)
    (hl : Talk ⟨.request, objects, attempt⟩ l []) :
    ∃ e l', getValue E.meterSocket server defaultClientAddress 1 1 valueTarget classId l =
        (.error e, l') ∧ e.isRetryable = true ∧ l'.server.objects = objects := by
  have htwo := toBytes_length hcls
  obtain ⟨l₁, e, l', hsend, hrecv, hretry, hobjects⟩ := lost_exchange hs hstaged
    (objectRequest cls valueTarget) (by simp [objectRequest, htarget, htwo])
    (getResponse_length 1 hshort) (asksForProfile_plain E htwo htarget 1 registerValueAttribute)
    (answerRequest_object htarget hclass hcls objects) hl
  refine ⟨e, l', ?_, hretry, hobjects⟩
  unfold getValue getAttribute
  rw [show buildGetRequest valueTarget (UInt8.ofNat 1) registerValueAttribute classId = _
    from buildGetRequest_object htarget hcls, lift_ok_bind_run, bind_ok hsend]
  exact hrecv

/-- A read whose first answer is lost fails so that it is tried again, and the objects are as
    before. -/
theorem readBehind_lost (hE : E.Proper) (hstaged : E.Staged attempt)
    (hs : 0 ≤ server ∧ server < 2 ^ 28) {m : Memory} (hm : Represents m objects) {obis : String}
    {classId : Int} (hrequest : (Command.read obis classId).request.isOk = true)
    (hl : Talk ⟨.request, objects, attempt⟩ l []) :
    ∃ e l', readBehind E.meterSocket server obis classId l = (.error e, l') ∧
      e.isRetryable = true ∧ l'.server.objects = objects := by
  unfold readBehind readOneRegister
  rw [Command.request] at hrequest
  rcases parseObis_cases obis with ⟨target, htarget, hlength⟩ | ⟨message, hbad⟩
  swap
  · rw [hbad] at hrequest
    cases hrequest
  rw [htarget, Result.ok_bind] at hrequest
  rw [htarget, bind_assoc_run, lift_ok_bind_run]
  rcases valueTarget_cases obis hlength with ⟨vt, hvt, hvlength⟩ | ⟨message, hbad⟩
  swap
  · rw [hbad] at hrequest
    cases hrequest
  rw [hvt, Result.ok_bind] at hrequest
  rw [hvt, bind_assoc_run, lift_ok_bind_run]
  by_cases hclass : classId = registerClassId
  · subst hclass
    obtain ⟨e, l', hlost, hretry, hobjects⟩ := getScaler_lost hE hstaged hs hlength hl
    rw [if_pos rfl, bind_assoc_run]
    exact ⟨e, l', bind_error hlost, hretry, hobjects⟩
  · rw [if_neg hclass] at hrequest ⊢
    rcases hcls : toBytes 2 classId with e | cls
    · rw [buildGetRequest_eq hvlength, hcls] at hrequest
      cases hrequest
    · obtain ⟨t, ht, hstored⟩ := hm.dataValues
      obtain ⟨-, hshort⟩ := parseGetResponse_stored (hstored vt) 1
      have hbind : objects.dataValues.bind (fun t => t.get vt) = t.get vt := by
        rw [ht]
        rfl
      obtain ⟨e, l', hlost, hretry, hobjects⟩ := getObject_lost hstaged hs hvlength hclass hcls
        (by rw [hbind]; exact hshort) hl
      refine ⟨e, l', ?_, hretry, hobjects⟩
      unfold readValue
      rw [bind_assoc_run]
      exact bind_error hlost

/-- A write whose answer is lost has been made. -/
theorem writeBehind_lost (hstaged : E.Staged attempt) (hs : 0 ≤ server ∧ server < 2 ^ 28) {m : Memory}
    (hm : Represents m objects) {obis : String} {value : Tree} {encoded : Bytes}
    (hencoded : value.encode = .ok encoded) (hshort : encoded.length ≤ maxValueLength) {classId : Int}
    (hrequest : (Command.write obis value classId).request.isOk = true)
    (hl : Talk ⟨.request, objects, attempt⟩ l []) :
    ∃ e l', writeBehind E.meterSocket server obis encoded classId l = (.error e, l') ∧
      e.isRetryable = true ∧
      Represents (Emulator.store obis value classId m).2 l'.server.objects := by
  unfold writeBehind Emulator.store
  rw [Command.request, hencoded, Result.ok_bind] at hrequest
  rcases parseObis_cases obis with ⟨target, htarget, hlength⟩ | ⟨message, hbad⟩
  swap
  · rw [hbad] at hrequest
    cases hrequest
  rw [htarget, Result.ok_bind, buildSetRequest_eq hlength] at hrequest
  rw [htarget, lift_ok_bind_run, buildSetRequest_eq hlength]
  rcases hcls : toBytes 2 classId with e | cls
  · rw [hcls] at hrequest
    cases hrequest
  have htwo := toBytes_length hcls
  have hfit : encoded.length ≤ 1900 := hshort
  obtain ⟨l₁, e, l', hsend, hrecv, hretry, hobjects⟩ := lost_exchange hs hstaged
    (setRequestTag :: setRequestNormal :: 1 ::
      (cls ++ target ++ [registerValueAttribute] ++ [0x00] ++ encoded))
    (by simp only [List.length_cons, List.length_append, List.length_nil, hlength, htwo]; omega)
    (show (buildSetResponse 1 setResultSuccess).length ≤ 2000 by decide)
    (asksForProfile_tag E (by decide) _) (answerRequest_set E hencoded hlength hcls objects) hl
  refine ⟨e, l', ?_, hretry, hobjects ▸ hm.write target hencoded hshort⟩
  rw [show (Except.ok cls).map _ = Except.ok _ from rfl, lift_ok_bind_run, bind_ok hsend]
  exact bind_error hrecv

/-- An action whose answer is lost has had its effect, and fails so that it is tried again. -/
theorem actBehind_lost (hstaged : E.Staged attempt) (hs : 0 ≤ server ∧ server < 2 ^ 28) {m : Memory}
    (hm : Represents m objects) {obis : String} {methodId : UInt8} {classId : Int}
    {parameters : Option Bytes} (hfits : (Command.act obis methodId classId parameters).Fits)
    (hrequest : (Command.act obis methodId classId parameters).request.isOk = true)
    (hl : Talk ⟨.request, objects, attempt⟩ l []) :
    ∃ e l', actBehind E.meterSocket server obis methodId classId parameters l = (.error e, l') ∧
      e.isRetryable = true ∧
      Represents (E.execute obis methodId classId parameters m).2 l'.server.objects := by
  unfold actBehind Emulator.execute
  rw [Command.request] at hrequest
  rcases parseObis_cases obis with ⟨target, htarget, hlength⟩ | ⟨message, hbad⟩
  swap
  · rw [hbad] at hrequest
    cases hrequest
  rw [htarget, Result.ok_bind, buildActionRequest_eq hlength] at hrequest
  rw [htarget, lift_ok_bind_run, buildActionRequest_eq hlength]
  rcases hcls : toBytes 2 classId with e | cls
  · rw [hcls] at hrequest
    cases hrequest
  have htwo := toBytes_length hcls
  have hdata : (parameters.elim [0x00] fun p => 0x01 :: p : Bytes).length ≤ 1901 :=
    hfits.parameters_length
  obtain ⟨l₁, e, l', hsend, hrecv, hretry, hobjects⟩ := lost_exchange hs hstaged
    (actionRequestTag :: actionRequestNormal :: 1 ::
      (cls ++ target ++ [methodId] ++ parameters.elim [0x00] fun p => 0x01 :: p))
    (by simp only [List.length_cons, List.length_append, List.length_nil, hlength, htwo]; omega)
    (show (buildActionResponse 1 _).length ≤ 2000 from Nat.le_of_ble_eq_true rfl)
    (asksForProfile_tag E (by decide) _) (answerRequest_action E hfits.1 hlength hcls objects) hl
  refine ⟨e, l', ?_, hretry, ?_⟩
  · rw [show (Except.ok cls).map _ = Except.ok _ from rfl, lift_ok_bind_run, bind_ok hsend]
    exact bind_error hrecv
  · rw [lift_ok_bind_run, lift_ok_bind_run, modify_bind_run, hobjects]
    have hacted := hm.act target methodId parameters
    show Represents ((if _ then _ else _ : Proc PyExc Memory Answer) _).2 _
    split <;> exact hacted

/-- **A lost command.**  The client has an error that is worth another try, and the meter has obeyed
    all the same. -/
theorem command_lost (hE : E.Proper) (hstaged : E.Staged attempt) {serial : String}
    (haddr : serverAddress serial = .ok server) {password aarq : Bytes}
    (haarq : buildAarq password userInformationInitiate = .ok aarq)
    (haccepts : E.accepts password = true) {m : Memory} (hm : Represents m objects) {c : Command}
    (hfits : c.Fits) (hrequest : c.request.isOk = true) (hl : Talk ⟨.snrm, objects, attempt⟩ l []) :
    ∃ e l', c.run E.meterSocket serial password l = (.error e, l') ∧ e.isRetryable = true ∧
      Represents (E.perform password c m).2 l'.server.objects := by
  have hs := serverAddress_bounds haddr
  have hencoded : c.encoded = .ok () := by
    cases c with
    | write obis value classId =>
      cases hvalue : value.encode with
      | ok encoded =>
        rw [Command.encoded, hvalue]
        rfl
      | error e =>
        rw [Command.request, hvalue] at hrequest
        cases hrequest
    | read | act => rfl
  obtain ⟨l₁, hrun, hl₁⟩ := command_opened haddr haarq hl hencoded
  rw [if_pos haccepts] at hrun hl₁
  rw [hrun, perform_run password hencoded, if_pos haccepts]
  cases c with
  | read obis classId =>
    obtain ⟨e, l', hlost, hretry, hobjects⟩ := readBehind_lost hE hstaged hs hm hrequest hl₁
    refine ⟨e, l', bind_error hlost, hretry, ?_⟩
    rw [Emulator.obey, readOut_memory, hobjects]
    exact hm
  | write obis value classId =>
    cases hvalue : value.encode with
    | error e =>
      rw [Command.request, hvalue] at hrequest
      cases hrequest
    | ok encoded =>
      obtain ⟨e, l', hlost, hretry, hleft⟩ :=
        writeBehind_lost hstaged hs hm hvalue (hfits encoded hvalue) hrequest hl₁
      refine ⟨e, l', ?_, hretry, hleft⟩
      rw [Command.rest, hvalue, lift_ok_bind_run]
      exact bind_error hlost
  | act obis methodId classId parameters =>
    obtain ⟨e, l', hlost, hretry, hleft⟩ := actBehind_lost hstaged hs hm hfits hrequest hl₁
    exact ⟨e, l', bind_error hlost, hretry, hleft⟩

end Lost

end Reading

end RiseSun.Gateway
