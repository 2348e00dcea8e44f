/-
  The load profile between the client and the emulator.

  1. **One block** (`sendBlock_sent`) — what the emulator sends for one turn of its loop.

  2. **The run** (`blocks_talk`) — from any block on, the client ends up with the rows of what it has
     buffered and what the emulator has left.  The induction is on the bytes that are left.

  3. **The whole read** (`readLoadProfile_talk`) — SNRM to the last block: the rows of the window, for
     every profile and every size of the blocks.
-/
import RiseSun.Gateway.MeterRuns
import RiseSun.Gateway.ProfileFailures
import RiseSun.Gateway.Reassembly
import RiseSun.Gateway.RowCodec

namespace RiseSun.Gateway

open Proc Server

/-! ## One block -/

theorem encodeBerLength_length {n : Nat} {length : Bytes} (h : encodeBerLength n = .ok length) :
    length.length ≤ 3 := by
  unfold encodeBerLength at h
  split at h
  · cases h
    exact Nat.le_of_ble_eq_true rfl
  · split at h
    · cases h
      exact Nat.le_of_ble_eq_true rfl
    · split at h
      · cases h
        rw [List.length_cons, Bytes.toBE_length]
      · cases h

/-- The APDU of a block of a size that fits. -/
theorem buildGetResponseDatablock_fits (invokeId : UInt8) (block : DatablockResult)
    (hnumber : block.blockNumber < 2 ^ 32) (hraw : block.rawData.length ≤ maxValueLength) :
    ∃ info, buildGetResponseDatablock invokeId block = .ok info ∧ info.length ≤ 2000 := by
  have hsmall : block.rawData.length ≤ 1900 := hraw
  obtain ⟨info, hinfo⟩ := buildGetResponseDatablock_total invokeId hnumber (by omega)
  refine ⟨info, hinfo, ?_⟩
  unfold buildGetResponseDatablock at hinfo
  obtain ⟨number, hfour, hinfo⟩ := Result.bind_eq_ok hinfo
  obtain ⟨length, hlength, hinfo⟩ := Result.bind_eq_ok hinfo
  cases hinfo
  have hfour := toBytes_length hfour
  have hthree := encodeBerLength_length hlength
  simp only [List.length_append, List.length_cons, List.length_nil, hfour]
  omega

section Blocks

variable {E : Emulator} {attempt : Nat} {server : Int} {objects : MeterObjects}

/-- Where the loop of the emulator stands behind a block. -/
def Emulator.afterBlock (E : Emulator) (left : Bytes) (invokeId : UInt8)
    (blockNumber sendSeq recvSeq : Nat) : SessionStage :=
  if (left.drop E.loadProfileBlockSize).isEmpty then .closed
  else .block (left.drop E.loadProfileBlockSize) invokeId (blockNumber + 1) (sendSeq + 1) recvSeq

/-- One turn of the loop: a block of the right size under the next number. -/
theorem sendBlock_sent (hsize : E.loadProfileBlockSize ≤ maxValueLength) (req : HdlcFrame)
    (haddr : req.Addressed) (left : Bytes) (invokeId : UInt8) {blockNumber : Nat}
    (hnumber : blockNumber + 1 < 2 ^ 32) (sendSeq recvSeq : Nat) :
    ∃ info out, buildGetResponseDatablock invokeId ⟨(left.drop E.loadProfileBlockSize).isEmpty,
        blockNumber + 1, left.take E.loadProfileBlockSize⟩ = .ok info ∧
      SentFrame out ⟨req.source, req.destination, controlInformationFrame sendSeq recvSeq,
        wrapLlcResponse info⟩ ∧
      E.sendBlock req left invokeId blockNumber sendSeq recvSeq =
        .ok (E.afterBlock left invokeId blockNumber sendSeq recvSeq, out) := by
  have hchunk : (left.take E.loadProfileBlockSize).length ≤ maxValueLength :=
    Nat.le_trans (List.length_take_le _ _) hsize
  obtain ⟨info, hinfo, hshort⟩ := buildGetResponseDatablock_fits invokeId
    ⟨(left.drop E.loadProfileBlockSize).isEmpty, blockNumber + 1,
      left.take E.loadProfileBlockSize⟩ hnumber hchunk
  obtain ⟨out, hout, hsent⟩ := answerFrame_sent req haddr sendSeq recvSeq hshort
  refine ⟨info, out, hinfo, hsent, ?_⟩
  unfold Emulator.sendBlock
  dsimp only
  rw [hinfo, Result.ok_bind, hout]
  rfl

/-- A payload that is on its way in an I-frame is received by the client. -/
theorem recvPayload_talk (E : Emulator) {s : Session} {l : Line Session} {raw payload : Bytes}
    {frame : HdlcFrame} (hraw : SentFrame raw frame) (hcontrol : frame.control &&& 0x01 = 0)
    (hpayload : unwrapLlc frame.information = .ok payload) (hl : Talk s l raw) :
    ∃ l', recvPayload E.meterSocket l = (.ok payload, l') ∧ Talk s l' [] := by
  obtain ⟨l', hrecv, hl'⟩ := recvIFrame_talk E.server hraw hcontrol
    (show Talk s l (raw ++ []) by rw [List.append_nil]; exact hl)
  refine ⟨l', ?_, hl'⟩
  unfold recvPayload
  rw [bind_ok (show recvIFrame E.meterSocket l = _ from hrecv), hpayload]
  rfl

/-! ## The run -/

/-- The request for the next block brings the next turn of the loop. -/
theorem sendGetRequestNext_talk (hs : 0 ≤ server ∧ server < 2 ^ 28)
    (hsize : E.loadProfileBlockSize ≤ maxValueLength) {left : Bytes} {invokeId : UInt8}
    {blockNumber sendSeq recvSeq : Nat} (hnumber : blockNumber + 1 < 2 ^ 32) {t : Transfer}
    (hpending : t.pendingBlockNumber = some (blockNumber + 1)) {l : Line Session}
    (hl : Talk ⟨.block left invokeId blockNumber sendSeq recvSeq, objects, attempt⟩ l []) :
    ∃ l' req stage out, sendGetRequestNext E.meterSocket server defaultClientAddress t l =
        (.ok (), l') ∧ req.Addressed ∧
      E.sendBlock req left invokeId blockNumber sendSeq (recvSeq + 1) = .ok (stage, out) ∧
      Talk ⟨stage, objects, attempt⟩ l' out := by
  have hbytes : toBytes 4 (blockNumber + 1 : Nat) = .ok (Bytes.toBE 4 (blockNumber + 1)) := by
    rw [toBytes, if_pos (by norm_num; omega), Int.toNat_natCast]
  obtain ⟨request, hrequest, hseven⟩ : ∃ request, buildGetRequestNext (blockNumber + 1)
      (UInt8.ofNat t.invokeId) = .ok request ∧ request.length = 7 := by
    refine ⟨_, by rw [buildGetRequestNext, hbytes, Result.ok_bind], ?_⟩
    rw [List.length_append, Bytes.toBE_length]
    rfl
  obtain ⟨raw, hraw⟩ := clientFrame_sent hs clientAddress_bounds
    (controlInformationFrame t.sendSeq t.sendSeq) (wrapLlcCommand request)
    (by rw [wrapLlcCommand_length]; omega)
  have haddr : (HdlcFrame.mk server defaultClientAddress
    (controlInformationFrame t.sendSeq t.sendSeq) (wrapLlcCommand request)).Addressed :=
      ⟨hs, clientAddress_bounds⟩
  obtain ⟨info, out, -, -, hblock⟩ := sendBlock_sent hsize _ haddr left invokeId hnumber sendSeq
    (recvSeq + 1)
  have hhandler : E.onFrame attempt (.block left invokeId blockNumber sendSeq recvSeq) raw objects =
      (.ok (E.afterBlock left invokeId blockNumber sendSeq (recvSeq + 1), out), objects) := by
    show ((E.onBlockRequest left invokeId blockNumber sendSeq recvSeq raw :
      Except PyExc (SessionStage × Bytes)), objects) = _
    unfold Emulator.onBlockRequest
    rw [hraw.decode, Result.ok_bind, hblock]
  obtain ⟨l', hsend, hl'⟩ := sendFrame_talk E
    (s := ⟨.block left invokeId blockNumber sendSeq recvSeq, objects, attempt⟩) (by simp) hraw hl
  rw [serveFrame_ok E hhandler] at hl'
  refine ⟨l', _, _, out, ?_, haddr, hblock, hl'⟩
  unfold sendGetRequestNext
  rw [hpending, lift_ok_bind_run, hrequest, lift_ok_bind_run]
  unfold sendIFrame
  rw [show iFrame server defaultClientAddress t.sendSeq t.sendSeq _ = .ok raw from hraw.encoded,
    lift_ok_bind_run]
  exact hsend

/-- **The run.**  A block is on its way: the read ends with the rows of what is buffered and what the
    emulator had left before that block. -/
theorem blocks_talk (fromDt toDt : DateTime) (hs : 0 ≤ server ∧ server < 2 ^ 28)
    (hsize : E.loadProfileBlockSize ≤ maxValueLength) :
    ∀ (n : Nat) {left out : Bytes} {stage : SessionStage}
      {invokeId : UInt8} {blockNumber sendSeq recvSeq : Nat} {req : HdlcFrame} (t : Transfer)
      {l : Line Session} (ys : List ProfileRow), left.length = n → blockNumber + n + 1 < 2 ^ 32 →
      req.Addressed → E.sendBlock req left invokeId blockNumber sendSeq recvSeq = .ok (stage, out) →
      Talk ⟨stage, objects, attempt⟩ l out → t.useIncrementingInvokeId = false →
      ∃ l', transferBlocks E.meterSocket server defaultClientAddress fromDt toDt t (l, ys) =
          ((decodeRows fromDt toDt (lastRows (t.buf ++ left))).2,
            (l', ys ++ (decodeRows fromDt toDt (lastRows (t.buf ++ left))).1)) ∧
        l'.server.objects = objects := by
  intro n
  induction n using Nat.strong_induction_on with
  | _ n ih =>
    intro left out stage invokeId blockNumber sendSeq recvSeq req t l ys hn hnumber haddr hblock hl
      hconstant
    obtain ⟨info, out', hinfo, hsent, hblock'⟩ := sendBlock_sent hsize req haddr left invokeId
      (show blockNumber + 1 < 2 ^ 32 by omega) sendSeq recvSeq
    obtain ⟨rfl, rfl⟩ := Prod.mk.inj (Except.ok.inj (hblock.symm.trans hblock'))
    obtain ⟨l₁, hrecv, hl₁⟩ := recvPayload_talk E hsent
      (controlInformationFrame_even sendSeq recvSeq)
      (show unwrapLlc (wrapLlcResponse info) = .ok info from rfl) hl
    have hcut : left.take E.loadProfileBlockSize ++ left.drop E.loadProfileBlockSize = left :=
      List.take_append_drop _ left
    unfold Emulator.afterBlock at hl₁
    cases hlast : (left.drop E.loadProfileBlockSize).isEmpty with
    | true =>
      rw [hlast] at hinfo hl₁
      rw [List.isEmpty_iff.mp hlast, List.append_nil] at hcut
      rw [hcut] at hinfo
      exact ⟨l₁, transferBlocks_done fromDt toDt hrecv (onPayload_last fromDt toDt t hinfo),
        by rw [hl₁.server]⟩
    | false =>
      rw [hlast] at hinfo hl₁
      -- the client asks for the block behind this one
      generalize hnext : t.afterBlock ⟨false, blockNumber + 1, left.take E.loadProfileBlockSize⟩ = next
      have hpayload : onPayload fromDt toDt t info =
          ((decodeRows fromDt toDt
              (splitLoadProfileRows (t.buf ++ left.take E.loadProfileBlockSize)).1).1,
            (Step.ask next).after (decodeRows fromDt toDt
              (splitLoadProfileRows (t.buf ++ left.take E.loadProfileBlockSize)).1).2) := by
        rw [← hnext]
        exact onPayload_block fromDt toDt t hinfo
      have hrows := decodeRows_complete fromDt toDt (t.buf ++ left.take E.loadProfileBlockSize)
        (left.drop E.loadProfileBlockSize)
      rw [List.append_assoc, hcut] at hrows
      rw [hrows]
      cases hdecoded : (decodeRows fromDt toDt
          (splitLoadProfileRows (t.buf ++ left.take E.loadProfileBlockSize)).1).2 with
      | error e =>
        -- a row of this block does not decode: the transfer ends here
        rw [hdecoded] at hpayload
        exact ⟨l₁, transferBlocks_done fromDt toDt hrecv
          (show _ = (_, Step.done.after (.error e)) from hpayload), by rw [hl₁.server]⟩
      | ok u =>
        rw [hdecoded] at hpayload
        -- the block took at least one byte
        have hshorter : (left.drop E.loadProfileBlockSize).length < n := by
          have hpos := E.blockSize_pos
          have hsome : 0 < (left.drop E.loadProfileBlockSize).length :=
            List.length_pos_iff.mpr fun hnil => by rw [hnil] at hlast; cases hlast
          rw [List.length_drop] at hsome ⊢
          omega
        obtain ⟨l₂, req', stage', out', hsend, haddr', hblock'', hl₂⟩ := sendGetRequestNext_talk
          hs hsize (show blockNumber + 1 + 1 < 2 ^ 32 by omega)
          (t := next) (by rw [← hnext]; rfl) hl₁
        obtain ⟨l', hrun, hobjects⟩ := ih _ hshorter { next with sendSeq := next.sendSeq + 1 }
          (ys ++ (decodeRows fromDt toDt
            (splitLoadProfileRows (t.buf ++ left.take E.loadProfileBlockSize)).1).1)
          rfl (by omega) haddr' hblock'' hl₂ (by rw [← hnext]; exact hconstant)
        refine ⟨l', ?_, hobjects⟩
        rw [transferBlocks_eq, transferRound_ok _ _ _ _ _ hrecv, hpayload]
        show followStep _ _ _ _ (.ask next) _ = _
        rw [followStep_ok _ _ _ hsend, hrun, ← hnext]
        show _ = (_, _, ys ++ (_ ++ _))
        rw [← List.append_assoc]
        rfl

/-! ## The whole read -/

/-- The opening request is one for the profile. -/
theorem asksForProfile_range {target request : Bytes} (hprofile : E.loadProfileObis = some target)
    (htarget : target.length = 6) {classId : Int} {fromDt toDt : DateTime}
    (h : buildGetRequestRange target classId fromDt toDt 1 = .ok request) :
    E.asksForProfile request = true ∧ byteAt request 2 = .ok 1 := by
  unfold buildGetRequestRange at h
  rw [if_neg (not_not_intro htarget)] at h
  obtain ⟨descriptor, hdescriptor, h⟩ := Result.bind_eq_ok h
  obtain ⟨restricting, _, h⟩ := Result.bind_eq_ok h
  obtain ⟨fromValue, _, h⟩ := Result.bind_eq_ok h
  obtain ⟨toValue, _, h⟩ := Result.bind_eq_ok h
  obtain ⟨selectedValues, _, h⟩ := Result.bind_eq_ok h
  obtain ⟨accessParameters, _, h⟩ := Result.bind_eq_ok h
  cases h
  -- with every byte of the header in sight, the test computes
  obtain ⟨c, d, o₁, o₂, o₃, o₄, o₅, o₆, rfl, rfl, -⟩ := attributeDescriptor_ok htarget hdescriptor
  refine ⟨?_, rfl⟩
  unfold Emulator.asksForProfile
  rw [hprofile]
  simp [Bytes.slice]

/-- The opening request of the transfer is answered by the emulator with the first block. -/
theorem openProfile_talk (hs : 0 ≤ server ∧ server < 2 ^ 28)
    (hsize : E.loadProfileBlockSize ≤ maxValueLength) {target request data : Bytes}
    (hprofile : E.loadProfileObis = some target) (htarget : target.length = 6) {classId : Int}
    {fromDt toDt : DateTime} (hrequest : buildGetRequestRange target classId fromDt toDt 1 = .ok request)
    (hfits : (wrapLlcCommand request).length ≤ 2000) (hdata : E.profileBytes = .ok data)
    {l : Line Session} (hl : Talk ⟨.request, objects, attempt⟩ l []) :
    ∃ l' req stage out, sendIFrame E.meterSocket server defaultClientAddress 1 1
        (wrapLlcCommand request) l = (.ok (), l') ∧ req.Addressed ∧
      E.sendBlock req data 1 0 1 2 = .ok (stage, out) ∧
      Talk ⟨stage, objects, attempt⟩ l' out := by
  obtain ⟨hasks, hinvoke⟩ := asksForProfile_range hprofile htarget hrequest
  obtain ⟨raw, hraw⟩ := clientFrame_sent hs clientAddress_bounds (controlInformationFrame 1 1) _ hfits
  have haddr : (HdlcFrame.mk server defaultClientAddress (controlInformationFrame 1 1)
    (wrapLlcCommand request)).Addressed := ⟨hs, clientAddress_bounds⟩
  obtain ⟨info, out, -, -, hblock⟩ :=
    sendBlock_sent hsize _ haddr data 1 (show 0 + 1 < 2 ^ 32 by omega) 1 2
  have hhandler : E.onFrame attempt .request raw objects =
      (.ok (E.afterBlock data 1 0 1 2, out), objects) := by
    show E.onRequest attempt raw objects = _
    unfold Emulator.onRequest
    rw [hraw.decode, lift_ok_bind_run]
    show ((lift (.ok request) : Proc PyExc MeterObjects Bytes) >>= _) objects = _
    rw [lift_ok_bind_run, if_pos hasks, hinvoke, lift_ok_bind_run, hdata, lift_ok_bind_run, hblock]
    rfl
  obtain ⟨l', hsend, hl'⟩ := sendFrame_talk E (s := ⟨.request, objects, attempt⟩)
    (show SessionStage.request ≠ .closed by decide) hraw hl
  rw [serveFrame_ok E hhandler] at hl'
  refine ⟨l', _, _, out, ?_, haddr, hblock, hl'⟩
  unfold sendIFrame
  rw [show iFrame server defaultClientAddress 1 1 _ = .ok raw from hraw.encoded, lift_ok_bind_run]
  exact hsend

/-- The rows of the emulator as they are read back. -/
def Emulator.storedRows (E : Emulator) : List ProfileRow :=
  E.loadProfileRows.map fun row => ⟨row.1.wholeSeconds, row.2.map (·.readBack)⟩

/-- If all rows of a list can be encoded, the bytes are those of encoded rows, one by one. -/
theorem mapM_encodedRows : ∀ {rows : List (DateTime × List ProfileField)} {raws : List Bytes},
    rows.mapM (fun row => encodeLoadProfileRow row.1 row.2) = .ok raws →
      ∃ encoded : List EncodedRow, encoded.map EncodedRow.raw = raws ∧
        encoded.map (fun row => (row.timestamp, row.fields)) = rows := by
  intro rows
  induction rows with
  | nil =>
    intro raws h
    rw [List.mapM_nil] at h
    cases h
    exact ⟨[], rfl, rfl⟩
  | cons row rows ih =>
    intro raws h
    rw [List.mapM_cons] at h
    obtain ⟨raw, hraw, h⟩ := Result.bind_eq_ok h
    obtain ⟨raws, hraws, h⟩ := Result.bind_eq_ok h
    cases h
    obtain ⟨encoded, rfl, rfl⟩ := ih hraws
    exact ⟨⟨row.1, row.2, raw, hraw⟩ :: encoded, rfl, rfl⟩

/-- The bytes of the profile decode to its rows. -/
theorem profileBytes_rows {data : Bytes}
    (hscale : ∀ row ∈ E.loadProfileRows, ∀ f ∈ row.2, f.scale < 16) (hdata : E.profileBytes = .ok data) :
    (lastRows data).map decodeLoadProfileRow = E.storedRows.map .ok := by
  unfold Emulator.profileBytes at hdata
  obtain ⟨raws, hraws, hdata⟩ := Result.bind_eq_ok hdata
  cases hdata
  obtain ⟨encoded, rfl, hrows⟩ := mapM_encodedRows hraws
  rw [lastRows_encoded]
  unfold Emulator.storedRows
  rw [← hrows, List.map_map, List.map_map, List.map_map]
  refine List.map_congr_left fun row hrow => ?_
  refine decodeLoadProfileRow_encode (hscale (row.timestamp, row.fields) ?_) row.encoded
  rw [← hrows]
  exact List.mem_map_of_mem hrow

/-- A comparison with the window goes by the clock, unless it raises. -/
theorem inWindow_clock {fromDt toDt : DateTime} {row : ProfileRow} (hrow : row.timestamp.Plain)
    {inRange : Bool} (h : inWindow fromDt toDt row.timestamp = .ok inRange) :
    inRange = inWindowB fromDt toDt row := by
  obtain ⟨hfrom, hto | hbefore⟩ := (inWindow_comparable fromDt toDt hrow).mp ⟨inRange, h⟩
  · rw [inWindow_naive hfrom hto hrow] at h
    exact (Except.ok.inj h).symm
  · have hnot : ¬ fromDt.clock ≤ row.timestamp.clock := not_le.mpr hbefore
    unfold inWindow at h
    rw [DateTime.le?_naive hfrom hrow.2, decide_eq_false hnot] at h
    unfold inWindowB
    rw [decide_eq_false hnot, Bool.false_and]
    exact (Except.ok.inj h).symm

/-- Whatever the zones of the window: what comes are first rows of the window, and all of them if
    no comparison raises. -/
theorem decodeRows_window (fromDt toDt : DateTime) : ∀ {raws : List Bytes} {decoded : List ProfileRow},
    raws.map decodeLoadProfileRow = decoded.map .ok →
      (decodeRows fromDt toDt raws).1 <+: decoded.filter (inWindowB fromDt toDt) ∧
      ((decodeRows fromDt toDt raws).2 = .ok () →
        (decodeRows fromDt toDt raws).1 = decoded.filter (inWindowB fromDt toDt)) := by
  intro raws
  induction raws with
  | nil =>
    intro decoded h
    cases decoded with
    | nil => exact ⟨List.prefix_refl _, fun _ => rfl⟩
    | cons row rows => cases h
  | cons raw raws ih =>
    intro decoded h
    cases decoded with
    | nil => cases h
    | cons row rows =>
      obtain ⟨hrow, hrows⟩ := List.cons.inj h
      obtain ⟨hfirst, hall⟩ := ih hrows
      rw [decodeRows, decodeRowIfInRange, hrow, Result.ok_bind]
      cases hwindow : inWindow fromDt toDt row.timestamp with
      | error e => exact ⟨List.nil_prefix, fun hok => by cases hok⟩
      | ok inRange =>
        rw [Result.ok_bind, inWindow_clock (decodeLoadProfileRow_plain hrow) hwindow, List.filter_cons]
        cases inWindowB fromDt toDt row with
        | true => exact ⟨(List.prefix_cons_inj row).mpr hfirst, fun hok => congrArg _ (hall hok)⟩
        | false => exact ⟨hfirst, hall⟩

/-- The read on a line where a session begins: with the password every row is decoded that is there. -/
theorem readLoadProfile_decoded {serial obis : String} (haddr : serverAddress serial = .ok server)
    {password aarq target data : Bytes} (haarq : buildAarq password userInformationInitiate = .ok aarq)
    (hprofile : E.loadProfileObis = some target) (hobis : parseObis obis = .ok target) {classId : Int}
    (hclass : 0 ≤ effectiveProfileClassId classId ∧ effectiveProfileClassId classId < 65536)
    (fromDt toDt : DateTime) (hsize : E.loadProfileBlockSize ≤ maxValueLength)
    (hdata : E.profileBytes = .ok data) (hlength : data.length + 1 < 2 ^ 32) {l : Line Session}
    (hl : Talk ⟨.snrm, objects, attempt⟩ l []) :
    ∃ l', readLoadProfile E.meterSocket serial password obis classId fromDt toDt (l, []) =
        (if E.accepts password then ((decodeRows fromDt toDt (lastRows data)).2,
            (l', (decodeRows fromDt toDt (lastRows data)).1))
          else (.error authFailed, (l', []))) ∧
      l'.server.objects = objects := by
  have hs := serverAddress_bounds haddr
  have htarget := parseObis_length hobis
  obtain ⟨l₁, hlink, hl₁⟩ := establishLink_talk E hs clientAddress_bounds hl
  obtain ⟨l₂, hassociate, hl₂⟩ := associate_talk E hs clientAddress_bounds haarq hl₁
  obtain ⟨address, haddress, hserver⟩ := Result.bind_eq_ok haddr
  unfold readLoadProfile
  rw [haddr, lift_ok_bind_run, bind_ok (within_run hlink []), haddress, lift_ok_bind_run]
  unfold readLoadProfileViaEstablishedLink
  rw [hserver, lift_ok_bind_run]
  by_cases haccepts : E.accepts password = true
  · rw [if_pos haccepts] at hassociate hl₂
    rcases buildGetRequestRange_cases htarget (effectiveProfileClassId classId) fromDt toDt 1 with
      ⟨-, request, hrequest, hfits⟩ | ⟨hno, -⟩
    swap
    · exact absurd hclass hno
    obtain ⟨l₃, req, stage, out, hsend, hreq, hblock, hl₃⟩ :=
      openProfile_talk hs hsize hprofile htarget hrequest hfits hdata hl₂
    obtain ⟨l', hrun, hobjects⟩ := blocks_talk fromDt toDt hs hsize data.length {} [] rfl
      (by omega) hreq hblock hl₃ rfl
    refine ⟨l', ?_, hobjects⟩
    rw [if_pos haccepts, bind_ok (within_run hassociate []), hobis, lift_ok_bind_run, hrequest,
      lift_ok_bind_run, bind_ok (within_run hsend []), hrun]
    rfl
  · rw [if_neg haccepts] at hassociate hl₂
    refine ⟨l₂, ?_, by rw [hl₂.server]⟩
    rw [if_neg haccepts]
    exact bind_error (within_run hassociate [])

/-- A code that cannot be read as one is noticed behind the association, before anything is asked. -/
theorem readLoadProfile_unparsed {serial obis : String} (haddr : serverAddress serial = .ok server)
    {password aarq : Bytes} (haarq : buildAarq password userInformationInitiate = .ok aarq) {e : PyExc}
    (hobis : parseObis obis = .error e) (classId : Int) (fromDt toDt : DateTime) {l : Line Session}
    (hl : Talk ⟨.snrm, objects, attempt⟩ l []) :
    ∃ l', readLoadProfile E.meterSocket serial password obis classId fromDt toDt (l, []) =
      (.error (if E.accepts password then e else authFailed), (l', [])) := by
  have hs := serverAddress_bounds haddr
  obtain ⟨l₁, hlink, hl₁⟩ := establishLink_talk E hs clientAddress_bounds hl
  obtain ⟨l₂, hassociate, -⟩ := associate_talk E hs clientAddress_bounds haarq hl₁
  obtain ⟨address, haddress, hserver⟩ := Result.bind_eq_ok haddr
  refine ⟨l₂, ?_⟩
  unfold readLoadProfile
  rw [haddr, lift_ok_bind_run, bind_ok (within_run hlink []), haddress, lift_ok_bind_run]
  unfold readLoadProfileViaEstablishedLink
  rw [hserver, lift_ok_bind_run]
  by_cases haccepts : E.accepts password = true
  · rw [if_pos haccepts] at hassociate ⊢
    rw [bind_ok (within_run hassociate []), hobis, lift_error_bind_run]
  · rw [if_neg haccepts] at hassociate ⊢
    exact bind_error (within_run hassociate [])

/-- **The load profile, end to end.**  With the password the read yields the rows of the window, in
    order, whatever the size of the blocks; without it nothing comes. -/
theorem readLoadProfile_talk (attempt : Nat) {serial obis : String}
    (haddr : serverAddress serial = .ok server) {password aarq target data : Bytes}
    (haarq : buildAarq password userInformationInitiate = .ok aarq)
    (hprofile : E.loadProfileObis = some target) (hobis : parseObis obis = .ok target) {classId : Int}
    (hclass : 0 ≤ effectiveProfileClassId classId ∧ effectiveProfileClassId classId < 65536)
    {fromDt toDt : DateTime} (hfrom : fromDt.utcoffset = none) (hto : toDt.utcoffset = none)
    (hsize : E.loadProfileBlockSize ≤ maxValueLength)
    (hscale : ∀ row ∈ E.loadProfileRows, ∀ f ∈ row.2, f.scale < 16) (hdata : E.profileBytes = .ok data)
    (hlength : data.length + 1 < 2 ^ 32) (objects : MeterObjects) :
    ∃ l', readLoadProfile E.meterSocket serial password obis classId fromDt toDt
          ({ server := ⟨.snrm, objects, attempt⟩ }, []) =
        (if E.accepts password then (.ok (), (l', E.storedRows.filter (inWindowB fromDt toDt)))
          else (.error authFailed, (l', []))) ∧
      l'.server.objects = objects := by
  have hrows := decodeRows_ok hfrom hto (profileBytes_rows hscale hdata)
  obtain ⟨l', hrun, hobjects⟩ := readLoadProfile_decoded haddr haarq hprofile hobis hclass fromDt toDt
    hsize hdata hlength (l := { server := ⟨.snrm, objects, attempt⟩ }) ⟨rfl, rfl, rfl⟩
  rw [hrows] at hrun
  exact ⟨l', hrun, hobjects⟩

end Blocks

/-- Two rows, sent byte by byte. -/
def profileMeter : Emulator where
  password := List.replicate 8 0x30
  loadProfileObis := some [1, 0, 0x99, 1, 0, 0xFF]
  loadProfileRows := [(halfPastMidnight.timestamp, halfPastMidnight.fields),
    (oneOClock.timestamp, oneOClock.fields)]
  loadProfileBlockSize := 1

theorem readLoadProfile_talk_bytewise :
    ∃ l', readLoadProfile profileMeter.meterSocket "202310012345" (List.replicate 8 0x30)
          "1.0.99.1.0.ff" 7 midnight quarterToOne ({ server := ⟨.snrm, emptyObjects, 1⟩ }, []) =
        (if profileMeter.accepts (List.replicate 8 0x30) then
          (.ok (), (l', profileMeter.storedRows.filter (inWindowB midnight quarterToOne)))
          else (.error authFailed, (l', []))) ∧
      l'.server.objects = emptyObjects := by
  obtain ⟨aarq, haarq⟩ := eight_fits
    (show (buildAarq (List.replicate 8 0x30) userInformationInitiate).isOk = true by decide)
  exact readLoadProfile_talk 1 threeVisits_address haarq rfl
    (show parseObis "1.0.99.1.0.ff" = .ok [1, 0, 0x99, 1, 0, 0xFF] by decide) (by decide) rfl rfl
    (by decide) (by decide)
    (show profileMeter.profileBytes = .ok (halfPastMidnight.raw ++ oneOClock.raw) by decide +kernel)
    (by decide) emptyObjects

end RiseSun.Gateway
