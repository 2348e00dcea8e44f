/-
  Numbers and invoke ids of the GETs of one association.

  What goes out after the AARE does not depend on what the meter answers, except in where it ends:
  an error that is RETURNED for a register moves both counters as a value does, and one that is
  RAISED ends the reading.  So the messages are a front part of a list that is fixed beforehand.

  1. **The list** (`batchGets`) — two GETs for class Register, one for any other, numbered through.

  2. **Sent in order** (`registerLoop_sends`) — on a watched socket, whatever the meter does.

  3. **The counters** (`gets_spec`) — by induction on the batch.  A register starts at an id of
     at most 14, so the wrap goes back to 1 from 14 or 15.

  4. **`gets_numbered`** — read off the bytes that were sent.  A watched socket does what the socket
     inside does (`readRegisters_mirrors`).
-/
import RiseSun.Gateway.AbsoluteDeadline
import RiseSun.Gateway.Registers
import RiseSun.Gateway.RoundTrips

namespace RiseSun.Gateway

open Proc

variable {σ α β ε : Type}

/-! ## The GETs of a batch -/

/-- One GET, as the counters stand when it is made. -/
structure NumberedGet where
  sendSeq : Nat
  invokeId : Nat
  obis : String
  attributeId : UInt8
  classId : Int
  deriving DecidableEq, Repr

/-- The frame of a GET, unless its OBIS code or its class cannot be written. -/
def NumberedGet.frame (server client : Int) (get : NumberedGet) : Except PyExc Bytes := do
  let obis ← parseObis get.obis
  let request ← buildGetRequest obis (UInt8.ofNat get.invokeId) get.attributeId get.classId
  iFrame server client get.sendSeq get.sendSeq (wrapLlcCommand request)

/-- The GETs of one register. -/
def getsOf (sendSeq invokeId : Nat) (obis : String) (classId : Int) : List NumberedGet :=
  if classId = registerClassId then
    [⟨sendSeq, invokeId, obis, registerScalerUnitAttribute, classId⟩,
      ⟨sendSeq + 1, invokeId + 1, valueObis obis, registerValueAttribute, classId⟩]
  else [⟨sendSeq, invokeId, valueObis obis, registerValueAttribute, classId⟩]

/-- The GETs of a batch, if it is read to its end. -/
def batchGets : List (String × Int) → (sendSeq invokeId : Nat) → List NumberedGet
  | [], _, _ => []
  | (obis, rawClassId) :: specs, sendSeq, invokeId =>
    let classId := effectiveClassId rawClassId
    getsOf sendSeq invokeId obis classId ++
      batchGets specs (sendSeq + (getsOf sendSeq invokeId obis classId).length)
        (nextInvokeId classId invokeId)

/-! ## The counters -/

/-- The GETs of one register take the next numbers and ids, and the wrap is looked at after them. -/
theorem getsOf_spec (sendSeq invokeId : Nat) (obis : String) (classId : Int) :
    let own := getsOf sendSeq invokeId obis classId
    (own.length = 1 ∨ own.length = 2) ∧
    nextInvokeId classId invokeId =
      (if 14 < invokeId + own.length then 1 else invokeId + own.length) ∧
    ∀ k get, own[k]? = some get → get.sendSeq = sendSeq + k ∧ get.invokeId = invokeId + k := by
  dsimp only
  unfold getsOf nextInvokeId
  split
  · refine ⟨.inr rfl, rfl, fun k get h => ?_⟩
    match k with
    | 0 =>
      obtain rfl := Option.some.inj h
      exact ⟨rfl, rfl⟩
    | 1 =>
      obtain rfl := Option.some.inj h
      exact ⟨rfl, rfl⟩
    | k + 2 => cases h
  · refine ⟨.inl rfl, rfl, fun k get h => ?_⟩
    match k with
    | 0 =>
      obtain rfl := Option.some.inj h
      exact ⟨rfl, rfl⟩
    | k + 1 => cases h

/-- The `k`-th GET: numbered through, with an id of four bits that is not 0 and not that of the GET
    after it. -/
theorem gets_spec : ∀ (specs : List (String × Int)) (sendSeq invokeId : Nat),
    1 ≤ invokeId → invokeId ≤ 14 → ∀ k get, (batchGets specs sendSeq invokeId)[k]? = some get →
      get.sendSeq = sendSeq + k ∧ (1 ≤ get.invokeId ∧ get.invokeId ≤ 15) ∧
      (k = 0 → get.invokeId = invokeId) ∧
      ∀ get', (batchGets specs sendSeq invokeId)[k + 1]? = some get' → get.invokeId ≠ get'.invokeId := by
  intro specs
  induction specs with
  | nil =>
    intro sendSeq invokeId _ _ k get h
    cases h
  | cons spec specs ih =>
    intro sendSeq invokeId hpos hle k get h
    obtain ⟨hlength, hnext, hown⟩ :=
      getsOf_spec sendSeq invokeId spec.1 (effectiveClassId spec.2)
    rw [batchGets] at h ⊢
    generalize getsOf sendSeq invokeId spec.1 (effectiveClassId spec.2) = own at h hlength hnext hown ⊢
    have hrest := ih (sendSeq + own.length) (nextInvokeId (effectiveClassId spec.2) invokeId)
      (by rw [hnext]; split <;> omega) (by rw [hnext]; split <;> omega)
    rcases Nat.lt_or_ge k own.length with hk | hk
    · rw [List.getElem?_append_left hk] at h
      obtain ⟨hseq, hid⟩ := hown k get h
      refine ⟨hseq, by omega, by omega, fun get' h' => ?_⟩
      rcases Nat.lt_or_ge (k + 1) own.length with hk' | hk'
      · rw [List.getElem?_append_left hk'] at h'
        have hid' := (hown (k + 1) get' h').2
        omega
      -- the GET after it is the first of the next register: one more, or 1 again
      · rw [List.getElem?_append_right hk'] at h'
        have hid' := (hrest _ get' h').2.2.1 (by omega)
        rw [hid', hnext]
        split <;> omega
    · rw [List.getElem?_append_right hk] at h
      obtain ⟨hseq, hids, -, happart⟩ := hrest _ get h
      refine ⟨by omega, hids, fun hzero => by omega, fun get' h' => ?_⟩
      rw [List.getElem?_append_right (by omega), Nat.sub_add_comm hk] at h'
      exact happart get' h'

/-! ## What is sent -/

/-- `x` sends a front part of these frames, as far as they can be written, and all of them if it
    returns. -/
def SendsFrames (x : Proc ε (Watched σ) α) (frames : List (Except PyExc Bytes)) : Prop :=
  ∀ w, ∃ out, (x w).2.sent = w.sent ++ out ∧ out.map .ok <+: frames ∧
    ∀ a, (x w).1 = .ok a → out.map .ok = frames

theorem SendsFrames.nothing {x : Proc ε (Watched σ) α}
    (h : ∀ sent, Keeps (fun w => w.sent = sent) x) : SendsFrames x [] :=
  fun w => ⟨[], (h w.sent w rfl).trans (List.append_nil _).symm, List.prefix_rfl, fun _ _ => rfl⟩

theorem SendsFrames.bind {x : Proc ε (Watched σ) α} {f : α → Proc ε (Watched σ) β}
    {first second : List (Except PyExc Bytes)} (hx : SendsFrames x first)
    (hf : ∀ a, SendsFrames (f a) second) : SendsFrames (x >>= f) (first ++ second) := by
  intro w
  obtain ⟨out, hsent, hpre, hall⟩ := hx w
  rcases h : x w with ⟨e | a, w'⟩
  · rw [h] at hsent
    rw [bind_error h]
    exact ⟨out, hsent, hpre.trans (List.prefix_append _ _), fun b hb => (nomatch hb)⟩
  · rw [h] at hsent hall
    obtain ⟨out', hsent', hpre', hall'⟩ := hf a w'
    have hfirst := hall a rfl
    rw [bind_ok h]
    refine ⟨out ++ out', ?_, ?_, fun b hb => ?_⟩
    · rw [hsent', hsent, List.append_assoc]
    · rw [List.map_append, hfirst]
      exact (List.prefix_append_right_inj first).mpr hpre'
    · rw [List.map_append, hfirst, hall' b hb]

/-- A result that has to be there first. -/
theorem SendsFrames.lift {r : Except PyExc β} {f : β → Proc PyExc (Watched σ) α}
    {frames : List (Except PyExc Bytes)} (hf : ∀ b, r = .ok b → SendsFrames (f b) frames) :
    SendsFrames (lift r >>= f) frames := by
  cases r with
  | ok b => exact hf b rfl
  | error e =>
    exact fun w => ⟨[], (List.append_nil _).symm, List.nil_prefix, fun _ h => (nomatch h)⟩

section Messages

variable (M : MeterSocket σ) (server client : Int)

theorem sendIFrame_sends (sendSeq recvSeq : Nat) (information : Bytes) :
    SendsFrames (sendIFrame (watching M) server client sendSeq recvSeq information)
      [iFrame server client sendSeq recvSeq information] := by
  unfold sendIFrame
  refine SendsFrames.lift fun raw hraw w => ?_
  obtain ⟨out, hsent, hpre, hall⟩ := send_sends M raw w
  rw [hraw]
  refine ⟨out, hsent, hpre.map _, fun a ha => ?_⟩
  rw [hall a ha]
  rfl

/-- One GET sends its frame, and waiting for the answer sends nothing. -/
theorem getAttribute_sends (get : NumberedGet) {parsedObis : Bytes}
    (hobis : parseObis get.obis = .ok parsedObis) :
    SendsFrames (getAttribute (watching M) server client get.sendSeq get.invokeId parsedObis
      get.attributeId get.classId) [get.frame server client] := by
  unfold getAttribute
  refine SendsFrames.lift fun request hrequest => ?_
  have hframe : get.frame server client =
      iFrame server client get.sendSeq get.sendSeq (wrapLlcCommand request) := by
    rw [NumberedGet.frame, hobis, Result.ok_bind, hrequest, Result.ok_bind]
  rw [hframe, ← List.append_nil [_]]
  exact SendsFrames.bind (sendIFrame_sends M server client _ _ _) fun _ =>
    SendsFrames.nothing fun sent => recvIFrameLoop_keeps (watching_receives M sent) _

theorem readValue_sends (sendSeq invokeId : Nat) (obis : String) {parsedValueObis : Bytes}
    (classId : Int) (scalerUnit : Value) (hobis : parseObis (valueObis obis) = .ok parsedValueObis) :
    SendsFrames (readValue (watching M) server client sendSeq invokeId obis parsedValueObis classId
        scalerUnit)
      [(NumberedGet.mk sendSeq invokeId (valueObis obis) registerValueAttribute classId).frame
        server client] := by
  unfold readValue getValue
  rw [← List.append_nil [_]]
  refine SendsFrames.bind (getAttribute_sends M server client ⟨_, _, _, _, _⟩ hobis) fun frame => ?_
  refine SendsFrames.nothing fun sent => ?_
  split
  · exact Keeps.pure _
  · split
    · exact Keeps.pure _
    · exact Keeps.raise _

/-- One register sends its GETs, whatever is answered. -/
theorem readOneRegister_sends (sendSeq : Nat) (obis : String) (classId : Int) (invokeId : Nat) :
    SendsFrames (readOneRegister (watching M) server client sendSeq obis classId invokeId)
      ((getsOf sendSeq invokeId obis classId).map (·.frame server client)) := by
  unfold readOneRegister getsOf
  refine SendsFrames.lift fun parsedObis hobis => SendsFrames.lift fun parsedValueObis hvalue => ?_
  have hvalueObis : parseObis (valueObis obis) = .ok parsedValueObis := by
    by_cases hsame : valueObis obis ≠ obis
    · rw [if_pos hsame] at hvalue
      exact hvalue
    · rw [if_neg hsame] at hvalue
      rw [not_not.mp hsame, hobis, hvalue]
  split
  · rw [List.map_cons, ← List.singleton_append]
    refine SendsFrames.bind (getAttribute_sends M server client ⟨_, _, _, _, _⟩ hobis) fun frame => ?_
    exact SendsFrames.lift fun scalerUnit _ =>
      readValue_sends M server client _ _ obis _ scalerUnit hvalueObis
  · exact readValue_sends M server client _ _ obis _ _ hvalueObis

/-- What a register that was read, or failed with an error, returns as the next number. -/
theorem readOneRegister_next {S : MeterSocket σ} {sendSeq invokeId next : Nat} {obis : String}
    {classId : Int} {result : Except GatewayError RegisterValue} {s s' : σ}
    (h : readOneRegister S server client sendSeq obis classId invokeId s = (.ok (result, next), s')) :
    next = sendSeq + (getsOf sendSeq invokeId obis classId).length := by
  unfold getsOf
  split
  · obtain rfl := by assumption
    obtain ⟨_, _, _, _, _, -, -, -, -, hread⟩ := readOneRegister_ok h
    exact (readValue_ok hread).choose_spec.2.1
  · unfold readOneRegister at h
    obtain ⟨_, _, h⟩ := lift_bind_eq_ok h
    obtain ⟨_, _, h⟩ := lift_bind_eq_ok h
    rw [if_neg (by assumption)] at h
    exact (readValue_ok h).choose_spec.2.1

/-- The loop sends the GETs of its registers in order, up to where the reading ends. -/
theorem registerLoop_sends : ∀ (specs : List (String × Int)) (sendSeq invokeId : Nat)
    (results : List RegisterReadOutcome) (w : Watched σ),
    ∃ out, (registerLoop (watching M) server client specs sendSeq invokeId results w).2.sent =
        w.sent ++ out ∧
      out.map .ok <+: (batchGets specs sendSeq invokeId).map (·.frame server client) := by
  intro specs
  induction specs with
  | nil =>
    intro sendSeq invokeId results w
    exact ⟨[], (List.append_nil _).symm, List.nil_prefix⟩
  | cons spec specs ih =>
    obtain ⟨obis, rawClassId⟩ := spec
    intro sendSeq invokeId results w
    obtain ⟨out, hsent, hpre, hall⟩ :=
      readOneRegister_sends M server client sendSeq obis (effectiveClassId rawClassId) invokeId w
    rw [registerLoop, batchGets, List.map_append, attempt_bind_run]
    rcases hread : readOneRegister (watching M) server client sendSeq obis
      (effectiveClassId rawClassId) invokeId w with ⟨e | ⟨result, next⟩, w'⟩
    -- the reading ends here, with or without an exception
    · rw [hread] at hsent
      refine ⟨out, ?_, hpre.trans (List.prefix_append _ _)⟩
      dsimp only
      split
      · exact hsent
      · exact hsent
    · rw [hread] at hsent hall
      obtain rfl := readOneRegister_next server client hread
      obtain ⟨more, hmore, hmorePre⟩ := ih _ (nextInvokeId (effectiveClassId rawClassId) invokeId)
        (results ++ [.of obis result]) w'
      refine ⟨out ++ more, ?_, ?_⟩
      · rw [hmore, hsent, List.append_assoc]
      · rw [List.map_append, hall _ rfl]
        exact (List.prefix_append_right_inj _).mpr hmorePre

end Messages

/-! ## Numbering -/

/-- N(S) in the control byte of an I-frame. -/
def sendNumber (control : UInt8) : Nat := (control.toNat >>> 1) &&& 0x7

/-- N(R) in the control byte of an I-frame. -/
def receiveNumber (control : UInt8) : Nat := control.toNat >>> 5

/-- The bytes are the `k`-th I-frame, with the poll bit set and a GET inside. -/
def IsGetFrame (k : Nat) (invokeId : UInt8) (raw : Bytes) : Prop :=
  ∃ frame, HdlcFrame.decode raw = .ok frame ∧
    frame.control &&& 0x01 = 0 ∧ frame.control &&& 0x10 = 0x10 ∧
    sendNumber frame.control = k % 8 ∧ receiveNumber frame.control = k % 8 ∧
    ∃ get, (unwrapLlc frame.information >>= parseGetRequest) = .ok get ∧ get.invokeId = invokeId

/-- The fields of a control byte are the numbers modulo 8. -/
theorem controlInformationFrame_fields (n : Nat) :
    let control := controlInformationFrame n n
    control &&& 0x01 = 0 ∧ control &&& 0x10 = 0x10 ∧ sendNumber control = n % 8 ∧
      receiveNumber control = n % 8 := by
  have hmask : n &&& 0x7 = n % 8 := Nat.and_two_pow_sub_one_eq_mod n 3
  dsimp only
  unfold controlInformationFrame
  rw [hmask]
  have hlt : n % 8 < 8 := Nat.mod_lt _ (by decide)
  generalize n % 8 = r at hlt ⊢
  revert r
  decide

theorem buildGetRequest_length {obis request : Bytes} {invokeId attributeId : UInt8} {classId : Int}
    (h : buildGetRequest obis invokeId attributeId classId = .ok request) : request.length = 13 := by
  rw [buildGetRequest] at h
  rcases ite_eq_iff.mp h with ⟨_, h⟩ | ⟨hobis, h⟩
  · cases h
  obtain ⟨descriptor, hdescriptor, h⟩ := Result.bind_eq_ok h
  obtain ⟨_, _, _, _, _, _, _, _, rfl, -, -⟩ := attributeDescriptor_ok (not_not.mp hobis) hdescriptor
  obtain rfl := Except.ok.inj h
  rfl

/-- A frame that was written is read as it was made. -/
theorem NumberedGet.frame_isGetFrame {server client : Int} {get : NumberedGet} {raw : Bytes}
    (h : get.frame server client = .ok raw) :
    IsGetFrame get.sendSeq (UInt8.ofNat get.invokeId) raw := by
  obtain ⟨obis, -, h⟩ := Result.bind_eq_ok h
  obtain ⟨request, hrequest, h⟩ := Result.bind_eq_ok h
  have hlen := buildGetRequest_length hrequest
  obtain ⟨raw', hraw', -, hdecode⟩ := frame_roundtrip (encode_totalLength h).1
    (HdlcFrame.totalLength_short (by
      show (llcCommandHeader ++ request).length ≤ 2003
      rw [List.length_append, hlen]
      decide))
  obtain rfl := Except.ok.inj (hraw'.symm.trans h)
  obtain ⟨hinformation, hpoll, hsend, hreceive⟩ := controlInformationFrame_fields get.sendSeq
  exact ⟨_, hdecode, hinformation, hpoll, hsend, hreceive, _, parseGetRequest_build hrequest, rfl⟩

/-- The reading up to the AARE that accepts the client. -/
def openAssociation (S : MeterSocket σ) (physicalAddress : String)
    (password userInformation : Bytes) (options : AarqOptions) : Proc PyExc σ Unit := do
  let server ← lift (serverHdlcAddress physicalAddress 1)
  associate S server defaultClientAddress password userInformation options

/-- After the association the reading sends the GETs of its registers, up to where it ends. -/
theorem readRegistersViaEstablishedLink_sends (M : MeterSocket σ) (physicalAddress : String)
    (password userInformation : Bytes) (options : AarqOptions) (obisSpecs : List (String × Int))
    (w : Watched σ) : ∃ (server : Int) (requests : List Bytes),
    (readRegistersViaEstablishedLink (watching M) physicalAddress password userInformation options
        obisSpecs w).2.sent =
      (openAssociation (watching M) physicalAddress password userInformation options w).2.sent ++
        requests ∧
    requests.map .ok <+: (batchGets obisSpecs 1 1).map (·.frame server defaultClientAddress) := by
  unfold readRegistersViaEstablishedLink openAssociation
  cases serverHdlcAddress physicalAddress 1 with
  | error e => exact ⟨0, [], (List.append_nil _).symm, List.nil_prefix⟩
  | ok server =>
    refine ⟨server, ?_⟩
    rw [lift_ok_bind_run, lift_ok_bind_run]
    rcases hassociate : associate (watching M) server defaultClientAddress password
      userInformation options w with ⟨e | _, w'⟩
    · rw [bind_error hassociate]
      exact ⟨[], (List.append_nil _).symm, List.nil_prefix⟩
    · rw [bind_ok hassociate]
      exact registerLoop_sends M server defaultClientAddress obisSpecs 1 1 [] w'

/-- Whatever the meter answers, the `k`-th I-frame after the association has N(S) = N(R) = k mod 8
    and a GET with an invoke id in 1..15, and no id is sent twice in a row. -/
theorem gets_numbered (M : MeterSocket σ) (physicalAddress : String)
    (password userInformation : Bytes) (options : AarqOptions) (obisSpecs : List (String × Int))
    (w : Watched σ) : ∃ (requests : List Bytes) (invokeIds : List UInt8),
    (readRegistersViaEstablishedLink (watching M) physicalAddress password userInformation options
        obisSpecs w).2.sent =
      (openAssociation (watching M) physicalAddress password userInformation options w).2.sent ++
        requests ∧
    requests.length = invokeIds.length ∧
    (∀ k raw invokeId, requests[k]? = some raw → invokeIds[k]? = some invokeId →
      IsGetFrame (k + 1) invokeId raw) ∧
    (∀ invokeId ∈ invokeIds, 1 ≤ invokeId ∧ invokeId ≤ 15) ∧
    invokeIds.IsChain (· ≠ ·) := by
  obtain ⟨server, requests, hsent, rest, hrest⟩ := readRegistersViaEstablishedLink_sends M
    physicalAddress password userInformation options obisSpecs w
  have hle : requests.length ≤ (batchGets obisSpecs 1 1).length := by
    have hlen := congrArg List.length hrest
    rw [List.length_append, List.length_map, List.length_map] at hlen
    omega
  have hspec := gets_spec obisSpecs 1 1 (by decide) (by decide)
  have hbyte : ∀ {k : Nat} {get : NumberedGet}, (batchGets obisSpecs 1 1)[k]? = some get →
      (UInt8.ofNat get.invokeId).toNat = get.invokeId := fun hget =>
    UInt8.toNat_ofNat_of_lt' (Nat.lt_of_le_of_lt (hspec _ _ hget).2.1.2 (by decide))
  refine ⟨requests, ((batchGets obisSpecs 1 1).take requests.length).map (UInt8.ofNat ·.invokeId), hsent,
    ?_, fun k raw invokeId hraw hid => ?_, fun invokeId hid => ?_, ?_⟩
  · rw [List.length_map, List.length_take, Nat.min_eq_left hle]
  · have hk := (List.getElem?_eq_some_iff.mp hraw).1
    rw [List.getElem?_map, List.getElem?_take_of_lt hk] at hid
    obtain ⟨get, hget, rfl⟩ := Option.map_eq_some_iff.mp hid
    have hframe : get.frame server defaultClientAddress = .ok raw := by
      have hsame := congrArg (·[k]?) hrest
      rw [List.getElem?_append_left (by rwa [List.length_map]), List.getElem?_map, hraw,
        List.getElem?_map, hget] at hsame
      exact (Option.some.inj hsame).symm
    rw [Nat.add_comm, ← (hspec k get hget).1]
    exact NumberedGet.frame_isGetFrame hframe
  · obtain ⟨get, hget, rfl⟩ := List.mem_map.mp hid
    obtain ⟨k, hk⟩ := List.mem_iff_getElem?.mp (List.mem_of_mem_take hget)
    rw [UInt8.le_iff_toNat_le, UInt8.le_iff_toNat_le, hbyte hk]
    exact (hspec k get hk).2.1
  · rw [List.isChain_iff_getElem]
    intro k hk
    rw [List.length_map, List.length_take, Nat.min_eq_left hle] at hk
    have hget := List.getElem?_eq_getElem (Nat.lt_of_lt_of_le (Nat.lt_of_succ_lt hk) hle)
    have hget' := List.getElem?_eq_getElem (Nat.lt_of_lt_of_le hk hle)
    rw [List.getElem_map, List.getElem_map, List.getElem_take, List.getElem_take]
    intro heq
    refine (hspec k _ hget).2.2.2 _ hget' ?_
    rw [← hbyte hget, ← hbyte hget', heq]

end RiseSun.Gateway
