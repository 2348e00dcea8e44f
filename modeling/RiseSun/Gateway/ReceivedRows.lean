/-
  The rows of a load profile transfer, told from what was received.

  1. **One payload** (`payloadBlock`) — the data block in it; an answer in one piece counts as a last
     block.  `onPayload_eq` is what the source does with a payload in these terms.

  2. **All payloads** (`payloadsReceived`, `rowsReceived`) — the payloads of a transfer, and the rows
     whose end has come with them.

  3. **The rows that come out** (`transferLoop_rows`) — whatever the meter does, they are those of
     `rowsReceived` up to the first that does not decode.  The induction is on the rounds; what is
     kept back for the next block holds no complete row.
-/
import RiseSun.Gateway.Reassembly

namespace RiseSun.Gateway

open Proc

variable {σ : Type}

/-! ## What a payload carries -/

/-- The block in a payload; an answer in one piece counts as a last block. -/
def payloadBlock (payload : Bytes) : Except PyExc DatablockResult :=
  if payload[1]? = some getResponseNormal then
    if payload.length < 4 ∨ payload[3]? ≠ some resultData then
      .error (.plain [.text "Неожиданный GET.response-normal при чтении профиля нагрузки: ",
        .hex payload])
    else .ok ⟨true, 0, payload.drop 4⟩
  else if payload[1]? ≠ some getResponseWithDatablock then
    .error (.plain [.text "Неожиданный тип GET.response при чтении профиля нагрузки: ",
      .hex (payload.take 2)])
  else parseGetResponseDatablock payload

/-- Access error 16 in place of a block. -/
def Refuses (payload : Bytes) : Prop :=
  payload[1]? = some getResponseWithDatablock ∧ isNoLongGetInProgress payload = true

instance (payload : Bytes) : Decidable (Refuses payload) := by
  unfold Refuses; exact inferInstance

/-- A refusal is never parsed, and what is raised is a plain `GatewayError`. -/
theorem Refuses.parse {payload : Bytes} (h : Refuses payload) :
    ∃ message, parseGetResponseDatablock payload = .error (.plain message) := by
  by_cases htag : payload[0]? = some getResponseTag
  · exact (IsRefusal.mk htag h.1 h.2).parse
  · refine ⟨[.text "Ожидался GET.response-with-datablock (тег 0xC4 0x02)"], ?_⟩
    unfold parseGetResponseDatablock
    rw [if_pos (.inr (.inl htag))]

theorem Refuses.block {payload : Bytes} (h : Refuses payload) :
    ∃ message, payloadBlock payload = .error (.plain message) := by
  obtain ⟨message, hparse⟩ := h.parse
  refine ⟨message, ?_⟩
  unfold payloadBlock
  rw [h.1, if_neg (by decide), if_neg (by simp), hparse]

/-- The rows that a block completes. -/
def blockRows (buf : Bytes) (block : DatablockResult) : List Bytes :=
  if block.lastBlock then lastRows (buf ++ block.rawData)
  else (splitLoadProfileRows (buf ++ block.rawData)).1

/-- The transfer after a block that is not the last. -/
def Transfer.afterBlock (t : Transfer) (block : DatablockResult) : Transfer :=
  { t with
    buf := (splitLoadProfileRows (t.buf ++ block.rawData)).2
    invokeId := if t.useIncrementingInvokeId then bumpInvokeId t.invokeId else t.invokeId
    pendingBlockNumber := some (block.blockNumber + 1) }

/-- The transfer after the first refusal: the pending block is asked for again. -/
def Transfer.afterRefusal (t : Transfer) : Transfer :=
  { t with useIncrementingInvokeId := true, invokeId := bumpInvokeId t.invokeId }

/-- What the source does with a payload, in terms of its block. -/
theorem onPayload_eq (fromDt toDt : DateTime) (t : Transfer) (payload : Bytes) :
    onPayload fromDt toDt t payload =
      match payloadBlock payload with
      | .error e =>
        if Refuses payload ∧ t.useIncrementingInvokeId = false then
          ([], .ask t.afterRefusal)
        else ([], .failed e)
      | .ok block =>
        ((decodeRows fromDt toDt (blockRows t.buf block)).1,
          (if block.lastBlock then Step.done else .ask (t.afterBlock block)).after
            (decodeRows fromDt toDt (blockRows t.buf block)).2) := by
  unfold onPayload payloadBlock
  by_cases hnormal : payload[1]? = some getResponseNormal
  · have hrefuses : ¬ (Refuses payload ∧ t.useIncrementingInvokeId = false) := by
      rintro ⟨⟨htype, _⟩, _⟩
      rw [hnormal] at htype
      cases htype
    rw [if_pos hnormal, if_pos hnormal]
    by_cases hbad : payload.length < 4 ∨ payload[3]? ≠ some resultData
    · rw [if_pos hbad, if_pos hbad]
      exact (if_neg hrefuses).symm
    · rw [if_neg hbad, if_neg hbad]
      rfl
  · rw [if_neg hnormal, if_neg hnormal]
    by_cases htype : payload[1]? ≠ some getResponseWithDatablock
    · have hrefuses : ¬ (Refuses payload ∧ t.useIncrementingInvokeId = false) := fun h => htype h.1.1
      rw [if_pos htype, if_pos htype]
      exact (if_neg hrefuses).symm
    · rw [if_neg htype, if_neg htype]
      rw [not_not] at htype
      cases hparse : parseGetResponseDatablock payload with
      | ok block =>
        dsimp only
        unfold blockRows
        cases block.lastBlock with
        | true => rfl
        | false => rfl
      | error e =>
        dsimp only
        by_cases hcode : isNoLongGetInProgress payload = true
        · have hgateway : e.isGatewayError = true := by
            obtain ⟨message, hmessage⟩ := Refuses.parse ⟨htype, hcode⟩
            rw [hparse] at hmessage
            cases hmessage
            rfl
          cases hmode : t.useIncrementingInvokeId with
          | true =>
            rw [if_neg (fun h => h.2.2 rfl), if_neg (fun h => by cases h.2)]
          | false =>
            rw [if_pos ⟨hgateway, hcode, Bool.false_ne_true⟩, if_pos ⟨⟨htype, hcode⟩, rfl⟩]
            rfl
        · rw [if_neg (fun h => hcode h.2.1), if_neg (fun h => hcode h.1.2)]

/-! ## What was received -/

/-- The data a payload carries; none when it is a refusal or malformed. -/
def payloadData (payload : Bytes) : Bytes :=
  match payloadBlock payload with
  | .ok block => block.rawData
  | .error _ => []

/-- Whether the transfer reaches its last block with this payload. -/
def payloadEnds (payload : Bytes) : Bool :=
  match payloadBlock payload with
  | .ok block => block.lastBlock
  | .error _ => false

/-- The rows whose end has come with `payloads`, behind the bytes `buf` that were kept back: up to
    the last marker, or all of them when the last block has come. -/
def rowsReceived (buf : Bytes) (payloads : List Bytes) : List Bytes :=
  let data := buf ++ (payloads.map payloadData).flatten
  if payloads.any payloadEnds then lastRows data else (splitLoadProfileRows data).1

section Payload

variable {payload : Bytes}

theorem payloadData_ok {block : DatablockResult} (h : payloadBlock payload = .ok block) :
    payloadData payload = block.rawData := by
  simp only [payloadData, h]

theorem payloadData_error {e : PyExc} (h : payloadBlock payload = .error e) :
    payloadData payload = [] := by
  simp only [payloadData, h]

theorem payloadEnds_ok {block : DatablockResult} (h : payloadBlock payload = .ok block) :
    payloadEnds payload = block.lastBlock := by
  simp only [payloadEnds, h]

theorem payloadEnds_error {e : PyExc} (h : payloadBlock payload = .error e) :
    payloadEnds payload = false := by
  simp only [payloadEnds, h]

theorem rowsReceived_nil {buf : Bytes} (hbuf : (splitLoadProfileRows buf).1 = []) :
    rowsReceived buf [] = [] := by
  show (splitLoadProfileRows (buf ++ [])).1 = []
  rw [List.append_nil, hbuf]

/-- A payload without a block brings no row. -/
theorem rowsReceived_none {buf : Bytes} {payloads : List Bytes} {e : PyExc}
    (h : payloadBlock payload = .error e) :
    rowsReceived buf (payload :: payloads) = rowsReceived buf payloads := by
  unfold rowsReceived
  rw [List.map_cons, List.flatten_cons, payloadData_error h, List.nil_append, List.any_cons,
    payloadEnds_error h, Bool.false_or]

/-- The last block completes all the rows that are left in the buffer. -/
theorem rowsReceived_last {buf : Bytes} {block : DatablockResult}
    (h : payloadBlock payload = .ok block) (hlast : block.lastBlock = true) :
    rowsReceived buf [payload] = lastRows (buf ++ block.rawData) := by
  have hends : [payload].any payloadEnds = true := by
    rw [List.any_cons, payloadEnds_ok h, hlast, Bool.true_or]
  unfold rowsReceived
  rw [List.map_singleton, List.flatten_singleton, payloadData_ok h]
  exact if_pos hends

/-- Any other block completes the rows up to the last marker; the rest is kept back. -/
theorem rowsReceived_block {buf : Bytes} (payloads : List Bytes) {block : DatablockResult}
    (h : payloadBlock payload = .ok block) (hmore : block.lastBlock = false) :
    rowsReceived buf (payload :: payloads) =
      (splitLoadProfileRows (buf ++ block.rawData)).1 ++
        rowsReceived (splitLoadProfileRows (buf ++ block.rawData)).2 payloads := by
  unfold rowsReceived
  rw [List.map_cons, List.flatten_cons, payloadData_ok h, List.any_cons, payloadEnds_ok h, hmore,
    Bool.false_or, ← List.append_assoc]
  dsimp only
  by_cases hany : payloads.any payloadEnds = true
  · rw [if_pos hany, if_pos hany]
    exact Markers.complete_append ..
  · rw [if_neg hany, if_neg hany]
    exact congrArg Prod.fst (Markers.split_append ..)

end Payload

/-- What is kept back holds no complete row. -/
theorem splitLoadProfileRows_rest (buf : Bytes) :
    (splitLoadProfileRows (splitLoadProfileRows buf).2).1 = [] := by
  have h : (splitLoadProfileRows (buf ++ [])).1 = (splitLoadProfileRows buf).1 ++
      (splitLoadProfileRows ((splitLoadProfileRows buf).2 ++ [])).1 :=
    congrArg Prod.fst (Markers.split_append buf [])
  rw [List.append_nil, List.append_nil] at h
  exact List.self_eq_append_right.mp h

section Received

variable (S : MeterSocket σ) (server client : Int) (fromDt toDt : DateTime)

/-- The payloads received after a step; `again` gives those of the next rounds. -/
def payloadsAfter (again : Transfer → σ → List Bytes) : Step → σ → List Bytes
  | .ask t, s =>
    match sendGetRequestNext S server client t s with
    | (.ok (), s') => again { t with sendSeq := t.sendSeq + 1 } s'
    | (.error _, _) => []
  | _, _ => []

/-- The payloads that at most `fuel` rounds of the transfer receive. -/
def payloadsReceived : (fuel : Nat) → Transfer → σ → List Bytes
  | 0, _, _ => []
  | fuel + 1, t, s =>
    match recvPayload S s with
    | (.error _, _) => []
    | (.ok payload, s') =>
      payload :: payloadsAfter S server client (payloadsReceived fuel)
        (onPayload fromDt toDt t payload).2 s'

theorem payloadsAfter_sent {again : Transfer → σ → List Bytes} {t : Transfer} {s s' : σ}
    (h : sendGetRequestNext S server client t s = (.ok (), s')) :
    payloadsAfter S server client again (.ask t) s = again { t with sendSeq := t.sendSeq + 1 } s' := by
  simp only [payloadsAfter, h]

theorem payloadsAfter_unsent {again : Transfer → σ → List Bytes} {t : Transfer} {s s' : σ}
    {e : PyExc} (h : sendGetRequestNext S server client t s = (.error e, s')) :
    payloadsAfter S server client again (.ask t) s = [] := by
  simp only [payloadsAfter, h]

theorem payloadsReceived_ok {t : Transfer} {s s' : σ} {payload : Bytes} (fuel : Nat)
    (h : recvPayload S s = (.ok payload, s')) :
    payloadsReceived S server client fromDt toDt (fuel + 1) t s =
      payload :: payloadsAfter S server client (payloadsReceived S server client fromDt toDt fuel)
        (onPayload fromDt toDt t payload).2 s' := by
  rw [payloadsReceived, h]

theorem payloadsReceived_error {t : Transfer} {s s' : σ} {e : PyExc} (fuel : Nat)
    (h : recvPayload S s = (.error e, s')) :
    payloadsReceived S server client fromDt toDt (fuel + 1) t s = [] := by
  rw [payloadsReceived, h]

/-- What a run yields and how it ends, told from the payloads it received. -/
def RowsOf (buf : Bytes) (payloads : List Bytes) (ys : List ProfileRow)
    (run : Except PyExc Unit × (σ × List ProfileRow)) : Prop :=
  run.2.2 = ys ++ (decodeRows fromDt toDt (rowsReceived buf payloads)).1 ∧
    (run.1 = .ok () ↔ payloads.any payloadEnds = true ∧
      (decodeRows fromDt toDt (rowsReceived buf payloads)).2 = .ok ())

variable {fromDt toDt}

/-- A run that breaks off before anything comes. -/
theorem RowsOf.stopped {buf : Bytes} (hbuf : (splitLoadProfileRows buf).1 = []) (e : PyExc) (s : σ)
    (ys : List ProfileRow) : RowsOf fromDt toDt buf [] ys (.error e, (s, ys)) := by
  unfold RowsOf
  rw [rowsReceived_nil hbuf]
  refine ⟨(List.append_nil ys).symm, fun h => (nomatch h), fun h => ?_⟩
  cases h.1

/-- A payload without a block makes no difference. -/
theorem RowsOf.none {buf payload : Bytes} {payloads : List Bytes} {ys : List ProfileRow}
    {run : Except PyExc Unit × (σ × List ProfileRow)} {e : PyExc}
    (hblock : payloadBlock payload = .error e) (h : RowsOf fromDt toDt buf payloads ys run) :
    RowsOf fromDt toDt buf (payload :: payloads) ys run := by
  unfold RowsOf at h ⊢
  rwa [rowsReceived_none hblock, List.any_cons, payloadEnds_error hblock, Bool.false_or]

/-- After a last block the rows of the buffer are decoded, and nothing further is read. -/
theorem RowsOf.last (fromDt toDt : DateTime) (buf : Bytes) {payload : Bytes} {block : DatablockResult}
    (hblock : payloadBlock payload = .ok block) (hlast : block.lastBlock = true) (s : σ)
    (ys : List ProfileRow) :
    RowsOf fromDt toDt buf [payload] ys
      ((decodeRows fromDt toDt (lastRows (buf ++ block.rawData))).2,
        (s, ys ++ (decodeRows fromDt toDt (lastRows (buf ++ block.rawData))).1)) := by
  unfold RowsOf
  rw [rowsReceived_last hblock hlast, List.any_cons, payloadEnds_ok hblock, hlast]
  exact ⟨rfl, fun h => ⟨rfl, h⟩, fun h => h.2⟩

/-- A block whose rows do not all decode ends the run. -/
theorem RowsOf.failed {buf payload : Bytes} {block : DatablockResult} {e : PyExc}
    (hblock : payloadBlock payload = .ok block) (hmore : block.lastBlock = false)
    (herror : (decodeRows fromDt toDt (splitLoadProfileRows (buf ++ block.rawData)).1).2 = .error e)
    (s : σ) (ys : List ProfileRow) :
    RowsOf fromDt toDt buf [payload] ys
      (.error e,
        (s, ys ++ (decodeRows fromDt toDt (splitLoadProfileRows (buf ++ block.rawData)).1).1)) := by
  unfold RowsOf
  rw [rowsReceived_block [] hblock hmore, rowsReceived_nil (splitLoadProfileRows_rest _),
    List.append_nil]
  refine ⟨rfl, fun h => (nomatch h), fun h => ?_⟩
  rw [herror] at h
  cases h.2

/-- A block whose rows all decode, and a run from there on. -/
theorem RowsOf.block {buf payload : Bytes} {payloads : List Bytes} {block : DatablockResult}
    {ys : List ProfileRow} {run : Except PyExc Unit × (σ × List ProfileRow)}
    (hblock : payloadBlock payload = .ok block) (hmore : block.lastBlock = false)
    (hok : (decodeRows fromDt toDt (splitLoadProfileRows (buf ++ block.rawData)).1).2 = .ok ())
    (h : RowsOf fromDt toDt (splitLoadProfileRows (buf ++ block.rawData)).2 payloads
      (ys ++ (decodeRows fromDt toDt (splitLoadProfileRows (buf ++ block.rawData)).1).1) run) :
    RowsOf fromDt toDt buf (payload :: payloads) ys run := by
  unfold RowsOf at h ⊢
  rw [rowsReceived_block payloads hblock hmore, decodeRows_append, hok, List.any_cons,
    payloadEnds_ok hblock, hmore, Bool.false_or]
  rwa [List.append_assoc] at h

variable (fromDt toDt)

/-- **The rows of a transfer**: of the rows received, those in the window before the first that does
    not decode; and it ends well iff the last block has come and all of them decode. -/
theorem transferLoop_rows : ∀ (fuel : Nat) (t : Transfer) (s : σ) (ys : List ProfileRow),
    S.pending s < fuel → (splitLoadProfileRows t.buf).1 = [] →
      RowsOf fromDt toDt t.buf (payloadsReceived S server client fromDt toDt fuel t s) ys
        (transferLoop S server client fromDt toDt fuel t (s, ys)) := by
  intro fuel
  induction fuel with
  | zero =>
    intro t s ys h
    omega
  | succ fuel ih =>
    intro t s ys hfuel hbuf
    rw [transferLoop]
    rcases hrecv : recvPayload S s with ⟨e | payload, s₁⟩
    · rw [transferRound_error _ _ _ _ _ hrecv, payloadsReceived_error _ _ _ _ _ fuel hrecv]
      exact RowsOf.stopped hbuf e s₁ ys
    have hspends := (recvPayload_spends S s).2 payload (by rw [hrecv])
    rw [hrecv] at hspends
    have hone : 1 + S.pending s₁ ≤ S.pending s := hspends
    -- a request for another block, and the rounds after it
    have hask : ∀ (t' : Transfer) (ys' : List ProfileRow), (splitLoadProfileRows t'.buf).1 = [] →
        RowsOf fromDt toDt t'.buf
          (payloadsAfter S server client (payloadsReceived S server client fromDt toDt fuel)
            (.ask t') s₁) ys'
          (followStep S server client (transferLoop S server client fromDt toDt fuel) (.ask t')
            (s₁, ys')) := by
      intro t' ys' hbuf'
      have hsent := (sendGetRequestNext_spends S server client t' s₁).1
      rcases hsend : sendGetRequestNext S server client t' s₁ with ⟨e | u, s₂⟩
      · rw [followStep_error _ _ _ hsend, payloadsAfter_unsent _ _ _ hsend]
        exact RowsOf.stopped hbuf' e s₂ ys'
      · cases u
        rw [hsend] at hsent
        have hzero : S.pending s₂ ≤ S.pending s₁ := hsent
        rw [followStep_ok _ _ _ hsend, payloadsAfter_sent _ _ _ hsend]
        exact ih { t' with sendSeq := t'.sendSeq + 1 } s₂ ys' (by omega) hbuf'
    rw [transferRound_ok _ _ _ _ _ hrecv, payloadsReceived_ok _ _ _ _ _ fuel hrecv]
    have hpayload := onPayload_eq fromDt toDt t payload
    cases hblock : payloadBlock payload with
    | error e =>
      rw [hblock] at hpayload
      dsimp only at hpayload
      refine RowsOf.none hblock ?_
      by_cases hrefuses : Refuses payload ∧ t.useIncrementingInvokeId = false
      · rw [if_pos hrefuses] at hpayload
        rw [hpayload, List.append_nil]
        exact hask t.afterRefusal ys hbuf
      · rw [if_neg hrefuses] at hpayload
        rw [hpayload, List.append_nil]
        exact RowsOf.stopped hbuf e s₁ ys
    | ok block =>
      rw [hblock] at hpayload
      dsimp only at hpayload
      cases hlast : block.lastBlock with
      | true =>
        rw [blockRows, hlast, if_pos rfl, if_pos rfl] at hpayload
        rw [hpayload]
        have hlastRows := RowsOf.last fromDt toDt t.buf hblock hlast s₁ ys
        cases hrows : (decodeRows fromDt toDt (lastRows (t.buf ++ block.rawData))).2 with
        | error e =>
          rw [hrows] at hlastRows
          exact hlastRows
        | ok u =>
          rw [hrows] at hlastRows
          exact hlastRows
      | false =>
        rw [blockRows, hlast, if_neg Bool.false_ne_true, if_neg Bool.false_ne_true] at hpayload
        rw [hpayload]
        cases hrows : (decodeRows fromDt toDt
          (splitLoadProfileRows (t.buf ++ block.rawData)).1).2 with
        | error e => exact RowsOf.failed hblock hlast hrows s₁ ys
        | ok u =>
          cases u
          exact RowsOf.block hblock hlast hrows
            (hask (t.afterBlock block) _ (splitLoadProfileRows_rest _))

end Received

end RiseSun.Gateway
