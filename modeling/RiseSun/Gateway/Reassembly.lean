/-
  Load profile reassembly: the rows do not depend on how the meter cuts its answer into blocks.

  1. **Rows** — decoding rows one by one composes (`decodeRows_append`), and what is completed early
     need not be decoded again (`decodeRows_complete`, from the marker library's `complete_append`).

  2. **Payloads** — what `onPayload` does with a data block, with the last one, with a refusal and
     with an answer in one piece.

  3. **Deliveries** — `Delivers number chunks refused frames`: the frames carry the chunks in blocks
     numbered from `number` on, and the request for the block at `refused` is first answered by
     access error 16.  The induction on a delivery (`transferBlocks_delivers`) carries the rows
     completed so far and the requests sent so far.

  4. **The read** (`readLoadProfile_reassembled`) — the rows that come out are those of the encoded
     rows, in order, and the blocks are asked for in order, each once, the refused one twice.
-/
import RiseSun.Gateway.FrameStream
import RiseSun.Gateway.LoadProfile

namespace RiseSun.Gateway

open Proc

variable {σ : Type}

/-! ## Rows -/

/-- The rows left at the end of the transfer are those that are complete in the library's sense. -/
theorem lastRows_eq (buf : Bytes) : lastRows buf = Markers.complete loadProfileRowMarker buf := rfl

/-- Rows are decoded one after the other: the rest only if nothing raised before. -/
theorem decodeRows_append (fromDt toDt : DateTime) (xs ys : List Bytes) :
    decodeRows fromDt toDt (xs ++ ys) =
      match (decodeRows fromDt toDt xs).2 with
      | .ok () => ((decodeRows fromDt toDt xs).1 ++ (decodeRows fromDt toDt ys).1,
          (decodeRows fromDt toDt ys).2)
      | .error e => ((decodeRows fromDt toDt xs).1, .error e) := by
  induction xs with
  | nil => rfl
  | cons row rows ih =>
    rw [List.cons_append, decodeRows, decodeRows]
    cases decodeRowIfInRange fromDt toDt row with
    | error e => rfl
    | ok decoded =>
      dsimp only
      rw [ih]
      cases (decodeRows fromDt toDt rows).2 with
      | error e => rfl
      | ok u =>
        dsimp only
        rw [List.append_assoc]

/-- Decoding the rows a chunk completes, then the rest, is decoding all rows. -/
theorem decodeRows_complete (fromDt toDt : DateTime) (buf rest : Bytes) :
    decodeRows fromDt toDt (lastRows (buf ++ rest)) =
      match (decodeRows fromDt toDt (splitLoadProfileRows buf).1).2 with
      | .ok () => ((decodeRows fromDt toDt (splitLoadProfileRows buf).1).1 ++
          (decodeRows fromDt toDt (lastRows ((splitLoadProfileRows buf).2 ++ rest))).1,
          (decodeRows fromDt toDt (lastRows ((splitLoadProfileRows buf).2 ++ rest))).2)
      | .error e => ((decodeRows fromDt toDt (splitLoadProfileRows buf).1).1, .error e) := by
  rw [← decodeRows_append, lastRows_eq, Markers.complete_append]
  rfl

/-- The window, for bounds without time zone. -/
def inWindowB (fromDt toDt : DateTime) (row : ProfileRow) : Bool :=
  fromDt.clock ≤ row.timestamp.clock && row.timestamp.clock ≤ toDt.clock

/-- The timestamp of a row has no time zone and is to the second. -/
theorem parseTimestamp_plain {digits : List Nat} {d : DateTime} (h : parseTimestamp digits = some d) :
    d.Plain := by
  unfold parseTimestamp at h
  split at h
  · split at h
    · exact DateTime.make?_plain h
    · cases h
  · cases h

/-- The timestamp of a decoded row has no time zone and no fraction of a second. -/
theorem decodeLoadProfileRow_plain {raw : Bytes} {row : ProfileRow}
    (h : decodeLoadProfileRow raw = .ok row) : row.timestamp.Plain := by
  unfold decodeLoadProfileRow at h
  split at h
  · cases h
  · dsimp only at h
    split at h
    · cases h
    · rename_i timestamp hparse
      obtain ⟨values, _, h⟩ := Result.bind_eq_ok h
      cases h
      exact parseTimestamp_plain hparse

/-- Between bounds without a time zone, a row without one is compared by the clock. -/
theorem inWindow_naive {fromDt toDt : DateTime} (hfrom : fromDt.utcoffset = none)
    (hto : toDt.utcoffset = none) {row : ProfileRow} (hrow : row.timestamp.Plain) :
    inWindow fromDt toDt row.timestamp = .ok (inWindowB fromDt toDt row) := by
  unfold inWindow inWindowB
  rw [DateTime.le?_naive hfrom hrow.2, DateTime.le?_naive hrow.2 hto]
  cases decide (fromDt.clock ≤ row.timestamp.clock) with
  | true => simp only [Bool.true_and]
  | false => simp only [Bool.false_and]

/-- Rows that all decode give the decoded rows of the window. -/
theorem decodeRows_ok {fromDt toDt : DateTime} (hfrom : fromDt.utcoffset = none)
    (hto : toDt.utcoffset = none) : ∀ {raws : List Bytes} {decoded : List ProfileRow},
    raws.map decodeLoadProfileRow = decoded.map .ok →
      decodeRows fromDt toDt raws = (decoded.filter (inWindowB fromDt toDt), .ok ()) := by
  intro raws
  induction raws with
  | nil =>
    intro decoded h
    cases decoded with
    | nil => rfl
    | cons row rows => cases h
  | cons raw raws ih =>
    intro decoded h
    cases decoded with
    | nil => cases h
    | cons row rows =>
      obtain ⟨hrow, hrows⟩ := List.cons.inj h
      have hwindow := inWindow_naive hfrom hto (decodeLoadProfileRow_plain hrow)
      have hone : decodeRowIfInRange fromDt toDt raw =
          .ok (if inWindowB fromDt toDt row then some row else none) := by
        unfold decodeRowIfInRange
        rw [hrow, Result.ok_bind, hwindow]
        rfl
      rw [decodeRows, hone]
      dsimp only
      rw [ih hrows, List.filter_cons]
      cases inWindowB fromDt toDt row with
      | true => rfl
      | false => rfl

/-! ## Payloads -/

section Payloads

variable (fromDt toDt : DateTime) (t : Transfer)

/-- The last block ends the transfer with the rows of everything that has come. -/
theorem onPayload_last {invokeId : UInt8} {number : Nat} {chunk payload : Bytes}
    (h : buildGetResponseDatablock invokeId ⟨true, number, chunk⟩ = .ok payload) :
    onPayload fromDt toDt t payload =
      ((decodeRows fromDt toDt (lastRows (t.buf ++ chunk))).1,
        Step.done.after (decodeRows fromDt toDt (lastRows (t.buf ++ chunk))).2) := by
  obtain ⟨htype, hparse⟩ := parseGetResponseDatablock_build h
  unfold onPayload
  rw [htype, if_neg (by decide), if_neg (by simp), hparse]
  rfl

/-- A block that is not the last: its complete rows, and the request for the next block. -/
theorem onPayload_block {invokeId : UInt8} {number : Nat} {chunk payload : Bytes}
    (h : buildGetResponseDatablock invokeId ⟨false, number, chunk⟩ = .ok payload) :
    onPayload fromDt toDt t payload =
      ((decodeRows fromDt toDt (splitLoadProfileRows (t.buf ++ chunk)).1).1,
        (Step.ask { t with
          buf := (splitLoadProfileRows (t.buf ++ chunk)).2
          invokeId := if t.useIncrementingInvokeId then bumpInvokeId t.invokeId else t.invokeId
          pendingBlockNumber := some (number + 1) }).after
        (decodeRows fromDt toDt (splitLoadProfileRows (t.buf ++ chunk)).1).2) := by
  obtain ⟨htype, hparse⟩ := parseGetResponseDatablock_build h
  unfold onPayload
  rw [htype, if_neg (by decide), if_neg (by simp), hparse]
  rfl

/-- An answer in one piece completes the rows of the buffer and ends the transfer. -/
theorem onPayload_normal (invokeId : UInt8) (data : Bytes) :
    onPayload fromDt toDt t (buildGetResponseData invokeId data) =
      ((decodeRows fromDt toDt (lastRows (t.buf ++ data))).1,
        Step.done.after (decodeRows fromDt toDt (lastRows (t.buf ++ data))).2) := by
  unfold onPayload
  have htype : (buildGetResponseData invokeId data)[1]? = some getResponseNormal := rfl
  have hresult : (buildGetResponseData invokeId data)[3]? = some resultData := rfl
  have hlen : ¬ ((buildGetResponseData invokeId data).length < 4 ∨
      (buildGetResponseData invokeId data)[3]? ≠ some resultData) := by
    rw [hresult, not_or]
    refine ⟨?_, fun hne => hne rfl⟩
    rw [buildGetResponseData, List.length_append]
    have : [getResponseTag, getResponseNormal, invokeId, resultData].length = 4 := rfl
    omega
  rw [if_pos htype, if_neg hlen]
  rfl

/-- Access error 16 in place of a block. -/
structure IsRefusal (payload : Bytes) : Prop where
  tag : payload[0]? = some getResponseTag
  type : payload[1]? = some getResponseWithDatablock
  code : isNoLongGetInProgress payload = true

/-- A refusal is parsed as an error with a message. -/
theorem IsRefusal.parse {payload : Bytes} (h : IsRefusal payload) :
    ∃ message, parseGetResponseDatablock payload = .error (.plain message) := by
  have hcode := h.code
  unfold isNoLongGetInProgress at hcode
  rw [Bool.and_eq_true, Bool.and_eq_true, decide_eq_true_eq, beq_iff_eq, beq_iff_eq] at hcode
  obtain ⟨⟨hlen, hresult⟩, _⟩ := hcode
  have hbyte : byteAt payload 8 = .ok datablockResultDataAccessError := by
    unfold byteAt
    rw [hresult]
  unfold parseGetResponseDatablock
  rw [if_neg (by
    rw [h.tag, h.type]
    simp only [ne_eq, not_true_eq_false, or_false]
    omega), byteAt_ok (show 3 < payload.length by omega), Result.ok_bind]
  dsimp only
  rw [hbyte, Result.ok_bind, if_pos rfl]
  exact ⟨_, rfl⟩

/-- A first refusal switches to the incrementing invoke id and asks for the same block again. -/
theorem onPayload_refusal {payload : Bytes} (h : IsRefusal payload)
    (ht : t.useIncrementingInvokeId = false) :
    onPayload fromDt toDt t payload =
      ([], .ask { t with useIncrementingInvokeId := true, invokeId := bumpInvokeId t.invokeId }) := by
  obtain ⟨message, hparse⟩ := h.parse
  unfold onPayload
  rw [h.type, if_neg (by decide), if_neg (by simp), hparse]
  dsimp only
  rw [if_pos ⟨rfl, h.code, ne_true_of_eq_false ht⟩]

end Payloads

/-! ## Deliveries -/

/-- The frames carry `chunks` in data blocks numbered from `number` on, the last marked as such;
    with `refused = some k` the frame of block `k` is preceded by access error 16. -/
inductive Delivers : (number : Nat) → (chunks : List Bytes) → (refused : Option Nat) →
    (frames : List Bytes) → Prop
  | last {invokeId number chunk payload raw}
      (built : buildGetResponseDatablock invokeId ⟨true, number, chunk⟩ = .ok payload)
      (carried : Carries raw payload) : Delivers number [chunk] none [raw]
  | block {invokeId number chunk chunks refused payload raw frames}
      (built : buildGetResponseDatablock invokeId ⟨false, number, chunk⟩ = .ok payload)
      (carried : Carries raw payload) (rest : Delivers (number + 1) chunks refused frames) :
      Delivers number (chunk :: chunks) (refused.map (· + 1)) (raw :: frames)
  | refused {number chunks payload raw frames} (refusal : IsRefusal payload)
      (carried : Carries raw payload) (rest : Delivers number chunks none frames) :
      Delivers number chunks (some 0) (raw :: frames)

/-- The number of every block fits its four bytes. -/
theorem Delivers.number_lt {number : Nat} {chunks : List Bytes} {refused : Option Nat}
    {frames : List Bytes} (h : Delivers number chunks refused frames) : number < 256 ^ 4 := by
  induction h with
  | last built _ => exact (buildGetResponseDatablock_ok built).1
  | block built _ _ _ => exact (buildGetResponseDatablock_ok built).1
  | refused _ _ _ ih => exact ih

/-- A delivery brings at least one chunk of the bytes. -/
theorem Delivers.chunks_pos {number : Nat} {chunks : List Bytes} {refused : Option Nat}
    {frames : List Bytes} (h : Delivers number chunks refused frames) : 1 ≤ chunks.length := by
  induction h with
  | last _ _ => exact Nat.le_refl 1
  | block _ _ _ _ => exact Nat.succ_le_succ (Nat.zero_le _)
  | refused _ _ _ ih => exact ih

/-! ### The requests -/

/-- A request for a block: N(S), the block's number and the invoke id. -/
structure BlockRequest where
  sendSeq : Nat
  blockNumber : Nat
  invokeId : Nat
  deriving DecidableEq

/-- The frame of a request for a block. -/
def BlockRequest.frame (server client : Int) (r : BlockRequest) : Except PyExc Bytes := do
  let request ← buildGetRequestNext r.blockNumber (UInt8.ofNat r.invokeId)
  iFrame server client r.sendSeq r.sendSeq (wrapLlcCommand request)

/-- The requests for the blocks behind `number`, `count` blocks in all, none of them refused. -/
def plainRequests (incrementing : Bool) : (count sendSeq number invokeId : Nat) → List BlockRequest
  | count + 2, sendSeq, number, invokeId =>
    let next := if incrementing then bumpInvokeId invokeId else invokeId
    ⟨sendSeq, number + 1, next⟩ ::
      plainRequests incrementing (count + 1) (sendSeq + 1) (number + 1) next
  | _, _, _, _ => []

/-- The same when the request for block `k` is refused once. -/
def refusedRequests (incrementing : Bool) : (k count sendSeq number invokeId : Nat) →
    List BlockRequest
  | 0, count, sendSeq, number, invokeId =>
    ⟨sendSeq, number, bumpInvokeId invokeId⟩ ::
      plainRequests true count (sendSeq + 1) number (bumpInvokeId invokeId)
  | k + 1, count, sendSeq, number, invokeId =>
    let next := if incrementing then bumpInvokeId invokeId else invokeId
    ⟨sendSeq, number + 1, next⟩ ::
      refusedRequests incrementing k (count - 1) (sendSeq + 1) (number + 1) next

def requests (incrementing : Bool) (refused : Option Nat) (count sendSeq number invokeId : Nat) :
    List BlockRequest :=
  match refused with
  | none => plainRequests incrementing count sendSeq number invokeId
  | some k => refusedRequests incrementing k count sendSeq number invokeId

/-- A block that is not the last is followed by the request for the next one. -/
theorem requests_cons (incrementing : Bool) (refused : Option Nat)
    (count sendSeq number invokeId : Nat) :
    requests incrementing (refused.map (· + 1)) (count + 2) sendSeq number invokeId =
      ⟨sendSeq, number + 1, if incrementing then bumpInvokeId invokeId else invokeId⟩ ::
        requests incrementing refused (count + 1) (sendSeq + 1) (number + 1)
          (if incrementing then bumpInvokeId invokeId else invokeId) := by
  cases refused with
  | none => rfl
  | some k => rfl

/-! ### The run -/

section Run

variable {S : MeterSocket σ} {R : σ → List Bytes → List Bytes → Prop} {server client : Int}

/-- The payload of the first frame that waits is received, and the others wait on. -/
theorem Serves.recvPayload (h : Serves S R) {s : σ} {raw payload : Bytes}
    {answers sent : List Bytes} (hcarried : Carries raw payload) (hR : R s (raw :: answers) sent) :
    ∃ s', recvPayload S s = (.ok payload, s') ∧ R s' answers sent := by
  obtain ⟨frame, hframe, hcontrol, hpayload⟩ := hcarried
  obtain ⟨s', hrecv, hR'⟩ := h.recvIFrame hframe hcontrol hR
  refine ⟨s', ?_, hR'⟩
  unfold Gateway.recvPayload
  rw [bind_ok hrecv, hpayload]
  rfl

/-- Sending an I-frame that can be built puts it behind the frames sent before. -/
theorem Serves.sendIFrame (h : Serves S R) (hs : 0 ≤ server ∧ server < 2 ^ 28)
    (hc : 0 ≤ client ∧ client < 2 ^ 28) {s : σ} {answers sent : List Bytes}
    (hR : R s answers sent) (sendSeq : Nat) (information : Bytes)
    (hlen : information.length ≤ 2000) :
    ∃ raw s', iFrame server client sendSeq sendSeq information = .ok raw ∧
      sendIFrame S server client sendSeq sendSeq information s = (.ok (), s') ∧
      R s' answers (sent ++ [raw]) := by
  obtain ⟨raw, hraw⟩ := iFrame_ok hs hc sendSeq sendSeq hlen
  obtain ⟨s', hsend, hR'⟩ := h.send raw hR
  refine ⟨raw, s', hraw, ?_, hR'⟩
  unfold Gateway.sendIFrame
  rw [hraw, lift_ok_bind_run]
  exact hsend

/-- Asking for the next block sends the request frame with its number. -/
theorem Serves.sendGetRequestNext (h : Serves S R) (hs : 0 ≤ server ∧ server < 2 ^ 28)
    (hc : 0 ≤ client ∧ client < 2 ^ 28) {s : σ} {answers sent : List Bytes}
    (hR : R s answers sent) {t : Transfer} {number : Nat}
    (hpending : t.pendingBlockNumber = some number) (hnumber : number < 256 ^ 4) :
    ∃ raw s', BlockRequest.frame server client ⟨t.sendSeq, number, t.invokeId⟩ = .ok raw ∧
      sendGetRequestNext S server client t s = (.ok (), s') ∧ R s' answers (sent ++ [raw]) := by
  have hbytes : toBytes 4 number = .ok (Bytes.toBE 4 number) := by
    unfold toBytes
    rw [if_pos (by omega), Int.toNat_natCast]
  have hbuild : buildGetRequestNext number (UInt8.ofNat t.invokeId) =
      .ok ([getRequestTag, getRequestNext, UInt8.ofNat t.invokeId] ++ Bytes.toBE 4 number) := by
    unfold buildGetRequestNext
    rw [hbytes]
    rfl
  obtain ⟨raw, s', hraw, hsend, hR'⟩ := h.sendIFrame hs hc hR t.sendSeq
    (wrapLlcCommand
      ([getRequestTag, getRequestNext, UInt8.ofNat t.invokeId] ++ Bytes.toBE 4 number))
    (by
      simp only [wrapLlcCommand, llcCommandHeader, List.length_append, List.length_cons,
        List.length_nil, Bytes.toBE_length]
      omega)
  refine ⟨raw, s', ?_, ?_, hR'⟩
  · unfold BlockRequest.frame
    rw [hbuild, Result.ok_bind]
    exact hraw
  · unfold Gateway.sendGetRequestNext
    rw [hpending, lift_ok_bind_run, hbuild, lift_ok_bind_run]
    exact hsend

variable (fromDt toDt : DateTime)

/-- A round whose payload ends the transfer adds its rows and is the last one. -/
theorem transferBlocks_done {t : Transfer} {s s' : σ} {ys rows : List ProfileRow} {payload : Bytes}
    {outcome : Except PyExc Unit} (hrecv : recvPayload S s = (.ok payload, s'))
    (hpayload : onPayload fromDt toDt t payload = (rows, Step.done.after outcome)) :
    transferBlocks S server client fromDt toDt t (s, ys) = (outcome, (s', ys ++ rows)) := by
  rw [transferBlocks_eq, transferRound_ok _ _ _ _ _ hrecv, hpayload]
  cases outcome with
  | error e => rfl
  | ok u => rfl

/-- **The run over a delivery.**  From any point of a transfer on, the rows that come out are those
    of the buffer and the chunks to come; and if they all decode, exactly the requests for these
    blocks are sent. -/
theorem transferBlocks_delivers (h : Serves S R) (hs : 0 ≤ server ∧ server < 2 ^ 28)
    (hc : 0 ≤ client ∧ client < 2 ^ 28) {number : Nat} {chunks : List Bytes} {refused : Option Nat}
    {frames : List Bytes} (hdelivers : Delivers number chunks refused frames) :
    ∀ (t : Transfer) (s : σ) (ys : List ProfileRow) (sent : List Bytes), R s frames sent →
      (refused ≠ none → t.useIncrementingInvokeId = false) →
      (refused = some 0 → t.pendingBlockNumber = some number) →
      ∃ s' raws, transferBlocks S server client fromDt toDt t (s, ys) =
          ((decodeRows fromDt toDt (lastRows (t.buf ++ chunks.flatten))).2,
            (s', ys ++ (decodeRows fromDt toDt (lastRows (t.buf ++ chunks.flatten))).1)) ∧
        ((decodeRows fromDt toDt (lastRows (t.buf ++ chunks.flatten))).2 = .ok () →
          R s' [] (sent ++ raws) ∧
          raws.map .ok = (requests t.useIncrementingInvokeId refused chunks.length t.sendSeq number
            t.invokeId).map (BlockRequest.frame server client)) := by
  induction hdelivers with
  | last built carried =>
    intro t s ys sent hR _ _
    obtain ⟨s', hrecv, hR'⟩ := h.recvPayload carried hR
    refine ⟨s', [], ?_, fun _ => ⟨by rwa [List.append_nil], rfl⟩⟩
    rw [List.flatten_cons, List.flatten_nil, List.append_nil]
    exact transferBlocks_done fromDt toDt hrecv (onPayload_last fromDt toDt t built)
  | @block invokeId number chunk chunks refused payload raw frames built carried rest ih =>
    intro t s ys sent hR hmode _
    obtain ⟨s₁, hrecv, hR₁⟩ := h.recvPayload carried hR
    rw [List.flatten_cons, ← List.append_assoc, decodeRows_complete]
    have hpayload := onPayload_block fromDt toDt t built
    cases hrows : (decodeRows fromDt toDt (splitLoadProfileRows (t.buf ++ chunk)).1).2 with
    | error e =>
      -- a row of this block does not decode: the transfer ends here
      rw [hrows] at hpayload
      refine ⟨s₁, [], ?_, fun hok => (nomatch hok)⟩
      exact transferBlocks_done fromDt toDt hrecv
        (show _ = (_, Step.done.after (.error e)) from hpayload)
    | ok u =>
      rw [hrows] at hpayload
      obtain ⟨raw₁, s₂, hraw, hsend, hR₂⟩ := h.sendGetRequestNext hs hc hR₁
        (t := { t with
          buf := (splitLoadProfileRows (t.buf ++ chunk)).2
          invokeId := if t.useIncrementingInvokeId then bumpInvokeId t.invokeId else t.invokeId
          pendingBlockNumber := some (number + 1) }) rfl rest.number_lt
      obtain ⟨s', raws, hrun, hlog⟩ := ih
        { t with
          buf := (splitLoadProfileRows (t.buf ++ chunk)).2
          invokeId := if t.useIncrementingInvokeId then bumpInvokeId t.invokeId else t.invokeId
          pendingBlockNumber := some (number + 1)
          sendSeq := t.sendSeq + 1 } s₂
        (ys ++ (decodeRows fromDt toDt (splitLoadProfileRows (t.buf ++ chunk)).1).1)
        (sent ++ [raw₁]) hR₂
        (fun hne => hmode (by cases refused with | none => exact absurd rfl hne | some k => simp))
        (fun _ => rfl)
      refine ⟨s', raw₁ :: raws, ?_, fun hok => ?_⟩
      · rw [transferBlocks_eq, transferRound_ok _ _ _ _ _ hrecv, hpayload]
        show followStep S server client _ (.ask _) _ = _
        rw [followStep_ok _ _ _ hsend]
        rw [List.append_assoc] at hrun
        exact hrun
      · obtain ⟨hR', hraws⟩ := hlog hok
        refine ⟨by rwa [List.append_assoc] at hR', ?_⟩
        have hpos := rest.chunks_pos
        obtain ⟨count, hcount⟩ : ∃ count, chunks.length = count + 1 :=
          ⟨chunks.length - 1, by omega⟩
        rw [List.map_cons, List.length_cons, hcount, requests_cons, List.map_cons, hraws, ← hraw,
          hcount]
  | @refused number chunks payload raw frames refusal carried rest ih =>
    intro t s ys sent hR hmode hpending
    obtain ⟨s₁, hrecv, hR₁⟩ := h.recvPayload carried hR
    have hconstant := hmode (by simp)
    have hpayload := onPayload_refusal fromDt toDt t refusal hconstant
    obtain ⟨raw₁, s₂, hraw, hsend, hR₂⟩ := h.sendGetRequestNext hs hc hR₁
      (t := { t with useIncrementingInvokeId := true, invokeId := bumpInvokeId t.invokeId })
      (hpending rfl) rest.number_lt
    obtain ⟨s', raws, hrun, hlog⟩ := ih
      { t with
        useIncrementingInvokeId := true, invokeId := bumpInvokeId t.invokeId
        sendSeq := t.sendSeq + 1 } s₂ ys (sent ++ [raw₁]) hR₂
      (fun hne => absurd rfl hne) (fun hzero => (nomatch hzero))
    refine ⟨s', raw₁ :: raws, ?_, fun hok => ?_⟩
    · rw [transferBlocks_eq, transferRound_ok _ _ _ _ _ hrecv, hpayload, List.append_nil,
        followStep_ok _ _ _ hsend]
      exact hrun
    · obtain ⟨hR', hraws⟩ := hlog hok
      refine ⟨by rwa [List.append_assoc] at hR', ?_⟩
      rw [List.map_cons, hraws, ← hraw]
      rfl

end Run

/-! ### The requests in closed form -/

/-- The invoke id of a transfer counts up modulo 16. -/
theorem bumpInvokeId_eq (invokeId : Nat) : bumpInvokeId invokeId = (invokeId + 1) % 16 :=
  Nat.and_two_pow_sub_one_eq_mod (invokeId + 1) 4

/-- The requests of a delivery without a refusal, one by one: induction on how many blocks are to
    come. -/
theorem plainRequests_eq (incrementing : Bool) : ∀ (count sendSeq number invokeId : Nat),
    plainRequests incrementing count sendSeq number invokeId =
      (List.range (count - 1)).map fun i => ⟨sendSeq + i, number + 1 + i,
        if incrementing then (invokeId + 1 + i) % 16 else invokeId⟩ := by
  intro count
  induction count with
  | zero => exact fun _ _ _ => rfl
  | succ count ih =>
    intro sendSeq number invokeId
    cases count with
    | zero => rfl
    | succ count =>
      show _ :: plainRequests incrementing (count + 1) _ _ _ = (List.range (count + 1)).map _
      rw [ih, List.range_succ_eq_map, List.map_cons, List.map_map]
      congr 1
      · cases incrementing with
        | true => simp [bumpInvokeId_eq]
        | false => simp
      · apply List.map_congr_left
        intro i _
        simp only [Function.comp_apply, BlockRequest.mk.injEq]
        refine ⟨by omega, by omega, ?_⟩
        cases incrementing with
        | true =>
          simp only [if_true, bumpInvokeId_eq]
          omega
        | false => rfl

/-- The requests of a delivery with a refusal: those up to it, then the same block again under
    incrementing invoke ids. -/
theorem refusedRequests_eq : ∀ (k count sendSeq number invokeId : Nat), k < count →
    refusedRequests false k count sendSeq number invokeId =
      ((List.range k).map fun i => ⟨sendSeq + i, number + 1 + i, invokeId⟩) ++
      (List.range (count - k)).map fun i => ⟨sendSeq + k + i, number + k + i,
        (invokeId + 1 + i) % 16⟩ := by
  intro k
  induction k with
  | zero =>
    intro count sendSeq number invokeId h
    obtain ⟨count, rfl⟩ : ∃ c, count = c + 1 := ⟨count - 1, by omega⟩
    rw [refusedRequests, plainRequests_eq, List.range_zero, List.map_nil, List.nil_append,
      Nat.sub_zero, List.range_succ_eq_map, List.map_cons, List.map_map]
    congr 1
    · simp [bumpInvokeId_eq]
    · apply List.map_congr_left
      intro i _
      simp only [Function.comp_apply, BlockRequest.mk.injEq, if_true, bumpInvokeId_eq]
      omega
  | succ k ih =>
    intro count sendSeq number invokeId h
    rw [refusedRequests, if_neg Bool.false_ne_true, ih _ _ _ _ (by omega), List.range_succ_eq_map,
      List.map_cons, List.map_map, List.cons_append]
    congr 1
    congr 1
    · apply List.map_congr_left
      intro i _
      simp only [Function.comp_apply, BlockRequest.mk.injEq, and_true]
      omega
    · rw [show count - 1 - k = count - (k + 1) by omega]
      apply List.map_congr_left
      intro i _
      simp only [BlockRequest.mk.injEq, and_true]
      omega

/-- The requests for the blocks behind `first`, `count` blocks in all: in order, each once, with the
    invoke id of the profile request.  If request `k` is refused, the same block is asked for again,
    and from there on every request has an invoke id one higher than the request before, modulo 16. -/
def blockRequests (first count : Nat) : (refused : Option Nat) → List BlockRequest
  | none => (List.range (count - 1)).map fun i => ⟨2 + i, first + 1 + i, 1⟩
  | some k => ((List.range (k + 1)).map fun i => ⟨2 + i, first + 1 + i, 1⟩) ++
      (List.range (count - (k + 1))).map fun i => ⟨3 + k + i, first + 1 + k + i, (2 + i) % 16⟩

/-- A refusal comes at one of the chunks. -/
theorem Delivers.refused_lt {number : Nat} {chunks : List Bytes} {refused : Option Nat}
    {frames : List Bytes} (h : Delivers number chunks refused frames) :
    ∀ k, refused = some k → k < chunks.length := by
  induction h with
  | last _ _ => exact fun k hk => (nomatch hk)
  | @block _ _ _ _ refused _ _ _ _ _ _ ih =>
    intro k hk
    cases refused with
    | none => cases hk
    | some j =>
      cases hk
      exact Nat.succ_lt_succ (ih j rfl)
  | refused _ _ rest _ =>
    intro k hk
    cases hk
    exact rest.chunks_pos

/-- What is asked for during a transfer is what `blockRequests` lists. -/
theorem requests_eq {first : Nat} {chunks : List Bytes} {refused : Option Nat} {frames : List Bytes}
    (h : Delivers first chunks (refused.map (· + 1)) frames) :
    requests false (refused.map (· + 1)) chunks.length 2 first 1 =
      blockRequests first chunks.length refused := by
  cases refused with
  | none => exact plainRequests_eq false _ _ _ _
  | some k =>
    have hk := h.refused_lt (k + 1) rfl
    show refusedRequests false (k + 1) chunks.length 2 first 1 = _
    rw [refusedRequests_eq _ _ _ _ _ hk, blockRequests]
    refine congrArg _ (List.map_congr_left fun i _ => ?_)
    rw [BlockRequest.mk.injEq]
    exact ⟨by omega, by omega, rfl⟩

/-! ## The whole read -/

/-- A row as the meter's encoder writes it. -/
structure EncodedRow where
  timestamp : DateTime
  fields : List ProfileField
  raw : Bytes
  encoded : encodeLoadProfileRow timestamp fields = .ok raw

/-- At the end of the stream the rows are the encoded rows. -/
theorem lastRows_encoded (rows : List EncodedRow) :
    lastRows (rows.map EncodedRow.raw).flatten = rows.map EncodedRow.raw := by
  rw [lastRows_eq]
  refine Markers.complete_rows (List.cons_ne_nil _ _) fun r hr => ?_
  obtain ⟨row, _, rfl⟩ := List.mem_map.mp hr
  exact encodeLoadProfileRow_row row.encoded

/-- The request that opens the read. -/
def profileRequest (server classId : Int) (obis : String) (fromDt toDt : DateTime) :
    Except PyExc Bytes := do
  let parsedObis ← parseObis obis
  let request ← buildGetRequestRange parsedObis (effectiveProfileClassId classId) fromDt toDt 1
  iFrame server defaultClientAddress 1 1 (wrapLlcCommand request)

/-- The frames bring `data` in answer to the opening request and to `asked`: in numbered blocks, one
    request for a block possibly refused once, or in one piece. -/
inductive Brings (data : Bytes) : (frames : List Bytes) → (asked : List BlockRequest) → Prop
  | blocks {first chunks refused frames}
      (delivers : Delivers first chunks (refused.map (· + 1)) frames)
      (split : chunks.flatten = data) :
      Brings data frames (blockRequests first chunks.length refused)
  | normal {invokeId raw} (carried : Carries raw (buildGetResponseData invokeId data)) :
      Brings data [raw] []

section Whole

variable {S : MeterSocket σ} {R : σ → List Bytes → List Bytes → Prop} {server : Int}
  {fromDt toDt : DateTime}

/-- The transfer over frames that bring `data` yields the rows of `data` and asks for the listed
    blocks. -/
theorem Brings.transfer (fromDt toDt : DateTime) (h : Serves S R)
    (hs : 0 ≤ server ∧ server < 2 ^ 28) {data : Bytes}
    {frames : List Bytes} {asked : List BlockRequest} (hbrings : Brings data frames asked) {s : σ}
    {sent : List Bytes} (hR : R s frames sent) :
    ∃ s' raws, transferBlocks S server defaultClientAddress fromDt toDt {} (s, []) =
        ((decodeRows fromDt toDt (lastRows data)).2,
          (s', (decodeRows fromDt toDt (lastRows data)).1)) ∧
      ((decodeRows fromDt toDt (lastRows data)).2 = .ok () →
        R s' [] (sent ++ raws) ∧
        raws.map .ok = asked.map (BlockRequest.frame server defaultClientAddress)) := by
  have hc : 0 ≤ defaultClientAddress ∧ defaultClientAddress < 2 ^ 28 := by decide
  cases hbrings with
  | @blocks first chunks refused _ delivers split =>
    obtain ⟨s', raws, hrun, hlog⟩ := transferBlocks_delivers fromDt toDt h hs hc delivers {} s [] sent
      hR (fun _ => rfl) (fun hzero => by cases refused <;> cases hzero)
    subst split
    refine ⟨s', raws, hrun, fun hok => ?_⟩
    obtain ⟨hR', hraws⟩ := hlog hok
    rw [← requests_eq delivers]
    exact ⟨hR', hraws⟩
  | @normal invokeId raw carried =>
    obtain ⟨s', hrecv, hR'⟩ := h.recvPayload carried hR
    refine ⟨s', [], ?_, fun _ => ⟨by rwa [List.append_nil], rfl⟩⟩
    exact transferBlocks_done fromDt toDt hrecv (onPayload_normal fromDt toDt {} invokeId data)

/-- Once the association is accepted, the read is the opening request and the transfer. -/
theorem readLoadProfile_opened (h : Serves S R) {physicalAddress obis : String} {password : Bytes}
    {classId : Int} {probe : Bool} {s₀ s : σ} {opening : Bytes} {frames sent : List Bytes}
    (hserver : serverHdlcAddress physicalAddress 1 = .ok server)
    (haccepted : associate S server defaultClientAddress password userInformationInitiate
      { sendHeartbeatProbe := probe } s₀ = (.ok (), s))
    (hopening : profileRequest server classId obis fromDt toDt = .ok opening)
    (hR : R s frames sent) :
    ∃ s₁, R s₁ frames (sent ++ [opening]) ∧
      readLoadProfileViaEstablishedLink S physicalAddress password obis classId fromDt toDt probe
        (s₀, []) = transferBlocks S server defaultClientAddress fromDt toDt {} (s₁, []) := by
  unfold profileRequest at hopening
  obtain ⟨parsedObis, hobis, hopening⟩ := Result.bind_eq_ok hopening
  obtain ⟨request, hrequest, hframe⟩ := Result.bind_eq_ok hopening
  obtain ⟨s₁, hsend, hR₁⟩ := h.send opening hR
  have hsendFrame : sendIFrame S server defaultClientAddress 1 1 (wrapLlcCommand request) s =
      (.ok (), s₁) := by
    unfold sendIFrame
    rw [hframe, lift_ok_bind_run]
    exact hsend
  refine ⟨s₁, hR₁, ?_⟩
  unfold readLoadProfileViaEstablishedLink
  rw [hserver, lift_ok_bind_run, bind_ok (within_run haccepted []), hobis, lift_ok_bind_run, hrequest,
    lift_ok_bind_run, bind_ok (within_run hsendFrame [])]

/-- **Reassembly.**  The meter serves the read and its answer brings the encoded rows, cut in any
    way.  What is yielded, and how the read ends, depends on the rows alone: if they decode, it is
    their decodings in the window, in order, and the client has sent the opening request and the
    requests for the blocks, nothing else. -/
theorem readLoadProfile_reassembled (h : Serves S R) {physicalAddress obis : String}
    {password : Bytes} {classId : Int} {probe : Bool} {s₀ s : σ} {opening : Bytes}
    {frames sent : List Bytes} {asked : List BlockRequest} (rows : List EncodedRow)
    (hserver : serverHdlcAddress physicalAddress 1 = .ok server)
    (haccepted : associate S server defaultClientAddress password userInformationInitiate
      { sendHeartbeatProbe := probe } s₀ = (.ok (), s))
    (hopening : profileRequest server classId obis fromDt toDt = .ok opening)
    (hfrom : fromDt.utcoffset = none) (hto : toDt.utcoffset = none)
    (hbrings : Brings (rows.map EncodedRow.raw).flatten frames asked) (hR : R s frames sent) :
    ∃ s' raws,
      readLoadProfileViaEstablishedLink S physicalAddress password obis classId fromDt toDt probe
          (s₀, []) =
        ((decodeRows fromDt toDt (rows.map EncodedRow.raw)).2,
          (s', (decodeRows fromDt toDt (rows.map EncodedRow.raw)).1)) ∧
      ∀ decoded : List ProfileRow,
        rows.map (fun row => decodeLoadProfileRow row.raw) = decoded.map .ok →
        decodeRows fromDt toDt (rows.map EncodedRow.raw) =
          (decoded.filter (inWindowB fromDt toDt), .ok ()) ∧
        R s' [] (sent ++ opening :: raws) ∧
        raws.map .ok = asked.map (BlockRequest.frame server defaultClientAddress) := by
  obtain ⟨s₁, hR₁, hread⟩ := readLoadProfile_opened h hserver haccepted hopening hR
  obtain ⟨s', raws, hrun, hlog⟩ :=
    hbrings.transfer fromDt toDt h (serverHdlcAddress_bounds hserver) hR₁
  rw [lastRows_encoded] at hrun hlog
  refine ⟨s', raws, hread.trans hrun, fun decoded hdecoded => ?_⟩
  have hrows : decodeRows fromDt toDt (rows.map EncodedRow.raw) =
      (decoded.filter (inWindowB fromDt toDt), .ok ()) :=
    decodeRows_ok hfrom hto (by rw [List.map_map]; exact hdecoded)
  obtain ⟨hR', hraws⟩ := hlog (by rw [hrows])
  exact ⟨hrows, by rwa [List.append_assoc] at hR', hraws⟩

end Whole

/-! ## A call-home meter -/

/-- Behind the call-home filter the stream of frames serves one frame for each read. -/
theorem filtering_serves :
    Serves (filtering stillWire) fun f answers sent => Live f answers.flatten sent where
  read := by
    intro f raw frame answers sent hsent hlive
    obtain ⟨f', hrun, hlive'⟩ := readFrame_run [] hsent.encoded hsent.short
      (show Live f (noiseBytes [] ++ (raw ++ answers.flatten)) sent from hlive)
    refine ⟨f', hrun, ?_⟩
    rwa [show echoesFrom 0 [] = 0 from rfl, List.replicate_zero, List.append_nil] at hlive'
  send := by
    intro f answers sent data hlive
    refine ⟨{ f with sock := { f.sock with sent := f.sock.sent ++ [data] } }, rfl, ?_⟩
    exact ⟨hlive.stream, by rw [← hlive.sent], hlive.timely⟩

/-- Frames that have arrived behind the filter are a live stream of their bytes. -/
theorem arrived_live (frames sent : List Bytes) (seeking : Bool) :
    Live { sock := { arrived frames with sent := sent }, seeking := seeking } frames.flatten
      sent := by
  refine ⟨?_, rfl, ?_⟩
  · unfold Wire.stream arrived
    induction frames with
    | nil => rfl
    | cons frame frames ih =>
      rw [List.map_cons, List.flatten_cons, List.map_append, List.flatten_append, ih,
        List.flatten_cons]
      cases frame <;> simp [RxEvent.ofBytes, RxEvent.bytes]
  · intro p hp
    obtain ⟨events, hevents, hp⟩ := List.mem_flatten.mp hp
    obtain ⟨frame, _, rfl⟩ := List.mem_map.mp hevents
    obtain ⟨ev, hev, rfl⟩ := List.mem_map.mp hp
    cases frame with
    | nil => cases hev
    | cons b bs =>
      rw [RxEvent.ofBytes, List.mem_singleton] at hev
      subst hev
      exact ⟨⟨b, bs, rfl⟩, show (0 : ℚ) ≤ 0 + 5 by norm_num⟩

/-- Half an hour past midnight, one column. -/
def halfPastMidnight : EncodedRow where
  timestamp := ⟨2026, 9, 12, 0, 30, 0, 0, none, by decide⟩
  fields := [⟨5, 1, 0⟩]
  raw := [0xA0, 0xA0, 0x00, 0x30, 0x00, 0x12, 0x09, 0x26, 0x10, 0x05]
  encoded := by decide +kernel

/-- One o'clock, a negative column with one decimal. -/
def oneOClock : EncodedRow where
  timestamp := ⟨2026, 9, 12, 1, 0, 0, 0, none, by decide⟩
  fields := [⟨-7 / 10, 2, 1⟩]
  raw := [0xA0, 0xA0, 0x00, 0x00, 0x01, 0x12, 0x09, 0x26, 0x21, 0x07, 0xF0]
  encoded := by decide +kernel

/-- The two rows, cut inside the second marker; the request for block 2 is refused once. -/
def cutInMarker : List Bytes :=
  [meterFrame ([0xC4, 2, 1, 0, 0, 0, 0, 1, 0, 11] ++ (halfPastMidnight.raw ++ [0xA0])),
    meterFrame [0xC4, 2, 1, 0, 0, 0, 0, 1, 1, 16],
    meterFrame ([0xC4, 2, 1, 1, 0, 0, 0, 2, 0, 10] ++ oneOClock.raw.drop 1)]

/-- The meter whose blocks are cut inside a marker brings both rows. -/
theorem cutInMarker_brings :
    Brings ([halfPastMidnight, oneOClock].map EncodedRow.raw).flatten cutInMarker
      [⟨2, 2, 1⟩, ⟨3, 2, 2⟩] := by
  have hcarries : ∀ {apdu : Bytes}, apdu.length ≤ 2000 → Carries (meterFrame apdu) apdu :=
    meterFrame_carries
  have hlast : Delivers 2 [oneOClock.raw.drop 1] none
      [meterFrame ([0xC4, 2, 1, 1, 0, 0, 0, 2, 0, 10] ++ oneOClock.raw.drop 1)] :=
    .last (show buildGetResponseDatablock 1 _ = _ by decide +kernel) (hcarries (by decide))
  have hrefused : Delivers 2 [oneOClock.raw.drop 1] (some 0)
      [meterFrame [0xC4, 2, 1, 0, 0, 0, 0, 1, 1, 16],
        meterFrame ([0xC4, 2, 1, 1, 0, 0, 0, 2, 0, 10] ++ oneOClock.raw.drop 1)] :=
    .refused ⟨rfl, rfl, by decide⟩ (hcarries (by decide)) hlast
  have hall : Delivers 1 [halfPastMidnight.raw ++ [0xA0], oneOClock.raw.drop 1] (some 1)
      cutInMarker :=
    .block (show buildGetResponseDatablock 1 _ = _ by decide +kernel) (hcarries (by decide)) hrefused
  exact @Brings.blocks _ _ _ (some 0) _ hall rfl

/-- The AARE and then the two rows, behind the filter. -/
def callHomeMeter : DlT645FilteringSocket Wire :=
  { sock := arrived (meterFrame aareAccepted :: cutInMarker) }

/-- The AARQ with the password "1". -/
def aarqSent : Bytes :=
  (buildAarq [0x31] userInformationInitiate >>= fun aarq =>
    iFrame 0x4001 defaultClientAddress 0 0 (wrapLlcCommand aarq)).toOption.getD []

/-- The meter of the example accepts the association. -/
theorem callHomeMeter_accepted :
    associate (filtering stillWire) 0x4001 defaultClientAddress [0x31] userInformationInitiate
        { sendHeartbeatProbe := false } callHomeMeter =
      (.ok (), { sock := { arrived cutInMarker with sent := [aarqSent] }, seeking := false }) := by
  decide +kernel

def midnight : DateTime := ⟨2026, 9, 12, 0, 0, 0, 0, none, by decide⟩

def quarterToOne : DateTime := ⟨2026, 9, 12, 0, 45, 0, 0, none, by decide⟩

/-- The request for the first three quarters of an hour. -/
def openingSent : Bytes :=
  (profileRequest 0x4001 7 "1.0.99.1.0.ff" midnight quarterToOne).toOption.getD []

/-- Of the two rows one lies in the window; block 2 is asked for twice, the second time with the
    next invoke id. -/
theorem readLoadProfile_reassembled_cutInMarker :
    ∃ s' raws,
      readLoadProfileViaEstablishedLink (filtering stillWire) "1" [0x31] "1.0.99.1.0.ff" 7 midnight
          quarterToOne false (callHomeMeter, []) =
        (.ok (), (s', [⟨halfPastMidnight.timestamp, [5]⟩])) ∧
      Live s' [] ([aarqSent] ++ openingSent :: raws) ∧
      raws.map .ok =
        [⟨2, 2, 1⟩, ⟨3, 2, 2⟩].map (BlockRequest.frame 0x4001 defaultClientAddress) := by
  obtain ⟨s', raws, hrun, hrows⟩ := readLoadProfile_reassembled filtering_serves
    [halfPastMidnight, oneOClock] (show serverHdlcAddress "1" 1 = .ok 0x4001 by decide +kernel)
    callHomeMeter_accepted (show profileRequest 0x4001 7 "1.0.99.1.0.ff" midnight quarterToOne =
      .ok openingSent by decide +kernel) rfl rfl cutInMarker_brings (arrived_live _ _ _)
  obtain ⟨hdecoded, hlive, hraws⟩ := hrows
    [⟨halfPastMidnight.timestamp, [5]⟩, ⟨oneOClock.timestamp, [-7 / 10]⟩] (by decide +kernel)
  have hwindow : [⟨halfPastMidnight.timestamp, [5]⟩, ⟨oneOClock.timestamp, [-7 / 10]⟩].filter
      (inWindowB midnight quarterToOne) = [⟨halfPastMidnight.timestamp, [5]⟩] := by
    decide +kernel
  rw [hdecoded, hwindow] at hrun
  exact ⟨s', raws, hrun, hlive, hraws⟩

end RiseSun.Gateway
