/-
  What the parsers of the meter's answers do with malformed bytes (`protocols/dlms.py`).

  1. **Declared failures** (`parsers_declared_iff`) — the callers catch `GatewayError` and
     `DlmsDataError`, and nothing else.  Three kinds of input make something else come out: a bare
     AARE tag, a data block that ends where its length field should begin, and content that the
     decoder cannot read.

  2. **Data blocks** (`datablocks_whole_iff`) — a slice past the end does not fail, so a block that
     was cut short is returned as if it were whole, and the transfer goes on to the next one unless a
     row that is complete now cannot be decoded.  Where no round loses bytes, the buffer and the rows
     are at every request for a block those of all the data declared before it.
-/
import RiseSun.Gateway.ProfileFailures

namespace RiseSun.Gateway

open Proc

/-! ## Declared failures -/

theorem PyExc.isAnswerFailure_of_badAnswer {e : PyExc} (h : e.isBadAnswer = true) :
    e.isAnswerFailure = true := by
  cases e with
  | gateway _ | dlmsData _ => rfl
  | valueError | unicodeError | indexError | overflowError | typeError | unboundLocalError | assertionError
  | socket => cases h

theorem Declared.of_badAnswer {α : Type} {result : Except PyExc α}
    (h : ∀ e, result = .error e → e.isBadAnswer = true) : Declared result :=
  fun e he => PyExc.isAnswerFailure_of_badAnswer (h e he)

theorem not_declared {α : Type} {result : Except PyExc α} {e : PyExc} (h : result = .error e)
    (he : e.isAnswerFailure = false) : ¬ Declared result := by
  intro hdeclared
  rw [hdeclared e h] at he
  cases he

def setResponseTag : UInt8 := 0xC5
def setResponseNormal : UInt8 := 0x01

def setResultSuccess : UInt8 := 0

/-- `parse_set_response`. -/
def parseSetResponse (data : Bytes) : Except PyExc Unit :=
  if data.length < 4 ∨ data[0]? ≠ some setResponseTag ∨ data[1]? ≠ some setResponseNormal then
    .error (.plain [.text "Ожидался SET.response-normal (тег 0xC5 0x01)"])
  else do
    let result ← byteAt data 3
    if result ≠ setResultSuccess then
      let name : Message := match setResultNames.lookup result.toNat with
        | some name => [.text name]
        | none => [.text "0x", .hexByte result.toNat]
      .error (.plain ([.text "Счётчик отклонил запись параметра: data-access-result=",
        .int result.toNat, .text " ("] ++ name ++ [.text ")"]))
    else .ok ()

theorem parseSetResponse_error {data : Bytes} {e : PyExc} (h : parseSetResponse data = .error e) :
    e.isBadAnswer = true := by
  rw [parseSetResponse] at h
  rcases ite_eq_iff.mp h with ⟨_, h⟩ | ⟨hlong, h⟩
  · cases h
    rfl
  · rcases Result.bind_eq_error h with h | ⟨result, _, h⟩
    · have hshort := (byteAt_eq_error h).1
      have hlen : ¬ data.length < 4 := fun hlt => hlong (.inl hlt)
      omega
    · rcases ite_eq_iff.mp h with ⟨_, h⟩ | ⟨_, h⟩
      · cases h
        rfl
      · cases h

/-- Only the tag, without the length that must follow, is not answered by a declared failure. -/
theorem parseAare_declared_iff (data : Bytes) : Declared (parseAare data) ↔ data ≠ [aareTag] := by
  constructor
  · rintro h rfl
    cases h _ parseAare_bareTag
  · intro hdata e he
    rcases parseAare_error he with hbad | rfl | ⟨_, hbare⟩
    · exact PyExc.isAnswerFailure_of_badAnswer hbad
    · rfl
    · exact absurd hbare hdata

theorem parseGetResponseDatablock_declared_iff (data : Bytes) :
    Declared (parseGetResponseDatablock data) ↔ ¬ LacksLength data := by
  rw [← parseGetResponseDatablock_indexError_iff]
  constructor
  · intro h hindex
    cases h _ hindex
  · intro hindex e he
    rcases parseGetResponseDatablock_error he with hbad | rfl
    · exact PyExc.isAnswerFailure_of_badAnswer hbad
    · exact absurd he hindex

/-- **Declared failures.**  On which bytes each parser of the meter's answers returns a value or
    raises what its callers catch. -/
theorem parsers_declared_iff (data : Bytes) :
    Declared (unwrapLlc data) ∧
    (Declared (parseAare data) ↔ data ≠ [aareTag]) ∧
    (Declared (parseGetResponse data) ↔ (BringsValue data → Readable data 4)) ∧
    Declared (parseSetResponse data) ∧
    Declared (parseActionResponse data) ∧
    (Declared (parseGetResponseDatablock data) ↔ ¬ LacksLength data) ∧
    ∀ offset, (Declared (decodeValue data offset) ↔ Readable data offset) :=
  ⟨.of_badAnswer fun _ h => unwrapLlc_error h, parseAare_declared_iff data,
   parseGetResponse_declared_iff data, .of_badAnswer fun _ h => parseSetResponse_error h,
   .of_badAnswer fun _ h => parseActionResponse_error h,
   parseGetResponseDatablock_declared_iff data, decodeValue_declared_iff data⟩

/-- A bare tag, text that is not ASCII, a block without a length, a date of wildcards inside a
    structure: an `IndexError`, a `UnicodeDecodeError`, an `IndexError` and a `ValueError`. -/
theorem parsers_undeclared :
    ¬ Declared (parseAare [0x61]) ∧
    ¬ Declared (parseGetResponse [0xC4, 0x01, 0x01, 0x00, 0x0A, 0x01, 0xCC]) ∧
    ¬ Declared (parseGetResponseDatablock [0xC4, 0x02, 0x01, 0x00, 0x00, 0x00, 0x00, 0x01, 0x00]) ∧
    ¬ Declared (decodeValue [0x02, 0x01, 0x19, 0xFF, 0xFF, 0xFF, 0xFF, 0xFF, 0xFF, 0xFF, 0xFF, 0xFF,
      0x80, 0x00, 0xFF] 0) :=
  ⟨@not_declared _ _ .indexError (by decide) rfl,
   @not_declared _ _ .unicodeError (by decide) rfl,
   @not_declared _ _ .indexError (by decide) rfl,
   @not_declared _ _ (.valueError []) (by decide) rfl⟩

/-! ## Data blocks -/

/-- The length that a data block declares. -/
def declaredLength (data : Bytes) : Option Nat :=
  match decodeBerLength data 9 with
  | .ok (length, _) => some length
  | .error _ => none

/-- A data block whose data end before the length it declares. -/
def CutShort (data : Bytes) : Prop :=
  data[0]? = some getResponseTag ∧ data[1]? = some getResponseWithDatablock ∧
    data[8]? ≠ some datablockResultDataAccessError ∧
    ∃ length start, decodeBerLength data 9 = .ok (length, start) ∧ data.length < start + length

/-- What is returned for a block, if anything is, has the length that the block declares. -/
def TakenWhole (data : Bytes) (result : Except PyExc DatablockResult) : Prop :=
  ∀ block, result = .ok block → declaredLength data = some block.rawData.length

/-- A length field that can be read stands within the bytes, and the content begins behind it. -/
theorem decodeBerLength_start {data : Bytes} {pos length start : Nat}
    (h : decodeBerLength data pos = .ok (length, start)) : pos < start ∧ start ≤ data.length := by
  unfold decodeBerLength at h
  obtain ⟨first, hfirst, h⟩ := Result.bind_eq_ok h
  have hpos : pos < data.length := by
    by_contra hout
    rw [byteAt_error (by omega)] at hfirst
    cases hfirst
  rcases ite_eq_iff.mp h with ⟨_, h⟩ | ⟨_, h⟩
  · cases h
    omega
  · rcases ite_eq_iff.mp h with ⟨_, h⟩ | ⟨hroom, h⟩
    · cases h
    · cases h
      omega

/-- The number of the block in a payload. -/
def blockNumberOf (payload : Bytes) : Nat := Bytes.fromBE (Bytes.slice payload 4 8)

/-- What a block that is returned was cut out of. -/
theorem parseGetResponseDatablock_ok_iff {data : Bytes} {block : DatablockResult} :
    parseGetResponseDatablock data = .ok block ↔
      data[0]? = some getResponseTag ∧ data[1]? = some getResponseWithDatablock ∧
      data[8]? ≠ some datablockResultDataAccessError ∧
      ∃ last length start, data[3]? = some last ∧ decodeBerLength data 9 = .ok (length, start) ∧
        block = ⟨last ≠ 0, blockNumberOf data, Bytes.slice data start (start + length)⟩ := by
  constructor
  · intro h
    rw [parseGetResponseDatablock] at h
    rcases ite_eq_iff.mp h with ⟨_, h⟩ | ⟨hheader, h⟩
    · cases h
    rw [not_or, not_or, not_not, not_not] at hheader
    obtain ⟨hlen, htag, hblock⟩ := hheader
    obtain ⟨last, hlast, h⟩ := Result.bind_eq_ok h
    obtain ⟨choice, hchoice, h⟩ := Result.bind_eq_ok h
    rcases ite_eq_iff.mp h with ⟨_, h⟩ | ⟨hraw, h⟩
    · cases h
    obtain ⟨⟨length, start⟩, hlength, h⟩ := Result.bind_eq_ok h
    rw [byteAt_ok (by omega)] at hlast hchoice
    refine ⟨htag, hblock, ?_, last, length, start, ?_, hlength, (Except.ok.inj h).symm⟩
    · rw [List.getElem?_eq_getElem (by omega), Except.ok.inj hchoice]
      exact fun h => hraw (Option.some.inj h)
    · rw [List.getElem?_eq_getElem (by omega), Except.ok.inj hlast]
  · rintro ⟨htag, hblock, hchoice, last, length, start, hlast, hlength, rfl⟩
    have hstart := decodeBerLength_start hlength
    have hthird : byteAt data 3 = .ok last := by
      rw [byteAt, hlast]
    rw [parseGetResponseDatablock, if_neg (by
      rw [not_or, not_or, not_not, not_not]
      exact ⟨by omega, htag, hblock⟩), hthird, Result.ok_bind, byteAt_ok (by omega), Result.ok_bind,
      if_neg (by
        intro h
        rw [List.getElem?_eq_getElem (by omega), h] at hchoice
        exact hchoice rfl), hlength]
    rfl

/-- A slice that reaches the end is what is left. -/
theorem CutShort.slice {data : Bytes} {length start : Nat} (h : data.length < start + length) :
    Bytes.slice data start (start + length) = data.drop start := by
  rw [Bytes.slice, Nat.add_sub_cancel_left]
  exact List.take_of_length_le (by rw [List.length_drop]; omega)

/-- A block is taken whole iff its bytes are all there. -/
theorem parseGetResponseDatablock_whole_iff (data : Bytes) :
    TakenWhole data (parseGetResponseDatablock data) ↔ ¬ CutShort data := by
  constructor
  · rintro h ⟨htag, hblock, hchoice, length, start, hlength, hshort⟩
    have hstart := decodeBerLength_start hlength
    have hlast : data[3]? = some (data.get ⟨3, by omega⟩) := List.getElem?_eq_getElem (by omega)
    have hwhole := h _ (parseGetResponseDatablock_ok_iff.mpr
      ⟨htag, hblock, hchoice, _, length, start, hlast, hlength, rfl⟩)
    -- a block that is cut short is taken for what there is of it
    rw [declaredLength, hlength] at hwhole
    dsimp only at hwhole
    rw [CutShort.slice hshort, List.length_drop] at hwhole
    have := Option.some.inj hwhole
    omega
  · intro hwhole block hparse
    obtain ⟨htag, hblock, hchoice, last, length, start, _, hlength, rfl⟩ :=
      parseGetResponseDatablock_ok_iff.mp hparse
    have hfit : start + length ≤ data.length := by
      by_contra hshort
      exact hwhole ⟨htag, hblock, hchoice, length, start, hlength, by omega⟩
    rw [declaredLength, hlength]
    dsimp only
    rw [Bytes.slice_length _ _ _ (by omega) hfit, Nat.add_sub_cancel_left]

/-! ## The transfer behind a block -/

/-- The bytes a payload adds to the buffer if nothing of it is lost: as many as its block declares, from
    behind the length on.  A refusal adds none. -/
def Declares (payload raw : Bytes) : Prop :=
  if Refuses payload then raw = []
  else ∃ length start, decodeBerLength payload 9 = .ok (length, start) ∧ raw.length = length ∧
    raw <+: payload.drop start

section GoesOn

variable {σ : Type} (S : MeterSocket σ) (server client : Int) (fromDt toDt : DateTime)

/-- Round by round: wherever the transfer goes on to another block, the rows it has yielded and the
    bytes it keeps back are those of all the `data` declared so far, and the block it asks for is the
    one behind the last that came (the same once more, if it was refused). -/
def GoesOnWhole : (fuel : Nat) → (data : Bytes) → Transfer → σ → Prop
  | 0, _, _, _ => True
  | fuel + 1, data, t, s => ∀ payload s₁, recvPayload S s = (.ok payload, s₁) →
      ∀ t', (onPayload fromDt toDt t payload).2 = .ask t' →
        ∃ raw, Declares payload raw ∧
          (splitLoadProfileRows data).1 ++ (splitLoadProfileRows (t.buf ++ raw)).1 =
            (splitLoadProfileRows (data ++ raw)).1 ∧
          (onPayload fromDt toDt t payload).1 =
            (decodeRows fromDt toDt (splitLoadProfileRows (t.buf ++ raw)).1).1 ∧
          t'.buf = (splitLoadProfileRows (data ++ raw)).2 ∧
          t'.pendingBlockNumber = (if Refuses payload then t.pendingBlockNumber
            else some (blockNumberOf payload + 1)) ∧
          ∀ s₂, sendGetRequestNext S server client t' s₁ = (.ok (), s₂) →
            GoesOnWhole fuel (data ++ raw) { t' with sendSeq := t'.sendSeq + 1 } s₂

/-- A block that is not the last ends before the length it declares, and the rows that are complete
    with what has come of it can be decoded. -/
def LosesBytes (t : Transfer) (payload : Bytes) : Prop :=
  CutShort payload ∧ payload[3]? = some 0 ∧ ∀ length start,
    decodeBerLength payload 9 = .ok (length, start) →
      ∀ row ∈ (splitLoadProfileRows (t.buf ++ payload.drop start)).1,
        (decodeRowIfInRange fromDt toDt row).isOk = true

/-- No round of the transfer loses bytes. -/
def NothingLost : (fuel : Nat) → Transfer → σ → Prop
  | 0, _, _ => True
  | fuel + 1, t, s => ∀ payload s₁, recvPayload S s = (.ok payload, s₁) →
      ¬ LosesBytes fromDt toDt t payload ∧
      ∀ t', (onPayload fromDt toDt t payload).2 = .ask t' →
        ∀ s₂, sendGetRequestNext S server client t' s₁ = (.ok (), s₂) →
          NothingLost fuel { t' with sendSeq := t'.sendSeq + 1 } s₂

variable {fromDt toDt}

/-- The loop over the rows ends iff no row raises. -/
theorem decodeRows_isOk : ∀ {rows : List Bytes}, (decodeRows fromDt toDt rows).2 = .ok () ↔
    ∀ row ∈ rows, (decodeRowIfInRange fromDt toDt row).isOk = true := by
  intro rows
  induction rows with
  | nil => exact ⟨fun _ _ h => absurd h List.not_mem_nil, fun _ => rfl⟩
  | cons row rows ih =>
    rw [List.forall_mem_cons, decodeRows]
    rcases hrow : decodeRowIfInRange fromDt toDt row with e | decoded
    · constructor
      · intro h
        cases h
      · rintro ⟨h, -⟩
        cases h
    · exact ⟨fun h => ⟨rfl, ih.mp h⟩, fun h => ih.mpr h.2⟩

/-- When the transfer goes on: a refusal for the first time, or a block that is not the last and
    completes only rows that can be decoded. -/
theorem onPayload_ask_iff {t t' : Transfer} {payload : Bytes} {ys : List ProfileRow} :
    onPayload fromDt toDt t payload = (ys, .ask t') ↔
      Refuses payload ∧ t.useIncrementingInvokeId = false ∧ ys = [] ∧ t' = t.afterRefusal ∨
      ¬ Refuses payload ∧ ∃ block, parseGetResponseDatablock payload = .ok block ∧
        block.lastBlock = false ∧ t' = t.afterBlock block ∧
        decodeRows fromDt toDt (splitLoadProfileRows (t.buf ++ block.rawData)).1 = (ys, .ok ()) := by
  rw [onPayload_eq]
  rcases hblock : payloadBlock payload with e | block
  · have hparse : ∀ block, parseGetResponseDatablock payload ≠ .ok block := by
      intro block hparse
      obtain ⟨-, htype, -⟩ := parseGetResponseDatablock_ok_iff.mp hparse
      rw [payloadBlock, htype, if_neg (by decide), if_neg (by simp), hparse] at hblock
      cases hblock
    dsimp only
    by_cases hrefuses : Refuses payload ∧ t.useIncrementingInvokeId = false
    · rw [if_pos hrefuses]
      constructor
      · rintro ⟨⟩
        exact .inl ⟨hrefuses.1, hrefuses.2, rfl, rfl⟩
      · rintro (⟨-, -, rfl, rfl⟩ | ⟨hnot, -⟩)
        · rfl
        · exact absurd hrefuses.1 hnot
    · rw [if_neg hrefuses]
      constructor
      · intro h
        cases (Prod.mk.inj h).2
      · rintro (⟨h₁, h₂, -⟩ | ⟨-, block, hok, -⟩)
        · exact absurd ⟨h₁, h₂⟩ hrefuses
        · exact absurd hok (hparse block)
  · have hrefuses : ¬ Refuses payload := by
      intro hrefuses
      obtain ⟨message, herror⟩ := hrefuses.block
      rw [hblock] at herror
      cases herror
    have hparse : block.lastBlock = false → parseGetResponseDatablock payload = .ok block := by
      intro hlast
      -- an answer in one piece would be the last
      unfold payloadBlock at hblock
      rcases ite_eq_iff.mp hblock with ⟨_, hblock⟩ | ⟨_, hblock⟩
      · rcases ite_eq_iff.mp hblock with ⟨_, hblock⟩ | ⟨_, hblock⟩
        · cases hblock
        · cases hblock
          cases hlast
      · rcases ite_eq_iff.mp hblock with ⟨_, hblock⟩ | ⟨_, hblock⟩
        · cases hblock
        · exact hblock
    have hsame : ∀ {other}, parseGetResponseDatablock payload = .ok other → other = block := by
      intro other hok
      obtain ⟨-, htype, -⟩ := parseGetResponseDatablock_ok_iff.mp hok
      rw [payloadBlock, htype, if_neg (by decide), if_neg (by simp), hok] at hblock
      exact Except.ok.inj hblock
    dsimp only
    constructor
    · intro h
      obtain ⟨rfl, hstep⟩ := Prod.mk.inj h
      rcases hlast : block.lastBlock with _ | _
      · rw [hlast, if_neg Bool.false_ne_true] at hstep
        rcases hrows : (decodeRows fromDt toDt (blockRows t.buf block)).2 with e | ⟨⟩
        · rw [hrows] at hstep
          cases hstep
        · rw [hrows] at hstep
          have hcomplete : blockRows t.buf block = (splitLoadProfileRows (t.buf ++ block.rawData)).1 := by
            rw [blockRows, hlast, if_neg Bool.false_ne_true]
          refine .inr ⟨hrefuses, block, hparse hlast, hlast, (Step.ask.inj hstep).symm, ?_⟩
          rw [← hcomplete, ← hrows]
      · rw [hlast, if_pos rfl] at hstep
        rcases hrows : (decodeRows fromDt toDt (blockRows t.buf block)).2 with e | ⟨⟩
        · rw [hrows] at hstep
          cases hstep
        · rw [hrows] at hstep
          cases hstep
    · rintro (⟨h, -⟩ | ⟨-, other, hok, hlast, rfl, hrows⟩)
      · exact absurd h hrefuses
      · obtain rfl := hsame hok
        rw [blockRows, hlast, if_neg Bool.false_ne_true, if_neg Bool.false_ne_true, hrows]
        rfl

theorem CutShort.not_refuses {payload : Bytes} (h : CutShort payload) : ¬ Refuses payload := by
  rintro ⟨-, hcode⟩
  simp only [isNoLongGetInProgress, Bool.and_eq_true, beq_iff_eq] at hcode
  exact h.2.2.1 hcode.1.2

/-- A block that is cut short does not carry what it declares. -/
theorem CutShort.not_declares {payload raw : Bytes} (h : CutShort payload) : ¬ Declares payload raw := by
  intro hraw
  rw [Declares, if_neg h.not_refuses] at hraw
  obtain ⟨length, start, hlength, hlong, hprefix⟩ := hraw
  obtain ⟨-, -, -, length', start', hlength', hshort⟩ := h
  cases hlength.symm.trans hlength'
  have hle := hprefix.length_le
  have hstart := decodeBerLength_start hlength
  rw [List.length_drop] at hle
  omega

/-- A block that loses bytes is followed by a request for the next one. -/
theorem LosesBytes.goesOn {t : Transfer} {payload : Bytes} (h : LosesBytes fromDt toDt t payload) :
    ∃ ys t', onPayload fromDt toDt t payload = (ys, .ask t') := by
  obtain ⟨hcut, hlast, hrows⟩ := h
  obtain ⟨htag, htype, hchoice, length, start, hlength, hshort⟩ := id hcut
  have hparse : parseGetResponseDatablock payload =
      .ok ⟨false, blockNumberOf payload, payload.drop start⟩ :=
    parseGetResponseDatablock_ok_iff.mpr ⟨htag, htype, hchoice, 0, length, start, hlast, hlength, by
      rw [CutShort.slice hshort]
      rfl⟩
  have hdecode : (decodeRows fromDt toDt
      (splitLoadProfileRows (t.buf ++ payload.drop start)).1).2 = .ok () :=
    decodeRows_isOk.mpr (hrows length start hlength)
  exact ⟨_, _, onPayload_ask_iff.mpr
    (.inr ⟨hcut.not_refuses, _, hparse, rfl, rfl, Prod.ext rfl hdecode⟩)⟩

/-- A block that is gone on behind, and is not cut short, has been taken with all it declares. -/
theorem declares_of_whole {payload : Bytes} {block : DatablockResult} (hrefuses : ¬ Refuses payload)
    (hparse : parseGetResponseDatablock payload = .ok block) (hwhole : ¬ CutShort payload) :
    Declares payload block.rawData := by
  obtain ⟨htag, htype, hchoice, last, length, start, _, hlength, rfl⟩ :=
    parseGetResponseDatablock_ok_iff.mp hparse
  have hfit : start + length ≤ payload.length := by
    by_contra hshort
    exact hwhole ⟨htag, htype, hchoice, length, start, hlength, by omega⟩
  rw [Declares, if_neg hrefuses]
  refine ⟨length, start, hlength, ?_, ?_⟩
  · rw [Bytes.slice_length _ _ _ (by omega) hfit, Nat.add_sub_cancel_left]
  · rw [Bytes.slice, Nat.add_sub_cancel_left]
    exact List.take_prefix _ _

variable {S : MeterSocket σ} {server client : Int}

/-- The induction is on the rounds; what is kept back is what the split leaves of all the data. -/
theorem goesOnWhole_iff : ∀ (fuel : Nat) (data : Bytes) (t : Transfer) (s : σ),
    t.buf = (splitLoadProfileRows data).2 →
      (GoesOnWhole S server client fromDt toDt fuel data t s ↔
        NothingLost S server client fromDt toDt fuel t s) := by
  intro fuel
  induction fuel with
  | zero => exact fun _ _ _ _ => Iff.rfl
  | succ fuel ih =>
    intro data t s hbuf
    rw [GoesOnWhole, NothingLost]
    constructor
    · intro h payload s₁ hrecv
      refine ⟨fun hloses => ?_, fun t' hask s₂ hsend => ?_⟩
      · obtain ⟨ys, t', hgoes⟩ := hloses.goesOn
        obtain ⟨raw, hraw, -⟩ := h payload s₁ hrecv t' (by rw [hgoes])
        exact hloses.1.not_declares hraw
      · obtain ⟨raw, -, -, -, hkept, -, hrest⟩ := h payload s₁ hrecv t' hask
        exact (ih (data ++ raw) { t' with sendSeq := t'.sendSeq + 1 } s₂ hkept).mp (hrest s₂ hsend)
    · intro h payload s₁ hrecv t' hask
      obtain ⟨hkeeps, hrest⟩ := h payload s₁ hrecv
      -- whatever is added to the buffer, it is split as behind all the data
      have hsplit : ∀ raw, splitLoadProfileRows (data ++ raw) =
          ((splitLoadProfileRows data).1 ++ (splitLoadProfileRows (t.buf ++ raw)).1,
            (splitLoadProfileRows (t.buf ++ raw)).2) := by
        intro raw
        rw [hbuf]
        exact Markers.split_append data raw
      have hrounds : ∀ raw, t'.buf = (splitLoadProfileRows (t.buf ++ raw)).2 →
          t'.buf = (splitLoadProfileRows (data ++ raw)).2 ∧
          ∀ s₂, sendGetRequestNext S server client t' s₁ = (.ok (), s₂) →
            GoesOnWhole S server client fromDt toDt fuel (data ++ raw)
              { t' with sendSeq := t'.sendSeq + 1 } s₂ := by
        intro raw hraw
        have hkept : t'.buf = (splitLoadProfileRows (data ++ raw)).2 := by rw [hraw, hsplit]
        refine ⟨hkept, fun s₂ hsend => ?_⟩
        exact (ih (data ++ raw) { t' with sendSeq := t'.sendSeq + 1 } s₂ hkept).mpr
          (hrest t' hask s₂ hsend)
      rcases onPayload_ask_iff.mp (Prod.ext rfl hask) with ⟨hrefuses, -, hrows, rfl⟩ |
        ⟨hrefuses, block, hparse, hlast, rfl, hrows⟩
      · have hagain : t.afterRefusal.buf = (splitLoadProfileRows (t.buf ++ [])).2 := by
          have hsame := congrArg Prod.snd (hsplit [])
          rw [List.append_nil] at hsame
          exact hbuf.trans hsame
        obtain ⟨hkept, hnext⟩ := hrounds [] hagain
        refine ⟨[], by rw [Declares, if_pos hrefuses], by rw [hsplit], ?_, hkept,
          (if_pos hrefuses).symm, hnext⟩
        -- nothing is complete in what was kept back
        rw [List.append_nil, hbuf, splitLoadProfileRows_rest]
        exact hrows
      · obtain ⟨hkept, hnext⟩ := hrounds block.rawData rfl
        obtain ⟨-, -, -, last, length, start, hthird, hlength, heq⟩ :=
          parseGetResponseDatablock_ok_iff.mp hparse
        refine ⟨block.rawData, declares_of_whole hrefuses hparse ?_, by rw [hsplit],
          (congrArg Prod.fst hrows).symm, hkept, ?_, hnext⟩
        · intro hcut
          refine hkeeps ⟨hcut, ?_, ?_⟩
          · rw [heq] at hlast
            rw [hthird, not_not.mp (of_decide_eq_false hlast)]
          · intro length' start' hlength'
            cases hlength.symm.trans hlength'
            obtain ⟨-, -, -, length', start', hlength', hshort⟩ := hcut
            cases hlength.symm.trans hlength'
            rw [heq] at hrows
            dsimp only at hrows
            rw [CutShort.slice hshort] at hrows
            exact decodeRows_isOk.mp (congrArg Prod.snd hrows)
        · rw [if_neg hrefuses, heq]
          rfl

end GoesOn

/-- **Data blocks.**  A block is returned with the length it declares iff its bytes are all there.  A
    transfer goes on to another block only with all the data declared so far, split into the rows it
    has yielded and the buffer it keeps, iff no round loses bytes. -/
theorem datablocks_whole_iff {σ : Type} (data : Bytes) (S : MeterSocket σ) (server client : Int)
    (fromDt toDt : DateTime) (s : σ) :
    (TakenWhole data (parseGetResponseDatablock data) ↔ ¬ CutShort data) ∧
    (GoesOnWhole S server client fromDt toDt (S.pending s + 1) [] {} s ↔
      NothingLost S server client fromDt toDt (S.pending s + 1) {} s) :=
  ⟨parseGetResponseDatablock_whole_iff data, goesOnWhole_iff _ [] {} s rfl⟩

/-- A block of five bytes of which one has come: it is returned, and the next block is asked for. -/
theorem cut_block_taken :
    ¬ TakenWhole [0xC4, 0x02, 0x01, 0x00, 0x00, 0x00, 0x00, 0x01, 0x00, 0x05, 0xA0]
      (parseGetResponseDatablock
        [0xC4, 0x02, 0x01, 0x00, 0x00, 0x00, 0x00, 0x01, 0x00, 0x05, 0xA0]) ∧
    onPayload ⟨2026, 1, 1, 0, 0, 0, 0, none, by decide⟩ ⟨2026, 1, 2, 0, 0, 0, 0, none, by decide⟩ {}
      [0xC4, 0x02, 0x01, 0x00, 0x00, 0x00, 0x00, 0x01, 0x00, 0x05, 0xA0] =
      ([], .ask { buf := [0xA0], pendingBlockNumber := some 2 }) := by
  refine ⟨fun h => ?_, by decide⟩
  have hlength := h ⟨false, 1, [0xA0]⟩ (by decide)
  revert hlength
  decide

end RiseSun.Gateway
