/-
  When a load profile read returns, and with which rows.

  The consumer of the row generator keeps the rows that were yielded before an exception it knows
  (`Caught`).  Everything else goes through it and takes the rows with it.  Its own caller catches a
  little more, so the lemmas are about any `P` that consumers may have (`Consumes`).

  1. **Frames** (`FramesBodied`) — what may come so that waiting for an I-frame raises nothing but
     caught exceptions.

  2. **The association** (`AssociationIntact`) and **the transfer** (`TransferIntact`) — the same for
     what the read does with the frames.  The conditions follow the run, one frame and one payload
     after the other.

  3. **The read** (`readLoadProfile_returns_iff`) — it returns iff it is intact, and then with the
     rows received.
-/
import RiseSun.Gateway.Exchange
import RiseSun.Gateway.ReceivedRows

namespace RiseSun.Gateway

open Proc

variable {σ : Type}

/-! ## Exceptions -/

/-- The exceptions on which the consumer returns the rows it has. -/
def Caught : PyExc → Prop
  | .gateway e => e.code ≠ "AUTH_FAILED"
  | .dlmsData _ => True
  | .socket _ => True
  | _ => False

/-- A caught exception is returned beside the rows. -/
theorem Caught.profileResult {e : PyExc} (h : Caught e) (connNo : Nat) (rows : List ProfileRow) :
    ∃ error, profileResult connNo rows (.error e) = .ok (rows, some error) := by
  cases e with
  | gateway e => exact ⟨e, if_neg h⟩
  | dlmsData | socket => exact ⟨_, rfl⟩
  | valueError | unicodeError | indexError | overflowError | typeError | unboundLocalError | assertionError =>
    exact h.elim

/-- An exception beside which rows are returned is a caught one; every other is raised again. -/
theorem caught_of_profileResult {connNo : Nat} {rows : List ProfileRow} {e : PyExc}
    {result : List ProfileRow × Option GatewayError}
    (h : profileResult connNo rows (.error e) = .ok result) : Caught e := by
  cases e with
  | gateway e =>
    intro hcode
    have hraised : Gateway.profileResult connNo rows (.error (.gateway e)) = .error (.gateway e) :=
      if_pos hcode
    rw [hraised] at h
    cases h
  | dlmsData | socket => trivial
  | valueError | unicodeError | indexError | overflowError | typeError | unboundLocalError
  | assertionError => cases h

/-- A bad answer, a wrong checksum or an answer that is none of the expected ones, is caught. -/
theorem Caught.of_badAnswer {e : PyExc} (h : e.isBadAnswer = true) : Caught e := by
  cases e with
  | gateway e =>
    rcases e with ⟨cls, message, isPartial, rawFrame⟩
    cases cls with
    | gatewayError => exact show ErrorClass.gatewayError.code ≠ "AUTH_FAILED" by decide
    | crcError => exact show ErrorClass.crcError.code ≠ "AUTH_FAILED" by decide
    | meterTimeoutError | authFailedError | connectionLostError | addressingError
    | noConnectionEstablishedError => cases h
  | dlmsData | valueError | unicodeError | indexError | overflowError | typeError
  | unboundLocalError | assertionError | socket => cases h

/-- The loss of the link is caught, be it a timeout, a lost connection or an error of the socket. -/
theorem Caught.of_linkLoss {e : PyExc} (h : LinkLoss e) : Caught e := by
  cases e with
  | gateway e =>
    rcases e with ⟨cls, message, isPartial, rawFrame⟩
    cases cls with
    | meterTimeoutError => exact show ErrorClass.meterTimeoutError.code ≠ "AUTH_FAILED" by decide
    | connectionLostError =>
      exact show ErrorClass.connectionLostError.code ≠ "AUTH_FAILED" by decide
    | gatewayError | crcError | authFailedError | addressingError
    | noConnectionEstablishedError => cases h
  | socket => trivial
  | dlmsData | valueError | unicodeError | indexError | overflowError | typeError
  | unboundLocalError | assertionError => cases h

/-- A timeout counts as the loss of the link. -/
theorem isMeterTimeout_linkLoss {e : PyExc} (h : e.isMeterTimeout = true) : LinkLoss e := by
  cases e with
  | gateway e =>
    have hcls : e.cls = .meterTimeoutError := beq_iff_eq.mp h
    show (e.cls == .connectionLostError || e.cls == .meterTimeoutError) = true
    rw [hcls]
    rfl
  | dlmsData | valueError | unicodeError | indexError | overflowError | typeError
  | unboundLocalError | assertionError | socket => cases h

/-- A consumer that catches what `Caught` says, and none of the exceptions of the runtime that a
    transfer can end with. -/
structure Consumes (P : PyExc → Prop) : Prop where
  caught : ∀ {e : PyExc}, Caught e → P e
  index : ¬ P .indexError
  value : ¬ P (.valueError [])
  overflow : ¬ P .overflowError
  type : ¬ P .typeError
  unboundLocal : ¬ P .unboundLocalError

/-- The consumer of the row generator is one itself. -/
theorem Caught.consumes : Consumes Caught := ⟨id, id, id, id, id, id⟩

/-- Such a consumer is a caller that tolerates bad answers, timeouts and a lost connection. -/
theorem Consumes.tolerates {P : PyExc → Prop} (hP : Consumes P) : Tolerates P where
  badAnswer h := hP.caught (.of_badAnswer h)
  timeout h := hP.caught (.of_linkLoss (isMeterTimeout_linkLoss h))
  connectionLost := hP.caught (.of_linkLoss rfl)
  index := hP.index
  value := hP.value

/-! ## Frames -/

/-- Up to the first I-frame, and for at most `left` frames, no frame that comes ends before its
    control byte. -/
def FramesBodied (S : MeterSocket σ) : (left : Nat) → σ → Prop
  | 0, _ => True
  | left + 1, s =>
    match readFrameFromTransport S s with
    | (.error _, _) => True
    | (.ok raw, s') => ¬ EndsWithAddresses raw ∧
        ∀ frame, HdlcFrame.decode raw = .ok frame →
          frame.control &&& 0x01 = 0 ∨ FramesBodied S left s'

/-- The condition on the frames says that whatever ends the wait for an I-frame is caught. -/
theorem framesBodied_iff {P : PyExc → Prop} (hP : ∀ {e}, FrameFailure e → P e) (S : MeterSocket σ) :
    ∀ (left : Nat) (s : σ), FramesBodied S left s ↔ FramesWithin P S left s := by
  intro left
  induction left with
  | zero => exact fun _ => Iff.rfl
  | succ left ih =>
    intro s
    rw [FramesBodied, FramesWithin]
    rcases hread : readFrameFromTransport S s with ⟨e | raw, s'⟩
    · have hcaught : P e := hP (readFrameFromTransport_raises S s e s' hread)
      exact ⟨fun _ => hcaught, fun _ => trivial⟩
    · dsimp only
      rw [ih]

section Consumer

variable {P : PyExc → Prop} (hP : Consumes P)

include hP

/-- A consumer catches whatever can go wrong with a frame. -/
theorem Consumes.frame {e : PyExc} (h : FrameFailure e) : P e :=
  hP.caught (h.elim .of_badAnswer .of_linkLoss)

/-- Waiting for an I-frame raises only what is caught exactly if no frame that comes ends before its
    control byte. -/
theorem recvIFrameLoop_caught (S : MeterSocket σ) (left : Nat) (s : σ) :
    RaisesOnly P (recvIFrameLoop S left) s ↔ FramesBodied S left s := by
  rw [framesBodied_iff hP.frame, recvIFrameLoop_within hP.tolerates]

/-- With addresses of 28 bits and at most 2000 bytes of information the I-frame can be built, and
    what the socket raises while it is sent is caught. -/
theorem sendIFrame_caught {S : MeterSocket σ} {server client : Int}
    (hs : 0 ≤ server ∧ server < 2 ^ 28) (hc : 0 ≤ client ∧ client < 2 ^ 28) (sendSeq recvSeq : Nat)
    {information : Bytes} (hlen : information.length ≤ 2000) (s : σ) :
    RaisesOnly P (sendIFrame S server client sendSeq recvSeq information) s :=
  sendIFrame_within hP.tolerates hs hc sendSeq recvSeq hlen s

end Consumer

/-! ## The association -/

section Association

variable (S : MeterSocket σ) (server client : Int) (information : Bytes) (options : AarqOptions)
  (original : Option ℚ)

/-- While the AARE is awaited, attempt by attempt, no frame that comes ends before its control
    byte. -/
def AttemptsBodied : (left : Nat) → (retry : Bool) → σ → Prop
  | 0, _, _ => True
  | left + 1, retry, s =>
    match startAttempt S server client information options original retry s with
    | (.error _, _) => True
    | (.ok (), s₁) => FramesBodied S maxSupervisoryFramesSkipped s₁ ∧
        ∀ e s₂, recvIFrame S s₁ = (.error e, s₂) → e.isMeterTimeout = true →
          original.any (· ≤ S.time s₂) = false → AttemptsBodied left true s₂

/-- While the association is set up: the password leaves room for its length, no frame ends before
    its control byte, and the AARE is more than its tag. -/
def AssociationIntact (password : Bytes) (s : σ) : Prop :=
  password.length ≤ 253 ∧
  ∀ aarq, buildAarq password userInformationInitiate = .ok aarq →
    AttemptsBodied S server client (wrapLlcCommand aarq) options (currentDeadline S s)
      options.maxAttempts false s ∧
    ∀ frame s', sendAarqAndAwaitAare S server client (wrapLlcCommand aarq) options s =
      (.ok frame, s') → unwrapLlc frame.information ≠ .ok [aareTag]

variable {server client information} {P : PyExc → Prop}

/-- The condition on the frames of the attempts says that the attempts raise only what is caught. -/
theorem attemptsBodied_iff (hP : ∀ {e}, FrameFailure e → P e) : ∀ (left : Nat) (retry : Bool) (s : σ),
    AttemptsBodied S server client information options original left retry s ↔
      AttemptsWithin P S server client information options original left retry s := by
  intro left
  induction left with
  | zero => exact fun _ _ => Iff.rfl
  | succ left ih =>
    intro retry s
    rw [AttemptsBodied, AttemptsWithin]
    rcases startAttempt S server client information options original retry s with ⟨e | _, s₁⟩
    · exact Iff.rfl
    · dsimp only
      rw [framesBodied_iff hP]
      exact and_congr_right' (forall₂_congr fun _ s₂ => by rw [ih])

/-- The condition on the frames of the association says that it raises only what is caught. -/
theorem associationIntact_iff (hP : ∀ {e}, FrameFailure e → P e) (password : Bytes) (s : σ) :
    AssociationIntact S server client options password s ↔
      AssociationWithin P S server client options password s :=
  and_congr_right' (forall₂_congr fun _ _ =>
    and_congr_left' (attemptsBodied_iff S options _ hP _ _ s))

/-- Where a rejection is caught or does not come, the association raises nothing but caught
    exceptions iff it is intact. -/
theorem associate_caught (hP : Consumes P) (hs : 0 ≤ server ∧ server < 2 ^ 28)
    (hc : 0 ≤ client ∧ client < 2 ^ 28)
    (password : Bytes) (s : σ)
    (hrejected : P authFailed ∨
      (associate S server client password userInformationInitiate options s).1 ≠ .error authFailed) :
    RaisesOnly P (associate S server client password userInformationInitiate options) s ↔
      AssociationIntact S server client options password s := by
  rw [associationIntact_iff S options hP.frame]
  exact associate_within hP.tolerates S options hs hc password s hrejected

end Association

/-! ## The transfer -/

/-- The window can be compared with a moment without time zone: the upper bound only counts if the
    moment is not before the lower one. -/
def Comparable (fromDt toDt timestamp : DateTime) : Prop :=
  fromDt.utcoffset = none ∧ (toDt.utcoffset = none ∨ timestamp.clock < fromDt.clock)

/-- The time of a row, which has no zone, is compared with the window exactly if the bounds that
    count have none either. -/
theorem inWindow_comparable (fromDt toDt : DateTime) {timestamp : DateTime}
    (hplain : timestamp.Plain) :
    (∃ inRange, inWindow fromDt toDt timestamp = .ok inRange) ↔
      Comparable fromDt toDt timestamp := by
  unfold inWindow Comparable
  have hnone := hplain.2
  cases hfrom : fromDt.utcoffset with
  | some offset =>
    rw [DateTime.le?_mixed (by rw [hfrom, hnone]; exact Bool.noConfusion)]
    exact ⟨fun ⟨_, h⟩ => (nomatch h), fun h => by cases h.1⟩
  | none =>
    rw [DateTime.le?_naive hfrom hnone]
    by_cases hle : fromDt.clock ≤ timestamp.clock
    · rw [decide_eq_true hle]
      dsimp only
      cases hto : toDt.utcoffset with
      | some offset =>
        rw [DateTime.le?_mixed (by rw [hto, hnone]; exact Bool.noConfusion)]
        refine ⟨fun ⟨_, h⟩ => (nomatch h), fun h => ?_⟩
        rcases h.2 with h | h
        · cases h
        · omega
      | none =>
        rw [DateTime.le?_naive hnone hto]
        exact ⟨fun _ => ⟨rfl, .inl rfl⟩, fun _ => ⟨_, rfl⟩⟩
    · rw [decide_eq_false hle]
      exact ⟨fun _ => ⟨rfl, .inr (by omega)⟩, fun _ => ⟨false, rfl⟩⟩

/-- Comparing a row's time with the window fails only with the `TypeError` of naive against aware.
    -/
theorem inWindow_error {fromDt toDt timestamp : DateTime} {e : PyExc}
    (h : inWindow fromDt toDt timestamp = .error e) : e = .typeError := by
  unfold inWindow at h
  cases hfrom : fromDt.le? timestamp with
  | none =>
    rw [hfrom] at h
    cases h
    rfl
  | some after =>
    rw [hfrom] at h
    cases after with
    | false => cases h
    | true =>
      dsimp only at h
      split at h
      · cases h
        rfl
      · cases h

/-- Up to the first row that is malformed, no value has a digit above 9, and the timestamps can be
    compared with the window. -/
def RowsReadable (fromDt toDt : DateTime) : List Bytes → Prop
  | [] => True
  | row :: rows => ¬ BadDigitRow row ∧
      ∀ decoded, decodeLoadProfileRow row = .ok decoded →
        Comparable fromDt toDt decoded.timestamp ∧ RowsReadable fromDt toDt rows

section Consumer

variable {P : PyExc → Prop} (hP : Consumes P)

include hP

/-- Decoding rows ends with nothing but a caught exception exactly if every row that is reached can
    be read. -/
theorem decodeRows_caught {fromDt toDt : DateTime} : ∀ {rows : List Bytes},
    (∀ e, (decodeRows fromDt toDt rows).2 = .error e → P e) ↔ RowsReadable fromDt toDt rows := by
  intro rows
  induction rows with
  | nil => exact ⟨fun _ => trivial, fun _ e h => (by cases h)⟩
  | cons row rows ih =>
    unfold RowsReadable
    rw [decodeRows, ← decodeLoadProfileRow_valueError_iff]
    cases hrow : decodeLoadProfileRow row with
    | error e =>
      have hone : decodeRowIfInRange fromDt toDt row = .error e := by
        unfold decodeRowIfInRange
        rw [hrow]
        rfl
      rw [hone]
      constructor
      · intro h
        refine ⟨?_, fun decoded hok => (by cases hok)⟩
        rintro ⟨⟩
        exact hP.value (h _ rfl)
      · rintro ⟨hdigit, _⟩ _ ⟨⟩
        rcases decodeLoadProfileRow_error hrow with ⟨message, rfl⟩ | rfl
        · exact hP.caught (.of_badAnswer rfl)
        · exact absurd rfl hdigit
    | ok decoded =>
      have hwindow := inWindow_comparable fromDt toDt (decodeLoadProfileRow_plain hrow)
      cases hrange : inWindow fromDt toDt decoded.timestamp with
      | error e =>
        have hone : decodeRowIfInRange fromDt toDt row = .error e := by
          unfold decodeRowIfInRange
          rw [hrow, Result.ok_bind, hrange]
          rfl
        rw [hone]
        rw [inWindow_error hrange] at hone ⊢
        constructor
        · intro h
          exact absurd (h _ rfl) hP.type
        · intro h
          obtain ⟨inRange, hin⟩ := hwindow.mpr (h.2 decoded rfl).1
          rw [hrange] at hin
          cases hin
      | ok inRange =>
        have hone : decodeRowIfInRange fromDt toDt row =
            .ok (if inRange then some decoded else none) := by
          unfold decodeRowIfInRange
          rw [hrow, Result.ok_bind, hrange]
          rfl
        rw [hone]
        dsimp only
        rw [ih]
        constructor
        · intro h
          refine ⟨fun herr => (by cases herr), ?_⟩
          rintro _ ⟨⟩
          exact ⟨hwindow.mp ⟨_, hrange⟩, h⟩
        · intro h
          exact (h.2 decoded rfl).2

/-- A block is asked for iff there is one and its number fits four bytes. -/
theorem sendGetRequestNext_caught {S : MeterSocket σ} {server client : Int}
    (hs : 0 ≤ server ∧ server < 2 ^ 28) (hc : 0 ≤ client ∧ client < 2 ^ 28) (t : Transfer) (s : σ) :
    RaisesOnly P (sendGetRequestNext S server client t) s ↔
      ∃ number, t.pendingBlockNumber = some number ∧ number < 256 ^ 4 := by
  unfold sendGetRequestNext
  cases hpending : t.pendingBlockNumber with
  | none =>
    rw [raisesOnly_bind_error (lift_run _ s)]
    exact ⟨fun h => absurd h hP.unboundLocal, fun ⟨_, h, _⟩ => (nomatch h)⟩
  | some number =>
    rw [raisesOnly_bind_ok (lift_run _ s)]
    by_cases hfit : number < 256 ^ 4
    · have hbytes : toBytes 4 number = .ok (Bytes.toBE 4 number) := by
        unfold toBytes
        rw [if_pos (by omega), Int.toNat_natCast]
      have hbuild : buildGetRequestNext number (UInt8.ofNat t.invokeId) =
          .ok ([getRequestTag, getRequestNext, UInt8.ofNat t.invokeId] ++ Bytes.toBE 4 number) := by
        unfold buildGetRequestNext
        rw [hbytes]
        rfl
      rw [hbuild, raisesOnly_bind_ok (lift_run _ s)]
      refine ⟨fun _ => ⟨number, rfl, hfit⟩, fun _ => sendIFrame_caught hP hs hc _ _ ?_ s⟩
      simp only [wrapLlcCommand, llcCommandHeader, List.length_append, List.length_cons,
        List.length_nil, Bytes.toBE_length]
      omega
    · have hbuild : buildGetRequestNext number (UInt8.ofNat t.invokeId) = .error .overflowError := by
        unfold buildGetRequestNext toBytes
        rw [if_neg (by omega)]
        rfl
      rw [hbuild, raisesOnly_bind_error (lift_run _ s)]
      refine ⟨fun h => absurd h hP.overflow, ?_⟩
      rintro ⟨_, ⟨⟩, hlt⟩
      exact absurd hlt hfit

end Consumer

/-- A data block that ends before its length field. -/
def LacksLength (data : Bytes) : Prop :=
  data.length = 9 ∧ data[0]? = some getResponseTag ∧ data[1]? = some getResponseWithDatablock ∧
    data[8]? ≠ some datablockResultDataAccessError

/-- The transfer can cope with a payload: a data block has its length field, a refusal does not come
    before the first block, the rows can be read, and there is a number for the next block. -/
def PayloadIntact (fromDt toDt : DateTime) (t : Transfer) (payload : Bytes) : Prop :=
  match payloadBlock payload with
  | .error _ => ¬ LacksLength payload ∧
      (Refuses payload → t.useIncrementingInvokeId = true ∨ t.pendingBlockNumber ≠ none)
  | .ok block => RowsReadable fromDt toDt (blockRows t.buf block) ∧
      (block.lastBlock = false → (decodeRows fromDt toDt (blockRows t.buf block)).2 = .ok () →
        block.blockNumber + 1 < 256 ^ 4)

/-- A length that cannot be read is a bad answer or runs past the end. -/
theorem decodeBerLength_error {data : Bytes} {pos : Nat} {e : PyExc}
    (h : decodeBerLength data pos = .error e) : e.isBadAnswer = true ∨ e = .indexError := by
  unfold decodeBerLength at h
  rcases Result.bind_eq_error h with h | ⟨first, _, h⟩
  · exact .inr (byteAt_eq_error h).2
  · rcases ite_eq_iff.mp h with ⟨_, h⟩ | ⟨_, h⟩
    · cases h
    · rcases ite_eq_iff.mp h with ⟨_, h⟩ | ⟨_, h⟩
      · cases h
        exact .inl rfl
      · cases h

/-- An answer that is no data block is a bad answer or runs past the end. -/
theorem parseGetResponseDatablock_error {data : Bytes} {e : PyExc}
    (h : parseGetResponseDatablock data = .error e) : e.isBadAnswer = true ∨ e = .indexError := by
  unfold parseGetResponseDatablock at h
  rcases ite_eq_iff.mp h with ⟨_, h⟩ | ⟨_, h⟩
  · cases h
    exact .inl rfl
  · rcases Result.bind_eq_error h with h | ⟨last, _, h⟩
    · exact .inr (byteAt_eq_error h).2
    rcases Result.bind_eq_error h with h | ⟨choice, _, h⟩
    · exact .inr (byteAt_eq_error h).2
    rcases ite_eq_iff.mp h with ⟨_, h⟩ | ⟨_, h⟩
    · cases h
      exact .inl rfl
    · rcases Result.bind_eq_error h with h | ⟨_, _, h⟩
      · exact decodeBerLength_error h
      · cases h

/-- An `IndexError` is that of the length field: the header promises nine bytes. -/
theorem parseGetResponseDatablock_indexError_iff {data : Bytes} :
    parseGetResponseDatablock data = .error .indexError ↔ LacksLength data := by
  unfold parseGetResponseDatablock
  constructor
  · intro h
    rcases ite_eq_iff.mp h with ⟨_, h⟩ | ⟨hheader, h⟩
    · cases h
    rw [not_or, not_or, not_not, not_not] at hheader
    obtain ⟨hlen, htag, hblock⟩ := hheader
    rcases Result.bind_eq_error h with h | ⟨last, _, h⟩
    · have := (byteAt_eq_error h).1
      omega
    rcases Result.bind_eq_error h with h | ⟨choice, hchoice, h⟩
    · have := (byteAt_eq_error h).1
      omega
    rcases ite_eq_iff.mp h with ⟨_, h⟩ | ⟨hraw, h⟩
    · cases h
    rcases Result.bind_eq_error h with h | ⟨_, _, h⟩
    swap
    · cases h
    unfold decodeBerLength at h
    rcases Result.bind_eq_error h with h | ⟨first, _, h⟩
    · -- the byte of the length is missing
      refine ⟨?_, htag, hblock, ?_⟩
      · have := (byteAt_eq_error h).1
        omega
      · rw [byteAt_ok (by omega)] at hchoice
        rw [List.getElem?_eq_getElem (by omega), Except.ok.inj hchoice]
        exact fun h => hraw (Option.some.inj h)
    · rcases ite_eq_iff.mp h with ⟨_, h⟩ | ⟨_, h⟩
      · cases h
      · rcases ite_eq_iff.mp h with ⟨_, h⟩ | ⟨_, h⟩ <;> cases h
  · rintro ⟨hlen, htag, hblock, hchoice⟩
    -- nine bytes: the length would be the tenth
    rw [if_neg (by
        rw [not_or, not_or, not_not, not_not]
        exact ⟨by omega, htag, hblock⟩), byteAt_ok (by omega), Result.ok_bind, byteAt_ok (by omega),
      Result.ok_bind, if_neg (by
        intro h
        rw [List.getElem?_eq_getElem (by omega), h] at hchoice
        exact hchoice rfl), decodeBerLength, byteAt_error (by omega)]
    rfl

/-- A payload without a block is a bad answer or runs past the end. -/
theorem payloadBlock_error {payload : Bytes} {e : PyExc} (h : payloadBlock payload = .error e) :
    e.isBadAnswer = true ∨ e = .indexError := by
  unfold payloadBlock at h
  rcases ite_eq_iff.mp h with ⟨_, h⟩ | ⟨_, h⟩
  · rcases ite_eq_iff.mp h with ⟨_, h⟩ | ⟨_, h⟩
    · cases h
      exact .inl rfl
    · cases h
  · rcases ite_eq_iff.mp h with ⟨_, h⟩ | ⟨_, h⟩
    · cases h
      exact .inl rfl
    · exact parseGetResponseDatablock_error h

/-- The `IndexError` of a payload is that of the length field of its block. -/
theorem payloadBlock_indexError_iff {payload : Bytes} :
    payloadBlock payload = .error .indexError ↔ LacksLength payload := by
  rw [← parseGetResponseDatablock_indexError_iff]
  constructor
  · intro h
    unfold payloadBlock at h
    rcases ite_eq_iff.mp h with ⟨_, h⟩ | ⟨_, h⟩
    · rcases ite_eq_iff.mp h with ⟨_, h⟩ | ⟨_, h⟩ <;> cases h
    rcases ite_eq_iff.mp h with ⟨_, h⟩ | ⟨_, h⟩
    · cases h
    · exact h
  · intro h
    have htype := (parseGetResponseDatablock_indexError_iff.mp h).2.2.1
    rw [payloadBlock, htype, if_neg (by decide), if_neg (by simp), h]

/-- What follows raises nothing but what `P` catches: a failure is caught, and a block that is asked
    for has a number of four bytes. -/
def Step.Allowed (P : PyExc → Prop) : Step → Prop
  | .done => True
  | .failed e => P e
  | .ask t => ∃ number, t.pendingBlockNumber = some number ∧ number < 256 ^ 4

/-- Whatever follows a payload the transfer cannot cope with is raised, and only then. -/
theorem onPayload_caught {P : PyExc → Prop} (hP : Consumes P) (fromDt toDt : DateTime)
    {t : Transfer} (payload : Bytes)
    (hpending : ∀ number, t.pendingBlockNumber = some number → number < 256 ^ 4) :
    PayloadIntact fromDt toDt t payload ↔ (onPayload fromDt toDt t payload).2.Allowed P := by
  unfold PayloadIntact
  rw [onPayload_eq, ← payloadBlock_indexError_iff]
  cases hblock : payloadBlock payload with
  | error e =>
    dsimp only
    by_cases hrefuses : Refuses payload ∧ t.useIncrementingInvokeId = false
    · rw [if_pos hrefuses]
      have hindex : (.error e : Except PyExc DatablockResult) ≠ .error .indexError := by
        obtain ⟨message, hmessage⟩ := hrefuses.1.block
        rw [hblock] at hmessage
        cases hmessage
        intro h
        cases h
      constructor
      · rintro ⟨_, h⟩
        rcases h hrefuses.1 with hmode | hsome
        · rw [hrefuses.2] at hmode
          cases hmode
        · obtain ⟨number, hnumber⟩ := Option.ne_none_iff_exists'.mp hsome
          exact ⟨number, hnumber, hpending number hnumber⟩
      · rintro ⟨number, hnumber, _⟩
        refine ⟨hindex, fun _ => .inr ?_⟩
        intro hnone
        have hsome : t.pendingBlockNumber = some number := hnumber
        rw [hnone] at hsome
        cases hsome
    · rw [if_neg hrefuses]
      constructor
      · rintro ⟨hindex, _⟩
        rcases payloadBlock_error hblock with hbad | rfl
        · exact hP.caught (.of_badAnswer hbad)
        · exact absurd rfl hindex
      · intro hcaught
        refine ⟨?_, fun h => .inl ?_⟩
        · rintro ⟨⟩
          exact hP.index hcaught
        · cases hmode : t.useIncrementingInvokeId with
          | true => rfl
          | false => exact absurd ⟨h, hmode⟩ hrefuses
  | ok block =>
    dsimp only
    rw [← decodeRows_caught hP]
    cases hrows : (decodeRows fromDt toDt (blockRows t.buf block)).2 with
    | error e =>
      constructor
      · intro h
        exact h.1 e rfl
      · intro hcaught
        refine ⟨?_, fun _ hok => (nomatch hok)⟩
        rintro _ ⟨⟩
        exact hcaught
    | ok u =>
      cases u
      cases hlast : block.lastBlock with
      | true =>
        exact ⟨fun _ => trivial, fun _ => ⟨fun _ h => (nomatch h), fun h => (nomatch h)⟩⟩
      | false =>
        constructor
        · intro h
          exact ⟨block.blockNumber + 1, rfl, h.2 rfl rfl⟩
        · rintro ⟨_, ⟨⟩, hlt⟩
          exact ⟨fun _ h => (nomatch h), fun _ _ => hlt⟩

section TransferCaught

variable (S : MeterSocket σ) (server client : Int) (fromDt toDt : DateTime)

/-- Round by round, no frame ends before its control byte and the transfer can cope with every
    payload. -/
def TransferIntact : (fuel : Nat) → Transfer → σ → Prop
  | 0, _, _ => True
  | fuel + 1, t, s => FramesBodied S maxSupervisoryFramesSkipped s ∧
      ∀ payload s₁, recvPayload S s = (.ok payload, s₁) →
        PayloadIntact fromDt toDt t payload ∧
        ∀ t' s₂, (onPayload fromDt toDt t payload).2 = .ask t' →
          sendGetRequestNext S server client t' s₁ = (.ok (), s₂) →
            TransferIntact fuel { t' with sendSeq := t'.sendSeq + 1 } s₂

variable {server client} {P : PyExc → Prop} (hP : Consumes P)

include hP

/-- Receiving a payload raises only what is caught exactly if the frames skipped on the way have
    their control bytes. -/
theorem recvPayload_caught (s : σ) :
    RaisesOnly P (recvPayload S) s ↔ FramesBodied S maxSupervisoryFramesSkipped s := by
  rw [← recvIFrameLoop_caught hP, recvPayload, raisesOnly_bind]
  refine ⟨And.left, fun h => ⟨h, fun frame s' _ => raisesOnly_lift.mpr fun e he => ?_⟩⟩
  exact hP.caught (.of_badAnswer (unwrapLlc_error he))

/-- A step of the transfer raises only what is caught if it may itself, and if the next request,
    once sent, is followed by a transfer that does. -/
theorem followStep_caught (hs : 0 ≤ server ∧ server < 2 ^ 28) (hc : 0 ≤ client ∧ client < 2 ^ 28)
    {again : Transfer → Proc PyExc (σ × List ProfileRow) Unit} (step : Step) (s : σ)
    (ys : List ProfileRow) :
    RaisesOnly P (followStep S server client again step) (s, ys) ↔
      step.Allowed P ∧ ∀ t s', step = .ask t →
        sendGetRequestNext S server client t s = (.ok (), s') →
        RaisesOnly P (again { t with sendSeq := t.sendSeq + 1 }) (s', ys) := by
  cases step with
  | done => exact ⟨fun _ => ⟨trivial, fun t s' h => (nomatch h)⟩, fun _ => raisesOnly_of_ok rfl⟩
  | failed e =>
    rw [followStep, raisesOnly_raise]
    exact ⟨fun h => ⟨h, fun t s' h => (nomatch h)⟩, And.left⟩
  | ask t =>
    rw [Step.Allowed, ← @sendGetRequestNext_caught _ P hP S server client hs hc t s]
    rcases hsend : sendGetRequestNext S server client t s with ⟨e | u, s₁⟩
    · have hrun : followStep S server client again (.ask t) (s, ys) = (.error e, (s₁, ys)) :=
        followStep_error S server client hsend ys
      rw [raisesOnly_of_error hsend, raisesOnly_of_error hrun]
      refine ⟨fun h => ⟨h, ?_⟩, And.left⟩
      rintro _ s' ⟨⟩ hok
      rw [hsend] at hok
      cases hok
    · cases u
      have hrun : followStep S server client again (.ask t) (s, ys) = _ :=
        followStep_ok S server client hsend ys
      rw [raisesOnly_congr (congrArg Prod.fst hrun)]
      constructor
      · intro h
        refine ⟨raisesOnly_of_ok hsend, ?_⟩
        rintro _ s' ⟨⟩ hok
        cases hsend.symm.trans hok
        exact h
      · intro h
        exact h.2 t s₁ rfl hsend

/-- The transfer raises only what is caught exactly if its frames and payloads are intact: induction
    on the fuel. -/
theorem transferLoop_caught (hs : 0 ≤ server ∧ server < 2 ^ 28)
    (hc : 0 ≤ client ∧ client < 2 ^ 28) :
    ∀ (fuel : Nat) (t : Transfer) (s : σ) (ys : List ProfileRow),
      (∀ number, t.pendingBlockNumber = some number → number < 256 ^ 4) →
      (RaisesOnly P (transferLoop S server client fromDt toDt fuel t) (s, ys) ↔
        TransferIntact S server client fromDt toDt fuel t s) := by
  intro fuel
  induction fuel with
  | zero =>
    intro t s ys _
    exact ⟨fun _ => trivial, fun _ => raisesOnly_of_ok rfl⟩
  | succ fuel ih =>
    intro t s ys hpending
    rw [TransferIntact, ← recvPayload_caught S hP]
    rcases hrecv : recvPayload S s with ⟨e | payload, s₁⟩
    · have hrun : transferLoop S server client fromDt toDt (fuel + 1) t (s, ys) =
          (.error e, (s₁, ys)) := transferRound_error S server client fromDt toDt hrecv ys
      rw [raisesOnly_of_error hrecv, raisesOnly_of_error hrun]
      exact ⟨fun h => ⟨h, fun _ _ hok => (nomatch hok)⟩, And.left⟩
    have hrun : transferLoop S server client fromDt toDt (fuel + 1) t (s, ys) = _ :=
      transferRound_ok S server client fromDt toDt hrecv ys
    rw [raisesOnly_congr (congrArg Prod.fst hrun), followStep_caught S hP hs hc,
      ← onPayload_caught hP fromDt toDt payload hpending]
    -- the number of a block that was asked for fits four bytes
    have hnext : ∀ {t' : Transfer} {s₂ : σ}, sendGetRequestNext S server client t' s₁ = (.ok (), s₂) →
        ∀ number, t'.pendingBlockNumber = some number → number < 256 ^ 4 := by
      intro t' s₂ hsend number hnumber
      obtain ⟨number', hnumber', hlt⟩ :=
        (sendGetRequestNext_caught hP hs hc t' s₁).mp (raisesOnly_of_ok hsend)
      rw [hnumber] at hnumber'
      cases hnumber'
      exact hlt
    constructor
    · rintro ⟨hpayload, hrest⟩
      refine ⟨raisesOnly_of_ok hrecv, ?_⟩
      rintro _ _ ⟨⟩
      refine ⟨hpayload, fun t' s₂ hask hsend => ?_⟩
      have hfit := hnext hsend
      exact (ih { t' with sendSeq := t'.sendSeq + 1 } s₂ _ hfit).mp (hrest t' s₂ hask hsend)
    · rintro ⟨_, h⟩
      obtain ⟨hpayload, hrest⟩ := h payload s₁ rfl
      refine ⟨hpayload, fun t' s₂ hask hsend => ?_⟩
      have hfit := hnext hsend
      exact (ih { t' with sendSeq := t'.sendSeq + 1 } s₂ _ hfit).mpr (hrest t' s₂ hask hsend)

end TransferCaught

/-! ## The read -/

section Read

variable (S : MeterSocket σ) (server : Int) (password : Bytes) (obis : String) (classId : Int)
  (fromDt toDt : DateTime) (probe : Bool)

/-- The read up to the transfer: the association and the opening request. -/
def openProfile : Proc PyExc σ Unit := do
  associate S server defaultClientAddress password userInformationInitiate
    { sendHeartbeatProbe := probe }
  let parsedObis ← lift (parseObis obis)
  let request ← lift (buildGetRequestRange parsedObis (effectiveProfileClassId classId) fromDt toDt 1)
  sendIFrame S server defaultClientAddress 1 1 (wrapLlcCommand request)

/-- The payloads that a read receives after its opening request. -/
def profilePayloads (s : σ) : List Bytes :=
  match openProfile S server password obis classId fromDt toDt probe s with
  | (.ok (), s') => payloadsReceived S server defaultClientAddress fromDt toDt (S.pending s' + 1) {} s'
  | (.error _, _) => []

/-- The association is intact, the class id fits two bytes, and the transfer is intact. -/
structure ReadIntact (s : σ) : Prop where
  association : AssociationIntact S server defaultClientAddress { sendHeartbeatProbe := probe }
    password s
  classFits : ∀ s' parsedObis, associate S server defaultClientAddress password
      userInformationInitiate { sendHeartbeatProbe := probe } s = (.ok (), s') →
    parseObis obis = .ok parsedObis →
      0 ≤ effectiveProfileClassId classId ∧ effectiveProfileClassId classId < 65536
  transfer : ∀ s', openProfile S server password obis classId fromDt toDt probe s = (.ok (), s') →
    TransferIntact S server defaultClientAddress fromDt toDt (S.pending s' + 1) {} s'

/-- A range request for six OBIS bytes is built iff the class id fits two bytes. -/
theorem buildGetRequestRange_cases {parsedObis : Bytes} (hobis : parsedObis.length = 6)
    (classId : Int) (fromDt toDt : DateTime) (invokeId : UInt8) :
    ((0 ≤ classId ∧ classId < 65536) ∧ ∃ request,
      buildGetRequestRange parsedObis classId fromDt toDt invokeId = .ok request ∧
      (wrapLlcCommand request).length ≤ 2000) ∨
    (¬ (0 ≤ classId ∧ classId < 65536) ∧
      buildGetRequestRange parsedObis classId fromDt toDt invokeId = .error .overflowError) := by
  unfold buildGetRequestRange attributeDescriptor
  rw [if_neg (by omega)]
  by_cases hclass : 0 ≤ classId ∧ classId < 65536
  · have hcls : toBytes 2 classId = .ok (Bytes.toBE 2 classId.toNat) := if_pos hclass
    have hrestricting : restrictingObject = .ok
        [0x02, 0x04, 0x12, 0, 8, 0x09, 6, 0, 0, 1, 0, 0, 0xFF, 0x0F, 2, 0x12, 0, 0] := by decide
    have hdate : ∀ d, (encodeCosemDateTime d).length = 12 := fun d => by
      simp only [encodeCosemDateTime, List.length_append, List.length_cons, List.length_nil,
        Bytes.toBE_length]
    unfold encodeDateTime
    rw [hcls, hrestricting]
    refine .inl ⟨hclass, _, rfl, ?_⟩
    simp only [wrapLlcCommand, llcCommandHeader, List.length_append, List.length_cons,
      List.length_nil, List.flatten_cons, List.flatten_nil, Bytes.toBE_length, hobis, hdate]
    omega
  · have hcls : toBytes 2 classId = .error .overflowError := if_neg hclass
    rw [hcls]
    exact .inr ⟨hclass, rfl⟩

variable {S server password obis classId fromDt toDt probe}

section Consumer

variable {P : PyExc → Prop} (hP : Consumes P)

include hP in
/-- The association and the first request raise only what is caught exactly if the association is
    intact and, once it stands, the class fits two bytes. -/
theorem openProfile_caught (hs : 0 ≤ server ∧ server < 2 ^ 28) {s : σ}
    (hrejected : P authFailed ∨ (associate S server defaultClientAddress password
      userInformationInitiate { sendHeartbeatProbe := probe } s).1 ≠ .error authFailed) :
    RaisesOnly P (openProfile S server password obis classId fromDt toDt probe) s ↔
      AssociationIntact S server defaultClientAddress { sendHeartbeatProbe := probe } password s ∧
      ∀ s' parsedObis, associate S server defaultClientAddress password userInformationInitiate
          { sendHeartbeatProbe := probe } s = (.ok (), s') →
        parseObis obis = .ok parsedObis →
          0 ≤ effectiveProfileClassId classId ∧ effectiveProfileClassId classId < 65536 := by
  have hc : 0 ≤ defaultClientAddress ∧ defaultClientAddress < 2 ^ 28 := by decide
  have hassociate := associate_caught S { sendHeartbeatProbe := probe } hP hs hc password s hrejected
  rw [← hassociate]
  unfold openProfile
  rcases hrun : associate S server defaultClientAddress password userInformationInitiate
    { sendHeartbeatProbe := probe } s with ⟨e | u, s₁⟩
  · rw [raisesOnly_bind_error hrun, raisesOnly_of_error hrun]
    exact ⟨fun h => ⟨h, fun _ _ hok => (nomatch hok)⟩, And.left⟩
  · cases u
    rw [raisesOnly_bind_ok hrun]
    refine Iff.trans ?_ (and_iff_right (raisesOnly_of_ok hrun)).symm
    rcases parseObis_cases obis with ⟨parsedObis, hparse, hsix⟩ | ⟨message, hparse⟩
    · rw [hparse, raisesOnly_bind_ok (lift_run _ s₁)]
      rcases buildGetRequestRange_cases hsix (effectiveProfileClassId classId) fromDt toDt 1 with
        ⟨hfits, request, hrequest, hlen⟩ | ⟨hwide, hrequest⟩
      · rw [hrequest, raisesOnly_bind_ok (lift_run _ s₁)]
        exact ⟨fun _ _ _ _ _ => hfits, fun _ => sendIFrame_caught hP hs hc 1 1 hlen s₁⟩
      · rw [hrequest, raisesOnly_bind_error (lift_run _ s₁)]
        exact ⟨fun h => absurd h hP.overflow, fun h => absurd (h s₁ parsedObis rfl rfl) hwide⟩
    · rw [hparse, raisesOnly_bind_error (lift_run _ s₁)]
      exact ⟨fun _ _ _ _ h => (nomatch h), fun _ => hP.caught (.of_badAnswer rfl)⟩

end Consumer

/-- The generator is the opening and then the transfer. -/
theorem readLoadProfile_eq {physicalAddress : String}
    (hserver : serverHdlcAddress physicalAddress 1 = .ok server) (s : σ) :
    readLoadProfileViaEstablishedLink S physicalAddress password obis classId fromDt toDt probe
        (s, []) =
      (within (openProfile S server password obis classId fromDt toDt probe) >>= fun _ =>
        transferBlocks S server defaultClientAddress fromDt toDt {}) (s, []) := by
  unfold readLoadProfileViaEstablishedLink
  rw [hserver, lift_ok_bind_run]
  rcases hrun : associate S server defaultClientAddress password userInformationInitiate
    { sendHeartbeatProbe := probe } s with ⟨e | u, s₁⟩
  · have hopen : openProfile S server password obis classId fromDt toDt probe s =
        (.error e, s₁) := bind_error hrun
    rw [bind_error (within_run hrun []), bind_error (within_run hopen [])]
  · have hopen : openProfile S server password obis classId fromDt toDt probe s = _ := bind_ok hrun
    rw [bind_ok (within_run hrun [])]
    cases hparse : parseObis obis with
    | error e =>
      rw [hparse, lift_error_bind_run] at hopen
      rw [lift_error_bind_run, bind_error (within_run hopen [])]
    | ok parsedObis =>
      rw [hparse, lift_ok_bind_run] at hopen
      rw [lift_ok_bind_run]
      cases hrequest : buildGetRequestRange parsedObis (effectiveProfileClassId classId) fromDt toDt
        1 with
      | error e =>
        rw [hrequest, lift_error_bind_run] at hopen
        rw [lift_error_bind_run, bind_error (within_run hopen [])]
      | ok request =>
        rw [hrequest, lift_ok_bind_run] at hopen
        rw [lift_ok_bind_run]
        rcases hsend : sendIFrame S server defaultClientAddress 1 1 (wrapLlcCommand request) s₁ with
          ⟨e | u, s₂⟩
        · rw [hsend] at hopen
          rw [bind_error (within_run hsend []), bind_error (within_run hopen [])]
        · rw [hsend] at hopen
          rw [bind_ok (within_run hsend []), bind_ok (within_run hopen [])]

/-- The rows of a whole read are those that its payloads bring, up to where the read ends. -/
theorem readLoadProfile_rows {physicalAddress : String}
    (hserver : serverHdlcAddress physicalAddress 1 = .ok server) (s : σ) :
    RowsOf fromDt toDt [] (profilePayloads S server password obis classId fromDt toDt probe s) []
      (readLoadProfileViaEstablishedLink S physicalAddress password obis classId fromDt toDt probe
        (s, [])) := by
  have hempty : (splitLoadProfileRows []).1 = [] := by decide
  rw [readLoadProfile_eq hserver]
  unfold profilePayloads
  rcases hopen : openProfile S server password obis classId fromDt toDt probe s with ⟨e | u, s₁⟩
  · rw [bind_error (within_run hopen [])]
    exact RowsOf.stopped hempty e s₁ []
  · cases u
    rw [bind_ok (within_run hopen [])]
    exact transferLoop_rows S server defaultClientAddress fromDt toDt (S.pending s₁ + 1) {} s₁ []
      (Nat.lt_succ_self _) hempty

/-- Where a rejection is caught or does not come, only caught exceptions come out of an intact
    read. -/
theorem readLoadProfile_caught {P : PyExc → Prop} (hP : Consumes P) {physicalAddress : String}
    (hserver : serverHdlcAddress physicalAddress 1 = .ok server) {s : σ}
    (hrejected : P authFailed ∨ (associate S server defaultClientAddress password
      userInformationInitiate { sendHeartbeatProbe := probe } s).1 ≠ .error authFailed) :
    RaisesOnly P (readLoadProfileViaEstablishedLink S physicalAddress password obis classId
        fromDt toDt probe) (s, []) ↔
      ReadIntact S server password obis classId fromDt toDt probe s := by
  have hs := serverHdlcAddress_bounds hserver
  have hc : 0 ≤ defaultClientAddress ∧ defaultClientAddress < 2 ^ 28 := by decide
  have hopening := @openProfile_caught _ S server password obis classId fromDt toDt probe P hP hs s
    hrejected
  rw [raisesOnly_congr (congrArg Prod.fst (readLoadProfile_eq hserver s))]
  rcases hopen : openProfile S server password obis classId fromDt toDt probe s with ⟨e | u, s₁⟩
  · rw [raisesOnly_of_error hopen] at hopening
    rw [raisesOnly_bind_error (within_run hopen []), hopening]
    constructor
    · rintro ⟨hassociation, hfits⟩
      exact ⟨hassociation, hfits, fun s' hok => by rw [hopen] at hok; cases hok⟩
    · intro h
      exact ⟨h.association, h.classFits⟩
  · cases u
    obtain ⟨hassociation, hfits⟩ := hopening.mp (raisesOnly_of_ok hopen)
    have hloop := transferLoop_caught S fromDt toDt hP hs hc (S.pending s₁ + 1) {} s₁ []
      (fun _ h => (nomatch h))
    rw [raisesOnly_bind_ok (within_run hopen [])]
    refine Iff.trans hloop ⟨fun h => ⟨hassociation, hfits, fun s' hok => ?_⟩, fun h => ?_⟩
    · cases hopen.symm.trans hok
      exact h
    · exact h.transfer s₁ hopen

/-- **The read.**  Unless the association is rejected: it returns, with the rows received up to the
    first that does not decode, and without an error iff the last block has come and every row
    decodes, iff it is intact. -/
theorem readLoadProfile_returns_iff {physicalAddress : String} (connNo : Nat) (timeout : ℚ)
    (hserver : serverHdlcAddress physicalAddress 1 = .ok server) {s₀ s : σ}
    (harmed : setDeadline S (some (S.time s₀ + timeout)) s₀ = (.ok (), s))
    (hrejected : (associate S server defaultClientAddress password userInformationInitiate
      { sendHeartbeatProbe := probe } s).1 ≠ .error authFailed) :
    (∃ rows error s', readLoadProfileViaFreshConnection S connNo physicalAddress password obis
        classId fromDt toDt timeout probe s₀ = (.ok (rows, error), s') ∧
      rows = (decodeRows fromDt toDt (rowsReceived []
        (profilePayloads S server password obis classId fromDt toDt probe s))).1 ∧
      (error = none ↔
        (profilePayloads S server password obis classId fromDt toDt probe s).any payloadEnds =
          true ∧
        (decodeRows fromDt toDt (rowsReceived []
          (profilePayloads S server password obis classId fromDt toDt probe s))).2 = .ok ())) ↔
    ReadIntact S server password obis classId fromDt toDt probe s := by
  rw [← @readLoadProfile_caught _ S server password obis classId fromDt toDt probe Caught
    Caught.consumes physicalAddress hserver s (.inr hrejected)]
  obtain ⟨hrows, hends⟩ := @readLoadProfile_rows _ S server password obis classId fromDt toDt probe
    physicalAddress hserver s
  rcases hrun : readLoadProfileViaEstablishedLink S physicalAddress password obis classId fromDt toDt
    probe (s, []) with ⟨outcome, s', ys⟩
  have hread : readLoadProfileViaFreshConnection S connNo physicalAddress password obis classId
      fromDt toDt timeout probe s₀ = (profileResult connNo ys outcome, s') := by
    unfold readLoadProfileViaFreshConnection
    rw [gets_bind_run, bind_ok harmed, bind_ok (collect_run hrun)]
    rfl
  rw [hrun] at hrows hends
  rw [hread]
  cases outcome with
  | ok u =>
    cases u
    refine ⟨fun _ => raisesOnly_of_ok hrun, fun _ => ⟨ys, none, s', rfl, hrows, fun _ => ?_,
      fun _ => rfl⟩⟩
    exact hends.mp rfl
  | error e =>
    rw [raisesOnly_of_error hrun]
    constructor
    · rintro ⟨rows, error, t, hok, _⟩
      exact caught_of_profileResult (congrArg Prod.fst hok)
    · intro hcaught
      obtain ⟨error, hok⟩ := hcaught.profileResult connNo ys
      refine ⟨ys, some error, s', by rw [hok], hrows, fun h => (nomatch h), fun h => ?_⟩
      cases hends.mpr h

end Read

/-! ## A meter that makes it raise -/

/-- A row with the digit `A` in its value. -/
def badDigitRow : Bytes := [0xA0, 0xA0, 0x00, 0x00, 0x01, 0x12, 0x09, 0x26, 0x10, 0x0A]

/-- The association, one good row, and one with a digit above 9; SNRM/UA has been before. -/
def badDigitMeter : DlT645FilteringSocket Wire :=
  { sock := arrived [meterFrame aareAccepted,
      meterFrame ([0xC4, 2, 1, 1, 0, 0, 0, 1, 0, 20] ++ (halfPastMidnight.raw ++ badDigitRow))] }

/-- The meter under the deadline of the operation. -/
def badDigitMeterArmed : DlT645FilteringSocket Wire :=
  { badDigitMeter with deadline := some (0 + 60) }

/-- The equivalence for the meter whose second row has a digit above nine. -/
theorem readLoadProfile_returns_iff_badDigit :
    (∃ rows error s', readLoadProfileViaFreshConnection (filtering stillWire) 1 "1" [0x31]
        "1.0.99.1.0.ff" 7 midnight quarterToOne 60 false badDigitMeter = (.ok (rows, error), s') ∧
      rows = (decodeRows midnight quarterToOne (rowsReceived []
        (profilePayloads (filtering stillWire) 0x4001 [0x31] "1.0.99.1.0.ff" 7 midnight quarterToOne
          false badDigitMeterArmed))).1 ∧
      (error = none ↔
        (profilePayloads (filtering stillWire) 0x4001 [0x31] "1.0.99.1.0.ff" 7 midnight quarterToOne
          false badDigitMeterArmed).any payloadEnds = true ∧
        (decodeRows midnight quarterToOne (rowsReceived []
          (profilePayloads (filtering stillWire) 0x4001 [0x31] "1.0.99.1.0.ff" 7 midnight
            quarterToOne false badDigitMeterArmed))).2 = .ok ())) ↔
    ReadIntact (filtering stillWire) 0x4001 [0x31] "1.0.99.1.0.ff" 7 midnight quarterToOne false
      badDigitMeterArmed :=
  readLoadProfile_returns_iff 1 60 (show serverHdlcAddress "1" 1 = .ok 0x4001 by decide +kernel) rfl
    (by decide +kernel)

/-- The association is accepted and a row of the window has been received, then the `ValueError` of
    the second row drops it. -/
theorem readLoadProfile_dropped :
    (associate (filtering stillWire) 0x4001 defaultClientAddress [0x31] userInformationInitiate
      { sendHeartbeatProbe := false } badDigitMeterArmed).1 = .ok () ∧
    (decodeRows midnight quarterToOne (rowsReceived []
      (profilePayloads (filtering stillWire) 0x4001 [0x31] "1.0.99.1.0.ff" 7 midnight quarterToOne
        false badDigitMeterArmed))).1 = [⟨halfPastMidnight.timestamp, [5]⟩] ∧
    (readLoadProfileViaFreshConnection (filtering stillWire) 1 "1" [0x31] "1.0.99.1.0.ff" 7 midnight
      quarterToOne 60 false badDigitMeter).1 = .error (.valueError []) := by
  decide +kernel

end RiseSun.Gateway
