/-
  Which exceptions come out of an exchange with a meter.

  A caller tolerates some exceptions and lets the others through; `Tolerates P` is what all callers
  here have in common.  For such a `P`, and one exchange after the other:

  1. **Frames** (`FramesWithin`) — waiting for an I-frame raises only what `P` allows iff no frame
     that comes ends before its control byte and `P` allows what ends the wait.

  2. **The association** (`AssociationWithin`) — the same for the AARQ and the AARE.
-/
import RiseSun.Gateway.Batch
import RiseSun.Gateway.FrameGrammar

namespace RiseSun.Gateway

open Proc

variable {σ : Type}

/-! ## Exceptions -/

/-- A caller tolerates a bad answer, a timeout and a lost connection, but not the two exceptions of
    the runtime that reading an answer can end with. -/
structure Tolerates (P : PyExc → Prop) : Prop where
  badAnswer : ∀ {e : PyExc}, e.isBadAnswer = true → P e
  timeout : ∀ {e : PyExc}, e.isMeterTimeout = true → P e
  connectionLost : P connectionLostOnSend
  index : ¬ P .indexError
  value : ¬ P (.valueError [])

/-- What reading a frame can raise. -/
def FrameFailure (e : PyExc) : Prop := e.isBadAnswer = true ∨ LinkLoss e

/-! ## Frames -/

/-- Whatever comes, reading a frame raises nothing worse than the loss of the link or a bad
    answer. -/
theorem readFrameFromTransport_raises (S : MeterSocket σ) (s : σ) :
    RaisesOnly FrameFailure (readFrameFromTransport S) s := by
  have hexact : ∀ n s, RaisesOnly FrameFailure (recvExact S n) s := by
    intro n s e s' he
    rcases Stream.exactlyLoop_cases recvExactFailed S.recv_le n n [] s (Nat.zero_le n)
      (by simp) with ⟨bs, s₁, hrun, _⟩ | ⟨got, cause, s₁, hrun⟩
    · cases hrun.symm.trans he
    · cases hrun.symm.trans he
      exact .inr (recvExactFailed_isLinkLoss got cause)
  have hbad : ∀ {α : Type} {e : PyExc} (s : σ), e.isBadAnswer = true →
      RaisesOnly FrameFailure (raise e : Proc PyExc σ α) s := fun s h =>
    raisesOnly_raise.mpr (.inl h)
  unfold readFrameFromTransport
  refine raisesOnly_bind.mpr ⟨?_, fun _ s₁ _ => ?_⟩
  · unfold resetFrameSeeking
    cases S.resetSeeking with
    | none => exact raisesOnly_of_ok rfl
    | some reset => exact raisesOnly_of_ok rfl
  refine raisesOnly_bind.mpr ⟨hexact 1 s₁, fun first s₂ _ => ?_⟩
  by_cases hfirst : first ≠ [flag]
  · rw [if_pos hfirst]
    exact hbad s₂ rfl
  rw [if_neg hfirst]
  refine raisesOnly_bind.mpr ⟨hexact 2 s₂, fun frameFormat s₃ _ => ?_⟩
  dsimp only
  by_cases hshort : Bytes.fromBE frameFormat &&& 0x07FF < 2
  · rw [if_pos hshort]
    exact hbad s₃ rfl
  rw [if_neg hshort]
  refine raisesOnly_bind.mpr ⟨hexact _ s₃, fun rest s₄ _ => ?_⟩
  by_cases hflag : rest.getLast? ≠ some flag
  · rw [if_pos hflag]
    exact hbad s₄ rfl
  · rw [if_neg hflag]
    exact raisesOnly_of_ok rfl

section Within

variable {P : PyExc → Prop} (hP : Tolerates P) (S : MeterSocket σ)

variable (P) in
/-- Up to the first I-frame, and for at most `left` frames, no frame that comes ends before its
    control byte, and what ends the wait is tolerated. -/
def FramesWithin : (left : Nat) → σ → Prop
  | 0, _ => True
  | left + 1, s =>
    match readFrameFromTransport S s with
    | (.error e, _) => P e
    | (.ok raw, s') => ¬ EndsWithAddresses raw ∧
        ∀ frame, HdlcFrame.decode raw = .ok frame →
          frame.control &&& 0x01 = 0 ∨ FramesWithin left s'

include hP in
theorem recvIFrameLoop_within : ∀ (left : Nat) (s : σ),
    RaisesOnly P (recvIFrameLoop S left) s ↔ FramesWithin P S left s := by
  intro left
  induction left with
  | zero =>
    intro s
    rw [recvIFrameLoop, raisesOnly_raise]
    exact ⟨fun _ => trivial, fun _ => hP.badAnswer rfl⟩
  | succ left ih =>
    intro s
    rw [FramesWithin]
    rcases hread : readFrameFromTransport S s with ⟨e | raw, s'⟩
    · exact recvIFrameLoop_raises_unread left hread
    · rw [recvIFrameLoop_raises_read left hread]
      dsimp only
      rw [← decode_indexError_iff]
      cases hd : HdlcFrame.decode raw with
      | error e =>
        constructor
        -- The loop ends with the error of the frame, which is a bad answer or an index past its end.
        · intro htolerated
          refine ⟨?_, fun frame hframe => (by cases hframe)⟩
          rintro ⟨⟩
          exact hP.index htolerated
        · rintro ⟨hindex, _⟩
          rcases HdlcFrame.decode_error hd with hbad | rfl
          · exact hP.badAnswer hbad
          · exact absurd rfl hindex
      | ok frame =>
        dsimp only
        rw [ih]
        constructor
        · intro h
          refine ⟨fun herr => (by cases herr), ?_⟩
          rintro _ ⟨⟩
          exact h
        · intro h
          exact h.2 frame rfl

include hP in
theorem send_within (data : Bytes) (s : σ) : RaisesOnly P (send S data) s := fun e s' he =>
  send_raises_lost S data s e s' he ▸ hP.connectionLost

variable {S} in
include hP in
theorem sendIFrame_within {server client : Int} (hs : 0 ≤ server ∧ server < 2 ^ 28)
    (hc : 0 ≤ client ∧ client < 2 ^ 28) (sendSeq recvSeq : Nat) {information : Bytes}
    (hlen : information.length ≤ 2000) (s : σ) :
    RaisesOnly P (sendIFrame S server client sendSeq recvSeq information) s := by
  obtain ⟨raw, hraw⟩ := iFrame_ok hs hc sendSeq recvSeq hlen
  rw [sendIFrame, hraw]
  exact send_within hP S raw s

/-! ## The association -/

/-- `parse_aare` raises a bad answer, the rejection, or an `IndexError` on the bare tag. -/
theorem parseAare_error {data : Bytes} {e : PyExc} (h : parseAare data = .error e) :
    e.isBadAnswer = true ∨ e = authFailed ∨ (e = .indexError ∧ data = [aareTag]) := by
  unfold parseAare at h
  rcases ite_eq_iff.mp h with ⟨_, h⟩ | ⟨htag, h⟩
  · cases h
    exact .inl rfl
  -- The index error is of the length, and only when the tag is all there is.
  · rcases Result.bind_eq_error h with h | ⟨length, _, h⟩
    · obtain ⟨hshort, rfl⟩ := byteAt_eq_error h
      refine .inr (.inr ⟨rfl, ?_⟩)
      rw [not_not] at htag
      cases data with
      | nil => cases htag
      | cons b bs =>
        rw [List.head?_cons, Option.some.injEq] at htag
        rw [List.length_cons] at hshort
        rw [htag, List.length_eq_zero_iff.mp (by omega : bs.length = 0)]
    · dsimp only at h
      split at h
      · cases h
        exact .inl rfl
      · rcases ite_eq_iff.mp h with ⟨_, h⟩ | ⟨_, h⟩
        · cases h
        · cases h
          exact .inr (.inl rfl)

theorem parseAare_bareTag : parseAare [aareTag] = .error .indexError := by decide

section Association

variable (server client : Int) (information : Bytes) (options : AarqOptions) (original : Option ℚ)

variable (P) in
/-- While the AARE is awaited, attempt by attempt, the frames that come are within `P`. -/
def AttemptsWithin : (left : Nat) → (retry : Bool) → σ → Prop
  | 0, _, _ => True
  | left + 1, retry, s =>
    match startAttempt S server client information options original retry s with
    | (.error _, _) => True
    | (.ok (), s₁) => FramesWithin P S maxSupervisoryFramesSkipped s₁ ∧
        ∀ e s₂, recvIFrame S s₁ = (.error e, s₂) → e.isMeterTimeout = true →
          original.any (· ≤ S.time s₂) = false → AttemptsWithin left true s₂

variable (P) in
/-- While the association is set up: the password leaves room for its length, the frames that come
    are within `P`, and the AARE is more than its tag. -/
def AssociationWithin (password : Bytes) (s : σ) : Prop :=
  password.length ≤ 253 ∧
  ∀ aarq, buildAarq password userInformationInitiate = .ok aarq →
    AttemptsWithin P S server client (wrapLlcCommand aarq) options (currentDeadline S s)
      options.maxAttempts false s ∧
    ∀ frame s', sendAarqAndAwaitAare S server client (wrapLlcCommand aarq) options s =
      (.ok frame, s') → unwrapLlc frame.information ≠ .ok [aareTag]

variable {server client information}

include hP in
theorem startAttempt_within (hs : 0 ≤ server ∧ server < 2 ^ 28) (hc : 0 ≤ client ∧ client < 2 ^ 28)
    (hlen : information.length ≤ 2000) (retry : Bool) (s : σ) :
    RaisesOnly P (startAttempt S server client information options original retry) s := by
  have hrest : ∀ s, RaisesOnly P (do
      sendIFrame S server client 0 0 information
      let now ← gets S.time
      setDeadline S (some (narrowedDeadline now options.perAttemptTimeout original))) s := by
    intro s
    refine raisesOnly_bind.mpr ⟨sendIFrame_within hP hs hc 0 0 hlen s, fun _ s₁ _ => ?_⟩
    refine raisesOnly_bind.mpr ⟨raisesOnly_of_ok rfl, fun now s₂ _ => ?_⟩
    obtain ⟨s₃, hset⟩ := setDeadline_run S
      (some (narrowedDeadline now options.perAttemptTimeout original)) s₂
    exact raisesOnly_of_ok hset
  have hprobe : ∀ s, RaisesOnly P (do
      if options.sendHeartbeatProbe then send S [0, 0, 0]
      sendIFrame S server client 0 0 information
      let now ← gets S.time
      setDeadline S (some (narrowedDeadline now options.perAttemptTimeout original))) s := by
    intro s
    cases options.sendHeartbeatProbe with
    | false => exact hrest s
    | true => exact raisesOnly_bind.mpr ⟨send_within hP S _ s, fun _ s₁ _ => hrest s₁⟩
  unfold startAttempt
  by_cases hdisc : retry = true ∧ options.sendDiscBeforeRetry = true
  · rw [if_pos hdisc]
    obtain ⟨raw, hraw⟩ := encode_short (f := ⟨server, client, controlDisc, []⟩) ⟨hs, hc⟩
      (Nat.zero_le _)
    rw [hraw]
    refine raisesOnly_bind.mpr ⟨raisesOnly_of_ok rfl, fun disc s₁ _ => ?_⟩
    exact raisesOnly_bind.mpr ⟨send_within hP S disc s₁, fun _ s₂ _ => hprobe s₂⟩
  · rw [if_neg hdisc]
    exact hprobe s

include hP in
theorem aarqAttempts_within (hs : 0 ≤ server ∧ server < 2 ^ 28)
    (hc : 0 ≤ client ∧ client < 2 ^ 28) (hlen : information.length ≤ 2000) :
    ∀ (left : Nat) (retry : Bool) (lastError : PyExc) (s : σ), P lastError →
      (RaisesOnly P
          (aarqAttempts S server client information options original left retry lastError) s ↔
        AttemptsWithin P S server client information options original left retry s) := by
  intro left
  induction left with
  | zero =>
    intro retry lastError s hlast
    exact ⟨fun _ => trivial, fun _ => raisesOnly_raise.mpr hlast⟩
  | succ left ih =>
    intro retry lastError s _
    have hstart := startAttempt_within hP S options original hs hc hlen retry s
    rw [aarqAttempts]
    unfold AttemptsWithin
    rcases hrun : startAttempt S server client information options original retry s with ⟨e | u, s₁⟩
    · rw [raisesOnly_bind_error hrun]
      exact ⟨fun _ => trivial, fun _ => hstart e s₁ hrun⟩
    · cases u
      rw [raisesOnly_bind_ok hrun, raisesOnly_attempt_bind]
      have hrecv : RaisesOnly P (recvIFrame S) s₁ ↔
          FramesWithin P S maxSupervisoryFramesSkipped s₁ := recvIFrameLoop_within hP S _ s₁
      dsimp only
      rw [← hrecv]
      rcases hframe : recvIFrame S s₁ with ⟨e | frame, s₂⟩
      · rw [raisesOnly_of_error hframe]
        dsimp only
        cases htimeout : e.isMeterTimeout with
        | false =>
          rw [if_neg Bool.false_ne_true, raisesOnly_raise]
          refine ⟨fun he => ⟨he, ?_⟩, And.left⟩
          rintro _ _ ⟨⟩ htrue
          rw [htimeout] at htrue
          cases htrue
        | true =>
          have htolerated : P e := hP.timeout htimeout
          rw [if_pos rfl, raisesOnly_bind_ok (gets_run S.time s₂)]
          cases hpassed : original.any (· ≤ S.time s₂) with
          | true =>
            rw [if_pos rfl, raisesOnly_raise]
            refine ⟨fun he => ⟨he, ?_⟩, And.left⟩
            rintro _ _ ⟨⟩ _ hfalse
            rw [hpassed] at hfalse
            cases hfalse
          | false =>
            rw [if_neg Bool.false_ne_true, ih true e s₂ htolerated]
            constructor
            · intro hrest
              refine ⟨htolerated, ?_⟩
              rintro _ _ ⟨⟩ _ _
              exact hrest
            · intro h
              exact h.2 e s₂ rfl htimeout hpassed
      · refine ⟨fun _ => ⟨raisesOnly_of_ok hframe, fun e t h => (nomatch h)⟩, fun _ => ?_⟩
        exact raisesOnly_of_ok rfl

include hP in
theorem sendAarqAndAwaitAare_within (hs : 0 ≤ server ∧ server < 2 ^ 28)
    (hc : 0 ≤ client ∧ client < 2 ^ 28) (hlen : information.length ≤ 2000) (s : σ) :
    RaisesOnly P (sendAarqAndAwaitAare S server client information options) s ↔
      AttemptsWithin P S server client information options (currentDeadline S s)
        options.maxAttempts false s := by
  rw [← aarqAttempts_within hP S options (currentDeadline S s) hs hc hlen options.maxAttempts false
    (aareTimeout options.maxAttempts) s (hP.timeout rfl), sendAarqAndAwaitAare,
    raisesOnly_bind_ok (getDeadline_run S s), raisesOnly_attempt_bind]
  rcases hrun : aarqAttempts S server client information options (currentDeadline S s)
    options.maxAttempts false (aareTimeout options.maxAttempts) s with ⟨r, s₁⟩
  obtain ⟨s₂, hset⟩ := setDeadline_run S (currentDeadline S s) s₁
  rw [raisesOnly_bind_ok hset, raisesOnly_lift]
  constructor
  · rintro h e t he
    cases hrun.symm.trans he
    exact h e rfl
  · intro h e he
    subst he
    exact h e s₁ hrun

include hP in
/-- Where a rejection is tolerated or does not come, the association raises only what is tolerated
    iff it is within `P`. -/
theorem associate_within (hs : 0 ≤ server ∧ server < 2 ^ 28) (hc : 0 ≤ client ∧ client < 2 ^ 28)
    (password : Bytes) (s : σ)
    (hrejected : P authFailed ∨
      (associate S server client password userInformationInitiate options s).1 ≠
        .error authFailed) :
    RaisesOnly P (associate S server client password userInformationInitiate options) s ↔
      AssociationWithin P S server client options password s := by
  unfold associate at hrejected ⊢
  unfold AssociationWithin
  rcases buildAarq_cases password userInformationInitiate with ⟨aarq, hfit, haarq, hlen⟩ |
    ⟨message, hfit, haarq⟩ | ⟨hlong, haarq⟩
  · rw [haarq, lift_ok_bind_run] at hrejected
    have hshort : (wrapLlcCommand aarq).length ≤ 2000 := by
      have hheader : llcCommandHeader.length = 3 := rfl
      rw [wrapLlcCommand, List.length_append]
      omega
    rw [haarq, raisesOnly_bind_ok (lift_run _ s)]
    have hsend := sendAarqAndAwaitAare_within hP S options hs hc hshort s
    rcases hrun : sendAarqAndAwaitAare S server client (wrapLlcCommand aarq) options s with
      ⟨e | frame, s₁⟩
    · rw [raisesOnly_bind_error hrun, (raisesOnly_of_error hrun).symm.trans hsend]
      constructor
      · intro h
        refine ⟨hfit, ?_⟩
        rintro _ ⟨⟩
        refine ⟨h, fun frame s' hok => ?_⟩
        cases hrun.symm.trans hok
      · intro h
        exact (h.2 aarq rfl).1
    · rw [bind_ok hrun] at hrejected
      rw [raisesOnly_bind_ok hrun, raisesOnly_lift]
      have hattempts := hsend.mp (raisesOnly_of_ok hrun)
      constructor
      · intro h
        refine ⟨hfit, ?_⟩
        rintro _ ⟨⟩
        refine ⟨hattempts, fun frame' s' hok hbare => ?_⟩
        cases hrun.symm.trans hok
        exact hP.index (h .indexError (by rw [hbare, Result.ok_bind, parseAare_bareTag]))
      · intro h e he
        rcases Result.bind_eq_error he with hllc | ⟨data, hllc, hparse⟩
        · exact hP.badAnswer (unwrapLlc_error hllc)
        · rcases parseAare_error hparse with hbad | rfl | ⟨_, rfl⟩
          · exact hP.badAnswer hbad
          · exact hrejected.resolve_right (not_not_intro (show (lift _ s₁).1 = _ from he))
          · exact absurd hllc ((h.2 aarq rfl).2 frame s₁ hrun)
  · rw [haarq, raisesOnly_bind_error (lift_run _ s)]
    exact ⟨fun _ => ⟨hfit, fun aarq h => (by cases h)⟩, fun _ => hP.badAnswer rfl⟩
  · rw [haarq, raisesOnly_bind_error (lift_run _ s)]
    exact ⟨fun h => absurd h hP.value, fun h => by omega⟩

end Association

end Within

end RiseSun.Gateway
