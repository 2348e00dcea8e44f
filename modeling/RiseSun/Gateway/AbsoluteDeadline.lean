/-
  The absolute deadline of the call-home filter (`set_deadline`) bounds a whole association.

  Time is the socket's clock: a receive blocks at most its timeout, all else takes no time.  When
  bytes arrive is left open, so the results hold for every schedule: heartbeat zeros, DL/T645
  frames, frames that break off, supervisory frames and answers, in any order.

  1. **The filter** (`filtering_within`) — under a deadline no later than `b`, no operation of the
     filter ends later than `b`, and none touches the deadline.  The receive loops need no argument
     of their own: each raw receive ends by the deadline that is in force.

  2. **The AARQ exchange** (`sendAarq_keeps`) — an attempt sets `min (now + window) d`, which is no
     later than `d`, and the `finally` sets `d` again.

  3. **The messages** (`aarqAttempts_sent`) — what goes out is AARQ, DISC AARQ, DISC AARQ, …, broken
     off where the exchange ends.

  4. **`association_ends_by_deadline`** — the whole reading.  What holds during the run is said on
     the watched socket, whose runs are the runs of the filter.
-/
import RiseSun.Lib.TimedSocket
import RiseSun.Gateway.Filter
import RiseSun.Gateway.Watching

namespace RiseSun.Gateway

open Proc

variable {σ α ε : Type}

/-! ## The filter under a deadline -/

namespace DlT645FilteringSocket

/-- The clock has not passed `b`, and the deadline meets the condition. -/
def Within (S : TimedSocket σ) (b : ℚ) (D : Option ℚ → Prop) (f : DlT645FilteringSocket σ) :
    Prop :=
  S.time f.sock ≤ b ∧ D f.deadline

section Within

variable {S : TimedSocket σ} {b : ℚ} {D : Option ℚ → Prop}

theorem sendall_within (data : Bytes) : Keeps (Within S b D) (inner (S.sendall data)) := by
  intro f hf
  refine ⟨?_, hf.2⟩
  show S.time (S.sendall data f.sock).2 ≤ b
  rw [S.sendall_time]
  exact hf.1

theorem echo_within : Keeps (Within S b D) (echoHeartbeat S.toSocket) :=
  Keeps.bind (Keeps.attempt (sendall_within heartbeat)) fun _ => Keeps.pure _

variable (hD : ∀ deadline, D deadline → ∃ d ≤ b, deadline = some d)
include hD

/-- A raw receive ends by the deadline, or at once. -/
theorem rawRecv_within (n : Nat) : Keeps (Within S b D) (rawRecv S.toSocket n) := by
  intro f ⟨htime, hdeadline⟩
  obtain ⟨d, hd, hsome⟩ := hD _ hdeadline
  unfold rawRecv
  rw [gets_bind_run, hsome]
  dsimp only
  rw [gets_bind_run]
  split
  · exact ⟨htime, hdeadline⟩
  · rw [modify_bind_run]
    exact ⟨S.recv_until n f.sock hd htime, hdeadline⟩

theorem discard_within : Keeps (Within S b D) (discardOneDlt645Frame S.toSocket) := by
  have hexact : ∀ n, Keeps (Within S b D) (rawRecvExact S.toSocket n) := fun n =>
    Stream.exactlyLoop_keeps (rawRecv_within hD) n n []
  refine Keeps.bind (hexact 8) fun _ => Keeps.bind (hexact 1) fun _ => ?_
  exact Keeps.bind (hexact _) fun _ => Keeps.pure _

theorem seekFrame_within : ∀ fuel zeros : Nat,
    Keeps (Within S b D) (seekFrame S.toSocket fuel zeros) := by
  intro fuel
  induction fuel with
  | zero =>
    intro zeros
    exact Keeps.raise _
  | succ fuel ih =>
    intro zeros
    refine Keeps.bind (rawRecv_within hD 1) fun bs => ?_
    cases bs with
    | nil => exact Keeps.pure _
    | cons first more =>
      dsimp only
      split
      · split
        · exact Keeps.bind echo_within fun _ => ih 0
        · exact ih _
      · split
        · refine Keeps.bind (discard_within hD) fun _ => ?_
          exact Keeps.bind echo_within fun _ => ih 0
        · exact Keeps.bind (Keeps.modify fun _ hf => hf) fun _ => Keeps.pure _

/-- No operation of the filter ends after `b` or touches the deadline. -/
theorem filtering_within : (filtering S.toSocket).Keeps (Within S b D) where
  recv n := by
    refine Keeps.bind (Keeps.gets _) fun seeking => ?_
    split
    · exact Keeps.bind (Keeps.gets _) fun fuel => seekFrame_within hD fuel 0
    · exact rawRecv_within hD n
  reset := Keeps.modify fun _ hf => hf
  sendall := sendall_within

end Within

/-- Under a deadline `settimeout` does nothing: the deadline alone bounds the wait. -/
theorem settimeout_deadline {S : Socket σ} {f : DlT645FilteringSocket σ} {d : ℚ}
    (h : f.deadline = some d) (t : ℚ) : settimeout S t f = f := by
  unfold settimeout
  rw [h]

end DlT645FilteringSocket

/-! ## The AARQ exchange and the deadline -/

section Exchange

variable {M : MeterSocket σ} {I J : σ → Prop} {d : ℚ} (h : M.Keeps I)
  (hset : ∀ d' ≤ d, Keeps I (setDeadline M (some d')))
include h hset

/-- An attempt never sets a deadline later than the one of the whole operation. -/
theorem startAttempt_keeps (server client : Int) (information : Bytes) (options : AarqOptions)
    (retry : Bool) :
    Keeps I (startAttempt M server client information options (some d) retry) := by
  rw [startAttempt_parts]
  refine Keeps.bind ?_ fun _ => Keeps.bind ?_ fun _ => ?_
  · split
    · exact Keeps.bind (Keeps.lift _) fun raw => send_keeps h raw
    · exact Keeps.pure _
  · split
    · exact send_keeps h _
    · exact Keeps.pure _
  · refine Keeps.bind (sendIFrame_keeps h _ _ _ _ _) fun _ => ?_
    exact Keeps.bind (Keeps.gets _) fun now => hset _ (min_le_right _ _)

theorem aarqAttempts_keeps (server client : Int) (information : Bytes) (options : AarqOptions) :
    ∀ (left : Nat) (retry : Bool) (lastError : PyExc),
      Keeps I (aarqAttempts M server client information options (some d) left retry lastError) := by
  intro left
  induction left with
  | zero =>
    intro retry lastError
    exact Keeps.raise _
  | succ left ih =>
    intro retry lastError
    refine Keeps.bind (startAttempt_keeps h hset _ _ _ _ _) fun _ => ?_
    refine Keeps.bind (Keeps.attempt (recvIFrameLoop_keeps h.toReceives _)) fun r => ?_
    cases r with
    | ok frame => exact Keeps.pure _
    | error e =>
      dsimp only
      split
      · refine Keeps.bind (Keeps.gets _) fun now => ?_
        split
        · exact Keeps.raise _
        · exact ih true e
      · exact Keeps.raise _

/-- The deadline that was in force is set again on every way out. -/
theorem sendAarq_keeps (hbefore : ∀ s, J s → I s ∧ currentDeadline M s = some d)
    (hback : ∀ s, I s → J (setDeadline M (some d) s).2) (server client : Int) (information : Bytes)
    (options : AarqOptions) :
    Keeps J (sendAarqAndAwaitAare M server client information options) := by
  intro s hs
  obtain ⟨hI, hd⟩ := hbefore s hs
  have hattempts := aarqAttempts_keeps h hset server client information options
    options.maxAttempts false (aareTimeout options.maxAttempts) s hI
  have hJ := hback _ hattempts
  obtain ⟨s', hs'⟩ := setDeadline_run M (some d)
    (aarqAttempts M server client information options (some d) options.maxAttempts false
      (aareTimeout options.maxAttempts) s).2
  rw [hs'] at hJ
  unfold sendAarqAndAwaitAare
  rw [bind_ok (getDeadline_run M s), hd, attempt_bind_run, bind_ok hs']
  exact hJ

end Exchange

/-! ## The messages of the exchange -/

/-- A frame that can be encoded. -/
def encoded : Except PyExc Bytes → List Bytes
  | .ok raw => [raw]
  | .error _ => []

/-- The messages of one attempt: DISC on a retry, the heartbeat probe, AARQ. -/
def attemptMessages (server client : Int) (information : Bytes) (options : AarqOptions)
    (retry : Bool) : List Bytes :=
  (if retry ∧ options.sendDiscBeforeRetry then
    encoded (HdlcFrame.encode ⟨server, client, controlDisc, []⟩) else []) ++
  ((if options.sendHeartbeatProbe then [[0, 0, 0]] else []) ++
    encoded (iFrame server client 0 0 information))

/-- The messages of so many attempts. -/
def exchangeMessages (server client : Int) (information : Bytes) (options : AarqOptions) :
    (attempts : Nat) → (retry : Bool) → List Bytes
  | 0, _ => []
  | attempts + 1, retry =>
    attemptMessages server client information options retry ++
      exchangeMessages server client information options attempts true

/-- `x` sends these messages in this order, all of them if it returns. -/
def Sends (x : Proc ε (Watched σ) α) (messages : List Bytes) : Prop :=
  ∀ w, ∃ out, (x w).2.sent = w.sent ++ out ∧ out <+: messages ∧
    ∀ a, (x w).1 = .ok a → out = messages

/-- What keeps the record of the messages sends nothing. -/
theorem Sends.nothing {x : Proc ε (Watched σ) α} (h : ∀ sent, Keeps (fun w => w.sent = sent) x) :
    Sends x [] :=
  fun w => ⟨[], (h w.sent w rfl).trans (List.append_nil _).symm, List.prefix_rfl, fun _ _ => rfl⟩

theorem Sends.bind {β : Type} {x : Proc ε (Watched σ) α} {f : α → Proc ε (Watched σ) β}
    {first second : List Bytes} (hx : Sends x first) (hf : ∀ a, Sends (f a) second) :
    Sends (x >>= f) (first ++ second) := by
  intro w
  obtain ⟨out, hsent, hpre, hall⟩ := hx w
  rcases h : x w with ⟨e | a, w'⟩
  · rw [h] at hsent
    rw [bind_error h]
    exact ⟨out, hsent, hpre.trans (List.prefix_append _ _), fun b hb => (nomatch hb)⟩
  · rw [h] at hsent hall
    obtain ⟨out', hsent', hpre', hall'⟩ := hf a w'
    obtain rfl := hall a rfl
    rw [bind_ok h]
    refine ⟨out ++ out', ?_, (List.prefix_append_right_inj out).mpr hpre', fun b hb => ?_⟩
    · rw [hsent', hsent, List.append_assoc]
    · rw [hall' b hb]

/-- What cannot be encoded is not sent, and what can be is sent as it was encoded. -/
theorem Sends.encode {r : Except PyExc Bytes} {f : Bytes → Proc PyExc (Watched σ) α}
    (hf : ∀ raw, Sends (f raw) [raw]) : Sends (lift r >>= f) (encoded r) := by
  cases r with
  | ok raw => exact hf raw
  | error e =>
    exact fun w => ⟨[], (List.append_nil _).symm, List.nil_prefix, fun _ h => (nomatch h)⟩

/-- A condition of the source on a message. -/
theorem Sends.ite {c : Prop} [Decidable c] {x : Proc ε (Watched σ) Unit} {messages : List Bytes}
    (hx : Sends x messages) :
    Sends (if c then x else pure ()) (if c then messages else []) := by
  split
  · exact hx
  · exact Sends.nothing fun _ => Keeps.pure _

section Messages

variable (M : MeterSocket σ)

theorem send_sends (data : Bytes) : Sends (send (watching M) data) [data] := by
  intro w
  refine ⟨[data], ?_, List.prefix_rfl, fun _ _ => rfl⟩
  unfold send
  rw [attempt_bind_run]
  rcases ((watching M).sendall data w).1 with _ | _
  · rfl
  · rfl

theorem setDeadline_sent (d : Option ℚ) (sent : List Bytes) :
    Keeps (fun w => w.sent = sent) (setDeadline (watching M) d) := by
  unfold setDeadline watching
  dsimp only
  cases M.deadline with
  | none => exact Keeps.pure ()
  | some ops => exact Keeps.modify fun w hw => hw

theorem startAttempt_sends (server client : Int) (information : Bytes) (options : AarqOptions)
    (original : Option ℚ) (retry : Bool) :
    Sends (startAttempt (watching M) server client information options original retry)
      (attemptMessages server client information options retry) := by
  rw [startAttempt_parts]
  refine Sends.bind (Sends.ite (Sends.encode fun raw => send_sends M raw)) fun _ => ?_
  refine Sends.bind (Sends.ite (send_sends M _)) fun _ => ?_
  rw [← List.append_nil (encoded _)]
  refine Sends.bind (Sends.encode fun raw => send_sends M raw) fun _ => ?_
  exact Sends.nothing fun sent =>
    Keeps.bind (Keeps.gets _) fun now => setDeadline_sent M _ sent

/-- The attempts send their messages in order, and stop where the exchange ends. -/
theorem aarqAttempts_sent (server client : Int) (information : Bytes) (options : AarqOptions)
    (original : Option ℚ) : ∀ (left : Nat) (retry : Bool) (lastError : PyExc) (w : Watched σ),
    ∃ out, (aarqAttempts (watching M) server client information options original left retry
        lastError w).2.sent = w.sent ++ out ∧
      out <+: exchangeMessages server client information options left retry := by
  intro left
  induction left with
  | zero =>
    intro retry lastError w
    exact ⟨[], (List.append_nil _).symm, List.prefix_rfl⟩
  | succ left ih =>
    intro retry lastError w
    obtain ⟨out, hsent, hpre, hall⟩ :=
      startAttempt_sends M server client information options original retry w
    rw [aarqAttempts, exchangeMessages]
    rcases hstart : startAttempt (watching M) server client information options original retry w
      with ⟨e | _, w₁⟩
    · rw [hstart] at hsent
      rw [bind_error hstart]
      exact ⟨out, hsent, hpre.trans (List.prefix_append _ _)⟩
    · rw [hstart] at hsent hall
      obtain rfl := hall _ rfl
      -- the wait for the answer sends nothing
      obtain ⟨outcome, w₂, hrecv, hw₂⟩ : ∃ outcome w₂,
          recvIFrame (watching M) w₁ = (outcome, w₂) ∧ w₂.sent = w₁.sent :=
        ⟨_, _, rfl, recvIFrameLoop_keeps (watching_receives M w₁.sent) maxSupervisoryFramesSkipped
          w₁ rfl⟩
      rw [bind_ok hstart, attempt_bind_run, hrecv]
      rcases outcome with e | frame
      · have hstop : ∃ out, w₂.sent = w.sent ++ out ∧
            out <+: attemptMessages server client information options retry ++
              exchangeMessages server client information options left true :=
          ⟨_, hw₂.trans hsent, List.prefix_append _ _⟩
        dsimp only
        split
        · rw [gets_bind_run]
          split
          · exact hstop
          · obtain ⟨more, hmore, hmorePre⟩ := ih true e w₂
            refine ⟨_ ++ more, ?_, (List.prefix_append_right_inj _).mpr hmorePre⟩
            rw [hmore, hw₂, hsent, List.append_assoc]
        · exact hstop
      · exact ⟨_, hw₂.trans hsent, List.prefix_append _ _⟩

/-- The messages of the exchange are a front part of those of `maxAttempts` attempts. -/
theorem sendAarq_sent (server client : Int) (information : Bytes) (options : AarqOptions)
    (w : Watched σ) :
    ∃ out, (sendAarqAndAwaitAare (watching M) server client information options w).2.sent =
        w.sent ++ out ∧
      out <+: exchangeMessages server client information options options.maxAttempts false := by
  obtain ⟨out, hsent, hpre⟩ := aarqAttempts_sent M server client information options
    (currentDeadline (watching M) w) options.maxAttempts false (aareTimeout options.maxAttempts) w
  refine ⟨out, ?_, hpre⟩
  rw [← hsent]
  unfold sendAarqAndAwaitAare
  rw [bind_ok (getDeadline_run _ w), attempt_bind_run]
  exact (Keeps.bind (setDeadline_sent M _ _) fun _ => Keeps.lift _) _ rfl

end Messages

/-- An AARQ frame is neither a DISC frame nor a heartbeat. -/
theorem aarq_ne {server client : Int} {information aarq disc : Bytes}
    (haarq : iFrame server client 0 0 information = .ok aarq)
    (hdisc : HdlcFrame.encode ⟨server, client, controlDisc, []⟩ = .ok disc) : disc ≠ aarq := by
  rintro rfl
  obtain ⟨haddr, hlen⟩ := encode_totalLength haarq
  obtain ⟨_, hlen'⟩ := encode_totalLength hdisc
  have hinformation : information.length = 0 := by
    have htotal := hlen.symm.trans hlen'
    simp only [HdlcFrame.totalLength, List.length_nil] at htotal
    omega
  -- so short a frame can be decoded, and the control bytes differ
  obtain ⟨raw, hraw, _, hdecode⟩ := frame_roundtrip haddr
    (HdlcFrame.totalLength_short (by rw [hinformation]; omega))
  obtain ⟨raw', hraw', _, hdecode'⟩ := frame_roundtrip
    (f := ⟨server, client, controlDisc, []⟩) haddr (HdlcFrame.totalLength_short (Nat.zero_le _))
  rw [show HdlcFrame.encode _ = _ from haarq] at hraw
  rw [hdisc] at hraw'
  cases hraw
  cases hraw'
  have hcontrol : controlInformationFrame 0 0 = controlDisc :=
    congrArg HdlcFrame.control (Except.ok.inj (hdecode.symm.trans hdecode'))
  exact absurd hcontrol (by decide)

/-- Among the messages of the association every attempt has one AARQ. -/
theorem exchangeMessages_count {server client : Int} {information aarq : Bytes}
    (options : AarqOptions) (haarq : iFrame server client 0 0 information = .ok aarq) :
    ∀ (attempts : Nat) (retry : Bool),
      (exchangeMessages server client information options attempts retry).count aarq = attempts := by
  -- no frame is as short as the heartbeat
  have hprobe : aarq ≠ [0, 0, 0] := by
    rintro rfl
    have hlen := (encode_totalLength haarq).2
    simp only [HdlcFrame.totalLength, List.length_cons, List.length_nil] at hlen
    omega
  have hdisc : (encoded (HdlcFrame.encode ⟨server, client, controlDisc, []⟩)).count aarq = 0 := by
    rcases hraw : HdlcFrame.encode ⟨server, client, controlDisc, []⟩ with e | disc
    · rfl
    · exact List.count_eq_zero.mpr fun hmem => aarq_ne haarq hraw (List.mem_singleton.mp hmem).symm
  have hone : ∀ retry, (attemptMessages server client information options retry).count aarq = 1 := by
    intro retry
    have hfirst : (if retry = true ∧ options.sendDiscBeforeRetry = true then
        encoded (HdlcFrame.encode ⟨server, client, controlDisc, []⟩) else []).count aarq = 0 := by
      split
      · exact hdisc
      · rfl
    have hsecond : (if options.sendHeartbeatProbe = true then [[0, 0, 0]] else []).count aarq = 0 := by
      split
      · exact List.count_eq_zero.mpr fun hmem => hprobe (List.mem_singleton.mp hmem)
      · rfl
    rw [attemptMessages, List.count_append, List.count_append, hfirst, hsecond, haarq, encoded,
      List.count_singleton_self]
  intro attempts
  induction attempts with
  | zero =>
    intro retry
    rfl
  | succ attempts ih =>
    intro retry
    rw [exchangeMessages, List.count_append, hone, ih]
    omega

/-! ## The whole reading -/

/-- What the deadline `d` means for the AARQ exchange that starts on `f`.  `watched` is its run on
    the watched filter. -/
structure ExchangeKept (S : TimedSocket σ) (f : DlT645FilteringSocket σ) (d : ℚ)
    (server client : Int) (information : Bytes) (options : AarqOptions)
    (watched : Except PyExc HdlcFrame × Watched (DlT645FilteringSocket σ)) : Prop where
  /-- Watching it changes nothing. -/
  same : sendAarqAndAwaitAare (filtering S.toSocket) server client information options f =
    (watched.1, watched.2.state)
  /-- The deadline is never later than `d` while it lasts … -/
  during : ∀ g ∈ watched.2.passed, ∃ d' ≤ d, g.deadline = some d'
  /-- … and is `d` again when it has ended, in whatever way. -/
  after : watched.2.state.deadline = some d
  /-- AARQ, then DISC (if asked for) and AARQ for every further attempt, as far as it went. -/
  sent : watched.2.sent <+:
    exchangeMessages server client information options options.maxAttempts false
  /-- At most so many of the messages are the AARQ. -/
  count : ∀ aarq, iFrame server client 0 0 information = .ok aarq →
    watched.2.sent.count aarq ≤ options.maxAttempts

/-- What the deadline `d` means for a reading that starts on `f`. -/
structure ReadingKept (S : TimedSocket σ) (f : DlT645FilteringSocket σ) (d : ℚ)
    (reading : Except PyExc (List RegisterReadOutcome) × DlT645FilteringSocket σ)
    (watched : Except PyExc (List RegisterReadOutcome) × Watched (DlT645FilteringSocket σ)) :
    Prop where
  /-- It returns or raises by `d`, or at once where `d` has passed already. -/
  ends : S.time reading.2.sock ≤ max (S.time f.sock) d
  after : reading.2.deadline = some d
  same : reading = (watched.1, watched.2.state)
  /-- At no point is the deadline in force later than `d`. -/
  during : ∀ g ∈ watched.2.passed, S.time g.sock ≤ max (S.time f.sock) d ∧
    ∃ d' ≤ d, g.deadline = some d'
  /-- A `settimeout` at any point of the run does nothing. -/
  settimeout : ∀ g ∈ watched.2.passed, ∀ t,
    DlT645FilteringSocket.settimeout S.toSocket t g = g

section Deadline

open DlT645FilteringSocket

variable {S : TimedSocket σ} {b d : ℚ}

/-- The state is under the deadline `d` and was never under a later one. -/
def UnderDeadline (S : TimedSocket σ) (b d : ℚ) (w : Watched (DlT645FilteringSocket σ)) : Prop :=
  Within S b (fun x => x = some d) w.state ∧
    ∀ g ∈ w.passed, Within S b (fun x => ∃ d' ≤ d, x = some d') g

/-- Watched, the filter under `d` keeps being so. -/
theorem underDeadline_keeps (hd : d ≤ b) :
    (watching (filtering S.toSocket)).Keeps (UnderDeadline S b d) :=
  watching_keeps (filtering_within fun _ hx => ⟨d, hd, hx⟩)
    fun _ hs => ⟨hs.1, d, le_refl d, hs.2⟩

theorem sendAarq_underDeadline (hd : d ≤ b) (server client : Int) (information : Bytes)
    (options : AarqOptions) :
    Proc.Keeps (UnderDeadline S b d) (sendAarqAndAwaitAare (watching (filtering S.toSocket)) server
      client information options) := by
  -- during the exchange the deadline in force may be an earlier one
  have hkeeps : (watching (filtering S.toSocket)).Keeps (fun w =>
      Within S b (fun x => ∃ d' ≤ d, x = some d') w.state ∧
        ∀ g ∈ w.passed, Within S b (fun x => ∃ d' ≤ d, x = some d') g) := by
    refine watching_keeps (filtering_within ?_) fun _ hs => hs
    rintro x ⟨d', hd', hx⟩
    exact ⟨d', hd'.trans hd, hx⟩
  have hmove : ∀ (d' : ℚ) (w : Watched (DlT645FilteringSocket σ)), d' ≤ d →
      S.time w.state.sock ≤ b →
      (∀ g ∈ w.passed, Within S b (fun x => ∃ d' ≤ d, x = some d') g) →
      ∀ g ∈ w.passed ++ [{ w.state with deadline := some d' }],
        Within S b (fun x => ∃ d' ≤ d, x = some d') g := by
    intro d' w hd' htime hpassed g hg
    rcases List.mem_append.mp hg with hg | hg
    · exact hpassed g hg
    · rw [List.mem_singleton.mp hg]
      exact ⟨htime, d', hd', rfl⟩
  refine sendAarq_keeps hkeeps (d := d) ?_ ?_ ?_ server client information options
  · intro d' hd' w hw
    exact ⟨⟨hw.1.1, d', hd', rfl⟩, hmove d' w hd' hw.1.1 hw.2⟩
  · intro w hw
    exact ⟨⟨⟨hw.1.1, d, le_refl d, hw.1.2⟩, hw.2⟩, hw.1.2⟩
  · intro w hw
    exact ⟨⟨hw.1.1, rfl⟩, hmove d w (le_refl d) hw.1.1 hw.2⟩

theorem readRegisters_underDeadline (hd : d ≤ b) (physicalAddress : String)
    (password userInformation : Bytes) (options : AarqOptions) (obisSpecs : List (String × Int)) :
    Proc.Keeps (UnderDeadline S b d) (readRegistersViaEstablishedLink
      (watching (filtering S.toSocket)) physicalAddress password userInformation options
      obisSpecs) := by
  refine Keeps.bind (Keeps.lift _) fun server => Keeps.bind ?_ fun _ => ?_
  · refine Keeps.bind (Keeps.lift _) fun aarq => ?_
    exact Keeps.bind (sendAarq_underDeadline hd _ _ _ _) fun frame => Keeps.lift _
  · exact registerLoop_keeps (underDeadline_keeps hd) _ _ _ _ _ _

end Deadline

/-- For every socket whose receives block at most their timeout, every state of the filter, every
    deadline `d` and every list of registers: the reading ends by `d`, whatever arrives when, and
    the AARQ exchange in it keeps the deadline, puts it back and sends AARQ no more often than it
    may. -/
theorem association_ends_by_deadline (S : TimedSocket σ) (f : DlT645FilteringSocket σ) (d : ℚ)
    (options : AarqOptions) :
    let start := { f with deadline := some d }
    (∀ (physicalAddress : String) (password userInformation : Bytes)
        (obisSpecs : List (String × Int)),
      ReadingKept S start d
        (readRegistersViaEstablishedLink (filtering S.toSocket) physicalAddress password
          userInformation options obisSpecs start)
        (readRegistersViaEstablishedLink (watching (filtering S.toSocket)) physicalAddress password
          userInformation options obisSpecs { state := start })) ∧
    ∀ (server client : Int) (information : Bytes),
      ExchangeKept S start d server client information options
        (sendAarqAndAwaitAare (watching (filtering S.toSocket)) server client information options
          { state := start }) := by
  intro start
  have hstart : UnderDeadline S (max (S.time start.sock) d) d { state := start } :=
    ⟨⟨le_max_left _ _, rfl⟩, fun g hg => (nomatch hg)⟩
  refine ⟨fun physicalAddress password userInformation obisSpecs => ?_,
    fun server client information => ?_⟩
  -- a reading: what is watched is what happens
  · have hkept := readRegisters_underDeadline (le_max_right (S.time start.sock) d) physicalAddress
      password userInformation options obisSpecs _ hstart
    have hsame := readRegisters_mirrors (watching_mirrors (filtering S.toSocket)) physicalAddress
      password userInformation options obisSpecs { state := start }
    refine ⟨?_, ?_, hsame, hkept.2, fun g hg => ?_⟩
    · rw [hsame]
      exact hkept.1.1
    · rw [hsame]
      exact hkept.1.2
    · obtain ⟨_, d', _, hd'⟩ := hkept.2 g hg
      exact DlT645FilteringSocket.settimeout_deadline hd'
  -- an association: its messages are a front part of a list with one AARQ an attempt
  · have hkept := sendAarq_underDeadline (le_max_right (S.time start.sock) d) server client
      information options _ hstart
    obtain ⟨out, hout, hpre⟩ := sendAarq_sent (filtering S.toSocket) server client information
      options { state := start }
    rw [List.nil_append] at hout
    refine ⟨sendAarq_mirrors (watching_mirrors (filtering S.toSocket)) server client information
      options { state := start }, fun g hg => (hkept.2 g hg).2, hkept.1.2, hout ▸ hpre,
      fun aarq haarq => ?_⟩
    rw [hout, ← exchangeMessages_count options haarq options.maxAttempts false]
    exact hpre.sublist.count_le aarq

/-- Zeros that trickle in do not extend the deadline: five of them, 0.3 s apart, under 1 s. -/
example :
    let trickle : List (ℚ × RxEvent) := [(3/10, .data 0 []), (6/10, .data 0 []), (9/10, .data 0 []),
      (12/10, .data 0 []), (15/10, .data 0 [])]
    let run := (filtering (timedWire fun _ => none).toSocket).recv 64
      { sock := { incoming := trickle }, deadline := some 1 }
    run.1 = .error .timeout ∧ run.2.sock.now = 1 := by
  decide +kernel

end RiseSun.Gateway
