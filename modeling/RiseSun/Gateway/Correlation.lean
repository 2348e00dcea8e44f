/-
  Which answers a register value is made of.

  The client takes the next I-frame for the answer to its last request.  Over a `Dialogue` that is
  right as long as no answer is left over from before: an AARQ attempt that timed out leaves its AARE
  to come, and nothing throws it away.

  1. **The association** (`associate_dialogue`) — after `late` attempts that timed out, `late` AAREs
     are still to come (`waiting`).

  2. **Registers** (`registerLoop_dialogue`) — the `n`-th answer the loop reads is the answer
     `nthAnswer late n`: first the AAREs left over, then the replies to the GETs, `late` behind.

  3. **Correlation** (`readRegisters_correlated`) — an outcome is made of the answers to its own GETs
     iff the first AARQ was answered within its own attempt.
-/
import RiseSun.Gateway.Batch
import RiseSun.Gateway.Dialogue
import RiseSun.Gateway.Registers

namespace RiseSun.Gateway

open Proc

variable {σ : Type}

/-! ## The queue -/

/-- The `n`-th answer after the association, when `late` AARQs were not answered in time. -/
def nthAnswer (late n : Nat) : Origin :=
  if n < late then .aarq (n + 1) else .get (n - late)

/-- What is still to come when `late` AARQs were not answered in time, and as many answers were
    read as GETs were sent. -/
def waiting (late gets : Nat) : List Origin := (List.range' gets late).map (nthAnswer late)

theorem waiting_zero (late : Nat) :
    waiting late 0 = (List.range late).map fun k => Origin.aarq (k + 1) := by
  rw [waiting, ← List.range_eq_range']
  apply List.map_congr_left
  intro k hk
  exact if_pos (List.mem_range.mp hk)

/-- Another GET: its answer goes to the end, and the first one still to come is read for it. -/
theorem waiting_get (late gets : Nat) :
    waiting late gets ++ [.get gets] = nthAnswer late gets :: waiting late (gets + 1) := by
  have hlast : Origin.get gets = nthAnswer late (gets + late) := by
    rw [nthAnswer, if_neg (by omega), Nat.add_sub_cancel]
  rw [hlast, waiting, waiting, ← List.map_singleton, ← List.map_append, ← List.map_cons,
    ← List.range'_succ, List.range'_concat, Nat.one_mul]

/-! ## The association -/

section Association

variable (S : MeterSocket σ) (server client : Int) (information : Bytes) (options : AarqOptions)
  (original : Option ℚ)

/-- The attempt that starts in `s` gets its answer before it times out. -/
def AttemptAnswered (retry : Bool) (s : σ) : Prop :=
  ∃ s₁ frame s₂, startAttempt S server client information options original retry s = (.ok (), s₁) ∧
    recvIFrame S s₁ = (.ok frame, s₂)

end Association

section Dialogue

variable {S : MeterSocket σ} {answer : Origin → AnswerFrame} {aareCount replyCount : Nat}
  {R : σ → Nat → Nat → List Origin → Prop} {server client : Int}

/-- An attempt sends one AARQ; DISC and the heartbeat call up no answer. -/
theorem startAttempt_dialogue (hd : Dialogue S answer aareCount replyCount R) {rest : Bytes}
    (hlen : rest.length ≤ 1999) {options : AarqOptions} {original : Option ℚ} {retry : Bool}
    {s s' : σ} {aarqs gets : Nat} {queue : List Origin} (haarqs : aarqs < aareCount)
    (hR : R s aarqs gets queue)
    (h : startAttempt S server client (wrapLlcCommand (aarqTag :: rest)) options original retry s =
      (.ok (), s')) :
    R s' (aarqs + 1) gets (queue ++ [.aarq aarqs]) := by
  -- from the back: the AARQ, before it the heartbeat, before that the DISC
  have hrest : ∀ {s : σ}, R s aarqs gets queue → (do
      sendIFrame S server client 0 0 (wrapLlcCommand (aarqTag :: rest))
      let now ← Proc.gets S.time
      setDeadline S (some (narrowedDeadline now options.perAttemptTimeout original))) s =
        (.ok (), s') → R s' (aarqs + 1) gets (queue ++ [.aarq aarqs]) := by
    intro s hR h
    obtain ⟨_, s₁, hsend, h⟩ := bind_eq_ok.mp h
    obtain ⟨raw, hraw, hsend⟩ := lift_bind_eq_ok hsend
    have hrequest : requestOf raw = some .aarq := by
      rw [requestOf_iFrame hlen hraw]
      rfl
    rw [gets_bind_run] at h
    exact hd.setDeadline (hd.send_aarq hrequest haarqs hR hsend) h
  have hprobe : ∀ {s : σ}, R s aarqs gets queue → (do
      if options.sendHeartbeatProbe then send S [0, 0, 0]
      sendIFrame S server client 0 0 (wrapLlcCommand (aarqTag :: rest))
      let now ← Proc.gets S.time
      setDeadline S (some (narrowedDeadline now options.perAttemptTimeout original))) s =
        (.ok (), s') → R s' (aarqs + 1) gets (queue ++ [.aarq aarqs]) := by
    intro s hR h
    cases hheartbeat : options.sendHeartbeatProbe with
    | false =>
      rw [hheartbeat] at h
      exact hrest hR h
    | true =>
      rw [hheartbeat] at h
      obtain ⟨_, s₁, hsend, h⟩ := bind_eq_ok.mp h
      exact hrest (hd.send_other requestOf_heartbeat hR hsend) h
  unfold startAttempt at h
  by_cases hdisc : retry = true ∧ options.sendDiscBeforeRetry = true
  · rw [if_pos hdisc] at h
    obtain ⟨raw, hraw, h⟩ := lift_bind_eq_ok h
    obtain ⟨_, s₁, hsend, h⟩ := bind_eq_ok.mp h
    exact hprobe (hd.send_other (requestOf_disc hraw) hR hsend) h
  · rw [if_neg hdisc] at h
    exact hprobe hR h

/-- The attempts: each that times out leaves its AARE in the queue. -/
theorem aarqAttempts_dialogue (hd : Dialogue S answer aareCount replyCount R) {rest : Bytes}
    (hlen : rest.length ≤ 1999) (options : AarqOptions) (original : Option ℚ) :
    ∀ (left : Nat) {late : Nat} {retry : Bool} {lastError : PyExc} {s s' : σ} {frame : HdlcFrame},
      late + left ≤ aareCount → R s late 0 ((List.range late).map .aarq) →
      aarqAttempts S server client (wrapLlcCommand (aarqTag :: rest)) options original left retry
        lastError s = (.ok frame, s') →
      ∃ late', late ≤ late' ∧ R s' (late' + 1) 0 (waiting late' 0) ∧
        (late' = late ↔ AttemptAnswered S server client (wrapLlcCommand (aarqTag :: rest)) options
          original retry s) := by
  intro left
  induction left with
  | zero =>
    intro late retry lastError s s' frame _ _ h
    cases h
  | succ left ih =>
    intro late retry lastError s s' frame hcount hR h
    rw [aarqAttempts] at h
    obtain ⟨_, s₁, hstart, h⟩ := bind_eq_ok.mp h
    have hR₁ := startAttempt_dialogue hd hlen (by omega) hR hstart
    have hqueue : (List.range late).map .aarq ++ [.aarq late] =
        (List.range (late + 1)).map Origin.aarq := by
      rw [List.range_succ, List.map_append, List.map_singleton]
    rw [hqueue] at hR₁
    rw [attempt_bind_run] at h
    rcases hrecv : recvIFrame S s₁ with ⟨e | frame', s₂⟩
    · rw [hrecv] at h
      have hR₂ := hd.recv_error hR₁ hrecv
      -- what the attempt waited for may still come, and is then the first thing the next one reads
      have hunanswered : ¬ AttemptAnswered S server client (wrapLlcCommand (aarqTag :: rest))
          options original retry s := by
        rintro ⟨s₁', frame', s₂', hstart', hrecv'⟩
        rw [hstart] at hstart'
        cases hstart'
        rw [hrecv] at hrecv'
        cases hrecv'
      dsimp only at h
      split at h
      · rw [gets_bind_run] at h
        split at h
        · cases h
        · obtain ⟨late', hle, hR', _⟩ := ih (by omega) hR₂ h
          refine ⟨late', by omega, hR', ?_⟩
          exact ⟨fun heq => absurd heq (by omega), fun hanswered => absurd hanswered hunanswered⟩
      · cases h
    · rw [hrecv] at h
      cases h
      obtain ⟨origin, tail, hhead, _, hR₂⟩ := hd.recv_ok hR₁ hrecv
      -- the answer is that to the first AARQ; those to the others are still to come
      rw [List.range_succ_eq_map, List.map_cons, List.map_map] at hhead
      obtain ⟨_, htail⟩ := List.cons.inj hhead
      refine ⟨late, Nat.le_refl late, ?_, fun _ => ⟨s₁, _, _, hstart, hrecv⟩, fun _ => rfl⟩
      rw [waiting_zero]
      rw [← htail] at hR₂
      exact hR₂

variable (S) in
/-- The first AARQ is answered before the first attempt times out. -/
def AnsweredAtOnce (server client : Int) (password userInformation : Bytes) (options : AarqOptions)
    (s : σ) : Prop :=
  ∃ aarq, buildAarq password userInformation = .ok aarq ∧
    AttemptAnswered S server client (wrapLlcCommand aarq) options (currentDeadline S s) false s

/-- After an association `late` AAREs are still to come, none iff the first AARQ was answered at
    once. -/
theorem associate_dialogue (hd : Dialogue S answer aareCount replyCount R)
    {password userInformation : Bytes} {options : AarqOptions} {s s' : σ}
    (hcount : options.maxAttempts ≤ aareCount) (hR : R s 0 0 [])
    (h : associate S server client password userInformation options s = (.ok (), s')) :
    ∃ late, R s' (late + 1) 0 (waiting late 0) ∧
      (late = 0 ↔ AnsweredAtOnce S server client password userInformation options s) := by
  unfold associate at h
  obtain ⟨aarq, haarq, h⟩ := lift_bind_eq_ok h
  obtain ⟨aareFrame, s₁, hexchange, h⟩ := bind_eq_ok.mp h
  obtain ⟨_, hs⟩ := Prod.mk.inj h
  subst hs
  obtain ⟨rest, hrest, hlen⟩ := buildAarq_tag haarq
  subst hrest
  unfold sendAarqAndAwaitAare at hexchange
  rw [bind_ok (getDeadline_run S s), attempt_bind_run] at hexchange
  rcases hattempts : aarqAttempts S server client (wrapLlcCommand (aarqTag :: rest)) options
    (currentDeadline S s) options.maxAttempts false (aareTimeout options.maxAttempts) s with ⟨r, s₂⟩
  rw [hattempts] at hexchange
  obtain ⟨_, s₃, hset, hlift⟩ := bind_eq_ok.mp hexchange
  obtain ⟨hr, hs⟩ := Prod.mk.inj hlift
  subst hr hs
  obtain ⟨late, _, hR', hiff⟩ := aarqAttempts_dialogue hd (Nat.le_trans hlen (by decide)) options
    (currentDeadline S s) options.maxAttempts (by omega) hR hattempts
  refine ⟨late, hd.setDeadline hR' hset, hiff.trans ?_⟩
  constructor
  · intro hanswered
    exact ⟨_, haarq, hanswered⟩
  · rintro ⟨aarq', haarq', hanswered⟩
    rw [haarq] at haarq'
    cases haarq'
    exact hanswered

end Dialogue

/-! ## Registers -/

/-- What the frame that answers the value GET says. -/
def valueResult (obis : String) (classId : Int) (scalerUnit : Value) (frame : HdlcFrame) :
    Except PyExc (Except GatewayError RegisterValue) :=
  match getAnswer frame with
  | .ok raw => .ok (interpretValue obis classId scalerUnit raw)
  | .error e => if e.isAnswerFailure then .ok (.error (answerFailure e)) else .error e

/-- How many GETs a register takes. -/
def registerGets (classId : Int) : Nat := if classId = registerClassId then 2 else 1

/-- What a register is, made of the frames that were read for its GETs. -/
def registerResult (obis : String) (classId : Int) (frames : Nat → HdlcFrame) :
    Except PyExc (Except GatewayError RegisterValue) :=
  if classId = registerClassId then do
    let scalerUnit ← scalerAnswer (frames 0)
    valueResult obis classId scalerUnit (frames 1)
  else valueResult obis classId .null (frames 0)

/-- The GETs sent for the first `i` registers. -/
def getsBefore (obisSpecs : List (String × Int)) (i : Nat) : Nat :=
  ((obisSpecs.take i).map fun spec => registerGets (effectiveClassId spec.2)).sum

theorem getsBefore_succ (spec : String × Int) (obisSpecs : List (String × Int)) (i : Nat) :
    getsBefore (spec :: obisSpecs) (i + 1) =
      registerGets (effectiveClassId spec.2) + getsBefore obisSpecs i := by
  unfold getsBefore
  rw [List.take_succ_cons, List.map_cons, List.sum_cons]

/-- The request is a GET by its tag. -/
theorem buildGetRequest_tag {obis request : Bytes} {invokeId attributeId : UInt8} {classId : Int}
    (h : buildGetRequest obis invokeId attributeId classId = .ok request) :
    ∃ rest, request = getRequestTag :: rest ∧ rest.length ≤ 1999 := by
  unfold buildGetRequest at h
  rcases ite_eq_iff.mp h with ⟨_, h⟩ | ⟨hobis, h⟩
  · cases h
  · obtain ⟨descriptor, hdescriptor, h⟩ := Result.bind_eq_ok h
    obtain ⟨cls, hcls, hdescriptor⟩ := Result.bind_eq_ok hdescriptor
    have hlen : cls.length = 2 := toBytes_length hcls
    cases h
    cases hdescriptor
    refine ⟨_, rfl, ?_⟩
    have hshape : ([getRequestNormal, invokeId] ++ (cls ++ obis ++ [attributeId]) ++
        [(0x00 : UInt8)]).length ≤ 1999 := by
      simp only [List.length_append, List.length_cons, List.length_nil]
      omega
    exact hshape

section Dialogue

variable {S : MeterSocket σ} {answer : Origin → AnswerFrame} {aareCount replyCount : Nat}
  {R : σ → Nat → Nat → List Origin → Prop} {server client : Int} {late : Nat}

/-- The frame of the `n`-th answer after the association. -/
def nthFrame (answer : Origin → AnswerFrame) (late n : Nat) : HdlcFrame :=
  (answer (nthAnswer late n)).frame

/-- One GET is answered by the first frame still to come. -/
theorem getAttribute_dialogue (hd : Dialogue S answer aareCount replyCount R) {s s' : σ}
    {sendSeq invokeId aarqs gets : Nat} {obis : Bytes} {attributeId : UInt8} {classId : Int}
    {frame : HdlcFrame} (hgets : gets < replyCount) (hR : R s aarqs gets (waiting late gets))
    (h : getAttribute S server client sendSeq invokeId obis attributeId classId s =
      (.ok frame, s')) :
    frame = nthFrame answer late gets ∧ R s' aarqs (gets + 1) (waiting late (gets + 1)) := by
  unfold getAttribute at h
  obtain ⟨request, hrequest, h⟩ := lift_bind_eq_ok h
  obtain ⟨rest, rfl, hlen⟩ := buildGetRequest_tag hrequest
  obtain ⟨_, s₁, hsend, h⟩ := bind_eq_ok.mp h
  obtain ⟨raw, hraw, hsend⟩ := lift_bind_eq_ok hsend
  have hget : requestOf raw = some .get := by
    rw [requestOf_iFrame hlen hraw]
    rfl
  have hR₁ := hd.send_get hget hgets hR hsend
  rw [waiting_get] at hR₁
  obtain ⟨origin, tail, hqueue, hframe, hR₂⟩ := hd.recv_ok hR₁ h
  obtain ⟨horigin, htail⟩ := List.cons.inj hqueue
  rw [← horigin] at hframe
  rw [← htail] at hR₂
  exact ⟨hframe, hR₂⟩

theorem readValue_dialogue (hd : Dialogue S answer aareCount replyCount R) {s s' : σ}
    {sendSeq invokeId aarqs gets next : Nat} {obis : String} {parsedValueObis : Bytes}
    {classId : Int} {scalerUnit : Value} {result : Except GatewayError RegisterValue}
    (hgets : gets < replyCount) (hR : R s aarqs gets (waiting late gets))
    (h : readValue S server client sendSeq invokeId obis parsedValueObis classId scalerUnit s =
      (.ok (result, next), s')) :
    valueResult obis classId scalerUnit (nthFrame answer late gets) = .ok result ∧
      R s' aarqs (gets + 1) (waiting late (gets + 1)) := by
  obtain ⟨frame, hget, _, hresult⟩ := readValue_ok h
  obtain ⟨rfl, hR'⟩ := getAttribute_dialogue hd hgets hR hget
  refine ⟨?_, hR'⟩
  unfold valueResult
  rcases hresult with ⟨raw, hraw, rfl⟩ | ⟨e, he, hfail, rfl⟩
  · rw [hraw]
  · rw [he]
    exact if_pos hfail

/-- One register is made of the first frames still to come, as many as it has GETs. -/
theorem readOneRegister_dialogue (hd : Dialogue S answer aareCount replyCount R) {s s' : σ}
    {sendSeq invokeId aarqs gets next : Nat} {obis : String} {classId : Int}
    {result : Except GatewayError RegisterValue} (hgets : gets + registerGets classId ≤ replyCount)
    (hR : R s aarqs gets (waiting late gets))
    (h : readOneRegister S server client sendSeq obis classId invokeId s =
      (.ok (result, next), s')) :
    registerResult obis classId (fun j => nthFrame answer late (gets + j)) = .ok result ∧
      R s' aarqs (gets + registerGets classId) (waiting late (gets + registerGets classId)) := by
  unfold registerGets at hgets ⊢
  unfold registerResult
  by_cases hclass : classId = registerClassId
  · subst hclass
    rw [if_pos rfl] at hgets ⊢
    rw [if_pos rfl]
    obtain ⟨_, _, scalerFrame, scalerUnit, s₁, _, _, hget, hscaler, hread⟩ := readOneRegister_ok h
    obtain ⟨rfl, hR₁⟩ := getAttribute_dialogue hd (by omega) hR hget
    obtain ⟨hvalue, hR₂⟩ := readValue_dialogue hd (by omega) hR₁ hread
    refine ⟨?_, hR₂⟩
    show (scalerAnswer (nthFrame answer late gets) >>= fun scalerUnit =>
      valueResult obis registerClassId scalerUnit (nthFrame answer late (gets + 1))) = .ok result
    rw [hscaler]
    exact hvalue
  · rw [if_neg hclass] at hgets ⊢
    rw [if_neg hclass]
    unfold readOneRegister at h
    obtain ⟨_, _, h⟩ := lift_bind_eq_ok h
    obtain ⟨_, _, h⟩ := lift_bind_eq_ok h
    rw [if_neg hclass] at h
    exact readValue_dialogue hd (by omega) hR h

/-- The outcome was made by a run of its register: `first` GETs had been sent before, and the
    `n`-th answer read was `nthFrame answer late n`. -/
def ReadAt (S : MeterSocket σ) (R : σ → Nat → Nat → List Origin → Prop) (server client : Int)
    (answer : Origin → AnswerFrame) (late aarqs first : Nat) (spec : String × Int)
    (outcome : RegisterReadOutcome) : Prop :=
  ∃ result sendSeq invokeId next s s', outcome = .of spec.1 result ∧
    R s aarqs first (waiting late first) ∧
    readOneRegister S server client sendSeq spec.1 (effectiveClassId spec.2) invokeId s =
      (.ok (result, next), s') ∧
    R s' aarqs (first + registerGets (effectiveClassId spec.2))
      (waiting late (first + registerGets (effectiveClassId spec.2))) ∧
    registerResult spec.1 (effectiveClassId spec.2)
      (fun j => nthFrame answer late (first + j)) = .ok result

/-- The loop: the outcomes are those of the first registers, one after the other. -/
theorem registerLoop_dialogue (hd : Dialogue S answer aareCount replyCount R) {aarqs : Nat} :
    ∀ (obisSpecs : List (String × Int)) (sendSeq invokeId : Nat)
      (results : List RegisterReadOutcome) {gets : Nat} {s s' : σ}
      {outcomes : List RegisterReadOutcome},
      gets + getsBefore obisSpecs obisSpecs.length ≤ replyCount →
      R s aarqs gets (waiting late gets) →
      registerLoop S server client obisSpecs sendSeq invokeId results s = (.ok outcomes, s') →
      ∃ more, outcomes = results ++ more ∧ ∀ i outcome, more[i]? = some outcome →
        ∃ spec, obisSpecs[i]? = some spec ∧
          ReadAt S R server client answer late aarqs (gets + getsBefore obisSpecs i) spec
            outcome := by
  intro obisSpecs
  induction obisSpecs with
  | nil =>
    intro sendSeq invokeId results gets s s' outcomes _ _ h
    cases h
    exact ⟨[], (List.append_nil _).symm, fun i outcome hi => by cases hi⟩
  | cons spec obisSpecs ih =>
    obtain ⟨obis, rawClassId⟩ := spec
    intro sendSeq invokeId results gets s s' outcomes hcount hR h
    rw [List.length_cons, getsBefore_succ] at hcount
    rw [registerLoop, attempt_bind_run] at h
    rcases hread : readOneRegister S server client sendSeq obis (effectiveClassId rawClassId)
      invokeId s with ⟨e | ⟨result, next⟩, s₁⟩
    · rw [hread] at h
      dsimp only at h
      split at h
      · cases h
        exact ⟨[], (List.append_nil _).symm, fun i outcome hi => by cases hi⟩
      · cases h
    · rw [hread] at h
      dsimp only at h hcount
      -- the rest starts with so many requests more
      obtain ⟨hresult, hR₁⟩ := readOneRegister_dialogue hd (by omega) hR hread
      obtain ⟨more, hmore, hall⟩ := ih next _ _ (by omega) hR₁ h
      refine ⟨.of obis result :: more, by rw [hmore, List.append_assoc]; rfl, ?_⟩
      intro i outcome hi
      cases i with
      | zero =>
        cases hi
        refine ⟨(obis, rawClassId), rfl, result, sendSeq, invokeId, next, s, s₁, rfl, ?_⟩
        have hzero : getsBefore ((obis, rawClassId) :: obisSpecs) 0 = 0 := rfl
        rw [hzero, Nat.add_zero]
        exact ⟨hR, hread, hR₁, hresult⟩
      | succ i =>
        obtain ⟨spec, hspec, hat⟩ := hall i outcome hi
        refine ⟨spec, hspec, ?_⟩
        rw [getsBefore_succ, ← Nat.add_assoc]
        exact hat

/-! ## Correlation -/

/-- The answer belongs to one of the GETs sent for position `i`. -/
def OwnAnswer (obisSpecs : List (String × Int)) (i : Nat) (classId : Int) (origin : Origin) :
    Prop :=
  ∃ j < registerGets classId, origin = .get (getsBefore obisSpecs i + j)

/-- With AAREs left over every register starts on an answer that is not its own. -/
theorem ownAnswer_iff (late : Nat) (obisSpecs : List (String × Int)) (i : Nat) (classId : Int) :
    (∀ j < registerGets classId,
      OwnAnswer obisSpecs i classId (nthAnswer late (getsBefore obisSpecs i + j))) ↔ late = 0 := by
  constructor
  · intro h
    have hpos : 0 < registerGets classId := by
      unfold registerGets
      split
      · decide
      · decide
    obtain ⟨j, _, horigin⟩ := h 0 hpos
    rw [Nat.add_zero] at horigin
    unfold nthAnswer at horigin
    split at horigin
    · cases horigin
    · injection horigin with hnumber
      omega
  · rintro rfl j hj
    refine ⟨j, hj, ?_⟩
    rw [nthAnswer, if_neg (Nat.not_lt_zero _), Nat.sub_zero]

/-- **Correlation.**  Whatever the meter's answers and their delays: every outcome is made of the
    answers its register run read, and these are all answers to the GETs sent for its own position
    iff the first AARQ was answered before the first attempt timed out. -/
theorem readRegisters_correlated (hd : Dialogue S answer aareCount replyCount R)
    {physicalAddress : String} {password userInformation : Bytes} {options : AarqOptions}
    {obisSpecs : List (String × Int)} {s s' : σ} {outcomes : List RegisterReadOutcome}
    (haarqs : options.maxAttempts ≤ aareCount)
    (hgets : getsBefore obisSpecs obisSpecs.length ≤ replyCount) (hR : R s 0 0 [])
    (h : readRegistersViaEstablishedLink S physicalAddress password userInformation options
      obisSpecs s = (.ok outcomes, s')) :
    ∃ server late, serverHdlcAddress physicalAddress 1 = .ok server ∧
      ∀ i outcome, outcomes[i]? = some outcome → ∃ spec, obisSpecs[i]? = some spec ∧
        ReadAt S R server defaultClientAddress answer late (late + 1) (getsBefore obisSpecs i) spec
          outcome ∧
        ((∀ j < registerGets (effectiveClassId spec.2),
          OwnAnswer obisSpecs i (effectiveClassId spec.2)
            (nthAnswer late (getsBefore obisSpecs i + j))) ↔
          AnsweredAtOnce S server defaultClientAddress password userInformation options s) := by
  unfold readRegistersViaEstablishedLink at h
  obtain ⟨server, hserver, h⟩ := lift_bind_eq_ok h
  obtain ⟨_, s₁, hassociate, h⟩ := bind_eq_ok.mp h
  obtain ⟨late, hR₁, hlate⟩ := associate_dialogue hd haarqs hR hassociate
  obtain ⟨more, hmore, hall⟩ := registerLoop_dialogue hd obisSpecs 1 1 [] (by omega) hR₁ h
  rw [List.nil_append] at hmore
  subst hmore
  refine ⟨server, late, hserver, fun i outcome hi => ?_⟩
  obtain ⟨spec, hspec, hat⟩ := hall i outcome hi
  rw [Nat.zero_add] at hat
  exact ⟨spec, hspec, hat, (ownAnswer_iff late obisSpecs i _).trans hlate⟩

end Dialogue

/-! ## The condition in terms of delays -/

/-- The first attempt sends its AARQ, and the AARE is on its way. -/
theorem startAttempt_answering {stock : Stock} {d : ℚ} {a : AnswerFrame}
    {later : List (ℚ × AnswerFrame)} (haares : stock.aares = (d, a) :: later) (timeout : ℚ)
    {server : Int} (hs : 0 ≤ server ∧ server < 2 ^ 28) {rest : Bytes} (hlen : rest.length ≤ 1900)
    (options : AarqOptions) :
    ∃ w, startAttempt answering server defaultClientAddress (wrapLlcCommand (aarqTag :: rest))
        options none false (stock.start timeout) = (.ok (), w) ∧
      w.incoming = [(0 + d, a.event)] ∧ w.now = 0 ∧ w.timeout = timeout := by
  have hc : 0 ≤ defaultClientAddress ∧ defaultClientAddress < 2 ^ 28 := by decide
  have hshort : (wrapLlcCommand (aarqTag :: rest)).length ≤ 2000 := by
    have hinformation : (wrapLlcCommand (aarqTag :: rest)).length = 3 + (rest.length + 1) :=
      List.length_append
    omega
  obtain ⟨raw, hraw⟩ := iFrame_ok hs hc 0 0 hshort
  have hrequest : requestOf raw = some .aarq := by
    rw [requestOf_iFrame (by omega) hraw]
    rfl
  have hsend : ∀ sent, ∃ w, sendIFrame answering server defaultClientAddress 0 0
        (wrapLlcCommand (aarqTag :: rest)) { stock.start timeout with sent := sent } =
          (.ok (), w) ∧ w.incoming = [(0 + d, a.event)] ∧ w.now = 0 ∧ w.timeout = timeout := by
    intro sent
    have htake : Wire.takeAnswer Request.aarq.kind
        ({ stock.start timeout with sent := sent } : Wire).answers =
          some ((d, a.event), Stock.ofKind .aarq later ++ Stock.ofKind .get stock.replies) := by
      show Wire.takeAnswer _ (Stock.ofKind .aarq stock.aares ++ _) = _
      rw [haares]
      rfl
    have hrun := send_request hrequest htake
    refine ⟨{ stock.start timeout with
      sent := sent ++ [raw], incoming := [(0 + d, a.event)]
      answers := Stock.ofKind .aarq later ++ Stock.ofKind .get stock.replies }, ?_, rfl, rfl, rfl⟩
    rw [sendIFrame, hraw, lift_ok_bind_run]
    exact hrun
  unfold startAttempt
  rw [if_neg (by simp)]
  cases hprobe : options.sendHeartbeatProbe with
  | false =>
    obtain ⟨w, hrun, hw⟩ := hsend []
    refine ⟨w, ?_, hw⟩
    exact bind_ok hrun
  | true =>
    obtain ⟨w, hrun, hw⟩ := hsend ([] ++ [[0, 0, 0]])
    refine ⟨w, ?_, hw⟩
    have hbeat := send_noRequest (w := stock.start timeout) requestOf_heartbeat
    exact (bind_ok hbeat).trans (bind_ok hrun)

/-- On the answering wire the first AARQ is answered at once iff its AARE takes no longer than the
    timeout of the socket. -/
theorem answeredAtOnce_answering {stock : Stock} {d timeout : ℚ} {a : AnswerFrame}
    {later : List (ℚ × AnswerFrame)} (haares : stock.aares = (d, a) :: later) {server : Int}
    (hs : 0 ≤ server ∧ server < 2 ^ 28) {password userInformation aarq : Bytes}
    (haarq : buildAarq password userInformation = .ok aarq) (options : AarqOptions) :
    AnsweredAtOnce answering server defaultClientAddress password userInformation options
      (stock.start timeout) ↔ d ≤ timeout := by
  obtain ⟨rest, rfl, hlen⟩ := buildAarq_tag haarq
  obtain ⟨w, hstart, hin, hnow, htimeout⟩ := startAttempt_answering haares timeout hs
    (Nat.le_trans hlen (by decide)) options
  have harrives : 0 + d ≤ w.now + w.timeout ↔ d ≤ timeout := by
    rw [hnow, htimeout, zero_add, zero_add]
  constructor
  · rintro ⟨aarq, haarq', w₁, frame, w₂, hstart', hrecv⟩
    rw [haarq] at haarq'
    cases haarq'
    have hsame := hstart.symm.trans hstart'
    cases hsame
    by_contra hlate
    -- it comes after the timeout, so the first wait ends without it
    have hread := read_late (w := w) (by
      rw [hin]
      rintro p ⟨⟩
      rw [harrives]
      exact hlate)
    have hrecv : recvIFrameLoop answering (19 + 1) w = (.ok frame, w₂) := hrecv
    rw [recvIFrameLoop, bind_error hread] at hrecv
    cases hrecv
  · intro hle
    obtain ⟨w', hread, _, _⟩ := read_inTime hin (harrives.mpr hle)
    refine ⟨_, haarq, w, a.frame, w', hstart, ?_⟩
    show recvIFrameLoop answering (19 + 1) w = _
    rw [recvIFrameLoop, bind_ok hread, a.sent.decode, lift_ok_bind_run, if_pos a.informative]
    rfl

/-! ## Two Data objects -/

/-- Two AAREs, the second after a second, and the answers 42 and 43 to two GETs. -/
def twoValues (firstDelay : ℚ) : Stock where
  aares := [(firstDelay, meterAnswer aareAccepted (by decide)),
    (1, meterAnswer aareAccepted (by decide))]
  replies := [(0, meterAnswer [0xC4, 1, 1, 0, 0x11, 42] (by decide)),
    (0, meterAnswer [0xC4, 1, 2, 0, 0x11, 43] (by decide))]

def twoAttempts : AarqOptions := { maxAttempts := 2 }

/-- The batch of two Data objects over a socket with a timeout of five seconds. -/
def readTwoValues (firstDelay : ℚ) : Except PyExc (List RegisterReadOutcome) × Wire :=
  readRegistersViaEstablishedLink answering "1" [0x31] userInformationInitiate twoAttempts
    twoDataObjects ((twoValues firstDelay).start 5)

theorem readTwoValues_inTime :
    readRegistersViaEstablishedLink answering "1" [0x31] userInformationInitiate twoAttempts
        twoDataObjects ((twoValues 3).start 5) =
      (.ok [.of "0.0.60.1.0.ff" (.ok (.plain (.int 42))),
        .of "0.0.60.1.1.ff" (.ok (.plain (.int 43)))], (readTwoValues 3).2) :=
  run_eq (by decide +kernel)

/-- The theorem on an AARE that comes after three seconds. -/
theorem readRegisters_correlated_inTime :
    ∃ server late, serverHdlcAddress "1" 1 = .ok server ∧
      ∀ i outcome, [RegisterReadOutcome.of "0.0.60.1.0.ff" (.ok (.plain (.int 42))),
          .of "0.0.60.1.1.ff" (.ok (.plain (.int 43)))][i]? = some outcome →
        ∃ spec, twoDataObjects[i]? = some spec ∧
        ReadAt answering (twoValues 3).Delivering server defaultClientAddress (twoValues 3).answer
          late (late + 1) (getsBefore twoDataObjects i) spec outcome ∧
        ((∀ j < registerGets (effectiveClassId spec.2),
          OwnAnswer twoDataObjects i (effectiveClassId spec.2)
            (nthAnswer late (getsBefore twoDataObjects i + j))) ↔
          AnsweredAtOnce answering server defaultClientAddress [0x31] userInformationInitiate
            twoAttempts ((twoValues 3).start 5)) :=
  readRegisters_correlated (answering_dialogue (twoValues 3)) (by decide) (by decide)
    ((twoValues 3).start_delivering 5) readTwoValues_inTime

/-- The first AARE comes after six seconds: the outcome of the second register is 42, the answer to
    the GET of the first one.  Its own answer says 43. -/
theorem readRegisters_shifted :
    (readTwoValues 6).1 = .ok [
      .of "0.0.60.1.0.ff" (.error
        { cls := .gatewayError
          message := [.text "Ожидался GET.response-normal (тег 0xC4 0x01)"] }),
      .of "0.0.60.1.1.ff" (.ok (.plain (.int 42)))] ∧
    registerResult "0.0.60.1.1.ff" 1 (fun j => ((twoValues 6).answer (.get (1 + j))).frame) =
      .ok (.ok (.plain (.int 43))) := by
  decide +kernel

end RiseSun.Gateway
