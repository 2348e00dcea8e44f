/-
  A meter that answers every AARQ and every GET once, in order, each after some delay.

  1. **Requests** (`requestOf`) — what the meter makes of the bytes it receives.

  2. **`Dialogue S answer …`** — the laws of such a conversation over any socket: a request that is
     sent puts its answer at the end of a queue, a frame that is read is the head of the queue, a
     read that fails leaves the queue alone.  Delays show only in which reads fail.

  3. **The answering wire** (`answering_dialogue`) — a plain socket to a meter with a stock of answers
     and an arbitrary delay for each of them is such a conversation.
-/
import RiseSun.Gateway.Meter

namespace RiseSun.Gateway

open Proc

/-! ## Requests -/

/-- The requests that the meter answers. -/
inductive Request
  | aarq
  | get
  deriving DecidableEq

def tagRequest (tag : UInt8) : Option Request :=
  if tag = aarqTag then some .aarq else if tag = getRequestTag then some .get else none

/-- The request in a message to the meter: an I-frame with an AARQ or a GET behind the LLC header.
    DISC and the heartbeat are none. -/
def requestOf (data : Bytes) : Option Request :=
  match HdlcFrame.decode data with
  | .ok frame =>
    if frame.control &&& 0x01 = 0 then
      (frame.information.drop llcCommandHeader.length).head?.bind tagRequest
    else none
  | .error _ => none

theorem requestOf_encode {frame : HdlcFrame} {raw : Bytes} (h : frame.encode = .ok raw)
    (hlen : frame.information.length ≤ 2003) :
    requestOf raw = if frame.control &&& 0x01 = 0 then
      (frame.information.drop llcCommandHeader.length).head?.bind tagRequest else none := by
  unfold requestOf
  rw [(SentFrame.of_short h hlen).decode]

theorem controlInformationFrame_even (sendSeq recvSeq : Nat) :
    controlInformationFrame sendSeq recvSeq &&& 0x01 = 0 := by
  have hall : ∀ r s : Fin 8,
      UInt8.ofNat ((r.val <<< 5) ||| 0x10 ||| (s.val <<< 1)) &&& 0x01 = 0 := by decide
  exact hall ⟨recvSeq &&& 0x7, Nat.lt_succ_of_le Nat.and_le_right⟩
    ⟨sendSeq &&& 0x7, Nat.lt_succ_of_le Nat.and_le_right⟩

/-- The client's I-frames are requests by the tag of their APDU. -/
theorem requestOf_iFrame {server client : Int} {sendSeq recvSeq : Nat} {tag : UInt8}
    {rest raw : Bytes} (hlen : rest.length ≤ 1999)
    (h : iFrame server client sendSeq recvSeq (wrapLlcCommand (tag :: rest)) = .ok raw) :
    requestOf raw = tagRequest tag := by
  have hinformation : (wrapLlcCommand (tag :: rest)).length = 3 + (rest.length + 1) :=
    List.length_append
  rw [requestOf_encode h (by dsimp only; omega), if_pos (controlInformationFrame_even _ _)]
  rfl

theorem requestOf_disc {server client : Int} {raw : Bytes}
    (h : HdlcFrame.encode ⟨server, client, controlDisc, []⟩ = .ok raw) : requestOf raw = none := by
  have hodd : ¬ controlDisc &&& 0x01 = 0 := by decide
  rw [requestOf_encode h (Nat.zero_le _), if_neg hodd]

theorem requestOf_heartbeat : requestOf [0, 0, 0] = none := by decide

/-! ## The conversation -/

/-- Which request an answer belongs to, the AARQs and the GETs each counted from zero. -/
inductive Origin
  | aarq (k : Nat)
  | get (k : Nat)
  deriving DecidableEq

/-- A frame that answers a request: an I-frame as a meter sends it. -/
structure AnswerFrame where
  frame : HdlcFrame
  raw : Bytes
  sent : SentFrame raw frame
  informative : frame.control &&& 0x01 = 0

variable {σ : Type}

/-- `R s aarqs gets queue`: the meter has received that many AARQs and GETs, and the answers to the
    requests of `queue` are still to come.  It answers the first `aareCount` AARQs and the first
    `replyCount` GETs; `answer` says how. -/
structure Dialogue (S : MeterSocket σ) (answer : Origin → AnswerFrame) (aareCount replyCount : Nat)
    (R : σ → (aarqs gets : Nat) → (queue : List Origin) → Prop) : Prop where
  read_ok : ∀ {s s' aarqs gets queue raw}, R s aarqs gets queue →
    readFrameFromTransport S s = (.ok raw, s') →
    ∃ origin rest, queue = origin :: rest ∧ raw = (answer origin).raw ∧ R s' aarqs gets rest
  read_error : ∀ {s s' aarqs gets queue e}, R s aarqs gets queue →
    readFrameFromTransport S s = (.error e, s') → R s' aarqs gets queue
  send_aarq : ∀ {s s' aarqs gets queue data}, requestOf data = some .aarq → aarqs < aareCount →
    R s aarqs gets queue → send S data s = (.ok (), s') →
    R s' (aarqs + 1) gets (queue ++ [.aarq aarqs])
  send_get : ∀ {s s' aarqs gets queue data}, requestOf data = some .get → gets < replyCount →
    R s aarqs gets queue → send S data s = (.ok (), s') →
    R s' aarqs (gets + 1) (queue ++ [.get gets])
  send_other : ∀ {s s' aarqs gets queue data}, requestOf data = none →
    R s aarqs gets queue → send S data s = (.ok (), s') → R s' aarqs gets queue
  deadline : ∀ {s aarqs gets queue}, ∀ ops ∈ S.deadline, ∀ d, R s aarqs gets queue →
    R (ops.set d s) aarqs gets queue

section Laws

variable {S : MeterSocket σ} {answer : Origin → AnswerFrame} {aareCount replyCount : Nat}
  {R : σ → Nat → Nat → List Origin → Prop} {s s' : σ} {aarqs gets : Nat} {queue : List Origin}

/-- The I-frame that is received is the head of the queue. -/
theorem Dialogue.recv_ok (hd : Dialogue S answer aareCount replyCount R) {frame : HdlcFrame}
    (hR : R s aarqs gets queue) (h : recvIFrame S s = (.ok frame, s')) :
    ∃ origin rest, queue = origin :: rest ∧ frame = (answer origin).frame ∧
      R s' aarqs gets rest := by
  have h : recvIFrameLoop S (19 + 1) s = (.ok frame, s') := h
  rw [recvIFrameLoop] at h
  obtain ⟨raw, s₁, hread, h⟩ := bind_eq_ok.mp h
  obtain ⟨origin, rest, hqueue, hraw, hR⟩ := hd.read_ok hR hread
  rw [hraw, (answer origin).sent.decode, lift_ok_bind_run, if_pos (answer origin).informative] at h
  cases h
  exact ⟨origin, rest, hqueue, rfl, hR⟩

/-- When no I-frame is received the queue is as it was. -/
theorem Dialogue.recv_error (hd : Dialogue S answer aareCount replyCount R) {e : PyExc}
    (hR : R s aarqs gets queue) (h : recvIFrame S s = (.error e, s')) : R s' aarqs gets queue := by
  have h : recvIFrameLoop S (19 + 1) s = (.error e, s') := h
  rw [recvIFrameLoop] at h
  rcases bind_eq_error.mp h with hread | ⟨raw, s₁, hread, h⟩
  · exact hd.read_error hR hread
  · obtain ⟨origin, rest, _, hraw, _⟩ := hd.read_ok hR hread
    rw [hraw, (answer origin).sent.decode, lift_ok_bind_run,
      if_pos (answer origin).informative] at h
    cases h

theorem Dialogue.setDeadline (hd : Dialogue S answer aareCount replyCount R) {d : Option ℚ}
    (hR : R s aarqs gets queue) (h : setDeadline S d s = (.ok (), s')) : R s' aarqs gets queue := by
  unfold Gateway.setDeadline at h
  cases hops : S.deadline with
  | none =>
    rw [hops] at h
    cases h
    exact hR
  | some ops =>
    rw [hops] at h
    cases h
    exact hd.deadline ops (by rw [hops]; rfl) d hR

end Laws

/-! ## The answering wire -/

/-- The kinds of answers in the stock of the wire. -/
def Request.kind : Request → Nat
  | .aarq => 0
  | .get => 1

def requestKind (data : Bytes) : Option Nat := (requestOf data).map Request.kind

/-- A plain socket to a meter that answers from its stock. -/
def answering : MeterSocket Wire := .plain (wire requestKind)

theorem send_request {data : Bytes} {w : Wire} {request : Request} {d : ℚ} {ev : RxEvent}
    {rest : List (Nat × ℚ × RxEvent)} (h : requestOf data = some request)
    (htake : Wire.takeAnswer request.kind w.answers = some ((d, ev), rest)) :
    send answering data w = (.ok (), { w with
      sent := w.sent ++ [data], incoming := w.incoming ++ [(w.now + d, ev)], answers := rest }) := by
  have hkind : requestKind data = some request.kind := by
    rw [requestKind, h]
    rfl
  exact send_ok (S := answering) (Wire.sendall_some hkind htake)

theorem send_noRequest {data : Bytes} {w : Wire} (h : requestOf data = none) :
    send answering data w = (.ok (), { w with sent := w.sent ++ [data] }) := by
  have hkind : requestKind data = none := by
    rw [requestKind, h]
    rfl
  exact send_ok (S := answering) (Wire.sendall_none hkind)

/-- The whole frame in one piece. -/
def AnswerFrame.event (a : AnswerFrame) : RxEvent := .data flag a.raw.tail

/-- An answer of the meter with physical address 1. -/
def meterAnswer (apdu : Bytes) (h : apdu.length ≤ 2000) : AnswerFrame where
  frame := meterReply apdu
  raw := meterFrame apdu
  sent := meterFrame_sent h
  informative := meterReply_control apdu

instance : Inhabited AnswerFrame := ⟨meterAnswer [] (Nat.zero_le _)⟩

/-- What the meter will answer to the AARQs and to the GETs, each answer with its delay. -/
structure Stock where
  aares : List (ℚ × AnswerFrame)
  replies : List (ℚ × AnswerFrame)

namespace Stock

/-- Answers as the wire keeps them. -/
def ofKind (request : Request) (answers : List (ℚ × AnswerFrame)) : List (Nat × ℚ × RxEvent) :=
  answers.map fun p => (request.kind, p.1, p.2.event)

def answer (stock : Stock) : Origin → AnswerFrame
  | .aarq k => (stock.aares[k]?.map Prod.snd).getD default
  | .get k => (stock.replies[k]?.map Prod.snd).getD default

/-- The state of the wire: the answers not yet called up are in the stock, the others are on the
    schedule in the order of their requests, at whatever times. -/
def Delivering (stock : Stock) (w : Wire) (aarqs gets : Nat) (queue : List Origin) : Prop :=
  w.answers = ofKind .aarq (stock.aares.drop aarqs) ++ ofKind .get (stock.replies.drop gets) ∧
  w.incoming.map Prod.snd = queue.map fun origin => (stock.answer origin).event

/-- Before the first request. -/
def start (stock : Stock) (timeout : ℚ) : Wire :=
  { timeout := timeout, answers := ofKind .aarq stock.aares ++ ofKind .get stock.replies }

theorem start_delivering (stock : Stock) (timeout : ℚ) :
    stock.Delivering (stock.start timeout) 0 0 [] := ⟨rfl, rfl⟩

theorem ofKind_cons {request : Request} {answers : List (ℚ × AnswerFrame)} {k : Nat}
    (h : k < answers.length) :
    ofKind request (answers.drop k) =
      (request.kind, answers[k].1, answers[k].2.event) :: ofKind request (answers.drop (k + 1)) := by
  rw [List.drop_eq_getElem_cons h]
  rfl

theorem answer_aarq {stock : Stock} {k : Nat} (h : k < stock.aares.length) :
    stock.answer (.aarq k) = stock.aares[k].2 := by
  rw [answer, List.getElem?_eq_getElem h]
  rfl

theorem answer_get {stock : Stock} {k : Nat} (h : k < stock.replies.length) :
    stock.answer (.get k) = stock.replies[k].2 := by
  rw [answer, List.getElem?_eq_getElem h]
  rfl

/-- An AARQ calls up the next AARE in stock, and leaves the answers to the other requests. -/
theorem takeAnswer_aarq (stock : Stock) {aarqs : Nat} (gets : Nat)
    (h : aarqs < stock.aares.length) :
    Wire.takeAnswer Request.aarq.kind (ofKind .aarq (stock.aares.drop aarqs) ++
        ofKind .get (stock.replies.drop gets)) =
      some ((stock.aares[aarqs].1, stock.aares[aarqs].2.event),
        ofKind .aarq (stock.aares.drop (aarqs + 1)) ++
          ofKind .get (stock.replies.drop gets)) := by
  rw [ofKind_cons h, List.cons_append, Wire.takeAnswer, if_pos rfl]

/-- A GET calls up the next reply, whatever AAREs are left. -/
theorem takeAnswer_get (stock : Stock) (aarqs : Nat) {gets : Nat}
    (h : gets < stock.replies.length) :
    Wire.takeAnswer Request.get.kind (ofKind .aarq (stock.aares.drop aarqs) ++
        ofKind .get (stock.replies.drop gets)) =
      some ((stock.replies[gets].1, stock.replies[gets].2.event),
        ofKind .aarq (stock.aares.drop aarqs) ++
          ofKind .get (stock.replies.drop (gets + 1))) := by
  have hother : ∀ p ∈ ofKind .aarq (stock.aares.drop aarqs), p.1 ≠ Request.get.kind := by
    intro p hp
    obtain ⟨q, _, rfl⟩ := List.mem_map.mp hp
    show (0 : Nat) ≠ 1
    decide
  rw [Wire.takeAnswer_append _ hother, ofKind_cons h, Wire.takeAnswer, if_pos rfl]
  rfl

end Stock

/-! ### Reading from the wire -/

/-- `bytes` are the rest of the chunk at the head of the schedule, which arrives in time. -/
def HeadOf (answers : List (Nat × ℚ × RxEvent)) (later : List (ℚ × RxEvent)) (w : Wire)
    (bytes : Bytes) : Prop :=
  w.answers = answers ∧ ∃ t, w.incoming = Wire.putBack t bytes later ∧ t ≤ w.now + w.timeout

theorem headOf_feeds (answers : List (Nat × ℚ × RxEvent)) (later : List (ℚ × RxEvent)) :
    Stream.Feeds answering.recv (HeadOf answers later) := by
  rintro n w b bs hn ⟨hanswers, t, hin, ht⟩
  obtain ⟨n, rfl⟩ : ∃ m, n = m + 1 := ⟨n - 1, by omega⟩
  have hrun := Wire.recv_data n hin ht
  refine ⟨n, _, Nat.lt_succ_self n, hrun, hanswers, t, rfl, ?_⟩
  -- the clock moves to the arrival, and only if it lies within the timeout
  show t ≤ max w.now t + w.timeout
  rcases le_total t w.now with hle | hle
  · rw [max_eq_left hle]
    exact ht
  · rw [max_eq_right hle]
    linarith

/-- An answer that arrives in time is read whole. -/
theorem read_inTime {a : AnswerFrame} {t : ℚ} {later : List (ℚ × RxEvent)} {w : Wire}
    (hin : w.incoming = (t, a.event) :: later) (ht : t ≤ w.now + w.timeout) :
    ∃ w', readFrameFromTransport answering w = (.ok a.raw, w') ∧ w'.incoming = later ∧
      w'.answers = w.answers := by
  obtain ⟨format, rest, hraw, hformat, hparts⟩ :=
    readFrame_parts answering a.sent.encoded a.sent.short
  have hhead : HeadOf w.answers later w ([flag] ++ (format ++ rest)) := by
    refine ⟨rfl, t, ?_, ht⟩
    rw [hin, AnswerFrame.event, hraw]
    rfl
  have hfeeds := headOf_feeds w.answers later
  obtain ⟨w₁, hfirst, hhead⟩ := Stream.exactly_feeds recvExactFailed hfeeds hhead
  obtain ⟨w₂, hsecond, hhead⟩ := Stream.exactly_feeds recvExactFailed hfeeds hhead
  have hhead : HeadOf w.answers later w₂ (rest ++ []) := by
    rw [List.append_nil]
    exact hhead
  obtain ⟨w₃, hthird, hanswers, t', hin', _⟩ :=
    Stream.exactly_feeds recvExactFailed hfeeds hhead
  exact ⟨w₃, hparts rfl hfirst hsecond hthird, hin', hanswers⟩

/-- Without an answer in time the read times out, and only the clock moves. -/
theorem read_late {w : Wire} (h : ∀ p ∈ w.incoming.head?, ¬ p.1 ≤ w.now + w.timeout) :
    readFrameFromTransport answering w =
      (.error (recvExactFailed [] (some .timeout)), { w with now := w.now + w.timeout }) := by
  have hrecv : answering.recv 1 w = (.error .timeout, { w with now := w.now + w.timeout }) := by
    show Wire.recv 1 w = _
    unfold Wire.recv
    split
    · rfl
    · rename_i t ev rest hin
      rw [if_neg (h (t, ev) (by rw [hin]; rfl))]
  have hexact : recvExact answering 1 w = _ := Stream.exactly_error (by decide) hrecv
  have hreset : resetFrameSeeking answering w = (.ok (), w) := rfl
  rw [readFrameFromTransport, bind_ok hreset, bind_error hexact]

/-- The plain socket to a meter that answers from a stock is a dialogue, whatever the delays. -/
theorem answering_dialogue (stock : Stock) :
    Dialogue answering stock.answer stock.aares.length stock.replies.length stock.Delivering := by
  have hread : ∀ {w : Wire} {aarqs gets : Nat} {queue : List Origin},
      stock.Delivering w aarqs gets queue →
      (∃ origin rest w', queue = origin :: rest ∧
        readFrameFromTransport answering w = (.ok (stock.answer origin).raw, w') ∧
        stock.Delivering w' aarqs gets rest) ∨
      (∃ e w', readFrameFromTransport answering w = (.error e, w') ∧
        stock.Delivering w' aarqs gets queue) := by
    rintro w aarqs gets queue ⟨hanswers, hin⟩
    by_cases hlate : ∀ p ∈ w.incoming.head?, ¬ p.1 ≤ w.now + w.timeout
    · exact .inr ⟨_, _, read_late hlate, hanswers, hin⟩
    · push Not at hlate
      obtain ⟨⟨t, ev⟩, hhead, ht⟩ := hlate
      obtain ⟨later, hincoming⟩ := List.head?_eq_some_iff.mp hhead
      cases queue with
      | nil =>
        rw [hincoming] at hin
        cases hin
      | cons origin rest =>
        rw [hincoming, List.map_cons, List.map_cons] at hin
        obtain ⟨hev, hlater⟩ := List.cons.inj hin
        have hev : ev = (stock.answer origin).event := hev
        rw [hev] at hincoming
        obtain ⟨w', hrun, hin', hanswers'⟩ := read_inTime hincoming ht
        exact .inl ⟨origin, rest, w', rfl, hrun, hanswers'.trans hanswers, by rw [hin']; exact hlater⟩
  constructor
  · intro w w' aarqs gets queue raw hR h
    rcases hread hR with ⟨origin, rest, w'', hqueue, hrun, hR'⟩ | ⟨e, w'', hrun, _⟩
    · rw [hrun] at h
      cases h
      exact ⟨origin, rest, hqueue, rfl, hR'⟩
    · rw [hrun] at h
      cases h
  · intro w w' aarqs gets queue e hR h
    rcases hread hR with ⟨origin, rest, w'', _, hrun, _⟩ | ⟨e', w'', hrun, hR'⟩
    · rw [hrun] at h
      cases h
    · rw [hrun] at h
      cases h
      exact hR'
  · rintro w w' aarqs gets queue data hrequest hlt ⟨hanswers, hin⟩ h
    rw [send_request hrequest
      (by rw [hanswers]; exact stock.takeAnswer_aarq gets hlt)] at h
    cases h
    refine ⟨rfl, ?_⟩
    rw [List.map_append, List.map_append, hin, List.map_singleton, List.map_singleton,
      Stock.answer_aarq hlt]
  · rintro w w' aarqs gets queue data hrequest hlt ⟨hanswers, hin⟩ h
    rw [send_request hrequest
      (by rw [hanswers]; exact stock.takeAnswer_get aarqs hlt)] at h
    cases h
    refine ⟨rfl, ?_⟩
    rw [List.map_append, List.map_append, hin, List.map_singleton, List.map_singleton,
      Stock.answer_get hlt]
  · rintro w w' aarqs gets queue data hrequest hR h
    rw [send_noRequest hrequest] at h
    cases h
    exact hR
  · intro w aarqs gets queue ops hops
    cases hops

end RiseSun.Gateway
