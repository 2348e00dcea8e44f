/-
  Stream sockets as the client of a blocking socket API sees them, with an explicit clock.

  1. **`Socket σ`** — the operations `recv`, `sendall`, `settimeout` and the clock, over ANY state
     `σ`.  Two laws travel with the operations as fields:
       * a `recv n` with `0 < n` never returns more than `n` bytes (`recv_le`);
       * the peer has finitely many bytes left, `pending s`, and every byte received is one less
         (`recv_pending`, `sendall_pending`, `settimeout_pending`).
     The second law is what lets a client's reading loops be total functions: a loop that takes at
     least one byte a round ends within `pending s` rounds.
     `recv` returning the empty string means that the peer has closed the connection.

  2. **`Wire`** — the concrete socket: what the peer sends is a schedule of events, each with its
     arrival time, plus a stock of answers: a request of the client puts the first answer of its kind
     on the schedule.  A `recv` blocks at most its timeout; all else takes no time.  How the stream
     is cut into chunks is part of the schedule.
-/
import Mathlib.Algebra.Order.Field.Rat
import Mathlib.Data.List.Basic
import Mathlib.Tactic.Linarith
import RiseSun.Lib.Bytes
import RiseSun.Lib.Proc

namespace RiseSun

/-- What a socket operation raises: a timeout, a broken connection, any other OS error. -/
inductive SocketError
  | timeout
  | connection
  | os
  deriving DecidableEq, Repr

/-- A stream socket over the state `σ`, with a finite number of bytes left to deliver. -/
structure Socket (σ : Type) where
  recv : Nat → Proc SocketError σ Bytes
  sendall : Bytes → Proc SocketError σ Unit
  settimeout : ℚ → σ → σ
  time : σ → ℚ
  /-- How many bytes the peer can still deliver. -/
  pending : σ → Nat
  recv_le : ∀ {n s bs s'}, 0 < n → recv n s = (.ok bs, s') → bs.length ≤ n
  recv_pending : ∀ n, Proc.Spends pending List.length (recv n)
  sendall_pending : ∀ bs, Proc.Spends pending (fun _ => 0) (sendall bs)
  settimeout_pending : ∀ t s, pending (settimeout t s) ≤ pending s

/-! ## The concrete socket -/

/-- What happens next on the receiving side.  A chunk is non-empty by construction. -/
inductive RxEvent
  | data (head : UInt8) (tail : Bytes)
  | eof
  | reset
  deriving DecidableEq, Repr

/-- The bytes an event delivers. -/
def RxEvent.bytes : RxEvent → Bytes
  | .data b bs => b :: bs
  | .eof => []
  | .reset => []

/-- A chunk of a byte string as events: nothing for the empty string. -/
def RxEvent.ofBytes : Bytes → List RxEvent
  | [] => []
  | b :: bs => [.data b bs]

/-- The state of the concrete socket: the clock, the timeout in force, the schedule of arrivals,
    the answers not yet asked for (each with the kind of its request and its delay) and everything
    sent so far. -/
structure Wire where
  now : ℚ := 0
  timeout : ℚ := 0
  incoming : List (ℚ × RxEvent) := []
  answers : List (Nat × ℚ × RxEvent) := []
  sent : List Bytes := []
  deriving DecidableEq

namespace Wire

/-- The bytes still to come, in order, on the schedule. -/
def stream (w : Wire) : Bytes := (w.incoming.map fun p => p.2.bytes).flatten

/-- The bytes still to come, counting the answers not yet asked for. -/
def pending (w : Wire) : Nat :=
  (w.incoming.map fun p => p.2.bytes.length).sum + (w.answers.map fun p => p.2.2.bytes.length).sum

/-- What is left of a chunk after its front has been taken goes back to the head of the schedule. -/
def putBack (t : ℚ) (rest : Bytes) (incoming : List (ℚ × RxEvent)) : List (ℚ × RxEvent) :=
  (RxEvent.ofBytes rest).map (fun ev => (t, ev)) ++ incoming

/-- A blocking `recv(n)`: the head of the schedule if it arrives within the timeout. -/
def recv (n : Nat) : Proc SocketError Wire Bytes := fun w =>
  match w.incoming with
  | [] => (.error .timeout, { w with now := w.now + w.timeout })
  | (t, ev) :: rest =>
    if t ≤ w.now + w.timeout then
      match ev with
      | .data b bs =>
        (.ok ((b :: bs).take n),
          { w with now := max w.now t, incoming := putBack t ((b :: bs).drop n) rest })
      | .eof => (.ok [], { w with now := max w.now t })
      | .reset => (.error .connection, { w with now := max w.now t })
    else (.error .timeout, { w with now := w.now + w.timeout })

/-- The first answer to a request of kind `k`, and what is left of the stock. -/
def takeAnswer (k : Nat) : List (Nat × ℚ × RxEvent) →
    Option ((ℚ × RxEvent) × List (Nat × ℚ × RxEvent))
  | [] => none
  | (k', answer) :: rest =>
    if k' = k then some (answer, rest)
    else (takeAnswer k rest).map fun p => (p.1, (k', answer) :: p.2)

/-- `sendall`: the bytes are logged, and a request calls up the next answer of its kind. -/
def sendall (kind : Bytes → Option Nat) (bs : Bytes) : Proc SocketError Wire Unit := fun w =>
  match (kind bs).bind fun k => takeAnswer k w.answers with
  | none => (.ok (), { w with sent := w.sent ++ [bs] })
  | some ((d, ev), rest) =>
    (.ok (), { w with
      sent := w.sent ++ [bs], incoming := w.incoming ++ [(w.now + d, ev)], answers := rest })

def settimeout (t : ℚ) (w : Wire) : Wire := { w with timeout := t }

/-! ## The laws -/

theorem putBack_length (t : ℚ) (rest : Bytes) (incoming : List (ℚ × RxEvent)) :
    ((putBack t rest incoming).map fun p => p.2.bytes.length).sum
      = rest.length + (incoming.map fun p => p.2.bytes.length).sum := by
  cases rest with
  | nil => simp [putBack, RxEvent.ofBytes]
  | cons b bs => simp [putBack, RxEvent.ofBytes, RxEvent.bytes]

theorem putBack_bytes (t : ℚ) (rest : Bytes) (incoming : List (ℚ × RxEvent)) :
    ((putBack t rest incoming).map fun p => p.2.bytes).flatten
      = rest ++ (incoming.map fun p => p.2.bytes).flatten := by
  cases rest with
  | nil => simp [putBack, RxEvent.ofBytes]
  | cons b bs => simp [putBack, RxEvent.ofBytes, RxEvent.bytes]

/-- What one `recv` does, branch by branch: it returns data, or nothing at the end of the stream, or
    it fails. -/
theorem recv_cases (n : Nat) (w : Wire) :
    (∃ t b bs rest, w.incoming = (t, .data b bs) :: rest ∧ t ≤ w.now + w.timeout ∧
      recv n w = (.ok ((b :: bs).take n),
        { w with now := max w.now t, incoming := putBack t ((b :: bs).drop n) rest })) ∨
    (∃ t rest, w.incoming = (t, .eof) :: rest ∧ recv n w = (.ok [], { w with now := max w.now t })) ∨
    (∃ e now', recv n w = (.error e, { w with now := now' })) := by
  rcases h : w.incoming with _ | ⟨⟨t, ev⟩, rest⟩
  · exact Or.inr (Or.inr ⟨.timeout, w.now + w.timeout, by simp only [recv, h]⟩)
  · by_cases ht : t ≤ w.now + w.timeout
    · cases ev with
      | data b bs => exact Or.inl ⟨t, b, bs, rest, rfl, ht, by simp only [recv, h, if_pos ht]⟩
      | eof => exact Or.inr (Or.inl ⟨t, rest, rfl, by simp only [recv, h, if_pos ht]⟩)
      | reset =>
        exact Or.inr (Or.inr ⟨.connection, max w.now t, by simp only [recv, h, if_pos ht]⟩)
    · exact Or.inr (Or.inr ⟨.timeout, w.now + w.timeout, by simp only [recv, h, if_neg ht]⟩)

/-- A receive of the wire takes the front of the first chunk and keeps the rest on the schedule. -/
theorem recv_data {w : Wire} {t : ℚ} {b : UInt8} {cs : Bytes} {later : List (ℚ × RxEvent)}
    (n : Nat) (hin : w.incoming = (t, .data b cs) :: later) (ht : t ≤ w.now + w.timeout) :
    recv (n + 1) w = (.ok (b :: cs.take n),
      { w with now := max w.now t, incoming := putBack t (cs.drop n) later }) := by
  simp only [Wire.recv, hin, if_pos ht, List.take_succ_cons, List.drop_succ_cons]

theorem recv_le {n : Nat} {w w' : Wire} {bs : Bytes} (h : recv n w = (.ok bs, w')) :
    bs.length ≤ n := by
  rcases recv_cases n w with ⟨t, b, tl, rest, -, -, he⟩ | ⟨t, rest, -, he⟩ | ⟨e, now', he⟩
  · rw [he] at h
    cases h
    exact List.length_take_le _ _
  · rw [he] at h
    cases h
    exact Nat.zero_le _
  · rw [he] at h
    cases h

theorem recv_pending (n : Nat) : Proc.Spends pending List.length (recv n) := by
  intro w
  rcases recv_cases n w with ⟨t, b, tl, rest, hin, -, he⟩ | ⟨t, rest, hin, he⟩ | ⟨e, now', he⟩
  · rw [he]
    have hput := putBack_length t ((b :: tl).drop n) rest
    have hev : (RxEvent.data b tl).bytes.length = (b :: tl).length := rfl
    have hcut : ((b :: tl).take n).length + ((b :: tl).drop n).length = (b :: tl).length := by
      rw [← List.length_append, List.take_append_drop]
    simp only [pending, hin, List.map_cons, List.sum_cons, hput, hev]
    refine ⟨by omega, fun bs hbs => ?_⟩
    cases hbs
    omega
  · rw [he]
    refine ⟨Nat.le_refl _, fun bs hbs => ?_⟩
    cases hbs
    exact Nat.le_of_eq (Nat.zero_add _)
  · rw [he]
    exact ⟨Nat.le_refl _, fun bs hbs => nomatch hbs⟩

/-- Answers of other kinds are passed over, and stay. -/
theorem takeAnswer_append {k : Nat} (rest : List (Nat × ℚ × RxEvent)) :
    ∀ {front : List (Nat × ℚ × RxEvent)}, (∀ p ∈ front, p.1 ≠ k) →
      takeAnswer k (front ++ rest) = (takeAnswer k rest).map fun p => (p.1, front ++ p.2)
  | [], _ => by simp
  | (k', answer) :: front, h => by
    have hne : k' ≠ k := h (k', answer) (List.mem_cons_self ..)
    have ih := takeAnswer_append rest fun p hp => h p (List.mem_cons_of_mem _ hp)
    rw [List.cons_append, takeAnswer, if_neg hne, ih, Option.map_map]
    rfl

/-- An answer that is taken leaves the stock shorter by its bytes. -/
theorem takeAnswer_length {k : Nat} : ∀ {answers rest : List (Nat × ℚ × RxEvent)} {a : ℚ × RxEvent},
    takeAnswer k answers = some (a, rest) →
      a.2.bytes.length + (rest.map fun p => p.2.2.bytes.length).sum =
        (answers.map fun p => p.2.2.bytes.length).sum := by
  intro answers
  induction answers with
  | nil =>
    intro rest a h
    cases h
  | cons p answers ih =>
    intro rest a h
    unfold takeAnswer at h
    split at h
    · cases h
      rfl
    · obtain ⟨⟨a', rest'⟩, htake, heq⟩ := Option.map_eq_some_iff.mp h
      cases heq
      have hrest := ih htake
      simp only [List.map_cons, List.sum_cons]
      omega

/-- A message that is no request is logged. -/
theorem sendall_none {kind : Bytes → Option Nat} {bs : Bytes} {w : Wire} (h : kind bs = none) :
    sendall kind bs w = (.ok (), { w with sent := w.sent ++ [bs] }) := by
  simp only [sendall, h, Option.bind_none]

/-- A request puts its answer at the end of the schedule. -/
theorem sendall_some {kind : Bytes → Option Nat} {bs : Bytes} {w : Wire} {k : Nat} {d : ℚ}
    {ev : RxEvent} {rest : List (Nat × ℚ × RxEvent)} (h : kind bs = some k)
    (htake : takeAnswer k w.answers = some ((d, ev), rest)) :
    sendall kind bs w = (.ok (), { w with
      sent := w.sent ++ [bs], incoming := w.incoming ++ [(w.now + d, ev)], answers := rest }) := by
  simp only [sendall, h, Option.bind_some, htake]

theorem sendall_pending (kind : Bytes → Option Nat) (bs : Bytes) :
    Proc.Spends pending (fun _ => 0) (sendall kind bs) := by
  intro w
  have hle : (sendall kind bs w).2.pending ≤ w.pending := by
    unfold sendall
    rcases htake : (kind bs).bind fun k => takeAnswer k w.answers with _ | ⟨⟨d, ev⟩, rest⟩
    · exact Nat.le_refl _
    · obtain ⟨k, _, hk⟩ := Option.bind_eq_some_iff.mp htake
      have hlength : ev.bytes.length + _ = _ := takeAnswer_length hk
      simp only [pending, List.map_append, List.map_cons, List.map_nil, List.sum_append,
        List.sum_cons, List.sum_nil]
      omega
  refine ⟨hle, fun _ _ => ?_⟩
  rw [Nat.zero_add]
  exact hle

end Wire

/-- The concrete socket; `kind` says which of the client's messages call up which answers. -/
def wire (kind : Bytes → Option Nat) : Socket Wire where
  recv := Wire.recv
  sendall := Wire.sendall kind
  settimeout := Wire.settimeout
  time := Wire.now
  pending := Wire.pending
  recv_le := fun _ => Wire.recv_le
  recv_pending := Wire.recv_pending
  sendall_pending := Wire.sendall_pending kind
  settimeout_pending := fun _ _ => Nat.le_refl _

end RiseSun
