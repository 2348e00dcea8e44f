/-
  A stream socket whose other end is a program.

  1. **`Server π`** — the program at the other end: from the bytes it has received and not yet used,
     `step` takes a front part and says what it sends, or waits for more.  Two laws travel with it:
     a step uses at least one byte, and the server sends finitely many bytes (`budget`).

  2. **`Server.settle`** — the server after everything it can do with what it has received.

  3. **`Server.socket`** — the socket of the client.  The server does its steps as soon as bytes
     come in; a receive takes what the server has sent, is told that the connection is closed, or
     times out.

  4. **`Talk`** — the state of a conversation between two messages of the client: the server waits,
     nothing is unread.  `sendall_step` and `recv_feeds` are all a proof about a dialogue needs.
-/
import RiseSun.Lib.Stream

namespace RiseSun

variable {π : Type}

/-- A program at the other end of a connection. -/
structure Server (π : Type) where
  /-- One step on the unread bytes: the new state, what is left unread and what is sent. -/
  step : π → Bytes → Option (π × Bytes × Bytes)
  /-- The server has closed the connection. -/
  closed : π → Bool
  /-- How many bytes the server can still send. -/
  budget : π → Nat
  step_shorter : ∀ {p input p' rest out}, step p input = some (p', rest, out) →
    rest.length < input.length
  step_budget : ∀ {p input p' rest out}, step p input = some (p', rest, out) →
    out.length + budget p' ≤ budget p

/-- A connection: the server, what it has not read, and what the client has not received. -/
structure Line (π : Type) where
  server : π
  unread : Bytes := []
  inbox : Bytes := []
  now : ℚ := 0
  timeout : ℚ := 0

namespace Server

variable (V : Server π)

/-- At most `fuel` steps: the server, what it leaves unread and what it has sent. -/
def settle : (fuel : Nat) → π → Bytes → π × Bytes × Bytes
  | 0, p, input => (p, input, [])
  | fuel + 1, p, input =>
    match V.step p input with
    | none => (p, input, [])
    | some (p', rest, out) =>
      let (p'', rest', out') := settle fuel p' rest
      (p'', rest', out ++ out')

/-- Without unread bytes the server makes no step. -/
theorem step_nil (p : π) : V.step p [] = none := by
  rcases h : V.step p [] with _ | ⟨p', rest, out⟩
  · rfl
  · exact absurd (V.step_shorter h) (Nat.not_lt_zero _)

theorem settle_nil (fuel : Nat) (p : π) : V.settle fuel p [] = (p, [], []) := by
  cases fuel with
  | zero => rfl
  | succ fuel => rw [settle, V.step_nil]

/-- A message that is used up in one step. -/
theorem settle_step {p p' : π} {input out : Bytes} (h : V.step p input = some (p', [], out))
    (fuel : Nat) : V.settle (fuel + 1) p input = (p', [], out) := by
  rw [settle, h]
  show ((V.settle fuel p' []).1, (V.settle fuel p' []).2.1, out ++ (V.settle fuel p' []).2.2) = _
  rw [settle_nil, List.append_nil]

/-- What is sent is taken off the budget. -/
theorem settle_budget : ∀ (fuel : Nat) (p : π) (input : Bytes),
    (V.settle fuel p input).2.2.length + V.budget (V.settle fuel p input).1 ≤ V.budget p := by
  intro fuel
  induction fuel with
  | zero =>
    intro p input
    exact Nat.le_of_eq (Nat.zero_add _)
  | succ fuel ih =>
    intro p input
    rw [settle]
    rcases h : V.step p input with _ | ⟨p', rest, out⟩
    · exact Nat.le_of_eq (Nat.zero_add _)
    · have hstep := V.step_budget h
      have hrest := ih p' rest
      show (out ++ (V.settle fuel p' rest).2.2).length + V.budget (V.settle fuel p' rest).1 ≤ _
      rw [List.length_append]
      omega

/-! ## The socket -/

/-- A receive: what the server has sent, the end of the stream, or a timeout. -/
def recv (n : Nat) : Proc SocketError (Line π) Bytes := fun l =>
  match l.inbox with
  | [] =>
    if V.closed l.server then (.ok [], l)
    else (.error .timeout, { l with now := l.now + l.timeout })
  | b :: bs => (.ok ((b :: bs).take n), { l with inbox := (b :: bs).drop n })

/-- What is sent reaches the server at once; a server that has closed the connection reads no
    more. -/
def sendall (bs : Bytes) : Proc SocketError (Line π) Unit := fun l =>
  if V.closed l.server then (.ok (), l)
  else
    let input := l.unread ++ bs
    let (p, rest, out) := V.settle input.length l.server input
    (.ok (), { l with server := p, unread := rest, inbox := l.inbox ++ out })

theorem recv_le {n : Nat} {l l' : Line π} {bs : Bytes} (h : V.recv n l = (.ok bs, l')) :
    bs.length ≤ n := by
  unfold recv at h
  split at h
  · split at h
    · cases h
      exact Nat.zero_le n
    · cases h
  · cases h
    exact List.length_take_le _ _

/-- The bytes that can still reach the client. -/
def pending (l : Line π) : Nat := l.inbox.length + V.budget l.server

theorem recv_pending (n : Nat) : Proc.Spends V.pending List.length (V.recv n) := by
  intro l
  have hinbox : ∀ b bs, l.inbox = b :: bs →
      ((b :: bs).take n).length + ((b :: bs).drop n).length = l.inbox.length := by
    intro b bs h
    rw [h, ← List.length_append, List.take_append_drop]
  unfold recv
  split
  · split
    · refine ⟨Nat.le_refl _, fun bs hbs => ?_⟩
      cases hbs
      exact Nat.le_of_eq (Nat.zero_add _)
    · exact ⟨Nat.le_refl _, fun bs hbs => by cases hbs⟩
  · rename_i b bs h
    have hsum := hinbox b bs h
    refine ⟨?_, fun got hgot => ?_⟩
    · show ((b :: bs).drop n).length + V.budget l.server ≤ l.inbox.length + V.budget l.server
      omega
    · cases hgot
      show ((b :: bs).take n).length + (((b :: bs).drop n).length + V.budget l.server) ≤
        l.inbox.length + V.budget l.server
      omega

theorem sendall_pending (bs : Bytes) : Proc.Spends V.pending (fun _ => 0) (V.sendall bs) := by
  intro l
  have hle : V.pending (V.sendall bs l).2 ≤ V.pending l := by
    unfold sendall
    split
    · exact Nat.le_refl _
    · have hsettle := V.settle_budget (l.unread ++ bs).length l.server (l.unread ++ bs)
      show (l.inbox ++ (V.settle _ l.server (l.unread ++ bs)).2.2).length +
        V.budget (V.settle _ l.server (l.unread ++ bs)).1 ≤ l.inbox.length + V.budget l.server
      rw [List.length_append]
      omega
  refine ⟨hle, fun _ _ => ?_⟩
  rw [Nat.zero_add]
  exact hle

/-- The client's end of the connection. -/
def socket : Socket (Line π) where
  recv := V.recv
  sendall := V.sendall
  settimeout := fun t l => { l with timeout := t }
  time := Line.now
  pending := V.pending
  recv_le := fun _ => V.recv_le
  recv_pending := V.recv_pending
  sendall_pending := V.sendall_pending
  settimeout_pending := fun _ _ => Nat.le_refl _

/-! ## Between two messages -/

/-- The server is in state `p` and waits, `inbox` is on its way to the client. -/
structure Talk (p : π) (l : Line π) (inbox : Bytes) : Prop where
  server : l.server = p
  unread : l.unread = []
  inbox : l.inbox = inbox

/-- A message that the server uses up in one step. -/
theorem sendall_step {p p' : π} {message inbox out : Bytes} {l : Line π}
    (hopen : V.closed p = false) (h : V.step p message = some (p', [], out))
    (hl : Talk p l inbox) :
    ∃ l', V.sendall message l = (.ok (), l') ∧ Talk p' l' (inbox ++ out) := by
  obtain ⟨rfl, hunread, rfl⟩ := hl
  have hlen : ∃ fuel, message.length = fuel + 1 :=
    ⟨message.length - 1, by have := V.step_shorter h; omega⟩
  obtain ⟨fuel, hfuel⟩ := hlen
  have hsettle : V.settle (l.unread ++ message).length l.server (l.unread ++ message) =
      (p', [], out) := by
    rw [hunread, List.nil_append, hfuel]
    exact V.settle_step h fuel
  refine ⟨{ l with server := p', unread := [], inbox := l.inbox ++ out }, ?_, rfl, rfl, rfl⟩
  unfold sendall
  rw [if_neg (by rw [hopen]; exact Bool.false_ne_true)]
  simp only [hsettle]

/-- Receives take the bytes on their way from the front, and nothing else happens. -/
theorem recv_feeds (p : π) : Stream.Feeds V.recv (Talk p) := by
  intro n l b bs hn hl
  obtain ⟨n, rfl⟩ : ∃ m, n = m + 1 := ⟨n - 1, by omega⟩
  refine ⟨n, { l with inbox := bs.drop n }, Nat.lt_succ_self n, ?_, hl.server, hl.unread, rfl⟩
  unfold recv
  rw [hl.inbox]
  rfl

/-- When nothing is on its way and the server has closed the connection, a receive says so. -/
theorem recv_closed {p : π} {l : Line π} (hclosed : V.closed p = true) (hl : Talk p l []) (n : Nat) :
    V.recv n l = (.ok [], l) := by
  unfold recv
  rw [hl.inbox]
  dsimp only
  rw [hl.server, if_pos hclosed]

end Server

end RiseSun
