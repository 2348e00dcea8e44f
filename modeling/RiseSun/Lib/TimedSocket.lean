/-
  Sockets whose operations take a known time.

  A `TimedSocket` is a socket that also shows the timeout in force.  A receive blocks at most its
  timeout, and a timeout that has passed already does not turn the clock back; sending and setting
  the timeout take no time.  Nothing is said about when bytes arrive, so what is proved for every
  `TimedSocket` holds for every schedule of arrivals.

  The concrete socket is one (`timedWire`).
-/
import RiseSun.Lib.Socket

namespace RiseSun

/-- A socket over the state `σ` with a timeout that bounds every receive. -/
structure TimedSocket (σ : Type) extends Socket σ where
  /-- The timeout in force. -/
  timeout : σ → ℚ
  recv_time : ∀ n s, time (recv n s).2 ≤ max (time s) (time s + timeout s)
  sendall_time : ∀ bs s, time (sendall bs s).2 = time s
  settimeout_time : ∀ t s, time (settimeout t s) = time s
  settimeout_timeout : ∀ t s, timeout (settimeout t s) = t

/-- A receive whose timeout is the time left until `d` ends by `d`, or at once. -/
theorem TimedSocket.recv_until {σ : Type} (S : TimedSocket σ) (n : Nat) (s : σ) {d b : ℚ}
    (hd : d ≤ b) (hs : S.time s ≤ b) :
    S.time (S.recv n (S.settimeout (d - S.time s) s)).2 ≤ b := by
  have hrecv := S.recv_time n (S.settimeout (d - S.time s) s)
  rw [S.settimeout_time, S.settimeout_timeout, add_sub_cancel] at hrecv
  exact hrecv.trans (max_le hs hd)

namespace Wire

theorem recv_time (n : Nat) (w : Wire) :
    (recv n w).2.now ≤ max w.now (w.now + w.timeout) := by
  unfold recv
  rcases w.incoming with _ | ⟨⟨t, ev⟩, rest⟩
  · exact le_max_right _ _
  · dsimp only
    split
    · rename_i ht
      have harrived : max w.now t ≤ max w.now (w.now + w.timeout) := max_le_max_left _ ht
      cases ev with
      | data b bs => exact harrived
      | eof => exact harrived
      | reset => exact harrived
    · exact le_max_right _ _

theorem sendall_time (kind : Bytes → Option Nat) (bs : Bytes) (w : Wire) :
    (sendall kind bs w).2.now = w.now := by
  unfold sendall
  rcases (kind bs).bind fun k => takeAnswer k w.answers with _ | ⟨⟨d, ev⟩, rest⟩
  · rfl
  · rfl

end Wire

/-- The concrete socket with its timeout. -/
def timedWire (kind : Bytes → Option Nat) : TimedSocket Wire where
  toSocket := wire kind
  timeout := Wire.timeout
  recv_time := Wire.recv_time
  sendall_time := Wire.sendall_time kind
  settimeout_time := fun _ _ => rfl
  settimeout_timeout := fun _ _ => rfl

end RiseSun
