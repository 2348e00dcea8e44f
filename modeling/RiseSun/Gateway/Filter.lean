/-
  The call-home byte filter (`callhome.DlT645FilteringSocket`).

  Between two HDLC frames a call-home meter sends noise: keep-alive zero bytes and DL/T645 frames
  `68 addr[6] 68 C L data[L] CS 16`.  While the filter is SEEKING it drops them, answering three
  zeros in a row, and every DL/T645 frame, with `00 00 00`; from the first other byte on it passes
  everything through until seeking is switched on again.

  The filter is a socket over any socket `S` (`filtering`), so it carries the socket laws: it never
  delivers more than it is asked for, and never more than the socket inside has left.  Its seeking
  loop ends when the peer has no bytes left, so the fuel `S.pending + 1` is never used up
  (`seekFrame_fuel`).
-/
import RiseSun.Gateway.Transport

namespace RiseSun.Gateway

open Proc

/-- The state of the filter over a socket in state `σ`. -/
structure DlT645FilteringSocket (σ : Type) where
  sock : σ
  seeking : Bool := true
  deadline : Option ℚ := none
  deriving DecidableEq

namespace DlT645FilteringSocket

variable {σ α : Type}

def dlt645Start : UInt8 := 0x68

/-- An operation of the socket inside. -/
def inner (x : Proc SocketError σ α) : Proc SocketError (DlT645FilteringSocket σ) α := fun f =>
  ((x f.sock).1, { f with sock := (x f.sock).2 })

/-- `_raw_recv`: under a deadline the time left is set again before every receive. -/
def rawRecv (S : Socket σ) (n : Nat) : Proc SocketError (DlT645FilteringSocket σ) Bytes := do
  match ← gets deadline with
  | some deadline => do
    let remaining := deadline - (← gets fun f => S.time f.sock)
    if remaining ≤ 0 then raise .timeout
    else do
      modify fun f => { f with sock := S.settimeout remaining f.sock }
      inner (S.recv n)
  | none => inner (S.recv n)

/-- What `_raw_recv_exact` raises: a `ConnectionError` when the peer has closed. -/
def rawRecvFailed (_ : Bytes) : Option SocketError → SocketError
  | none => .connection
  | some e => e

def rawRecvExact (S : Socket σ) (n : Nat) : Proc SocketError (DlT645FilteringSocket σ) Bytes :=
  Stream.exactly (rawRecv S) rawRecvFailed n

/-- `_discard_one_dlt645_frame`: the leading 0x68 is consumed already. -/
def discardOneDlt645Frame (S : Socket σ) : Proc SocketError (DlT645FilteringSocket σ) Bytes := do
  let headerRest ← rawRecvExact S 8
  let length ← rawRecvExact S 1
  let _ ← rawRecvExact S ((length.headD 0).toNat + 2)
  pure (headerRest.take 6)

def heartbeat : Bytes := [0, 0, 0]

/-- `_echo_heartbeat`: an `OSError` of the echo is ignored. -/
def echoHeartbeat (S : Socket σ) : Proc SocketError (DlT645FilteringSocket σ) Unit := do
  let _ ← attempt (inner (S.sendall heartbeat))
  pure ()

/-- The seeking loop of `recv`; `zeros` is `consecutive_zero_bytes`. -/
def seekFrame (S : Socket σ) : (fuel zeros : Nat) → Proc SocketError (DlT645FilteringSocket σ) Bytes
  | 0, _ => raise .os
  | fuel + 1, zeros => do
    match ← rawRecv S 1 with
    | [] => pure []
    | first :: more =>
      if first = 0 then
        if zeros + 1 = 3 then do
          echoHeartbeat S
          seekFrame S fuel 0
        else seekFrame S fuel (zeros + 1)
      else if first = dlt645Start then do
        let _ ← discardOneDlt645Frame S
        echoHeartbeat S
        seekFrame S fuel 0
      else do
        modify fun f => { f with seeking := false }
        pure (first :: more)

/-- `recv`. -/
def recv (S : Socket σ) (bufsize : Nat) : Proc SocketError (DlT645FilteringSocket σ) Bytes := do
  if ← gets seeking then do
    let fuel ← gets fun f => S.pending f.sock + 1
    seekFrame S fuel 0
  else rawRecv S bufsize

/-- `settimeout` has no effect while a deadline is set. -/
def settimeout (S : Socket σ) (timeout : ℚ) (f : DlT645FilteringSocket σ) :
    DlT645FilteringSocket σ :=
  match f.deadline with
  | some _ => f
  | none => { f with sock := S.settimeout timeout f.sock }

/-! ## The socket laws -/

/-- What is left to deliver is what the socket inside has left. -/
def pending (S : Socket σ) (f : DlT645FilteringSocket σ) : Nat := S.pending f.sock

theorem inner_spends {S : Socket σ} {x : Proc SocketError σ α} {c : α → Nat}
    (h : Spends S.pending c x) : Spends (pending S) c (inner x) := by
  intro f
  exact h f.sock

theorem rawRecv_spends (S : Socket σ) (n : Nat) :
    Spends (pending S) List.length (rawRecv S n) := by
  refine Spends.bind (Spends.gets _ _) ?_
  intro d
  cases d with
  | none => exact inner_spends (S.recv_pending n)
  | some deadline =>
    refine Spends.bind (Spends.gets _ _) ?_
    intro now
    dsimp only
    split
    · exact Spends.raise _ _ _
    · refine Spends.bind (Spends.modify ?_) (fun _ => inner_spends (S.recv_pending n))
      intro f
      exact S.settimeout_pending _ _

theorem discard_spends (S : Socket σ) :
    Spends (pending S) (fun _ => 0) (discardOneDlt645Frame S) := by
  have hexact : ∀ n, Spends (pending S) (fun _ => 0) (rawRecvExact S n) := fun n =>
    Spends.mono (Stream.exactly_spends rawRecvFailed (rawRecv_spends S) n) (fun _ => Nat.zero_le _)
  refine Spends.bind (hexact 8) (fun _ => ?_)
  refine Spends.bind (hexact 1) (fun _ => ?_)
  refine Spends.bind (hexact _) (fun _ => ?_)
  exact Spends.pure _ rfl

theorem echo_spends (S : Socket σ) : Spends (pending S) (fun _ => 0) (echoHeartbeat S) := by
  refine Spends.bind (Spends.attempt (inner_spends (S.sendall_pending heartbeat))) (fun _ => ?_)
  exact Spends.pure _ (Nat.zero_sub _)

theorem seekFrame_spends (S : Socket σ) : ∀ fuel zeros,
    Spends (pending S) List.length (seekFrame S fuel zeros) := by
  intro fuel
  induction fuel with
  | zero =>
    intro zeros
    exact Spends.raise _ _ _
  | succ fuel ih =>
    intro zeros
    have hnext : ∀ zeros k, Spends (pending S) (fun b : Bytes => b.length - k)
        (seekFrame S fuel zeros) := fun zeros k => Spends.mono (ih zeros) (fun _ => Nat.sub_le _ _)
    refine Spends.bind (rawRecv_spends S 1) (fun bs => ?_)
    cases bs with
    | nil => exact Spends.pure _ rfl
    | cons first more =>
      dsimp only
      split
      · split
        · exact Spends.bind (echo_spends S) (fun _ => hnext _ _)
        · exact hnext _ _
      · split
        · refine Spends.bind (discard_spends S) (fun _ => ?_)
          exact Spends.bind (echo_spends S) (fun _ => hnext _ _)
        · refine Spends.bind (Spends.modify (fun _ => Nat.le_refl _)) (fun _ => ?_)
          exact Spends.pure _ (by simp)

/-- The rounds of the seeking loop are bounded by what the peer can still deliver. -/
theorem seekFrame_fuel (S : Socket σ) : ∀ (fuel fuel' zeros : Nat) (f : DlT645FilteringSocket σ),
    pending S f < fuel → pending S f < fuel' → seekFrame S fuel zeros f = seekFrame S fuel' zeros f := by
  intro fuel
  induction fuel with
  | zero =>
    intro fuel' zeros f h
    omega
  | succ fuel ih =>
    intro fuel' zeros f h h'
    cases fuel' with
    | zero => omega
    | succ fuel' =>
      rw [seekFrame, seekFrame]
      apply bind_congr_run
      intro bs f1 hrecv
      have hspent := (rawRecv_spends S 1 f).2 bs (by rw [hrecv])
      rw [hrecv] at hspent
      cases bs with
      | nil => rfl
      | cons first more =>
        rw [List.length_cons] at hspent
        have hless : pending S f1 < pending S f := by
          have hspent' : more.length + 1 + pending S f1 ≤ pending S f := hspent
          omega
        -- the echo and the discarded frame leave no more than the byte just read left
        have hecho : ∀ g : DlT645FilteringSocket σ, pending S g ≤ pending S f1 →
            (echoHeartbeat S >>= fun _ => seekFrame S fuel 0) g =
              (echoHeartbeat S >>= fun _ => seekFrame S fuel' 0) g := by
          intro g hg
          apply bind_congr_run
          intro _ g' hrun
          have hle := (echo_spends S g).1
          rw [hrun] at hle
          have hle' : pending S g' ≤ pending S g := hle
          exact ih fuel' 0 g' (by omega) (by omega)
        dsimp only
        split
        · split
          · exact hecho f1 (Nat.le_refl _)
          · exact ih fuel' _ f1 (by omega) (by omega)
        · split
          · apply bind_congr_run
            intro _ g hrun
            have hle := (discard_spends S f1).1
            rw [hrun] at hle
            exact hecho g hle
          · rfl

theorem rawRecv_le {S : Socket σ} {n : Nat} {f f' : DlT645FilteringSocket σ} {bs : Bytes}
    (hn : 0 < n) (h : rawRecv S n f = (.ok bs, f')) : bs.length ≤ n := by
  have hinner : ∀ g, inner (S.recv n) g = (.ok bs, f') → bs.length ≤ n := by
    intro g hg
    have h1 : (S.recv n g.sock).1 = .ok bs := congrArg Prod.fst hg
    exact S.recv_le hn (run_eq h1)
  unfold rawRecv at h
  rw [gets_bind_run] at h
  cases hd : f.deadline with
  | none =>
    rw [hd] at h
    exact hinner _ h
  | some d =>
    rw [hd] at h
    dsimp only at h
    rw [gets_bind_run] at h
    split at h
    · cases h
    · exact hinner _ h

/-- While seeking, at most one byte comes through. -/
theorem seekFrame_le (S : Socket σ) : ∀ (fuel zeros : Nat) (f f' : DlT645FilteringSocket σ)
    (bs : Bytes), seekFrame S fuel zeros f = (.ok bs, f') → bs.length ≤ 1 := by
  intro fuel
  induction fuel with
  | zero =>
    intro zeros f f' bs h
    cases h
  | succ fuel ih =>
    intro zeros f f' bs h
    rw [seekFrame] at h
    obtain ⟨got, f1, hrecv, h⟩ := bind_eq_ok.mp h
    cases got with
    | nil =>
      cases h
      exact Nat.zero_le _
    | cons first more =>
      dsimp only at h
      split at h
      · split at h
        · obtain ⟨_, f2, _, h⟩ := bind_eq_ok.mp h
          exact ih _ _ _ _ h
        · exact ih _ _ _ _ h
      · split at h
        · obtain ⟨_, f2, _, h⟩ := bind_eq_ok.mp h
          obtain ⟨_, f3, _, h⟩ := bind_eq_ok.mp h
          exact ih _ _ _ _ h
        · cases h
          exact rawRecv_le (by omega) hrecv

end DlT645FilteringSocket

open DlT645FilteringSocket in
/-- The filter is a socket again, with both optional abilities. -/
def filtering {σ : Type} (S : Socket σ) : MeterSocket (DlT645FilteringSocket σ) where
  recv := recv S
  sendall := fun data => inner (S.sendall data)
  settimeout := settimeout S
  time := fun f => S.time f.sock
  pending := pending S
  resetSeeking := some fun f => { f with seeking := true }
  deadline := some { get := deadline, set := fun d f => { f with deadline := d } }
  recv_le := by
    intro n f bs f' hn h
    unfold recv at h
    rw [gets_bind_run] at h
    split at h
    · have := seekFrame_le S _ _ _ _ _ h
      omega
    · exact rawRecv_le hn h
  recv_pending := by
    intro n
    refine Spends.bind (Spends.gets _ _) (fun seeking => ?_)
    split
    · refine Spends.bind (Spends.gets _ _) (fun fuel => ?_)
      exact seekFrame_spends S fuel 0
    · exact rawRecv_spends S n
  sendall_pending := fun data => inner_spends (S.sendall_pending data)
  settimeout_pending := by
    intro t f
    unfold settimeout
    split
    · exact Nat.le_refl _
    · exact S.settimeout_pending t f.sock
  resetSeeking_pending := by
    intro reset h f
    cases h
    exact Nat.le_refl _
  deadline_pending := by
    intro ops h d f
    cases h
    exact Nat.le_refl _

end RiseSun.Gateway
