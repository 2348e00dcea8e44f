/-
  Reading a byte stream that arrives in pieces.

  1. **`exactly`** — the loop behind every "read exactly `n` bytes": ask for what is missing, add
     what came.  What happens when a piece does not come (the peer has closed, or the receive
     raised) is a parameter, because that is where the programs differ.

  2. **`Feeds recv R`** — `R s bytes` says which bytes the state `s` still has to deliver; a receive
     takes SOME non-empty front part of them.  How long a part is left open, so a fact proved for
     every `R` with `Feeds` holds for every way the stream is cut into pieces.

  3. **`exactly_feeds`** — over such a receive, reading `n` bytes returns the first `n` bytes of the
     stream and leaves the rest, whatever the pieces are.
-/
import RiseSun.Lib.Socket

namespace RiseSun.Stream

variable {ε σ : Type}

/-- The rounds of `exactly`: at most `fuel` more, `buf` is what has come so far. -/
def exactlyLoop (recv : Nat → Proc SocketError σ Bytes) (failed : Bytes → Option SocketError → ε) :
    Nat → Nat → Bytes → Proc ε σ Bytes
  | 0, _, buf => pure buf
  | fuel + 1, n, buf =>
    if buf.length < n then do
      match ← Proc.attempt (recv (n - buf.length)) with
      | .error e => Proc.raise (failed buf (some e))
      | .ok [] => Proc.raise (failed buf none)
      | .ok (b :: bs) => exactlyLoop recv failed fuel n (buf ++ b :: bs)
    else pure buf

/-- Read exactly `n` bytes; a round brings at least one byte, so `n` rounds are enough.
    `failed buf none` is raised when the peer has closed after `buf`, `failed buf (some e)` when the
    receive raised `e`. -/
def exactly (recv : Nat → Proc SocketError σ Bytes) (failed : Bytes → Option SocketError → ε)
    (n : Nat) : Proc ε σ Bytes :=
  exactlyLoop recv failed n n []

/-- A receive takes a non-empty front part of the bytes that are to come. -/
def Feeds (recv : Nat → Proc SocketError σ Bytes) (R : σ → Bytes → Prop) : Prop :=
  ∀ (n : Nat) (s : σ) (b : UInt8) (bs : Bytes), 0 < n → R s (b :: bs) →
    ∃ k s', k < n ∧ recv n s = (.ok (b :: bs.take k), s') ∧ R s' (bs.drop k)

variable {recv : Nat → Proc SocketError σ Bytes} {failed : Bytes → Option SocketError → ε}
  {R : σ → Bytes → Prop}

theorem exactlyLoop_feeds (h : Feeds recv R) (rest : Bytes) :
    ∀ (fuel n : Nat) (buf q : Bytes) (s : σ), buf.length + q.length = n → q.length ≤ fuel →
      R s (q ++ rest) →
      ∃ s', exactlyLoop recv failed fuel n buf s = (.ok (buf ++ q), s') ∧ R s' rest := by
  intro fuel
  induction fuel with
  | zero =>
    intro n buf q s _ hfuel hR
    have hq : q = [] := List.length_eq_zero_iff.mp (by omega)
    subst hq
    refine ⟨s, ?_, hR⟩
    rw [List.append_nil]
    rfl
  | succ fuel ih =>
    intro n buf q s hn hfuel hR
    cases q with
    | nil =>
      refine ⟨s, ?_, hR⟩
      rw [List.append_nil, exactlyLoop, if_neg (by simp only [List.length_nil] at hn; omega)]
      rfl
    | cons b q =>
      simp only [List.length_cons] at hn hfuel
      obtain ⟨k, s', hk, hrecv, hR'⟩ := h (n - buf.length) s b (q ++ rest) (by omega) hR
      -- the piece ends inside the bytes that are asked for
      have hkq : k ≤ q.length := by omega
      rw [List.take_append_of_le_length hkq] at hrecv
      rw [List.drop_append_of_le_length hkq] at hR'
      obtain ⟨s'', hloop, hR''⟩ := ih n (buf ++ b :: q.take k) (q.drop k) s'
        (by simp only [List.length_append, List.length_cons, List.length_take, List.length_drop]
            omega)
        (by simp only [List.length_drop]; omega) hR'
      refine ⟨s'', ?_, hR''⟩
      have hjoin : buf ++ b :: q.take k ++ q.drop k = buf ++ b :: q := by
        rw [List.append_assoc, List.cons_append, List.take_append_drop]
      rw [hjoin] at hloop
      rw [exactlyLoop, if_pos (by omega), Proc.attempt_bind_run, hrecv]
      exact hloop

/-- However the stream is cut, reading as many bytes as `q` has returns `q`. -/
theorem exactly_feeds (failed : Bytes → Option SocketError → ε) (h : Feeds recv R) {q rest : Bytes}
    {s : σ} (hR : R s (q ++ rest)) :
    ∃ s', exactly recv failed q.length s = (.ok q, s') ∧ R s' rest :=
  exactlyLoop_feeds h rest q.length q.length [] q s (by simp) (Nat.le_refl _) hR

theorem exactlyLoop_closed (h : Feeds recv R)
    (hclosed : ∀ n s, 0 < n → R s [] → ∃ s', recv n s = (.ok [], s') ∧ R s' []) :
    ∀ (fuel n : Nat) (buf q : Bytes) (s : σ), buf.length + q.length < n → q.length < fuel → R s q →
      ∃ s', exactlyLoop recv failed fuel n buf s = (.error (failed (buf ++ q) none), s') ∧
        R s' [] := by
  intro fuel
  induction fuel with
  | zero =>
    intro n buf q s _ hfuel _
    omega
  | succ fuel ih =>
    intro n buf q s hn hfuel hR
    rw [exactlyLoop, if_pos (by omega), Proc.attempt_bind_run]
    cases q with
    | nil =>
      obtain ⟨s', hrecv, hR'⟩ := hclosed (n - buf.length) s (by omega) hR
      refine ⟨s', ?_, hR'⟩
      rw [hrecv, List.append_nil]
      rfl
    | cons b q =>
      simp only [List.length_cons] at hn hfuel
      obtain ⟨k, s', hk, hrecv, hR'⟩ := h (n - buf.length) s b q (by omega) hR
      obtain ⟨s'', hloop, hR''⟩ := ih n (buf ++ b :: q.take k) (q.drop k) s'
        (by simp only [List.length_append, List.length_cons, List.length_take, List.length_drop]
            omega)
        (by simp only [List.length_drop]; omega) hR'
      refine ⟨s'', ?_, hR''⟩
      rw [List.append_assoc, List.cons_append, List.take_append_drop] at hloop
      rw [hrecv]
      exact hloop

/-- When the peer closes before the last byte, reading raises with what has come. -/
theorem exactly_closed (failed : Bytes → Option SocketError → ε) (h : Feeds recv R)
    (hclosed : ∀ n s, 0 < n → R s [] → ∃ s', recv n s = (.ok [], s') ∧ R s' []) {n : Nat} {q : Bytes}
    {s : σ} (hshort : q.length < n) (hR : R s q) :
    ∃ s', exactly recv failed n s = (.error (failed q none), s') ∧ R s' [] :=
  exactlyLoop_closed h hclosed n n [] q s (by simpa using hshort) hshort hR

/-- A receive that raises at the start ends the reading there. -/
theorem exactly_error {n : Nat} {s s' : σ} {e : SocketError} (hn : 0 < n)
    (h : recv n s = (.error e, s')) :
    exactly recv failed n s = (.error (failed [] (some e)), s') := by
  obtain ⟨n, rfl⟩ : ∃ m, n = m + 1 := ⟨n - 1, by omega⟩
  rw [exactly, exactlyLoop, if_pos (by simp), Proc.attempt_bind_run]
  simp only [List.length_nil, Nat.sub_zero, h]
  rfl

/-! ## What any receive gives -/

/-- Whatever the socket does, reading returns `n` bytes or raises what `failed` makes of the
    failure. -/
theorem exactlyLoop_cases (failed : Bytes → Option SocketError → ε)
    (hle : ∀ {n s bs s'}, 0 < n → recv n s = (.ok bs, s') → bs.length ≤ n) :
    ∀ (fuel n : Nat) (buf : Bytes) (s : σ), buf.length ≤ n → n ≤ buf.length + fuel →
      (∃ bs s', exactlyLoop recv failed fuel n buf s = (.ok bs, s') ∧ bs.length = n) ∨
      (∃ got cause s', exactlyLoop recv failed fuel n buf s = (.error (failed got cause), s')) := by
  intro fuel
  induction fuel with
  | zero =>
    intro n buf s h1 h2
    exact .inl ⟨buf, s, rfl, by omega⟩
  | succ fuel ih =>
    intro n buf s h1 h2
    rw [exactlyLoop]
    by_cases hlt : buf.length < n
    · rw [if_pos hlt, Proc.attempt_bind_run]
      rcases hrecv : recv (n - buf.length) s with ⟨_ | bs, s'⟩
      · exact .inr ⟨buf, some _, s', rfl⟩
      · cases bs with
        | nil => exact .inr ⟨buf, none, s', rfl⟩
        | cons b bs =>
          have hlen := hle (by omega) hrecv
          rw [List.length_cons] at hlen
          exact ih n (buf ++ b :: bs) s'
            (by simp only [List.length_append, List.length_cons]; omega)
            (by simp only [List.length_append, List.length_cons]; omega)
    · rw [if_neg hlt]
      exact .inl ⟨buf, s, rfl, by omega⟩

/-- Reading uses up at least the bytes it returns. -/
theorem exactlyLoop_spends {pending : σ → Nat} (h : ∀ n, Proc.Spends pending List.length (recv n)) :
    ∀ (fuel n : Nat) (buf : Bytes), Proc.Spends pending (fun out : Bytes => out.length - buf.length)
      (exactlyLoop recv failed fuel n buf) := by
  intro fuel
  induction fuel with
  | zero =>
    intro n buf
    exact Proc.Spends.pure pending (Nat.sub_self _)
  | succ fuel ih =>
    intro n buf
    rw [exactlyLoop]
    split
    · refine Proc.Spends.bind (Proc.Spends.attempt (h (n - buf.length))) ?_
      intro r
      cases r with
      | error e => exact Proc.Spends.raise pending _ _
      | ok bs =>
        cases bs with
        | nil => exact Proc.Spends.raise pending _ _
        | cons b bs =>
          refine Proc.Spends.mono (ih n (buf ++ b :: bs)) ?_
          intro out
          rw [List.length_append]
          show out.length - buf.length - (b :: bs).length ≤ _
          omega
    · exact Proc.Spends.pure pending (Nat.sub_self _)

theorem exactly_spends (failed : Bytes → Option SocketError → ε) {pending : σ → Nat}
    (h : ∀ n, Proc.Spends pending List.length (recv n)) (n : Nat) :
    Proc.Spends pending List.length (exactly recv failed n) :=
  exactlyLoop_spends h n n []

/-- Reading an exact number of bytes keeps what every single receive keeps. -/
theorem exactlyLoop_keeps {I : σ → Prop} (h : ∀ n, Proc.Keeps I (recv n)) :
    ∀ (fuel n : Nat) (buf : Bytes), Proc.Keeps I (exactlyLoop recv failed fuel n buf) := by
  intro fuel
  induction fuel with
  | zero =>
    intro n buf
    exact Proc.Keeps.pure _
  | succ fuel ih =>
    intro n buf
    rw [exactlyLoop]
    split
    · refine Proc.Keeps.bind (Proc.Keeps.attempt (h _)) fun r => ?_
      match r with
      | .error e => exact Proc.Keeps.raise _
      | .ok [] => exact Proc.Keeps.raise _
      | .ok (b :: bs) => exact ih n (buf ++ b :: bs)
    · exact Proc.Keeps.pure _

/-- Two receives that mirror each other fill the same buffers. -/
theorem exactlyLoop_mirrors {τ : Type} {φ : τ → σ} {recv' : Nat → Proc SocketError τ Bytes}
    (h : ∀ n, Proc.Mirrors φ (recv' n) (recv n)) : ∀ (fuel n : Nat) (buf : Bytes),
      Proc.Mirrors φ (exactlyLoop recv' failed fuel n buf) (exactlyLoop recv failed fuel n buf) := by
  intro fuel
  induction fuel with
  | zero =>
    intro n buf
    exact Proc.Mirrors.pure _
  | succ fuel ih =>
    intro n buf
    rw [exactlyLoop, exactlyLoop]
    split
    · refine Proc.Mirrors.bind (Proc.Mirrors.attempt (h _)) fun r => ?_
      match r with
      | .error e => exact Proc.Mirrors.raise _
      | .ok [] => exact Proc.Mirrors.raise _
      | .ok (b :: bs) => exact ih n (buf ++ b :: bs)
    · exact Proc.Mirrors.pure _

end RiseSun.Stream
