/-
  Trying a computation again.

  1. **`retry`** — run an operation; while it raises something that is worth another try and tries
     are left, pause and run it again.  The pauses are numbered.

  2. **`Trail`** — what the tries before the last one did: each raised something retryable and was
     followed by its pause.

  3. **`retry_of_trail`** — behind a trail `retry` goes on with the tries that are left, from the state
     the trail has come to.
-/
import RiseSun.Lib.Proc

namespace RiseSun.Retry

variable {ε σ α : Type}

/-- Run `operation`, and up to `left` times again after what is `again`; `pause k` is the pause after
    try `k`, counted from `first`. -/
def retry (again : ε → Bool) (pause : Nat → σ → σ) (operation : Proc ε σ α) :
    (left : Nat) → (first : Nat) → Proc ε σ α
  | 0, _ => operation
  | left + 1, first => fun s =>
    match operation s with
    | (.ok a, s') => (.ok a, s')
    | (.error e, s') =>
      if again e then retry again pause operation left (first + 1) (pause first s')
      else (.error e, s')

/-- `count` tries from `s` on raised something retryable, the pauses lie behind them, and `s'` is
    where the next try starts. -/
inductive Trail (again : ε → Bool) (pause : Nat → σ → σ) (operation : Proc ε σ α) :
    (first count : Nat) → σ → σ → Prop
  | nil {first s} : Trail again pause operation first 0 s s
  | cons {first count s s₁ s' e} (failed : operation s = (.error e, s₁)) (retryable : again e = true)
      (rest : Trail again pause operation (first + 1) count (pause first s₁) s') :
      Trail again pause operation first (count + 1) s s'

variable {again : ε → Bool} {pause : Nat → σ → σ} {operation : Proc ε σ α}

/-- An outcome that ends the tries: a result, or something not worth another try. -/
def Final (again : ε → Bool) : Except ε α → Prop
  | .ok _ => True
  | .error e => again e = false

/-- What is worth another try is tried again behind the pause. -/
theorem retry_again {s s₁ : σ} {e : ε} (h : operation s = (.error e, s₁)) (hagain : again e = true)
    (left first : Nat) :
    retry again pause operation (left + 1) first s =
      retry again pause operation left (first + 1) (pause first s₁) := by
  rw [retry]
  simp only [h, hagain, if_true]

/-- A final try ends the run, however many tries are left. -/
theorem retry_final {s : σ} (h : Final again (operation s).1) (left first : Nat) :
    retry again pause operation left first s = operation s := by
  cases left with
  | zero => rfl
  | succ left =>
    rcases hrun : operation s with ⟨e | a, s₁⟩
    · rw [hrun] at h
      have hfinal : again e = false := h
      rw [retry]
      simp only [hrun, hfinal]
      rfl
    · rw [retry]
      simp only [hrun]

/-- What is done with a result can be done in every try. -/
theorem retry_map {β : Type} (f : α → β) : ∀ (left first : Nat) (s : σ),
    retry again pause (operation >>= fun a => pure (f a)) left first s =
      (retry again pause operation left first >>= fun a => pure (f a)) s := by
  intro left
  induction left with
  | zero =>
    intro first s
    rfl
  | succ left ih =>
    intro first s
    rcases hrun : operation s with ⟨e | a, s₁⟩
    · have hmapped := Proc.bind_error (f := fun a => pure (f a)) hrun
      by_cases hagain : again e = true
      · rw [retry_again hmapped hagain, ih]
        exact (Proc.bind_same_run (retry_again hrun hagain left first) _).symm
      · have hfinal : again e = false := Bool.eq_false_iff.mpr hagain
        rw [retry_final (by rw [hmapped]; exact hfinal)]
        exact (Proc.bind_same_run (retry_final (by rw [hrun]; exact hfinal) _ first) _).symm
    · have hmapped := Proc.bind_ok (f := fun a => pure (f a)) hrun
      rw [retry_final (by rw [hmapped]; trivial)]
      exact (Proc.bind_same_run (retry_final (by rw [hrun]; trivial) _ first) _).symm

/-- A trail that the tries cover is followed: what is left is the run from its end. -/
theorem retry_of_trail {first count : Nat} {s s' : σ}
    (h : Trail again pause operation first count s s') : ∀ left : Nat,
      retry again pause operation (count + left) first s =
        retry again pause operation left (first + count) s' := by
  induction h with
  | nil =>
    intro left
    rw [Nat.zero_add, Nat.add_zero]
  | @cons first count s s₁ s' e failed retryable rest ih =>
    intro left
    rw [show count + 1 + left = (count + left) + 1 by omega, retry_again failed retryable, ih left,
      show first + 1 + count = first + (count + 1) by omega]

end RiseSun.Retry
