/-
  Sessions that keep the rows they have loaded.

  A session that reads a row a second time hands out its own copy of it, however old; only its own
  write renews the copy.

  1. **Copies** — `load` takes copies of rows that the session has none of, `write` renews them,
     and `seen` is what the session reads where the table has a value.

  2. **Settled copies** (`Settled`) — some values are final: a row that has one keeps it.  Then a copy
     with a final value is never old.
-/
import Mathlib.Tactic.Common

namespace RiseSun

variable {ψ κ α : Type} [DecidableEq ψ] [DecidableEq κ]

/-! ## Copies -/

/-- What each session has loaded. -/
def RowCache (ψ κ α : Type) : Type := ψ → κ → Option α

namespace RowCache

def empty : RowCache ψ κ α := fun _ _ => none

def load (copies : RowCache ψ κ α) (session : ψ) (keys : List κ) (row : κ → Option α) :
    RowCache ψ κ α :=
  fun other k => if other = session ∧ k ∈ keys then (copies other k).or (row k) else copies other k

def write (copies : RowCache ψ κ α) (session : ψ) (keys : List κ) (row : κ → Option α) :
    RowCache ψ κ α :=
  fun other k => if other = session ∧ k ∈ keys then row k else copies other k

/-- What a session reads where the table has `a`. -/
def seen (copies : RowCache ψ κ α) (session : ψ) (k : κ) (a : α) : α := (copies session k).getD a

/-! ## Settled copies -/

/-- Copies with a final value are what the row is. -/
def Settled (final : α → Prop) (copies : RowCache ψ κ α) (row : κ → Option α) : Prop :=
  ∀ session k a, copies session k = some a → final a → row k = some a

variable {final : α → Prop} {copies : RowCache ψ κ α} {row row' : κ → Option α}

omit [DecidableEq ψ] [DecidableEq κ] in
theorem Settled.empty : Settled final (RowCache.empty : RowCache ψ κ α) row :=
  fun _ _ _ h => nomatch h

omit [DecidableEq ψ] [DecidableEq κ] in
theorem Settled.step (h : Settled final copies row)
    (keeps : ∀ k a, row k = some a → final a → row' k = some a) : Settled final copies row' :=
  fun session k a hcopy hfinal => keeps k a (h session k a hcopy hfinal) hfinal

theorem Settled.load (h : Settled final copies row) (session : ψ) (keys : List κ) :
    Settled final (copies.load session keys row) row := by
  intro other k a hcopy hfinal
  rw [RowCache.load] at hcopy
  split at hcopy
  · rcases hold : copies other k with _ | b <;> rw [hold] at hcopy
    · exact hcopy
    · exact h other k a (hold.trans hcopy) hfinal
  · exact h other k a hcopy hfinal

theorem Settled.write (h : Settled final copies row) (session : ψ) (keys : List κ) :
    Settled final (copies.write session keys row) row := by
  intro other k a hcopy hfinal
  rw [RowCache.write] at hcopy
  split at hcopy
  · exact hcopy
  · exact h other k a hcopy hfinal

omit [DecidableEq ψ] [DecidableEq κ] in
/-- A final value that a session reads is the row's. -/
theorem Settled.seen_eq (h : Settled final copies row) {session : ψ} {k : κ} {a : α}
    (hrow : row k = some a) (hfinal : final (copies.seen session k a)) :
    copies.seen session k a = a := by
  rw [seen] at hfinal ⊢
  rcases hcopy : copies session k with _ | b <;> rw [hcopy] at hfinal
  · rfl
  · exact Option.some.inj ((h session k b hcopy hfinal).symm.trans hrow)

end RowCache

end RiseSun
