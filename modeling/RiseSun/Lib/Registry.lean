/-
  Idempotency keys.

  A client that does not know whether a request has arrived sends it again under the same key.  A
  registry remembers under each key what was asked for and what came of it:

  1. **`serve`** — a new key is registered with a fresh result; a known key is answered with its
     result if the same is asked for, and turned away if not.

  2. **What is registered stays** (`serve_keeps`), so a request that was answered is answered the same
     way ever after (`serve_again`).

  What counts as the same is equality of `γ`: a program that compares by some notion of its own
  takes the type of that notion.
-/
import RiseSun.Lib.Table

namespace RiseSun.Registry

variable {κ γ β : Type} [DecidableEq κ] [DecidableEq γ]

/-- Answer a request for `content` under a key; `fresh` is what would be made for a new one. -/
def serve (t : Table κ (γ × β)) (k : κ) (content : γ) (fresh : β) : Table κ (γ × β) × Option β :=
  match h : t.get k with
  | some (asked, result) => (t, if asked = content then some result else none)
  | none => (t.insert k (content, fresh) h, some fresh)

variable {t : Table κ (γ × β)} {k : κ} {asked content : γ} {fresh result : β}

theorem serve_new (h : t.get k = none) :
    serve t k content fresh = (t.insert k (content, fresh) h, some fresh) := by
  unfold serve
  split
  · rename_i known
    rw [h] at known
    cases known
  · rfl

theorem serve_known (h : t.get k = some (asked, result)) :
    serve t k content fresh = (t, if asked = content then some result else none) := by
  unfold serve
  split
  · rename_i known
    rw [h] at known
    cases known
    rfl
  · rename_i unknown
    rw [h] at unknown
    cases unknown

/-- A request that has been answered is answered the same way, and nothing changes. -/
theorem serve_again (h : t.get k = some (content, result)) :
    serve t k content fresh = (t, some result) := by
  rw [serve_known h, if_pos rfl]

/-- What is registered stays registered, whatever is served afterwards. -/
theorem serve_keeps {k' : κ} {row : γ × β} (h : t.get k' = some row) :
    (serve t k content fresh).1.get k' = some row := by
  rcases hk : t.get k with _ | ⟨asked, result⟩
  · rw [serve_new hk]
    have hne : k' ≠ k := by
      rintro rfl
      rw [h] at hk
      cases hk
    exact (t.get_insert_ne _ hk hne).trans h
  · rw [serve_known hk]
    exact h

/-- An answer that was given is registered under its key, with the content it was given for. -/
theorem serve_registers (h : (serve t k content fresh).2 = some result) :
    (serve t k content fresh).1.get k = some (content, result) := by
  rcases hk : t.get k with _ | ⟨asked, known⟩
  · rw [serve_new hk] at h ⊢
    obtain rfl := Option.some.inj h
    exact t.get_insert_self _ hk
  · rw [serve_known hk] at h ⊢
    split at h
    · rename_i hsame
      obtain rfl := Option.some.inj h
      rw [← hsame]
      exact hk
    · cases h

end RiseSun.Registry
