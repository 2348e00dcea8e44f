/-
  Machines that take one action after another, and what holds over all their runs.

  A machine is a partial step function: an action that cannot be taken in a state has no next
  state.  All choice (which party moves, what a lock lets it see) stands in the action, so a step is
  a function and a run is fixed by its actions.

  1. **Runs** — `Run step P s actions t`, built at the end, under a condition `P` on every step.
  2. **Invariants** (`Run.invariant`) — what the start has and every step keeps; what an action
     brings about and every step keeps (`Run.established`).
  3. **Evaluation** (`Run.of_guarded`) — folding the guarded step over concrete actions is a run.
  4. **In flight** — activities that take several steps each: one is taken out and put back as what
     is left of it, if anything is.
-/
import Mathlib.Data.List.Basic
import Mathlib.Tactic.Common

namespace RiseSun.Machine

variable {σ α : Type*} {step : σ → α → Option σ} {P Q : σ → α → Prop} {s t u : σ}

/-! ## Runs -/

/-- The actions lead from `s` to the last state, and every step meets the condition. -/
inductive Run (step : σ → α → Option σ) (P : σ → α → Prop) (s : σ) : List α → σ → Prop
  | nil : Run step P s [] s
  | snoc {actions : List α} {t u : σ} {a : α} (run : Run step P s actions t) (cond : P t a)
      (next : step t a = some u) : Run step P s (actions ++ [a]) u

theorem Run.append {first second : List α} (run : Run step P s first t)
    (more : Run step P t second u) : Run step P s (first ++ second) u := by
  induction more with
  | nil => rwa [List.append_nil]
  | snoc _ cond next ih =>
    rw [← List.append_assoc]
    exact .snoc ih cond next

theorem Run.cons {a : α} {actions : List α} (cond : P s a) (next : step s a = some t)
    (run : Run step P t actions u) : Run step P s (a :: actions) u :=
  Run.append (.snoc .nil cond next) run

theorem Run.mono {Q : σ → α → Prop} {actions : List α} (h : ∀ s a, P s a → Q s a)
    (run : Run step P s actions t) : Run step Q s actions t := by
  induction run with
  | nil => exact .nil
  | snoc _ cond next ih => exact .snoc ih (h _ _ cond) next

/-! ## Invariants -/

/-- What the start has and every step keeps holds of every state reached. -/
theorem Run.invariant {I : σ → Prop} {actions : List α} (run : Run step P s actions t) (start : I s)
    (keep : ∀ {t a u}, I t → P t a → step t a = some u → I u) : I t := by
  induction run with
  | nil => exact start
  | snoc _ cond next ih => exact keep ih cond next

/-- A preorder that relates a state to what a step makes of it relates both ends of a run. -/
theorem Run.related {I : σ → Prop} {R : σ → σ → Prop} {actions : List α}
    (run : Run step P s actions t) (refl : ∀ s, R s s)
    (trans : ∀ {s t u}, R s t → R t u → R s u) (start : I s)
    (keep : ∀ {t a u}, I t → P t a → step t a = some u → I u)
    (moves : ∀ {t a u}, I t → P t a → step t a = some u → R t u) : R s t := by
  induction run with
  | nil => exact refl s
  | snoc run cond next ih => exact trans ih (moves (run.invariant start keep) cond next)

/-- What an action brings about, and every step keeps, holds behind a run in which it was taken. -/
theorem Run.established {I J : σ → Prop} {actions : List α} {a : α} (run : Run step P s actions t)
    (mem : a ∈ actions) (start : I s)
    (keep : ∀ {t b u}, I t → P t b → step t b = some u → I u)
    (makes : ∀ {t u}, I t → P t a → step t a = some u → J u)
    (stays : ∀ {t b u}, I t → J t → P t b → step t b = some u → J u) : J t := by
  induction run with
  | nil => cases mem
  | snoc run cond next ih =>
    have hinvariant := run.invariant start keep
    rcases List.mem_append.mp mem with hbefore | hlast
    · exact stays hinvariant (ih hbefore) cond next
    · obtain rfl := List.mem_singleton.mp hlast
      exact makes hinvariant cond next

/-! ## Evaluation -/

/-- The step where the condition holds. -/
def guarded (step : σ → α → Option σ) (P : σ → α → Prop) [∀ s a, Decidable (P s a)] (s : σ)
    (a : α) : Option σ :=
  if P s a then step s a else none

/-- The states of concrete actions, one after another. -/
def exec (step : σ → α → Option σ) : σ → List α → Option σ
  | s, [] => some s
  | s, a :: actions => (step s a).bind fun t => exec step t actions

theorem Run.of_guarded [∀ s a, Decidable (P s a)] : ∀ {actions : List α} {s : σ},
    exec (guarded step P) s actions = some t → Run step P s actions t
  | [], s, h => by
    obtain rfl := Option.some.inj h
    exact .nil
  | a :: actions, s, h => by
    obtain ⟨next, hnext, h⟩ := Option.bind_eq_some_iff.mp h
    rw [guarded] at hnext
    rcases ite_eq_iff.mp hnext with ⟨cond, hnext⟩ | ⟨_, hnext⟩
    · exact .cons cond hnext (Run.of_guarded h)
    · cases hnext

/-! ## In flight -/

section InFlight

variable {β γ : Type*} [DecidableEq β] {activities : List β} {a b : β} {f : γ → β} {next : Option γ}

theorem mem_of_mem_goOn (h : b ∈ activities.erase a ++ (next.map f).toList) :
    b ∈ activities ∨ ∃ x ∈ next, b = f x := by
  rcases List.mem_append.mp h with hold | hnew
  · exact .inl (List.mem_of_mem_erase hold)
  · obtain ⟨x, hx, rfl⟩ := Option.map_eq_some_iff.mp (Option.mem_toList.mp hnew)
    exact .inr ⟨x, hx, rfl⟩

/-- The activities other than the one that goes on stay as they are. -/
theorem mem_goOn_of_ne {rest : List β} (h : b ∈ activities) (hne : b ≠ a) :
    b ∈ activities.erase a ++ rest :=
  List.mem_append_left _ ((List.mem_erase_of_ne hne).mpr h)

theorem mem_goOn_self {x : γ} (h : next = some x) :
    f x ∈ activities.erase a ++ (next.map f).toList :=
  List.mem_append_right _ (Option.mem_toList.mpr (Option.map_eq_some_iff.mpr ⟨x, h, rfl⟩))

/-- What an activity keeps is there as often as before. -/
theorem map_goOn_perm {κ : Type*} {key : β → κ} {x : γ} (mem : a ∈ activities)
    (same : key (f x) = key a) :
    ((activities.erase a ++ ((some x).map f).toList).map key).Perm (activities.map key) := by
  have hperm : (activities.map key).Perm (key a :: (activities.erase a).map key) :=
    (List.perm_cons_erase mem).map key
  refine List.Perm.trans ?_ hperm.symm
  rw [List.map_append, ← same]
  exact List.perm_append_singleton _ _

end InFlight

end RiseSun.Machine
