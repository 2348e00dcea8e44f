/-
  Who is here, and how the others left.

  A roster holds items, each under a key, and records of every item that has left how it left.

  1. **Leaving** — `leave gone exit` takes the items under these keys out, all at once.  The keys are
     the same before and after, in another order (`keys_leave`).

  2. **Once** — nobody is here twice, has left twice, or is here after leaving.  Leaving keeps it, and
     so does an arrival under a key that was never seen.

  What an item is known by may not change; `revise` changes the rest of it.
-/
import Mathlib.Data.List.Nodup

namespace RiseSun

structure Roster (α κ ε : Type) where
  here : List α := []
  left : List (κ × ε) := []

namespace Roster

variable {α κ ε : Type} (key : α → κ)

/-- Every key that has been seen. -/
def keys (r : Roster α κ ε) : List κ := r.here.map key ++ r.left.map Prod.fst

/-- Nobody is here twice, has left twice, or is here after leaving. -/
def Once (r : Roster α κ ε) : Prop := (r.keys key).Nodup

def arrive (r : Roster α κ ε) (a : α) : Roster α κ ε := { r with here := r.here ++ [a] }

def revise (r : Roster α κ ε) (f : α → α) : Roster α κ ε := { r with here := r.here.map f }

section Leaving

variable [DecidableEq κ]

def leave (r : Roster α κ ε) (gone : List κ) (exit : ε) : Roster α κ ε where
  here := r.here.filter fun a => key a ∉ gone
  left := r.left ++ (r.here.filter fun a => key a ∈ gone).map fun a => (key a, exit)

variable {key} {r : Roster α κ ε} {gone : List κ} {exit : ε}

theorem mem_here_leave {a : α} : a ∈ (r.leave key gone exit).here ↔ a ∈ r.here ∧ key a ∉ gone := by
  rw [leave, List.mem_filter, decide_eq_true_eq]

theorem mem_left_leave {k : κ} {e : ε} : (k, e) ∈ (r.leave key gone exit).left ↔
    (k, e) ∈ r.left ∨ e = exit ∧ k ∈ gone ∧ ∃ a ∈ r.here, key a = k := by
  simp only [leave, List.mem_append, List.mem_map, List.mem_filter, decide_eq_true_eq, Prod.mk.injEq]
  refine or_congr_right ⟨?_, ?_⟩
  · rintro ⟨a, ⟨ha, hgone⟩, rfl, rfl⟩
    exact ⟨rfl, hgone, a, ha, rfl⟩
  · rintro ⟨rfl, hgone, a, ha, rfl⟩
    exact ⟨a, ⟨ha, hgone⟩, rfl, rfl⟩

/-- An item that leaves is known to the roster as before. -/
theorem keys_leave : ((r.leave key gone exit).keys key).Perm (r.keys key) := by
  have hsplit := (List.filter_append_perm (fun a => decide (key a ∉ gone)) r.here).map key
  have hrest : (r.here.filter fun a => !decide (key a ∉ gone)) =
      r.here.filter fun a => key a ∈ gone :=
    List.filter_congr fun a _ => by simp
  rw [hrest, List.map_append] at hsplit
  rw [keys, keys, leave, List.map_append, List.map_map]
  refine List.Perm.trans ?_ (hsplit.append_right _)
  rw [List.append_assoc]
  exact (List.perm_append_comm).append_left _

theorem Once.leave (h : r.Once key) : (r.leave key gone exit).Once key :=
  keys_leave.nodup_iff.mpr h

end Leaving

variable {key} {r : Roster α κ ε}

theorem mem_keys_of_here {a : α} (h : a ∈ r.here) : key a ∈ r.keys key :=
  List.mem_append_left _ (List.mem_map_of_mem h)

theorem mem_keys_of_left {k : κ} {e : ε} (h : (k, e) ∈ r.left) : k ∈ r.keys key :=
  List.mem_append_right _ (List.mem_map_of_mem h)

theorem keys_arrive {a : α} : ((r.arrive a).keys key).Perm (key a :: r.keys key) := by
  rw [keys, arrive, List.map_append, List.map_singleton, List.append_assoc]
  exact List.perm_middle

theorem keys_revise {f : α → α} (same : ∀ a, key (f a) = key a) :
    (r.revise f).keys key = r.keys key := by
  rw [keys, keys, revise, List.map_map]
  exact congrArg (· ++ _) (List.map_congr_left fun a _ => same a)

theorem Once.empty : ({} : Roster α κ ε).Once key := List.nodup_nil

theorem Once.arrive {a : α} (h : r.Once key) (new : key a ∉ r.keys key) :
    (r.arrive a).Once key :=
  keys_arrive.nodup_iff.mpr (List.nodup_cons.mpr ⟨new, h⟩)

/-- If items leave once, each of them leaves in one way. -/
theorem Once.exit_eq {k : κ} {e e' : ε} (h : r.Once key) (he : (k, e) ∈ r.left)
    (he' : (k, e') ∈ r.left) : e = e' :=
  congrArg Prod.snd (List.inj_on_of_nodup_map (List.nodup_append.mp h).2.1 he he' rfl)

end Roster

end RiseSun
