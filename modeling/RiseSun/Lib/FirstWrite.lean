/-
  Rows that stay as they were first written.

  1. **Program** — `insertNew key rows row` puts a row at the end unless its key is there already, in
     which case nothing happens.

  2. **Invariants** — keys stay unique (`nodup_insertNew`), and what is there stays where it is
     (`prefix_insertNew`).

  3. **Contents** — when rows with one key are equal, the rows are a set: inserting adds the row
     (`mem_insertNew`), whatever the order and however often.
-/
import Mathlib.Data.List.Nodup
import Mathlib.Tactic.Common

namespace RiseSun.FirstWrite

variable {ρ κ : Type} [DecidableEq κ] {key : ρ → κ} {rows : List ρ} {row r : ρ}

/-- A row under a key that is not there yet. -/
def insertNew (key : ρ → κ) (rows : List ρ) (row : ρ) : List ρ :=
  if rows.any fun r => key r = key row then rows else rows ++ [row]

/-- An insertion finds the key taken and changes nothing, or adds the row at the end. -/
theorem insertNew_cases (key : ρ → κ) (rows : List ρ) (row : ρ) :
    (∃ r ∈ rows, key r = key row) ∧ insertNew key rows row = rows ∨
      (∀ r ∈ rows, key r ≠ key row) ∧ insertNew key rows row = rows ++ [row] := by
  by_cases h : rows.any (fun r => key r = key row) = true
  · obtain ⟨r, hr, hkey⟩ := List.any_eq_true.mp h
    exact .inl ⟨⟨r, hr, of_decide_eq_true hkey⟩, if_pos h⟩
  · refine .inr ⟨fun r hr hkey => h ?_, if_neg h⟩
    exact List.any_eq_true.mpr ⟨r, hr, decide_eq_true hkey⟩

/-! ## Invariants -/

/-- If no key comes twice, none does after an insertion. -/
theorem nodup_insertNew (h : (rows.map key).Nodup) (row : ρ) :
    ((insertNew key rows row).map key).Nodup := by
  rcases insertNew_cases key rows row with ⟨-, heq⟩ | ⟨hnew, heq⟩
  · rw [heq]
    exact h
  · rw [heq, List.map_append, List.map_singleton]
    refine List.Nodup.append h (List.nodup_singleton _) fun k hk hrow => ?_
    obtain ⟨r, hr, rfl⟩ := List.mem_map.mp hk
    exact hnew r hr (List.mem_singleton.mp hrow)

theorem prefix_of_eq {rows' : List ρ} (h : rows' = rows) : rows <+: rows' :=
  ⟨[], by rw [h, List.append_nil]⟩

/-- What was there before an insertion stays where it is. -/
theorem prefix_insertNew (key : ρ → κ) (rows : List ρ) (row : ρ) :
    rows <+: insertNew key rows row := by
  rcases insertNew_cases key rows row with ⟨-, heq⟩ | ⟨-, heq⟩
  · exact prefix_of_eq heq
  · rw [heq]
    exact List.prefix_append rows [row]

/-! ## Contents -/

theorem mem_of_mem_insertNew (h : r ∈ insertNew key rows row) : r ∈ rows ∨ r = row := by
  rcases insertNew_cases key rows row with ⟨-, heq⟩ | ⟨-, heq⟩
  · rw [heq] at h
    exact .inl h
  · rw [heq, List.mem_append, List.mem_singleton] at h
    exact h

/-- Rows with one key are equal. -/
def Agree (key : ρ → κ) (P : ρ → Prop) : Prop := ∀ r s, P r → P s → key r = key s → r = s

/-- **A set.**  Of rows that agree, the one inserted is there afterwards: it is new, or it was there. -/
theorem mem_insertNew {P : ρ → Prop} (hP : Agree key P) (hrows : ∀ r ∈ rows, P r) (hrow : P row) :
    r ∈ insertNew key rows row ↔ r ∈ rows ∨ r = row := by
  refine ⟨mem_of_mem_insertNew, ?_⟩
  rcases insertNew_cases key rows row with ⟨⟨s, hs, hkey⟩, heq⟩ | ⟨-, heq⟩
  · rw [heq]
    rintro (hr | rfl)
    · exact hr
    · exact hP s r (hrows s hs) hrow hkey ▸ hs
  · rw [heq, List.mem_append, List.mem_singleton]
    exact id

end RiseSun.FirstWrite
