/-
  Tables with a primary key, and the queries that read a few rows in order.

  1. **Table** — a list of keyed rows, keys unique by construction.  `get` reads by key, `modify`
     maps every row (an update by primary key is the case of one key), `insert` adds a row under a
     new key, `erase` takes one away.  `get_modify` and `get_insert` are all a proof needs about them.

  2. **Ordered queries** — `orderBy key limit rows` sorts by a key and cuts off.  Nothing is said
     about rows with one key, so a query that leaves ties open takes a key that breaks them by a
     parameter.
-/
import Mathlib.Data.List.Nodup
import Mathlib.Data.List.Sort
import Mathlib.Tactic.Common

namespace RiseSun

/-- Rows under unique keys. -/
structure Table (κ ρ : Type) where
  rows : List (κ × ρ)
  keys : (rows.map Prod.fst).Nodup

namespace Table

variable {κ ρ : Type}

/-! ## Rows -/

/-- One key, one row: keys are unique, so two rows of the list under one key are the same row. -/
theorem eq_of_mem (t : Table κ ρ) {k : κ} {r s : ρ} (hr : (k, r) ∈ t.rows) (hs : (k, s) ∈ t.rows) :
    r = s := congrArg Prod.snd (List.inj_on_of_nodup_map t.keys hr hs rfl)

/-! ## Mapping rows -/

/-- Map the row under each key. -/
def modify (t : Table κ ρ) (f : κ → ρ → ρ) : Table κ ρ where
  rows := t.rows.map fun r => (r.1, f r.1 r.2)
  keys := by
    rw [List.map_map]
    exact t.keys

/-- Two maps over the rows, one after the other, are the map of their composition. -/
theorem modify_modify (t : Table κ ρ) (f g : κ → ρ → ρ) :
    (t.modify f).modify g = t.modify fun k r => g k (f k r) := by
  simp only [modify, List.map_map, Function.comp_def]

/-- Only what a map does to rows that are there counts. -/
theorem modify_congr {t : Table κ ρ} {f g : κ → ρ → ρ} (h : ∀ r ∈ t.rows, f r.1 r.2 = g r.1 r.2) :
    t.modify f = t.modify g := by
  simp only [modify, mk.injEq]
  exact List.map_congr_left fun r hr => by rw [h r hr]

/-- A map that changes no row that is there leaves the table as it is. -/
theorem modify_eq_self {t : Table κ ρ} {f : κ → ρ → ρ} (h : ∀ r ∈ t.rows, f r.1 r.2 = r.2) :
    t.modify f = t := by
  obtain ⟨rows, keys⟩ := t
  have hrows : ∀ r ∈ rows, (r.1, f r.1 r.2) = id r := fun r hr => Prod.ext rfl (h r hr)
  simp only [modify, mk.injEq]
  exact (List.map_congr_left hrows).trans (List.map_id rows)

/-- The rows of a mapped table are the images of rows under the same key. -/
theorem mem_modify {t : Table κ ρ} {f : κ → ρ → ρ} {k : κ} {r' : ρ} :
    (k, r') ∈ (t.modify f).rows ↔ ∃ r, (k, r) ∈ t.rows ∧ f k r = r' := by
  constructor
  · intro h
    obtain ⟨⟨k', r⟩, hr, heq⟩ := List.mem_map.mp h
    obtain ⟨rfl, rfl⟩ := Prod.mk.inj heq
    exact ⟨r, hr, rfl⟩
  · rintro ⟨r, hr, rfl⟩
    exact List.mem_map.mpr ⟨(k, r), hr, rfl⟩

/-! ## Reading -/

variable [DecidableEq κ]

/-- The row under a key. -/
def get (t : Table κ ρ) (k : κ) : Option ρ := (t.rows.find? fun r => r.1 = k).map Prod.snd

/-- Reading by key finds a row iff the list has it under that key; this uses that keys are unique.
    -/
theorem get_eq_some {t : Table κ ρ} {k : κ} {r : ρ} : t.get k = some r ↔ (k, r) ∈ t.rows := by
  constructor
  · intro h
    obtain ⟨⟨k', r'⟩, hfind, rfl⟩ := Option.map_eq_some_iff.mp h
    obtain rfl : k' = k := of_decide_eq_true
      (List.find?_some (p := fun r : κ × ρ => decide (r.1 = k)) hfind)
    exact List.mem_of_find?_eq_some hfind
  · intro h
    rcases hfind : t.rows.find? (fun r => r.1 = k) with _ | ⟨k', r'⟩
    · exact absurd (decide_eq_true rfl) (List.find?_eq_none.mp hfind (k, r) h)
    · obtain rfl : k' = k := of_decide_eq_true
        (List.find?_some (p := fun r : κ × ρ => decide (r.1 = k)) hfind)
      rw [get, hfind, t.eq_of_mem h (List.mem_of_find?_eq_some hfind)]
      rfl

/-- Reading by key finds nothing iff the key is not among the keys. -/
theorem get_eq_none {t : Table κ ρ} {k : κ} : t.get k = none ↔ k ∉ t.rows.map Prod.fst := by
  constructor
  · intro h hmem
    obtain ⟨⟨k, r⟩, hr, rfl⟩ := List.mem_map.mp hmem
    rw [get_eq_some.mpr hr] at h
    cases h
  · intro h
    rcases hget : t.get k with _ | r
    · rfl
    · exact absurd (List.mem_map.mpr ⟨(k, r), get_eq_some.mp hget, rfl⟩) h

/-! ## Writing -/

/-- Reading from a mapped table is mapping what is read, as keys do not change. -/
@[simp] theorem get_modify (t : Table κ ρ) (f : κ → ρ → ρ) (k : κ) :
    (t.modify f).get k = (t.get k).map (f k) := by
  rcases hget : t.get k with _ | r
  · rw [get_eq_none] at hget
    rw [Option.map_none, get_eq_none, modify, List.map_map]
    exact hget
  · rw [Option.map_some, get_eq_some]
    exact List.mem_map.mpr ⟨(k, r), get_eq_some.mp hget, rfl⟩

/-- Map the row under one key. -/
def update (t : Table κ ρ) (k : κ) (f : ρ → ρ) : Table κ ρ :=
  t.modify fun k' r => if k' = k then f r else r

/-- An update is seen under its own key. -/
theorem get_update_self (t : Table κ ρ) (k : κ) (f : ρ → ρ) :
    (t.update k f).get k = (t.get k).map f := by
  rw [update, get_modify]
  congr 1
  funext r
  exact if_pos rfl

/-- An update is not seen under any other key. -/
theorem get_update_ne (t : Table κ ρ) {k k' : κ} (h : k' ≠ k) (f : ρ → ρ) :
    (t.update k f).get k' = t.get k' := by
  rw [update, get_modify]
  rcases t.get k' with _ | r
  · rfl
  · exact congrArg some (if_neg h)

/-- A write leaves alone what does not change about a row. -/
theorem rows_update {α : Type} (t : Table κ ρ) {k : κ} {f : ρ → ρ} {g : ρ → α}
    (same : ∀ r, g (f r) = g r) :
    (t.update k f).rows.map (fun r => (r.1, g r.2)) = t.rows.map fun r => (r.1, g r.2) := by
  rw [update, modify, List.map_map]
  refine List.map_congr_left fun r _ => ?_
  show (r.1, g (if r.1 = k then f r.2 else r.2)) = (r.1, g r.2)
  split
  · rw [same]
  · rfl

/-- Add rows under new keys. -/
def insert (t : Table κ ρ) (k : κ) (r : ρ) (h : t.get k = none) : Table κ ρ where
  rows := t.rows ++ [(k, r)]
  keys := by
    rw [List.map_append, List.map_singleton]
    refine List.Nodup.append t.keys (List.nodup_singleton _) ?_
    intro k' hk' hnew
    rw [List.mem_singleton.mp hnew] at hk'
    exact get_eq_none.mp h hk'

/-- An inserted row is read under its key. -/
theorem get_insert_self (t : Table κ ρ) {k : κ} (r : ρ) (h : t.get k = none) :
    (t.insert k r h).get k = some r :=
  get_eq_some.mpr (List.mem_append_right _ (List.mem_singleton.mpr rfl))

/-- Insertion leaves the rows under other keys alone. -/
theorem get_insert_ne (t : Table κ ρ) {k k' : κ} (r : ρ) (h : t.get k = none) (hne : k' ≠ k) :
    (t.insert k r h).get k' = t.get k' := by
  rcases hget : t.get k' with _ | r'
  · rw [get_eq_none] at hget ⊢
    intro hmem
    rw [insert, List.map_append, List.mem_append] at hmem
    rcases hmem with hold | hnew
    · exact hget hold
    · exact hne (List.mem_singleton.mp hnew)
  · exact get_eq_some.mpr (List.mem_append_left _ (get_eq_some.mp hget))

/-- `table[k] = r`, as in a dictionary: a row that is there is replaced where it stands. -/
def setItem (t : Table κ ρ) (k : κ) (r : ρ) : Table κ ρ :=
  if h : t.get k = none then t.insert k r h else t.update k fun _ => r

/-- Setting an item under a new key appends it, as a dictionary keeps the order of insertion. -/
theorem rows_setItem_new {t : Table κ ρ} {k : κ} {r : ρ} (h : k ∉ t.rows.map Prod.fst) :
    (t.setItem k r).rows = t.rows ++ [(k, r)] := by
  rw [setItem, dif_pos (get_eq_none.mpr h)]
  rfl

/-- The table without the row under a key. -/
def erase (t : Table κ ρ) (k : κ) : Table κ ρ where
  rows := t.rows.filter fun r => r.1 ≠ k
  keys := t.keys.sublist (List.filter_sublist.map Prod.fst)

/-- What is still there behind an erasure was there before. -/
theorem get_of_get_erase {t : Table κ ρ} {k k' : κ} {r : ρ} (h : (t.erase k).get k' = some r) :
    t.get k' = some r :=
  get_eq_some.mpr (List.mem_filter.mp (get_eq_some.mp h)).1

/-- The rows, each seen through `f`. -/
def mapRows {ρ' : Type} (f : ρ → ρ') (t : Table κ ρ) : Table κ ρ' where
  rows := t.rows.map fun r => (r.1, f r.2)
  keys := by
    rw [List.map_map]
    exact t.keys

/-- Reading from a table whose rows were mapped to another type is mapping what is read. -/
@[simp] theorem get_mapRows {ρ' : Type} (f : ρ → ρ') (t : Table κ ρ) (k : κ) :
    (t.mapRows f).get k = (t.get k).map f := by
  rcases hget : t.get k with _ | r
  · rw [get_eq_none] at hget
    rw [Option.map_none, get_eq_none, mapRows, List.map_map]
    exact hget
  · rw [Option.map_some, get_eq_some]
    exact List.mem_map.mpr ⟨(k, r), get_eq_some.mp hget, rfl⟩

/-- A table without rows. -/
def empty : Table κ ρ := ⟨[], List.nodup_nil⟩

@[simp] theorem get_empty (k : κ) : (empty : Table κ ρ).get k = none := rfl

/-- An item that was set is read under its key, whether the key is new or not. -/
theorem get_setItem_self (t : Table κ ρ) (k : κ) (r : ρ) : (t.setItem k r).get k = some r := by
  unfold setItem
  split
  · exact get_insert_self t r _
  · rename_i h
    obtain ⟨old, hold⟩ := Option.ne_none_iff_exists'.mp h
    rw [get_update_self, hold]
    rfl

/-- Setting an item leaves all items under other keys alone. -/
theorem get_setItem_ne (t : Table κ ρ) {k k' : κ} (hne : k' ≠ k) (r : ρ) :
    (t.setItem k r).get k' = t.get k' := by
  unfold setItem
  split
  · exact get_insert_ne t r _ hne
  · exact get_update_ne t hne _

end Table

/-! ## Ordered queries -/

section Ordered

variable {ρ α : Type} [LinearOrder α] (key : ρ → α)

/-- `ORDER BY key LIMIT limit`. -/
def orderBy (limit : Nat) (rows : List ρ) : List ρ :=
  (rows.insertionSort fun a b => key a ≤ key b).take limit

/-- An ordered query shows only rows that are there. -/
theorem mem_of_mem_orderBy {limit : Nat} {rows : List ρ} {r : ρ} (h : r ∈ orderBy key limit rows) :
    r ∈ rows := (List.mem_insertionSort _).mp (List.mem_of_mem_take h)

/-- An ordered query shows no row twice, if the table has none twice. -/
theorem orderBy_nodup {limit : Nat} {rows : List ρ} (h : rows.Nodup) :
    (orderBy key limit rows).Nodup :=
  ((List.perm_insertionSort _ rows).nodup_iff.mpr h).sublist (List.take_sublist _ _)

/-- A query that may return a row at all is empty only on an empty table. -/
theorem orderBy_eq_nil {limit : Nat} (hlimit : 0 < limit) {rows : List ρ} :
    orderBy key limit rows = [] ↔ rows = [] := by
  constructor
  · intro h
    rcases List.take_eq_nil_iff.mp h with hzero | hnil
    · omega
    · have hperm := List.perm_insertionSort (fun a b => key a ≤ key b) rows
      rw [hnil] at hperm
      exact hperm.symm.eq_nil
  · rintro rfl
    rw [orderBy, List.insertionSort_nil, List.take_nil]

/-- The rows of an ordered query come in the order asked for. -/
theorem orderBy_pairwise (limit : Nat) (rows : List ρ) :
    (orderBy key limit rows).Pairwise fun a b => key a ≤ key b := by
  have : Std.Total fun a b => key a ≤ key b := ⟨fun a b => le_total (key a) (key b)⟩
  have : IsTrans ρ fun a b => key a ≤ key b := ⟨fun _ _ _ => le_trans⟩
  exact (List.pairwise_insertionSort _ rows).sublist (List.take_sublist _ _)

end Ordered

end RiseSun
