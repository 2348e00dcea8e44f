/-
  Readers that follow a growing table by its key.

  A follower asks for the rows above the last key it has passed on, and passes them on one by one, in
  order; then it asks again.  Rows may be stored in another order than that of their keys: one that is
  stored below what has been fetched is never seen.

  1. **Follower** — `fetch` and `send`; `horizon` is the greatest key it has fetched.

  2. **Order** (`Follower.InOrder`) — what it fetches goes up strictly, so nothing comes twice.

  3. **Progress** (`Advances`, a preorder) — of the rows stored at a moment it has fetched, any time
     later, those it had and those between the two horizons, and no others.
-/
import Mathlib.Order.MinMax
import RiseSun.Lib.Table

namespace RiseSun

variable {κ ρ : Type} [LinearOrder κ]

/-! ## Follower -/

structure Follower (κ ρ : Type) where
  cursor : κ
  /-- Fetched, and not yet passed on. -/
  batch : List ρ := []
  sent : List ρ := []

namespace Follower

variable (key : ρ → κ)

def fetched (f : Follower κ ρ) : List ρ := f.sent ++ f.batch

/-- The rows above the cursor, in order. -/
def news (stored : List ρ) (f : Follower κ ρ) : List ρ :=
  orderBy key stored.length (stored.filter fun r => f.cursor < key r)

/-- The next query, when all that was fetched is passed on. -/
def fetch (stored : List ρ) (f : Follower κ ρ) : Follower κ ρ := { f with batch := f.news key stored }

def send (f : Follower κ ρ) : Follower κ ρ :=
  match f.batch with
  | [] => f
  | r :: rest => { cursor := key r, batch := rest, sent := f.sent ++ [r] }

def greatest (cursor : κ) : List ρ → κ
  | [] => cursor
  | r :: rest => max (key r) (greatest cursor rest)

/-- The greatest key that was fetched. -/
def horizon (f : Follower κ ρ) : κ := greatest key f.cursor f.batch

variable {key} {f g : Follower κ ρ} {stored stored' : List ρ}

/-- The cursor only goes up: the greatest key of a fetch is not below it. -/
theorem le_greatest (cursor : κ) (rows : List ρ) : cursor ≤ greatest key cursor rows := by
  induction rows with
  | nil => exact le_refl _
  | cons r rest ih => exact le_max_of_le_right ih

/-- No key of a fetch is above the cursor behind it. -/
theorem le_greatest_of_mem {cursor : κ} {rows : List ρ} {r : ρ} (h : r ∈ rows) :
    key r ≤ greatest key cursor rows := by
  induction rows with
  | nil => cases h
  | cons first rest ih =>
    rcases List.mem_cons.mp h with rfl | hrest
    · exact le_max_left _ _
    · exact le_max_of_le_right (ih hrest)

/-- A cursor below all the rows may go up with them. -/
theorem greatest_raise {cursor raised : κ} {rows : List ρ} (hle : cursor ≤ raised) :
    greatest key raised rows = max raised (greatest key cursor rows) := by
  induction rows with
  | nil => exact (max_eq_left hle).symm
  | cons r rest ih => rw [greatest, greatest, ih, max_left_comm]

/-- What is new to a follower is what is stored above its cursor, and nothing else. -/
theorem mem_news {r : ρ} : r ∈ f.news key stored ↔ r ∈ stored ∧ f.cursor < key r := by
  have hall : (f.news key stored).Perm (stored.filter fun r => f.cursor < key r) := by
    rw [news, orderBy, List.take_of_length_le]
    · exact List.perm_insertionSort _ _
    · rw [List.length_insertionSort]
      exact List.length_filter_le _ _
  rw [hall.mem_iff, List.mem_filter, decide_eq_true_eq]

omit [LinearOrder κ] in
@[simp] theorem fetched_send : (f.send key).fetched = f.fetched := by
  rw [send]
  split
  · rfl
  · rename_i r rest hbatch
    simp only [fetched, hbatch, List.append_assoc, List.singleton_append]

/-! ## Order -/

structure InOrder (key : ρ → κ) (f : Follower κ ρ) : Prop where
  increasing : (f.fetched.map key).Pairwise (· < ·)
  passed : ∀ r ∈ f.sent, key r ≤ f.cursor
  ahead : ∀ r ∈ f.batch, f.cursor < key r

theorem inOrder_start (cursor : κ) : InOrder key ⟨cursor, [], []⟩ :=
  ⟨.nil, fun r hr => (by cases hr), fun r hr => (by cases hr)⟩

/-- The news come in the order of their keys, none twice. -/
theorem news_increasing (hkeys : (stored.map key).Nodup) :
    ((f.news key stored).map key).Pairwise (· < ·) := by
  have hsorted := orderBy_pairwise key stored.length (stored.filter fun r => f.cursor < key r)
  have hnodup : ((f.news key stored).map key).Nodup := by
    refine List.Nodup.map_on (fun r hr r' hr' h => ?_) (orderBy_nodup key ?_)
    · exact List.inj_on_of_nodup_map hkeys (mem_news.mp hr).1 (mem_news.mp hr').1 h
    · exact (List.Nodup.of_map key hkeys).filter _
  exact (List.pairwise_map.mpr hsorted).imp₂ (fun _ _ hle hne => lt_of_le_of_ne hle hne) hnodup

/-- A fetch goes on from the cursor, so its keys follow those of the batches before in order. -/
theorem InOrder.fetch (h : f.InOrder key) (hpassed : f.batch = []) (hkeys : (stored.map key).Nodup) :
    (f.fetch key stored).InOrder key := by
  have hbefore : (f.sent.map key).Pairwise (· < ·) := by
    have hall := h.increasing
    rwa [fetched, hpassed, List.append_nil] at hall
  refine ⟨?_, h.passed, fun r hr => (mem_news.mp hr).2⟩
  rw [fetched, Follower.fetch, List.map_append, List.pairwise_append]
  refine ⟨hbefore, news_increasing hkeys, fun k hk k' hk' => ?_⟩
  obtain ⟨r, hr, rfl⟩ := List.mem_map.mp hk
  obtain ⟨r', hr', rfl⟩ := List.mem_map.mp hk'
  exact (h.passed r hr).trans_lt (mem_news.mp hr').2

/-- Sending a row moves it from the batch behind the rows that were sent; the order stays. -/
theorem InOrder.send (h : f.InOrder key) : (f.send key).InOrder key := by
  refine ⟨?_, ?_, ?_⟩
  · rw [fetched_send]
    exact h.increasing
  · rw [Follower.send]
    split
    · exact h.passed
    · rename_i r rest hbatch
      intro r' hr'
      rcases List.mem_append.mp hr' with hold | hnew
      · exact (h.passed r' hold).trans (h.ahead r (by rw [hbatch]; exact List.mem_cons_self)).le
      · rw [List.mem_singleton.mp hnew]
  · rw [Follower.send]
    split
    · exact h.ahead
    · rename_i r rest hbatch
      have hall := h.increasing
      rw [fetched, hbatch, List.map_append, List.map_cons, List.pairwise_append,
        List.pairwise_cons] at hall
      exact fun r' hr' => hall.2.1.1 (key r') (List.mem_map_of_mem hr')

/-- Sending does not change up to where a follower has fetched. -/
theorem InOrder.horizon_send (h : f.InOrder key) : (f.send key).horizon key = f.horizon key := by
  rw [Follower.send]
  split
  · rfl
  · rename_i r rest hbatch
    have hahead := h.ahead r (by rw [hbatch]; exact List.mem_cons_self)
    rw [horizon, horizon, hbatch, greatest, greatest_raise hahead.le]

/-- A query has seen all that is stored. -/
theorem le_horizon_fetch {r : ρ} (hr : r ∈ stored) : key r ≤ (f.fetch key stored).horizon key := by
  by_cases habove : f.cursor < key r
  · exact le_greatest_of_mem (mem_news.mpr ⟨hr, habove⟩)
  · exact (not_lt.mp habove).trans (le_greatest _ _)

/-! ## Progress -/

/-- From one moment to a later one. -/
structure Advances (key : ρ → κ) (stored : List ρ) (f : Follower κ ρ) (stored' : List ρ)
    (g : Follower κ ρ) : Prop where
  keys : ∀ k ∈ stored.map key, k ∈ stored'.map key
  fetched : f.fetched.map key <+: g.fetched.map key
  horizon : f.horizon key ≤ g.horizon key
  /-- What was stored at the first moment. -/
  between : ∀ k ∈ stored.map key, k ∈ g.fetched.map key ↔
    k ∈ f.fetched.map key ∨ f.horizon key < k ∧ k ≤ g.horizon key

theorem Advances.refl (stored : List ρ) (f : Follower κ ρ) : Advances key stored f stored f :=
  ⟨fun _ h => h, List.prefix_refl _, le_refl _, fun _ _ =>
    ⟨.inl, fun h => h.resolve_right fun h => absurd (h.1.trans_le h.2) (lt_irrefl _)⟩⟩

/-- Advances compose: what is fetched over two stretches is what was new at either of them. -/
theorem Advances.trans {stored'' : List ρ} {e : Follower κ ρ}
    (h : Advances key stored f stored' g) (h' : Advances key stored' g stored'' e) :
    Advances key stored f stored'' e := by
  refine ⟨fun k hk => h'.keys k (h.keys k hk), h.fetched.trans h'.fetched,
    h.horizon.trans h'.horizon, fun k hk => ?_⟩
  rw [h'.between k (h.keys k hk), h.between k hk, or_assoc]
  refine or_congr_right ⟨?_, fun ⟨habove, hbelow⟩ => ?_⟩
  · rintro (⟨habove, hbelow⟩ | ⟨habove, hbelow⟩)
    · exact ⟨habove, hbelow.trans h'.horizon⟩
    · exact ⟨h.horizon.trans_lt habove, hbelow⟩
  · rcases le_or_gt k (g.horizon key) with hle | hgt
    · exact .inl ⟨habove, hle⟩
    · exact .inr ⟨hgt, hbelow⟩

/-- Rows are stored while the follower does nothing. -/
theorem advances_store (h : ∀ k ∈ stored.map key, k ∈ stored'.map key) :
    Advances key stored f stored' f :=
  { Advances.refl stored f with keys := h }

/-- Sending fetches nothing, so it is an advance over nothing. -/
theorem InOrder.advances_send (h : f.InOrder key) : Advances key stored f stored (f.send key) := by
  have hrefl : Advances key stored f stored f := .refl stored f
  refine ⟨hrefl.keys, ?_, h.horizon_send.ge, ?_⟩
  · simpa only [fetched_send] using hrefl.fetched
  · simpa only [fetched_send, h.horizon_send] using hrefl.between

/-- A fetch advances over exactly what is stored above the cursor at that moment. -/
theorem advances_fetch (hpassed : f.batch = []) :
    Advances key stored f stored (f.fetch key stored) := by
  have hhorizon : f.horizon key = f.cursor := by rw [Follower.horizon, hpassed, greatest]
  have hfetched : f.fetched = f.sent := by rw [Follower.fetched, hpassed, List.append_nil]
  refine ⟨fun _ h => h, ?_, ?_, fun k hk => ?_⟩
  · rw [hfetched, Follower.fetched, Follower.fetch, List.map_append]
    exact List.prefix_append _ _
  · rw [hhorizon]
    exact le_greatest _ _
  · obtain ⟨r, hr, rfl⟩ := List.mem_map.mp hk
    rw [hfetched, hhorizon, Follower.fetched, List.map_append, List.mem_append]
    refine or_congr_right ⟨fun h => ?_, fun h => List.mem_map_of_mem (mem_news.mpr ⟨hr, h.1⟩)⟩
    obtain ⟨r', hr', hsame⟩ := List.mem_map.mp h
    rw [← hsame]
    exact ⟨(mem_news.mp hr').2, le_greatest_of_mem hr'⟩

end Follower

end RiseSun
