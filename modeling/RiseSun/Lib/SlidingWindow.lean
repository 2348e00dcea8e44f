/-
  A sliding window over the moments at which something was admitted.

  A moment is in the window while it is no more than `span` old; both ends of the window belong to
  it.  `prune` drops from the front what is older, so it relies on the moments being in order.

  1. **`Tracks`** — what a window has to do with the list of all moments admitted so far: it is the
     back of that list, and what lies in front of it is out of the span for good.

  2. **Steps** (`Tracks.prune`, `Tracks.add`) — time goes on, and a moment is admitted.

  3. **Counts** — every interval of length `span` that reaches the present has its moments in the
     window (`Tracks.count_le`), and the window has none that are older (`Tracks.le_count`).
-/
import Mathlib.Algebra.Order.Group.Defs
import Mathlib.Algebra.Order.Sub.Basic
import Mathlib.Data.List.TakeWhile

namespace RiseSun.SlidingWindow

section Window

variable {T : Type} [AddCommGroup T] [LinearOrder T]

/-- Drop from the front what is more than `span` old. -/
def prune (span now : T) (window : List T) : List T := window.dropWhile fun t => span < now - t

/-- How many of these moments lie in the closed interval of length `span` that begins at `start`. -/
def countFrom (span start : T) (moments : List T) : Nat :=
  moments.countP fun t => start ≤ t ∧ t ≤ start + span

/-- The window is what is left, at the moment `now`, of the moments that were admitted. -/
structure Tracks (span now : T) (admitted window : List T) : Prop where
  sorted : admitted.Pairwise (· ≤ ·)
  past : ∀ t ∈ admitted, t ≤ now
  back : ∃ old, admitted = old ++ window ∧ ∀ t ∈ old, span < now - t

variable {span now later start first : T} {admitted window : List T}

theorem prune_cons_of_lt (hold : span < now - first) :
    prune span now (first :: window) = prune span now window :=
  List.dropWhile_cons_of_pos (by simpa using hold)

theorem prune_cons_of_le (hrecent : now - first ≤ span) :
    prune span now (first :: window) = first :: window :=
  List.dropWhile_cons_of_neg (by simpa using hrecent)

theorem prune_length_le : (prune span now window).length ≤ window.length :=
  (List.dropWhile_sublist _).length_le

theorem countFrom_append (moments more : List T) :
    countFrom span start (moments ++ more) = countFrom span start moments + countFrom span start more :=
  List.countP_append

theorem Tracks.nil (span now : T) : Tracks span now [] [] :=
  ⟨List.Pairwise.nil, fun _ h => absurd h List.not_mem_nil, [], rfl,
    fun _ h => absurd h List.not_mem_nil⟩

/-- A window that admits the present moment goes on tracking what was admitted. -/
theorem Tracks.add (h : Tracks span now admitted window) :
    Tracks span now (admitted ++ [now]) (window ++ [now]) := by
  obtain ⟨old, rfl, hold⟩ := h.back
  refine ⟨List.pairwise_append.mpr ⟨h.sorted, List.pairwise_singleton _ _, fun t ht t' ht' => ?_⟩,
    fun t ht => ?_, old, List.append_assoc _ _ _, hold⟩
  · rw [List.mem_singleton.mp ht']
    exact h.past t ht
  · rcases List.mem_append.mp ht with ht | ht
    · exact h.past t ht
    · exact (List.mem_singleton.mp ht).le

variable [IsOrderedAddMonoid T]

/-- Time goes on: what has grown too old is dropped. -/
theorem Tracks.prune (h : Tracks span now admitted window) (hle : now ≤ later) :
    Tracks span later admitted (prune span later window) := by
  obtain ⟨old, rfl, hold⟩ := h.back
  refine ⟨h.sorted, fun t ht => (h.past t ht).trans hle,
    old ++ window.takeWhile fun t => span < later - t, ?_, fun t ht => ?_⟩
  · rw [List.append_assoc, SlidingWindow.prune, List.takeWhile_append_dropWhile]
  · rcases List.mem_append.mp ht with ht | ht
    · exact (hold t ht).trans_le (sub_le_sub_right hle t)
    · have hout := List.mem_takeWhile_imp (p := fun t => span < later - t) ht
      exact of_decide_eq_true hout

/-- Time goes on, and nobody looks at the window. -/
theorem Tracks.mono (h : Tracks span now admitted window) (hle : now ≤ later) :
    Tracks span later admitted window := by
  obtain ⟨old, hall, hold⟩ := h.back
  exact ⟨h.sorted, fun t ht => (h.past t ht).trans hle, old, hall,
    fun t ht => (hold t ht).trans_le (sub_le_sub_right hle t)⟩

/-- Nothing in a pruned window is more than `span` old. -/
theorem recent_of_sorted (hsorted : window.Pairwise (· ≤ ·)) :
    ∀ t ∈ prune span now window, now - t ≤ span := by
  induction window with
  | nil => exact fun t ht => absurd ht List.not_mem_nil
  | cons first window ih =>
    obtain ⟨hfirst, hrest⟩ := List.pairwise_cons.mp hsorted
    intro t ht
    rcases lt_or_ge span (now - first) with hold | hrecent
    · rw [prune_cons_of_lt hold] at ht
      exact ih hrest t ht
    -- the first one stays, and the others are younger
    · rw [prune_cons_of_le hrecent] at ht
      rcases List.mem_cons.mp ht with rfl | ht
      · exact hrecent
      · exact (sub_le_sub_left (hfirst t ht) now).trans hrecent

/-- An interval that reaches the present has all its moments in the window. -/
theorem Tracks.count_le (h : Tracks span now admitted window) (hreach : now ≤ start + span) :
    countFrom span start admitted ≤ window.length := by
  obtain ⟨old, rfl, hold⟩ := h.back
  have hnone : countFrom span start old = 0 := by
    refine List.countP_eq_zero.mpr fun t ht hin => ?_
    obtain ⟨hstart, -⟩ := of_decide_eq_true hin
    have hage : now - t ≤ span := sub_le_iff_le_add'.mpr
      (hreach.trans (add_le_add_left hstart span))
    exact absurd (hold t ht) (not_lt.mpr hage)
  rw [countFrom_append, hnone, Nat.zero_add]
  exact List.countP_le_length

/-- The moments of a window with none too old lie in the interval that ends with the present. -/
theorem Tracks.le_count (h : Tracks span now admitted window)
    (hrecent : ∀ t ∈ window, now - t ≤ span) :
    window.length ≤ countFrom span (now - span) admitted := by
  obtain ⟨old, rfl, -⟩ := h.back
  have hall : countFrom span (now - span) window = window.length := by
    refine List.countP_eq_length.mpr fun t ht => decide_eq_true ⟨?_, ?_⟩
    · exact sub_le_comm.mp (hrecent t ht)
    · rw [sub_add_cancel]
      exact h.past t (List.mem_append_right _ ht)
  rw [countFrom_append, hall]
  exact Nat.le_add_left _ _

end Window

end RiseSun.SlidingWindow
