/-
  Rows that begin with a marker, in a buffer that keeps growing.

  1. **`positions` / `split`** — the program: all places of the buffer where the marker stands
     (occurrences may overlap), the rows between neighbouring places, and what is left from the last
     place on.  With fewer than two places nothing is complete and everything is left.

  2. **`pieces`** — the same cut, as a recursion on the buffer: the junk in front of the first
     marker and the list of pieces that begin with one.  `split_eq` says that `split` is the cut
     with the last piece kept back.

  3. **`split_append`** — the online law: splitting what was kept back together with what came later
     continues the split of the whole.  However a stream is cut into chunks, the rows completed by
     the end are the rows of the stream.

  4. **`Row marker r`** — `r` begins with the marker and no other marker begins in it, whatever
     marker follows.  A stream of such rows is cut into exactly these rows (`pieces_rows`).
-/
import Mathlib.Data.List.Basic
import Mathlib.Data.List.Infix

namespace RiseSun.Markers

variable {α : Type} [DecidableEq α] (marker : List α)

/-! ## The program -/

/-- The places of `buf` where the marker stands. -/
def positions (buf : List α) : List Nat :=
  (List.range buf.length).filter fun i => marker.isPrefixOf (buf.drop i)

/-- The rows that are complete, and what is left of the buffer. -/
def split (buf : List α) : List (List α) × List α :=
  let places := positions marker buf
  if places.length < 2 then ([], buf)
  else ((places.zip places.tail).map fun (p, q) => (buf.take q).drop p,
    buf.drop (places.getLastD 0))

/-! ## The cut as a recursion -/

/-- What stands in front of the first marker, and the pieces that begin with one. -/
def pieces : List α → List α × List (List α)
  | [] => ([], [])
  | x :: xs =>
    if marker.isPrefixOf (x :: xs) then ([], (x :: (pieces xs).1) :: (pieces xs).2)
    else (x :: (pieces xs).1, (pieces xs).2)

theorem pieces_flatten (buf : List α) :
    (pieces marker buf).1 ++ (pieces marker buf).2.flatten = buf := by
  induction buf with
  | nil => rfl
  | cons x xs ih =>
    unfold pieces
    split
    · rw [List.nil_append, List.flatten_cons, List.cons_append, ih]
    · rw [List.cons_append, ih]

/-- Where the pieces of a list begin, when the first begins at `n`. -/
def starts : Nat → List (List α) → List Nat
  | _, [] => []
  | n, r :: rs => n :: starts (n + r.length) rs

omit [DecidableEq α] in
theorem starts_length : ∀ (rs : List (List α)) (n : Nat), (starts n rs).length = rs.length := by
  intro rs
  induction rs with
  | nil => exact fun _ => rfl
  | cons r rs ih =>
    intro n
    rw [starts, List.length_cons, List.length_cons, ih]

omit [DecidableEq α] in
theorem starts_succ : ∀ (rs : List (List α)) (n : Nat), starts (n + 1) rs = (starts n rs).map (· + 1) := by
  intro rs
  induction rs with
  | nil => exact fun _ => rfl
  | cons r rs ih =>
    intro n
    rw [starts, starts, List.map_cons, ← ih]
    congr 2
    omega

/-- The places where the marker stands are the places where the pieces begin. -/
theorem positions_eq (buf : List α) :
    positions marker buf = starts (pieces marker buf).1.length (pieces marker buf).2 := by
  induction buf with
  | nil => rfl
  | cons x xs ih =>
    have hshift : positions marker (x :: xs) =
        (if marker.isPrefixOf (x :: xs) then [0] else []) ++ (positions marker xs).map (· + 1) := by
      unfold positions
      rw [List.length_cons, List.range_succ_eq_map, List.filter_cons, List.filter_map]
      simp only [List.drop_zero]
      split
      · rfl
      · rfl
    rw [hshift, ih, pieces]
    split
    · rw [starts, List.length_cons, List.length_nil, Nat.zero_add, starts_succ]
      rfl
    · rw [List.length_cons, starts_succ]
      rfl

omit [DecidableEq α] in
/-- The slices between neighbouring places are the pieces but the last. -/
theorem slices_starts : ∀ (rs : List (List α)) (pre : List α),
    ((starts pre.length rs).zip (starts pre.length rs).tail).map
      (fun (p, q) => ((pre ++ rs.flatten).take q).drop p) = rs.dropLast := by
  intro rs
  induction rs with
  | nil => exact fun _ => rfl
  | cons r rs ih =>
    intro pre
    cases rs with
    | nil => rfl
    | cons r' rs =>
      have hnext := ih (pre ++ r)
      rw [List.length_append, List.append_assoc, ← List.flatten_cons] at hnext
      have hfirst : ((pre ++ (r :: r' :: rs).flatten).take (pre.length + r.length)).drop pre.length
          = r := by
        rw [List.flatten_cons, ← List.append_assoc, ← List.length_append, List.take_left,
          List.drop_left]
      rw [List.dropLast_cons_of_ne_nil (List.cons_ne_nil _ _), ← hnext]
      exact List.cons_eq_cons.mpr ⟨hfirst, rfl⟩

omit [DecidableEq α] in
theorem drop_starts : ∀ (rs : List (List α)) (pre : List α), rs ≠ [] →
    (pre ++ rs.flatten).drop ((starts pre.length rs).getLastD 0) = rs.getLastD [] := by
  intro rs
  induction rs with
  | nil => exact fun _ h => absurd rfl h
  | cons r rs ih =>
    intro pre _
    cases rs with
    | nil =>
      show (pre ++ [r].flatten).drop pre.length = r
      rw [List.drop_left, List.flatten_cons, List.flatten_nil, List.append_nil]
    | cons r' rs =>
      have hnext := ih (pre ++ r) (List.cons_ne_nil _ _)
      rw [List.length_append, List.append_assoc, ← List.flatten_cons] at hnext
      exact hnext

/-- `split` is the cut with the last piece kept back. -/
theorem split_eq (buf : List α) :
    split marker buf =
      if (pieces marker buf).2.length < 2 then ([], buf)
      else ((pieces marker buf).2.dropLast, (pieces marker buf).2.getLastD []) := by
  have hbuf := pieces_flatten marker buf
  unfold split
  dsimp only
  rw [positions_eq, starts_length]
  generalize (pieces marker buf).1 = junk at hbuf ⊢
  generalize (pieces marker buf).2 = rs at hbuf ⊢
  subst hbuf
  split
  · rfl
  · rename_i hmany
    have hne : rs ≠ [] := by
      rintro rfl
      exact hmany Nat.zero_lt_two
    simp only [slices_starts, drop_starts rs junk hne]

/-! ## The online law -/

variable {marker}

/-- A list that has the marker in front keeps it when something is appended. -/
theorem isPrefixOf_append {a : List α} (h : marker.isPrefixOf a = true) (b : List α) :
    marker.isPrefixOf (a ++ b) = true := by
  rw [List.isPrefixOf_iff_prefix] at h ⊢
  exact h.trans (List.prefix_append a b)

/-- A marker that stands wholly in `a` is seen without what follows. -/
theorem isPrefixOf_of_append {a b : List α} (hlen : marker.length ≤ a.length)
    (h : marker.isPrefixOf (a ++ b) = true) : marker.isPrefixOf a = true := by
  rw [List.isPrefixOf_iff_prefix] at h ⊢
  exact List.prefix_of_prefix_length_le h (List.prefix_append a b) hlen

/-- A buffer with a piece is at least as long as the marker. -/
theorem length_of_pieces : ∀ (buf : List α), (pieces marker buf).2 ≠ [] →
    marker.length ≤ buf.length := by
  intro buf
  induction buf with
  | nil => exact fun h => absurd rfl h
  | cons x xs ih =>
    intro h
    unfold pieces at h
    split at h
    · rename_i hmark
      exact (List.isPrefixOf_iff_prefix.mp hmark).length_le
    · exact Nat.le_succ_of_le (ih h)

/-- A marker with no other after it begins the only piece. -/
theorem pieces_single {x : α} {xs : List α} (hmark : marker.isPrefixOf (x :: xs) = true)
    (hxs : (pieces marker xs).2 = []) : pieces marker (x :: xs) = ([], [x :: xs]) := by
  have hjunk := pieces_flatten marker xs
  rw [hxs, List.flatten_nil, List.append_nil] at hjunk
  rw [pieces, if_pos hmark, hjunk, hxs]

/-- If the marker comes first, there is no junk in front of the pieces, and at least one piece. -/
theorem pieces_marked {x : α} {xs : List α} (hmark : marker.isPrefixOf (x :: xs) = true) :
    (pieces marker (x :: xs)).1 = [] ∧ (pieces marker (x :: xs)).2 ≠ [] := by
  rw [pieces, if_pos hmark]
  exact ⟨rfl, List.cons_ne_nil _ _⟩

theorem pieces_unmarked {x : α} {xs : List α} (hmark : ¬ marker.isPrefixOf (x :: xs) = true) :
    pieces marker (x :: xs) = (x :: (pieces marker xs).1, (pieces marker xs).2) := by
  rw [pieces, if_neg hmark]

/-- The last piece begins with a whole marker. -/
theorem pieces_last : ∀ (buf : List α), (pieces marker buf).2 ≠ [] →
    ∃ y ys, (pieces marker buf).2.getLastD [] = y :: ys ∧ marker.isPrefixOf (y :: ys) = true := by
  intro buf
  induction buf with
  | nil => exact fun h => absurd rfl h
  | cons x xs ih =>
    intro h
    by_cases hmark : marker.isPrefixOf (x :: xs) = true
    · by_cases hxs : (pieces marker xs).2 = []
      · refine ⟨x, xs, ?_, hmark⟩
        rw [pieces_single hmark hxs]
        rfl
      · obtain ⟨y, ys, hlast, hys⟩ := ih hxs
        refine ⟨y, ys, ?_, hys⟩
        obtain ⟨r, rs, hrs⟩ := List.exists_cons_of_ne_nil hxs
        rw [pieces, if_pos hmark, hrs]
        rw [hrs] at hlast
        exact hlast
    · rw [pieces_unmarked hmark] at h ⊢
      exact ih h

/-- What is appended to a buffer goes to its last piece. -/
theorem pieces_append (b : List α) : ∀ (a : List α), (pieces marker a).2 ≠ [] →
    pieces marker (a ++ b) = ((pieces marker a).1, (pieces marker a).2.dropLast ++
      (pieces marker ((pieces marker a).2.getLastD [] ++ b)).2) := by
  intro a
  induction a with
  | nil => exact fun h => absurd rfl h
  | cons x xs ih =>
    intro h
    by_cases hxs : (pieces marker xs).2 = []
    · have hmark : marker.isPrefixOf (x :: xs) = true := by
        by_contra hno
        rw [pieces_unmarked hno] at h
        exact h hxs
      have hall : marker.isPrefixOf (x :: (xs ++ b)) = true := isPrefixOf_append hmark b
      rw [pieces_single hmark hxs]
      exact Prod.ext (pieces_marked hall).1 rfl
    · -- `xs` holds a whole marker, so what follows decides nothing at `x`
      have hlen := length_of_pieces xs hxs
      have hsame : marker.isPrefixOf (x :: (xs ++ b)) = marker.isPrefixOf (x :: xs) := by
        rw [Bool.eq_iff_iff]
        constructor
        · intro hmark
          exact isPrefixOf_of_append (Nat.le_succ_of_le hlen)
            (show marker.isPrefixOf ((x :: xs) ++ b) = true from hmark)
        · intro hmark
          exact isPrefixOf_append hmark b
      obtain ⟨r, rs, hrs⟩ := List.exists_cons_of_ne_nil hxs
      rw [List.cons_append, pieces, pieces, hsame, ih hxs, hrs]
      split
      · rfl
      · rfl

/-- **The online law.**  Splitting in two goes gives what splitting the whole gives, when the rest
    of the first goes before the second. -/
theorem split_append (a b : List α) :
    split marker (a ++ b) =
      ((split marker a).1 ++ (split marker ((split marker a).2 ++ b)).1,
        (split marker ((split marker a).2 ++ b)).2) := by
  by_cases hfew : (pieces marker a).2.length < 2
  · -- nothing is complete, all of `a` is kept back
    have ha : split marker a = ([], a) := by rw [split_eq, if_pos hfew]
    rw [ha]
    rfl
  · have hne : (pieces marker a).2 ≠ [] := by
      intro hnil
      rw [hnil] at hfew
      exact hfew Nat.zero_lt_two
    have ha : split marker a =
        ((pieces marker a).2.dropLast, (pieces marker a).2.getLastD []) := by
      rw [split_eq, if_neg hfew]
    have hdrop : 1 ≤ (pieces marker a).2.dropLast.length := by
      rw [List.length_dropLast]
      omega
    obtain ⟨y, ys, hlast, hmark⟩ := pieces_last a hne
    have hmarked : marker.isPrefixOf (y :: (ys ++ b)) = true := isPrefixOf_append hmark b
    have hkeep := pieces_marked hmarked
    have hflat := pieces_flatten marker (y :: (ys ++ b))
    rw [ha, split_eq marker (a ++ b), pieces_append b a hne,
      split_eq marker ((pieces marker a).2.getLastD [] ++ b), hlast]
    generalize (pieces marker a).2.dropLast = done at hdrop ⊢
    rw [List.cons_append]
    rw [hkeep.1, List.nil_append] at hflat
    obtain ⟨r, rs, hrs⟩ := List.exists_cons_of_ne_nil hkeep.2
    rw [hrs] at hflat ⊢
    have hmany : ¬ (done ++ r :: rs).length < 2 := by
      rw [List.length_append, List.length_cons]
      omega
    rw [if_neg hmany]
    cases rs with
    | nil =>
      -- still one piece: it is what was kept back and what came
      rw [List.flatten_cons, List.flatten_nil, List.append_nil] at hflat
      rw [if_pos (show [r].length < 2 from Nat.lt_succ_self 1), List.dropLast_concat, hflat, List.append_nil]
      refine Prod.ext rfl ?_
      show (done ++ [y :: (ys ++ b)]).getLastD [] = y :: (ys ++ b)
      rw [List.getLastD_concat]
    | cons r' rs =>
      rw [if_neg (by simp only [List.length_cons]; omega)]
      refine Prod.ext ?_ ?_
      · exact List.dropLast_append_of_ne_nil (List.cons_ne_nil _ _)
      · show (done ++ r :: r' :: rs).getLastD [] = (r :: r' :: rs).getLastD []
        rw [List.getLastD_eq_getLast?, List.getLastD_eq_getLast?, List.getLast?_append_of_ne_nil]
        exact List.cons_ne_nil _ _

/-! ## The end of the stream -/

/-- At the end of the stream what is left is a row, too. -/
def complete (marker buf : List α) : List (List α) :=
  if (split marker buf).2 = [] then (split marker buf).1
  else (split marker buf).1 ++ [(split marker buf).2]

/-- What was completed early need not be looked at again. -/
theorem complete_append (a b : List α) :
    complete marker (a ++ b) =
      (split marker a).1 ++ complete marker ((split marker a).2 ++ b) := by
  unfold complete
  rw [split_append a b]
  split
  · rfl
  · rw [List.append_assoc]

/-! ## Streams of rows -/

/-- `r` begins with the marker, and no other marker begins in it, whether the stream ends behind it
    or another marker follows. -/
structure Row (marker r : List α) : Prop where
  marked : marker <+: r
  quiet : ∀ q, q <:+ r → q ≠ [] → q.length < r.length → ¬ marker <+: q ++ marker

/-- Inside a row, up to the next marker, nothing is cut. -/
theorem pieces_inside {rest : List α} (hrest : rest = [] ∨ marker <+: rest)
    (hjunk : (pieces marker rest).1 = []) : ∀ q : List α,
    (∀ q', q' <:+ q → q' ≠ [] → ¬ marker <+: q' ++ marker) →
    pieces marker (q ++ rest) = (q, (pieces marker rest).2) := by
  intro q
  induction q with
  | nil =>
    intro _
    exact Prod.ext hjunk rfl
  | cons y q ih =>
    intro hquiet
    have hrec := ih fun q' hq' => hquiet q' (hq'.trans (List.suffix_cons y q))
    have hhere := hquiet (y :: q) (List.suffix_refl _) (List.cons_ne_nil _ _)
    have hno : ¬ marker.isPrefixOf (y :: (q ++ rest)) = true := by
      intro hmark
      apply hhere
      have hfull : marker <+: (y :: q) ++ rest := List.isPrefixOf_iff_prefix.mp hmark
      rcases hrest with rfl | ⟨t, rfl⟩
      · rw [List.append_nil] at hfull
        exact hfull.trans (List.prefix_append _ _)
      · rw [← List.append_assoc] at hfull
        refine List.prefix_of_prefix_length_le hfull (List.prefix_append _ _) ?_
        rw [List.length_append]
        omega
    rw [List.cons_append, pieces_unmarked hno, hrec]

theorem pieces_row {r rest : List α} (hr : Row marker r) (hmarker : marker ≠ [])
    (hrest : rest = [] ∨ marker <+: rest) (hjunk : (pieces marker rest).1 = []) :
    pieces marker (r ++ rest) = ([], r :: (pieces marker rest).2) := by
  cases r with
  | nil => exact absurd (List.prefix_nil.mp hr.marked) hmarker
  | cons x xs =>
    have hinside := pieces_inside hrest hjunk xs fun q' hq' hne =>
      hr.quiet q' (hq'.trans (List.suffix_cons x xs)) hne (Nat.lt_succ_of_le hq'.length_le)
    have hmark : marker.isPrefixOf (x :: (xs ++ rest)) = true :=
      isPrefixOf_append (List.isPrefixOf_iff_prefix.mpr hr.marked) rest
    rw [List.cons_append, pieces, if_pos hmark, hinside]

/-- A stream of rows is cut into its rows. -/
theorem pieces_rows (hmarker : marker ≠ []) : ∀ rows : List (List α), (∀ r ∈ rows, Row marker r) →
    pieces marker rows.flatten = ([], rows) := by
  intro rows
  induction rows with
  | nil => exact fun _ => rfl
  | cons r rows ih =>
    intro h
    have hrows := ih fun r' hr' => h r' (List.mem_cons_of_mem r hr')
    have hrest : rows.flatten = [] ∨ marker <+: rows.flatten := by
      cases rows with
      | nil => exact .inl rfl
      | cons r' rows =>
        have hr' := h r' (List.mem_cons_of_mem r List.mem_cons_self)
        exact .inr (hr'.marked.trans (List.prefix_append r' rows.flatten))
    rw [List.flatten_cons, pieces_row (h r List.mem_cons_self) hmarker hrest (by rw [hrows]), hrows]

/-- In a stream of rows the marker stands at their beginnings, and nowhere else. -/
theorem positions_rows (hmarker : marker ≠ []) {rows : List (List α)}
    (h : ∀ r ∈ rows, Row marker r) : positions marker rows.flatten = starts 0 rows := by
  rw [positions_eq, pieces_rows hmarker rows h]
  rfl

/-- The end of a stream of rows completes them all. -/
theorem complete_rows (hmarker : marker ≠ []) {rows : List (List α)}
    (h : ∀ r ∈ rows, Row marker r) : complete marker rows.flatten = rows := by
  have hsplit : split marker rows.flatten = (rows.dropLast, rows.getLastD []) := by
    rw [split_eq, pieces_rows hmarker rows h]
    rcases rows with _ | ⟨r, _ | ⟨r', rows⟩⟩
    · rfl
    · dsimp only
      rw [if_pos (show [r].length < 2 from Nat.lt_succ_self 1), List.flatten_cons, List.flatten_nil,
        List.append_nil]
      rfl
    · dsimp only
      rw [if_neg (by simp only [List.length_cons]; omega)]
  unfold complete
  rw [hsplit]
  rcases List.eq_nil_or_concat rows with rfl | ⟨front, r, rfl⟩
  · rfl
  · have hr := h r (by rw [List.concat_eq_append]; exact List.mem_append_right _ List.mem_cons_self)
    have hne : r ≠ [] := by
      rintro rfl
      exact hmarker (List.prefix_nil.mp hr.marked)
    rw [List.concat_eq_append, List.getLastD_concat, List.dropLast_concat, if_neg hne]

end RiseSun.Markers
