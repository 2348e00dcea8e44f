/-
  Reading an ordered query page by page, every page by a query of its own.

  A query sorts by a key; rows with one key may come in any order, and in another one the next time.

  1. **Pages** — `page size n` cuts page `n` (the first one is page 1) out of the rows in order.  The
     pages of ONE answer make up its beginning (`flatMap_page`).

  2. **Ranks** — `below` counts the rows with a smaller key, `upTo` those with no greater one: a row
     can stand exactly at the positions from `below` to `upTo` (`lt_countP_iff`).

  3. **Answers that differ** — if no group of one key reaches over the end of a page, every answer has
     the same rows before it (`take_perm`); if one does, two rows of it can change places
     (`exists_swap`).  `pages_perm_iff` puts the two together.
-/
import Mathlib.Data.List.Perm.Basic
import Mathlib.Data.List.Range
import Mathlib.Data.List.Sort
import Mathlib.Tactic.Common

namespace RiseSun.Paging

/-! ## Pages -/

section Pages

variable {ρ : Type}

/-- `OFFSET (n - 1) * size LIMIT size`. -/
def page (size n : Nat) (rows : List ρ) : List ρ := (rows.drop ((n - 1) * size)).take size

/-- How many pages of this size hold so many rows. -/
def pageCount (size total : Nat) : Nat := (total + size - 1) / size

theorem le_pageCount_mul {size : Nat} (hsize : 0 < size) (total : Nat) :
    total ≤ pageCount size total * size := by
  have hlt := Nat.lt_div_mul_add hsize (a := total + size - 1)
  rw [pageCount]
  omega

/-- Some pages of one answer, one after the other. -/
theorem flatMap_page (size start count : Nat) (rows : List ρ) :
    (List.range' (start + 1) count).flatMap (fun n => page size n rows) =
      (rows.drop (start * size)).take (count * size) := by
  induction count generalizing start with
  | zero => rw [Nat.zero_mul, List.take_zero]; rfl
  | succ count ih =>
    rw [List.range'_succ, List.flatMap_cons, ih (start + 1), page, Nat.add_sub_cancel,
      Nat.succ_mul start size, ← List.drop_drop, Nat.succ_mul count size, Nat.add_comm (count * size),
      ← List.take_add]

/-- The first pages of one answer, the others of another one. -/
theorem flatMap_page_two {size cut count : Nat} {rows rows' : List ρ} (hcut : cut ≤ count)
    (hall : rows'.length ≤ count * size) :
    (List.range' 1 count).flatMap (fun n => page size n (if n ≤ cut then rows else rows')) =
      rows.take (cut * size) ++ rows'.drop (cut * size) := by
  obtain ⟨more, rfl⟩ := Nat.exists_eq_add_of_le hcut
  have hfirst : (List.range' 1 cut).flatMap
      (fun n => page size n (if n ≤ cut then rows else rows')) = rows.take (cut * size) := by
    rw [List.flatMap_congr (g := fun n => page size n rows) fun n hn => ?_, flatMap_page size 0,
      Nat.zero_mul, List.drop_zero]
    have hlt := (List.mem_range'_1.mp hn).2
    rw [if_pos (by omega)]
  have hlast : (List.range' (cut + 1) more).flatMap
      (fun n => page size n (if n ≤ cut then rows else rows')) = rows'.drop (cut * size) := by
    rw [List.flatMap_congr (g := fun n => page size n rows') fun n hn => ?_, flatMap_page size cut,
      List.take_of_length_le]
    · rw [List.length_drop]
      rw [Nat.add_mul] at hall
      omega
    · have hge := (List.mem_range'_1.mp hn).1
      rw [if_neg (by omega)]
  rw [← List.range'_append_1, List.flatMap_append, Nat.add_comm 1, hfirst, hlast]

/-- The end of a page is where the rows before it are taken off. -/
theorem page_perm {size n : Nat} {rows rows' : List ρ}
    (hbefore : (rows.take (n * size)).Perm (rows'.take (n * size)))
    (hafter : (rows.take ((n + 1) * size)).Perm (rows'.take ((n + 1) * size))) :
    (page size (n + 1) rows).Perm (page size (n + 1) rows') := by
  rw [Nat.succ_mul, List.take_add, List.take_add] at hafter
  exact (List.perm_append_left_iff _).mp ((hbefore.symm.append_right _).trans hafter)

end Pages

/-! ## Ranks -/

section Ranks

variable {ρ κ : Type} [LinearOrder κ] (key : ρ → κ)

/-- An answer of the database: the rows, sorted by the key. -/
structure Ordered (rows answer : List ρ) : Prop where
  perm : answer.Perm rows
  sorted : answer.Pairwise fun a b => key a ≤ key b

/-- How many rows have a smaller key. -/
def below (rows : List ρ) (k : κ) : Nat := rows.countP fun r => key r < k

/-- How many have no greater one. -/
def upTo (rows : List ρ) (k : κ) : Nat := rows.countP fun r => key r ≤ k

/-- No group of rows with one key reaches over the end of a page. -/
def GroupsFit (size : Nat) (rows : List ρ) : Prop :=
  ∀ r ∈ rows, ∀ n, n * size ≤ below key rows (key r) ∨ upTo key rows (key r) ≤ n * size

variable {key}

/-- Where a property only gets lost along a list, its rows are the front of it. -/
theorem lt_countP_iff {p : ρ → Bool} {front back : List ρ} {r : ρ}
    (hdown : (front ++ r :: back).Pairwise fun a b => p b = true → p a = true) :
    front.length < (front ++ r :: back).countP p ↔ p r = true := by
  obtain ⟨-, hback, hfront⟩ := List.pairwise_append.mp hdown
  obtain ⟨hlater, -⟩ := List.pairwise_cons.mp hback
  rw [List.countP_append]
  constructor
  · intro hlt
    by_contra hr
    have hnone : (r :: back).countP p = 0 := List.countP_eq_zero.mpr fun b hb => by
      rcases List.mem_cons.mp hb with rfl | hb
      · exact hr
      · exact fun hpb => hr (hlater b hb hpb)
    have hle : front.countP p ≤ front.length := List.countP_le_length
    omega
  · intro hr
    have hall : front.countP p = front.length :=
      List.countP_eq_length.mpr fun a ha => hfront a ha r (List.mem_cons_self ..) hr
    rw [hall, List.countP_cons_of_pos hr]
    omega

section Answer

variable {answer front back : List ρ} {r : ρ} {k : κ}

theorem lt_below_iff (hsorted : (front ++ r :: back).Pairwise fun a b => key a ≤ key b) :
    front.length < below key (front ++ r :: back) k ↔ key r < k := by
  rw [below, lt_countP_iff, decide_eq_true_iff]
  exact hsorted.imp fun hle hb => decide_eq_true (hle.trans_lt (of_decide_eq_true hb))

theorem lt_upTo_iff (hsorted : (front ++ r :: back).Pairwise fun a b => key a ≤ key b) :
    front.length < upTo key (front ++ r :: back) k ↔ key r ≤ k := by
  rw [upTo, lt_countP_iff, decide_eq_true_iff]
  exact hsorted.imp fun hle hb => decide_eq_true (hle.trans (of_decide_eq_true hb))

/-- A cut that goes through no group: what stands before it is told by the keys. -/
theorem take_eq_filter {cut : Nat} (hsorted : answer.Pairwise fun a b => key a ≤ key b)
    (hcut : ∀ r ∈ answer, cut ≤ below key answer (key r) ∨ upTo key answer (key r) ≤ cut) :
    answer.take cut = answer.filter fun r => upTo key answer (key r) ≤ cut := by
  have hsplit : answer.filter (fun r => upTo key answer (key r) ≤ cut) =
      (answer.take cut).filter (fun r => upTo key answer (key r) ≤ cut) ++
        (answer.drop cut).filter fun r => upTo key answer (key r) ≤ cut := by
    rw [← List.filter_append, List.take_append_drop]
  have htake : (answer.take cut).filter (fun r => upTo key answer (key r) ≤ cut) = answer.take cut := by
    refine List.filter_eq_self.mpr fun r hr => decide_eq_true ?_
    obtain ⟨i, hi, rfl⟩ := List.mem_iff_getElem.mp hr
    rw [List.length_take] at hi
    rw [List.getElem_take]
    have hmem : answer[i] ∈ answer := List.getElem_mem _
    refine (hcut _ hmem).resolve_left fun hle => ?_
    -- a row stands no further in front than its group
    have hat : answer = answer.take i ++ answer[i] :: answer.drop (i + 1) := by
      rw [← List.drop_eq_getElem_cons, List.take_append_drop]
    have hrank := lt_below_iff (k := key answer[i]) (hat ▸ hsorted)
    rw [← hat, List.length_take] at hrank
    exact absurd (hrank.mp (by omega)) (lt_irrefl _)
  have hdrop : (answer.drop cut).filter (fun r => upTo key answer (key r) ≤ cut) = [] := by
    refine List.filter_eq_nil_iff.mpr fun r hr hle => ?_
    obtain ⟨i, hi, rfl⟩ := List.mem_iff_getElem.mp hr
    rw [List.length_drop] at hi
    rw [List.getElem_drop] at hle
    have hat : answer = answer.take (cut + i) ++ answer[cut + i] :: answer.drop (cut + i + 1) := by
      rw [← List.drop_eq_getElem_cons, List.take_append_drop]
    have hrank := lt_upTo_iff (k := key answer[cut + i]) (hat ▸ hsorted)
    rw [← hat, List.length_take] at hrank
    have hle := of_decide_eq_true hle
    have hlt := hrank.mpr le_rfl
    omega
  rw [hsplit, htake, hdrop, List.append_nil]

end Answer

/-! ## Answers that differ -/

theorem GroupsFit.of_perm {size : Nat} {rows answer : List ρ} (h : GroupsFit key size rows)
    (hperm : answer.Perm rows) : GroupsFit key size answer := by
  intro r hr n
  rw [below, upTo, hperm.countP_eq, hperm.countP_eq]
  exact h r (hperm.subset hr) n

/-- Every answer has the same rows before the end of a page. -/
theorem take_perm {size : Nat} {rows answer other : List ρ} (hfit : GroupsFit key size rows)
    (hanswer : Ordered key rows answer) (hother : Ordered key rows other) (n : Nat) :
    (answer.take (n * size)).Perm (other.take (n * size)) := by
  rw [take_eq_filter hanswer.sorted fun r hr => hfit.of_perm hanswer.perm r hr n,
    take_eq_filter hother.sorted fun r hr => hfit.of_perm hother.perm r hr n]
  have hsame : ∀ k, upTo key answer k = upTo key other k := fun k =>
    (hanswer.perm.countP_eq _).trans (hother.perm.countP_eq _).symm
  simp only [hsame]
  exact (hanswer.perm.trans hother.perm.symm).filter _

theorem exists_ordered (key : ρ → κ) (rows : List ρ) : ∃ answer, Ordered key rows answer := by
  refine ⟨rows.mergeSort fun a b => key a ≤ key b, List.mergeSort_perm _ _, ?_⟩
  refine (List.pairwise_mergeSort (fun a b c hab hbc => ?_) (fun a b => ?_) rows).imp of_decide_eq_true
  · exact decide_eq_true ((of_decide_eq_true hab).trans (of_decide_eq_true hbc))
  · rw [Bool.or_eq_true, decide_eq_true_iff, decide_eq_true_iff]
    exact le_total _ _

/-- A group that reaches over a cut: two rows of it stand on its two sides, in either order. -/
theorem exists_swap {rows : List ρ} {k : κ} {cut : Nat} (hlt : below key rows k < cut)
    (hgt : cut < upTo key rows k) : ∃ front a b back, front.length + 1 = cut ∧
      Ordered key rows (front ++ a :: b :: back) ∧ Ordered key rows (front ++ b :: a :: back) := by
  obtain ⟨answer, hperm, hsorted⟩ := exists_ordered key rows
  obtain ⟨cut, rfl⟩ : ∃ n, cut = n + 1 := ⟨cut - 1, by omega⟩
  rw [below, ← hperm.countP_eq] at hlt
  rw [upTo, ← hperm.countP_eq] at hgt
  have hlen : answer.countP (fun r => key r ≤ k) ≤ answer.length := List.countP_le_length
  obtain ⟨front, a, b, back, rfl, hfront⟩ : ∃ front a b back, answer = front ++ a :: b :: back ∧
      front.length = cut := by
    refine ⟨answer.take cut, answer[cut], answer[cut + 1], answer.drop (cut + 2), ?_, ?_⟩
    · rw [← List.drop_eq_getElem_cons, ← List.drop_eq_getElem_cons, List.take_append_drop]
    · rw [List.length_take]
      omega
  -- the first of the two is not in front of the group, the second one is not behind it
  have hge : k ≤ key a := not_lt.mp fun hlt' => by
    have hrank := (lt_below_iff hsorted).mpr hlt'
    rw [below] at hrank
    omega
  have hle : key b ≤ k := by
    have hassoc : front ++ a :: b :: back = (front ++ [a]) ++ b :: back := by simp
    rw [hassoc] at hsorted hgt
    refine (lt_upTo_iff hsorted).mp ?_
    rw [List.length_append, List.length_singleton, upTo, hfront]
    exact hgt
  refine ⟨front, a, b, back, by rw [hfront], ⟨hperm, hsorted⟩, ?_, ?_⟩
  · exact ((List.Perm.swap a b back).append_left front).trans hperm
  · simp only [List.pairwise_append, List.pairwise_cons, List.mem_cons] at hsorted ⊢
    grind

/-- The pages hold every row once, whatever the answers, iff no group reaches over a page's end. -/
theorem pages_perm_iff {size : Nat} (hsize : 0 < size) {rows : List ρ} (hnodup : rows.Nodup) :
    (∀ answers : Nat → List ρ, (∀ n, Ordered key rows (answers n)) →
      ((List.range' 1 (pageCount size rows.length)).flatMap fun n => page size n (answers n)).Perm
        rows) ↔ GroupsFit key size rows := by
  have hall := le_pageCount_mul hsize rows.length
  constructor
  · intro hpages r hr n
    by_contra hreach
    rw [not_or, not_le, not_le] at hreach
    obtain ⟨front, a, b, back, hfront, hab, hba⟩ := exists_swap hreach.1 hreach.2
    have hcount : n ≤ pageCount size rows.length := by
      have hle : upTo key rows (key r) ≤ rows.length := List.countP_le_length
      exact Nat.le_of_mul_le_mul_right (by omega) hsize
    -- the pages up to the cut in one order, those after it in the other
    have hperm := hpages (fun m => if m ≤ n then front ++ a :: b :: back else front ++ b :: a :: back)
      fun m => by split <;> assumption
    have hlen : (front ++ b :: a :: back).length = rows.length := hba.perm.length_eq
    rw [flatMap_page_two hcount (hlen ▸ hall), ← hfront] at hperm
    have htake : (front ++ a :: b :: back).take (front.length + 1) = front ++ [a] := by
      rw [List.take_length_add_append]; rfl
    have hdrop : (front ++ b :: a :: back).drop (front.length + 1) = a :: back := by
      rw [List.drop_length_add_append]; rfl
    rw [htake, hdrop, List.append_assoc, List.singleton_append] at hperm
    have hsame := (List.perm_append_left_iff _).mp (hperm.trans hab.perm.symm)
    have hsingle : (a :: back).Perm (b :: back) := (List.perm_cons a).mp hsame
    have hdistinct := (List.nodup_append.mp (hab.perm.nodup_iff.mpr hnodup)).2.1
    exact (List.nodup_cons.mp hdistinct).1 (hsingle.subset (List.mem_cons_self ..))
  · intro hfit answers hanswers
    have hpage : ∀ n ∈ List.range' 1 (pageCount size rows.length),
        (page size n (answers n)).Perm (page size n (answers 0)) := by
      intro n hn
      obtain ⟨m, rfl⟩ : ∃ m, n = m + 1 := ⟨n - 1, by have := (List.mem_range'_1.mp hn).1; omega⟩
      exact page_perm (take_perm hfit (hanswers _) (hanswers 0) m)
        (take_perm hfit (hanswers _) (hanswers 0) (m + 1))
    refine (List.Perm.flatMap_left _ hpage).trans ?_
    rw [flatMap_page size 0, Nat.zero_mul, List.drop_zero, List.take_of_length_le]
    · exact (hanswers 0).perm
    · rw [(hanswers 0).perm.length_eq]
      exact hall

end Ranks

end RiseSun.Paging
