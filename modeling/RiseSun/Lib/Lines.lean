/-
  Splitting a text at a separator of two characters, as `text.split(sep)` does: from the left, the
  separators dropped, what stands behind the last one kept.

  A line that does not contain the first character of the separator comes out as it went in, whether
  the separator follows it (`splitPair_line`) or the text ends in the middle (`splitPair_last`,
  `splitPair_half`).  A run of characters of one kind ends where another begins (`run_stops`), and
  stripping takes off the blanks behind a text (`strip_blanks`).
-/
import Mathlib.Data.List.Basic
import Mathlib.Data.List.DropRight

namespace RiseSun

variable {α : Type}

/-- A run of characters ends at the first that does not belong to it. -/
theorem run_stops {p : α → Bool} {run : List α} {x : α} (h : ∀ c ∈ run, p c = true)
    (hx : p x = false) (rest : List α) :
    (run ++ x :: rest).takeWhile p = run ∧ (run ++ x :: rest).dropWhile p = x :: rest := by
  have hstop : ¬ p x = true := ne_true_of_eq_false hx
  rw [List.takeWhile_append_of_pos h, List.dropWhile_append_of_pos h,
    List.takeWhile_cons_of_neg hstop, List.dropWhile_cons_of_neg hstop, List.append_nil]
  exact ⟨rfl, rfl⟩

theorem rdropWhile_append {p : α → Bool} {blanks : List α} (h : ∀ c ∈ blanks, p c = true)
    (text : List α) : (text ++ blanks).rdropWhile p = text.rdropWhile p := by
  induction blanks using List.reverseRecOn with
  | nil => rw [List.append_nil]
  | append_singleton blanks blank ih =>
    rw [← List.append_assoc, List.rdropWhile_concat_pos _ _ _ (h blank (by simp))]
    exact ih fun c hc => h c (List.mem_append_left _ hc)

/-- Blanks behind a text are stripped, and nothing else. -/
theorem strip_blanks {p : α → Bool} {text blanks : List α} (hne : text ≠ [])
    (hfirst : p (text.head hne) = false) (hlast : p (text.getLast hne) = false)
    (h : ∀ c ∈ blanks, p c = true) : ((text ++ blanks).dropWhile p).rdropWhile p = text := by
  have hdrop : (text ++ blanks).dropWhile p = text ++ blanks := by
    cases text with
    | nil => exact absurd rfl hne
    | cons c cs =>
      exact List.dropWhile_cons_of_neg (ne_true_of_eq_false hfirst)
  rw [hdrop, rdropWhile_append h, List.rdropWhile_eq_self_iff]
  exact fun _ => ne_true_of_eq_false hlast

/-- Put a character in front of the first line. -/
def consHead (x : α) : List (List α) → List (List α)
  | [] => [[x]]
  | line :: lines => (x :: line) :: lines

variable [DecidableEq α] {a b : α}

/-- `text.split(sep)` for the separator `a`, `b`. -/
def splitPair (a b : α) : List α → List (List α)
  | [] => [[]]
  | [x] => [[x]]
  | x :: y :: rest =>
    if x = a ∧ y = b then [] :: splitPair a b rest
    else consHead x (splitPair a b (y :: rest))

theorem splitPair_cons {x : α} (hx : x ≠ a) (text : List α) :
    splitPair a b (x :: text) = consHead x (splitPair a b text) := by
  cases text with
  | nil => rfl
  | cons y rest => rw [splitPair, if_neg fun h => hx h.1]

theorem splitPair_line {line : List α} (h : a ∉ line) (rest : List α) :
    splitPair a b (line ++ a :: b :: rest) = line :: splitPair a b rest := by
  induction line with
  | nil => rw [List.nil_append, splitPair, if_pos ⟨rfl, rfl⟩]
  | cons x line ih =>
    rw [List.mem_cons, not_or] at h
    rw [List.cons_append, splitPair_cons (Ne.symm h.1), ih h.2]
    rfl

theorem splitPair_last {line : List α} (h : a ∉ line) : splitPair a b line = [line] := by
  induction line with
  | nil => rfl
  | cons x line ih =>
    rw [List.mem_cons, not_or] at h
    rw [splitPair_cons (Ne.symm h.1), ih h.2]
    rfl

/-- The first half of a separator at the end of a line is part of that line. -/
theorem splitPair_half {line : List α} (h : a ∉ line) :
    splitPair a b (line ++ [a]) = [line ++ [a]] := by
  induction line with
  | nil => rfl
  | cons x line ih =>
    rw [List.mem_cons, not_or] at h
    rw [List.cons_append, splitPair_cons (Ne.symm h.1), ih h.2]
    rfl

end RiseSun
