/-
  Computations that do the same on related states.

  1. **`Relates O R x y`** — from states related by `R`, the outcomes of `x` and `y` are related by
     `O` and they leave related states, whether they return or raise.  **`Simulates R x y`** is the
     case of equal outcomes.

  2. **`runEach`** — computations one after the other, each tried: the outcomes, and the state behind
     the last one.  `runEach_relates` is the induction over a run.
-/
import Mathlib.Data.List.Forall2
import RiseSun.Lib.Proc

namespace RiseSun.Proc

variable {ε σ τ α : Type}

/-- From related states the outcomes are related and the states left are related. -/
def Relates (O : Except ε α → Except ε α → Prop) (R : σ → τ → Prop) (x : Proc ε σ α)
    (y : Proc ε τ α) : Prop :=
  ∀ s t, R s t → O (x s).1 (y t).1 ∧ R (x s).2 (y t).2

/-- From related states the outcomes are equal and the states left are related. -/
def Simulates (R : σ → τ → Prop) (x : Proc ε σ α) (y : Proc ε τ α) : Prop := Relates Eq R x y

/-- Programs are related if for each pair of related states there is a pair of runs with related
    results. -/
theorem Relates.of_runs {O : Except ε α → Except ε α → Prop} {R : σ → τ → Prop} {x : Proc ε σ α}
    {y : Proc ε τ α}
    (h : ∀ s t, R s t → ∃ r r' s' t', x s = (r, s') ∧ y t = (r', t') ∧ O r r' ∧ R s' t') :
    Relates O R x y := by
  intro s t hR
  obtain ⟨r, r', s', t', hx, hy, hO, hR'⟩ := h s t hR
  rw [hx, hy]
  exact ⟨hO, hR'⟩

/-- A program simulates another if from related states both end in one outcome and related states.
    -/
theorem Simulates.of_runs {R : σ → τ → Prop} {x : Proc ε σ α} {y : Proc ε τ α}
    (h : ∀ s t, R s t → ∃ r s' t', x s = (r, s') ∧ y t = (r, t') ∧ R s' t') : Simulates R x y :=
  Relates.of_runs fun s t hR =>
    let ⟨r, s', t', hx, hy, hR'⟩ := h s t hR
    ⟨r, r, s', t', hx, hy, rfl, hR'⟩

/-- Each computation is run whatever became of those before it. -/
def runEach : List (Proc ε σ α) → σ → List (Except ε α) × σ
  | [], s => ([], s)
  | x :: xs, s => ((x s).1 :: (runEach xs (x s).2).1, (runEach xs (x s).2).2)

/-- Runs of related computations have related outcomes, one by one. -/
theorem runEach_relates {O : Except ε α → Except ε α → Prop} {R : σ → τ → Prop}
    {xs : List (Proc ε σ α)} {ys : List (Proc ε τ α)} (h : List.Forall₂ (Relates O R) xs ys) :
    ∀ {s : σ} {t : τ}, R s t →
      List.Forall₂ O (runEach xs s).1 (runEach ys t).1 ∧ R (runEach xs s).2 (runEach ys t).2 := by
  induction h with
  | nil =>
    intro s t hR
    exact ⟨.nil, hR⟩
  | cons hxy _ ih =>
    intro s t hR
    obtain ⟨hout, hR'⟩ := hxy s t hR
    obtain ⟨houts, hR''⟩ := ih hR'
    exact ⟨.cons hout houts, hR''⟩

/-- Runs of computations that simulate each other have the same outcomes. -/
theorem runEach_simulates {R : σ → τ → Prop} {xs : List (Proc ε σ α)} {ys : List (Proc ε τ α)}
    (h : List.Forall₂ (Simulates R) xs ys) {s : σ} {t : τ} (hR : R s t) :
    (runEach xs s).1 = (runEach ys t).1 ∧ R (runEach xs s).2 (runEach ys t).2 := by
  obtain ⟨houts, hR'⟩ := runEach_relates h hR
  exact ⟨List.forall₂_eq_eq_eq ▸ houts, hR'⟩

/-- Every outcome of a run is one of its computation, from some state. -/
theorem mem_zip_runEach {β : Type} {f : β → Proc ε σ α} : ∀ (bs : List β) (s : σ),
    ∀ p ∈ bs.zip (runEach (bs.map f) s).1, ∃ s', p.2 = (f p.1 s').1 := by
  intro bs
  induction bs with
  | nil =>
    intro s p hp
    cases hp
  | cons b bs ih =>
    intro s p hp
    rcases List.mem_cons.mp (show p ∈ (b, (f b s).1) :: bs.zip _ from hp) with rfl | hp
    · exact ⟨s, rfl⟩
    · exact ih _ p hp

/-- Computations that change nothing are left out of a run: the others do not notice. -/
theorem runEach_filter {β : Type} {f : β → Proc ε σ α} {keep : β → Bool}
    (h : ∀ b, ¬ keep b = true → ∀ s, (f b s).2 = s) : ∀ (bs : List β) (s : σ),
      (runEach ((bs.filter keep).map f) s).2 = (runEach (bs.map f) s).2 ∧
        (runEach ((bs.filter keep).map f) s).1 =
          ((bs.zip (runEach (bs.map f) s).1).filter fun p => keep p.1).map Prod.snd := by
  intro bs
  induction bs with
  | nil =>
    intro s
    exact ⟨rfl, rfl⟩
  | cons b bs ih =>
    intro s
    obtain ⟨hstate, houts⟩ := ih (f b s).2
    by_cases hb : keep b = true
    · rw [List.filter_cons_of_pos hb]
      refine ⟨hstate, ?_⟩
      show (f b s).1 :: _ = (List.filter _ ((b, (f b s).1) :: _)).map Prod.snd
      rw [List.filter_cons_of_pos (by exact hb), List.map_cons, houts]
      rfl
    · rw [h b hb s] at hstate houts
      rw [List.filter_cons_of_neg hb, hstate, houts]
      refine ⟨by rw [List.map_cons, runEach, h b hb s], ?_⟩
      show _ = (List.filter _ ((b, (f b s).1) :: bs.zip (runEach (bs.map f) (f b s).2).1)).map _
      rw [List.filter_cons_of_neg (by exact hb), h b hb s]

end RiseSun.Proc
