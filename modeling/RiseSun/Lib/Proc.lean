/-
  Computations over a state that can raise: `Proc ε σ α := σ → Except ε α × σ`.

  The state SURVIVES a raise (the order of the two effects that an imperative program with
  exceptions has), so a handler sees what the failed part already did.  Provided are:

  * the monad structure, with `raise`, `lift` (a pure result), `attempt` (try/except: the result
    of the tried part becomes a value) and `modify`;
  * run rules `bind_ok` / `bind_error`, used forwards: what the first part did is known;
  * inversion rules `bind_eq_ok` / `bind_eq_error`, used backwards: the composite is known;
  * `Alike`, two computations that differ in their outcomes only, and not beyond a relation;
  * `Keeps`, what a computation leaves true however it ends, and `Mirrors`, a computation that does
    on a richer state what another does on a part of it;
  * `Spends`, an account of a resource that computations use up, built up along the binds.
-/

namespace RiseSun

/-! ## Results without state -/

namespace Result

variable {ε α β : Type}

@[simp] theorem ok_bind (a : α) (f : α → Except ε β) : (Except.ok a >>= f) = f a := rfl

@[simp] theorem error_bind (e : ε) (f : α → Except ε β) :
    ((Except.error e : Except ε α) >>= f) = .error e := rfl

@[simp] theorem ok_map (a : α) (f : α → β) : (Except.ok a : Except ε α).map f = .ok (f a) := rfl

@[simp] theorem error_map (e : ε) (f : α → β) :
    (Except.error e : Except ε α).map f = .error e := rfl

/-- A composite that returns has returned from its first part and from its second. -/
theorem bind_eq_ok {x : Except ε α} {f : α → Except ε β} {b : β} (h : (x >>= f) = .ok b) :
    ∃ a, x = .ok a ∧ f a = .ok b := by
  cases x with
  | error e => cases h
  | ok a => exact ⟨a, rfl, h⟩

/-- A composite raises in its first part or in what follows it. -/
theorem bind_eq_error {x : Except ε α} {f : α → Except ε β} {e : ε} (h : (x >>= f) = .error e) :
    x = .error e ∨ ∃ a, x = .ok a ∧ f a = .error e := by
  cases x with
  | error e' =>
    cases h
    exact .inl rfl
  | ok a => exact .inr ⟨a, rfl, h⟩

end Result

/-- A computation over the state `σ` that returns an `α` or raises an `ε`. -/
def Proc (ε σ α : Type) : Type := σ → Except ε α × σ

namespace Proc

variable {ε ε' σ α β : Type}

/-- Run `x`, then hand its result to `f`; a raise of `x` skips `f`. -/
def bind (x : Proc ε σ α) (f : α → Proc ε σ β) : Proc ε σ β := fun s =>
  match x s with
  | (.ok a, s') => f a s'
  | (.error e, s') => (.error e, s')

instance : Monad (Proc ε σ) where
  pure a := fun s => (.ok a, s)
  bind := bind

/-- Raise `e`, leaving the state alone. -/
def raise (e : ε) : Proc ε σ α := fun s => (.error e, s)

/-- A result that does not touch the state. -/
def lift (r : Except ε α) : Proc ε σ α := fun s => (r, s)

/-- Run `x` and return its outcome as a value: the `try` of an imperative program. -/
def attempt (x : Proc ε σ α) : Proc ε' σ (Except ε α) := fun s =>
  match x s with
  | (r, s') => (.ok r, s')

/-- Change the state. -/
def modify (f : σ → σ) : Proc ε σ Unit := fun s => (.ok (), f s)

/-- Read the state. -/
def gets (f : σ → α) : Proc ε σ α := fun s => (.ok (f s), s)

/-! ## Running -/

@[simp] theorem pure_run (a : α) (s : σ) : (pure a : Proc ε σ α) s = (.ok a, s) := rfl

@[simp] theorem raise_run (e : ε) (s : σ) : (raise e : Proc ε σ α) s = (.error e, s) := rfl

@[simp] theorem lift_run (r : Except ε α) (s : σ) : (lift r : Proc ε σ α) s = (r, s) := rfl

@[simp] theorem modify_run (f : σ → σ) (s : σ) :
    (modify f : Proc ε σ Unit) s = (.ok (), f s) := rfl

@[simp] theorem gets_run (f : σ → α) (s : σ) : (gets f : Proc ε σ α) s = (.ok (f s), s) := rfl

/-- A run is its outcome and the state it leaves. -/
theorem run_eq {x : Proc ε σ α} {s : σ} {r : Except ε α} (h : (x s).1 = r) :
    x s = (r, (x s).2) :=
  Prod.ext h rfl

/-- `attempt` never raises: whatever `x` ends with, an exception included, comes back as a value,
    and the state is the one `x` left. -/
theorem attempt_run {x : Proc ε σ α} {s s' : σ} {r : Except ε α} (h : x s = (r, s')) :
    (attempt x : Proc ε' σ (Except ε α)) s = (.ok r, s') := by
  simp only [attempt, h]

/-- Sequencing behind a computation that returned: the rest runs from the state it left, with the
    value it returned. -/
theorem bind_ok {x : Proc ε σ α} {f : α → Proc ε σ β} {s s' : σ} {a : α}
    (h : x s = (.ok a, s')) : (x >>= f) s = f a s' := by
  show bind x f s = f a s'
  simp only [bind, h]

/-- Sequencing behind a computation that raised: the rest does not run, and neither the exception
    nor the state is touched. -/
theorem bind_error {x : Proc ε σ α} {f : α → Proc ε σ β} {s s' : σ} {e : ε}
    (h : x s = (.error e, s')) : (x >>= f) s = (.error e, s') := by
  show bind x f s = (.error e, s')
  simp only [bind, h]

/-- Computations that run alike run alike in front of the same handler. -/
theorem bind_same_run {x y : Proc ε σ α} {s t : σ} (h : x s = y t) (f : α → Proc ε σ β) :
    (x >>= f) s = (y >>= f) t := by
  show bind x f s = bind y f t
  simp only [bind, h]

@[simp] theorem pure_bind_run (a : α) (f : α → Proc ε σ β) (s : σ) :
    ((pure a : Proc ε σ α) >>= f) s = f a s := rfl

@[simp] theorem lift_ok_bind_run (a : α) (f : α → Proc ε σ β) (s : σ) :
    ((lift (.ok a) : Proc ε σ α) >>= f) s = f a s := rfl

@[simp] theorem lift_error_bind_run (e : ε) (f : α → Proc ε σ β) (s : σ) :
    ((lift (.error e) : Proc ε σ α) >>= f) s = (.error e, s) := rfl

@[simp] theorem modify_bind_run (g : σ → σ) (f : Unit → Proc ε σ β) (s : σ) :
    ((modify g : Proc ε σ Unit) >>= f) s = f () (g s) := rfl

@[simp] theorem gets_bind_run (g : σ → α) (f : α → Proc ε σ β) (s : σ) :
    ((gets g : Proc ε σ α) >>= f) s = f (g s) s := rfl

/-- Running a tried part: the handler gets the outcome and the state the part left. -/
theorem attempt_bind_run (x : Proc ε' σ α) (f : Except ε' α → Proc ε σ β) (s : σ) :
    ((attempt x : Proc ε σ (Except ε' α)) >>= f) s = f (x s).1 (x s).2 := by
  show bind (attempt x) f s = _
  rcases h : x s with ⟨r, s'⟩
  simp only [bind, attempt, h]

/-- Two continuations that agree where the first part can leave the state give the same run. -/
theorem bind_congr_run {x : Proc ε σ α} {f g : α → Proc ε σ β} {s : σ}
    (h : ∀ a s', x s = (.ok a, s') → f a s' = g a s') : (x >>= f) s = (x >>= g) s := by
  rcases hx : x s with ⟨r, s'⟩
  cases r with
  | ok a =>
    rw [bind_ok hx, bind_ok hx]
    exact h a s' hx
  | error e => rw [bind_error hx, bind_error hx]

/-- Composition is associative, so that a program may be regrouped. -/
theorem bind_assoc_run {γ : Type} (x : Proc ε σ α) (f : α → Proc ε σ β) (g : β → Proc ε σ γ)
    (s : σ) : ((x >>= f) >>= g) s = (x >>= fun a => f a >>= g) s := by
  rcases hx : x s with ⟨e | a, s'⟩
  · rw [bind_error hx, bind_error (bind_error hx)]
  · rw [bind_ok hx]
    rcases hf : f a s' with ⟨e | b, s''⟩
    · rw [bind_error hf, bind_error ((bind_ok hx).trans hf)]
    · rw [bind_ok hf, bind_ok ((bind_ok hx).trans hf)]

/-! ## Generators

  A generator is a computation whose state also holds what it has yielded so far.  What it yielded
  before it raised is still there afterwards. -/

variable {ρ : Type}

/-- A part of a generator that yields nothing. -/
def within (x : Proc ε σ α) : Proc ε (σ × List ρ) α := fun s => ((x s.1).1, ((x s.1).2, s.2))

/-- Yield `xs`, one after the other. -/
def emit (xs : List ρ) : Proc ε (σ × List ρ) Unit := fun s => (.ok (), (s.1, s.2 ++ xs))

/-- Run a generator to its end: what it yielded, and how it ended. -/
def collect (x : Proc ε (σ × List ρ) α) : Proc ε' σ (List ρ × Except ε α) := fun s =>
  (.ok ((x (s, [])).2.2, (x (s, [])).1), (x (s, [])).2.1)

/-- A computation that yields nothing runs inside a generator as it runs alone, and the rows yielded
    so far stay as they are. -/
theorem within_run {x : Proc ε σ α} {s s' : σ} {r : Except ε α} (h : x s = (r, s'))
    (ys : List ρ) : (within x : Proc ε (σ × List ρ) α) (s, ys) = (r, (s', ys)) := by
  simp only [within, h]

@[simp] theorem emit_run (xs ys : List ρ) (s : σ) :
    (emit xs : Proc ε (σ × List ρ) Unit) (s, ys) = (.ok (), (s, ys ++ xs)) := rfl

@[simp] theorem emit_bind_run (xs ys : List ρ) (f : Unit → Proc ε (σ × List ρ) β) (s : σ) :
    ((emit xs : Proc ε (σ × List ρ) Unit) >>= f) (s, ys) = f () (s, ys ++ xs) := rfl

/-- Draining a generator from no rows on gives its rows and its end together, so a consumer can look
    at both. -/
theorem collect_run {x : Proc ε (σ × List ρ) α} {s s' : σ} {ys : List ρ} {r : Except ε α}
    (h : x (s, []) = (r, (s', ys))) :
    (collect x : Proc ε' σ (List ρ × Except ε α)) s = (.ok (ys, r), s') := by
  simp only [collect, h]

/-! ## Inversion -/

/-- A composite returns iff both parts do. -/
theorem bind_eq_ok {x : Proc ε σ α} {f : α → Proc ε σ β} {s t : σ} {b : β} :
    (x >>= f) s = (.ok b, t) ↔ ∃ a s', x s = (.ok a, s') ∧ f a s' = (.ok b, t) := by
  rcases h : x s with ⟨r, s'⟩
  cases r with
  | ok a =>
    rw [bind_ok h]
    constructor
    · intro hf
      exact ⟨a, s', rfl, hf⟩
    · rintro ⟨a', s'', heq, hf⟩
      cases heq
      exact hf
  | error e =>
    rw [bind_error h]
    constructor
    · intro hf
      cases hf
    · rintro ⟨a', s'', heq, -⟩
      cases heq

/-- A composite that starts with a pure result returns only if that is one. -/
theorem lift_bind_eq_ok {r : Except ε α} {f : α → Proc ε σ β} {s t : σ} {b : β}
    (h : (lift r >>= f) s = (.ok b, t)) : ∃ a, r = .ok a ∧ f a s = (.ok b, t) := by
  cases r with
  | error e => cases h
  | ok a => exact ⟨a, rfl, h⟩

/-- A composite raises iff the first part does, or the second after the first returned. -/
theorem bind_eq_error {x : Proc ε σ α} {f : α → Proc ε σ β} {s t : σ} {e : ε} :
    (x >>= f) s = (.error e, t) ↔
      x s = (.error e, t) ∨ ∃ a s', x s = (.ok a, s') ∧ f a s' = (.error e, t) := by
  rcases h : x s with ⟨r, s'⟩
  cases r with
  | ok a =>
    rw [bind_ok h]
    constructor
    · intro hf
      exact Or.inr ⟨a, s', rfl, hf⟩
    · rintro (heq | ⟨a', s'', heq, hf⟩)
      · cases heq
      · cases heq
        exact hf
  | error e' =>
    rw [bind_error h]
    constructor
    · intro hf
      cases hf
      exact Or.inl rfl
    · rintro (heq | ⟨a', s'', heq, -⟩)
      · cases heq
        rfl
      · cases heq

/-! ## Which exceptions come out

  `RaisesOnly P x s`: if `x`, started in `s`, raises, then it raises something that `P` allows.
  The rules are equivalences, so a handler that catches `P` and nothing else is judged exactly. -/

def RaisesOnly (P : ε → Prop) (x : Proc ε σ α) (s : σ) : Prop :=
  ∀ e s', x s = (.error e, s') → P e

variable {P : ε → Prop}

/-- A computation that returned has raised nothing, so it raises only what is wanted, whatever that
    is. -/
theorem raisesOnly_of_ok {x : Proc ε σ α} {s s' : σ} {a : α} (h : x s = (.ok a, s')) :
    RaisesOnly P x s := by
  intro e s'' he
  rw [h] at he
  cases he

/-- If it is known how a computation raises, the question what it raises is the question about that
    exception. -/
theorem raisesOnly_of_error {x : Proc ε σ α} {s s' : σ} {e : ε} (h : x s = (.error e, s')) :
    RaisesOnly P x s ↔ P e := by
  constructor
  · intro hx
    exact hx e s' h
  · intro he e' s'' h'
    rw [h] at h'
    cases h'
    exact he

/-- Runs that end alike are judged alike. -/
theorem raisesOnly_congr {τ : Type} {x : Proc ε σ α} {y : Proc ε τ α} {s : σ} {t : τ}
    (h : (x s).1 = (y t).1) : RaisesOnly P x s ↔ RaisesOnly P y t := by
  have hone : ∀ {τ : Type} (z : Proc ε τ α) (u : τ),
      RaisesOnly P z u ↔ ∀ e, (z u).1 = .error e → P e := fun z u =>
    ⟨fun hz e he => hz e (z u).2 (run_eq he), fun hz e u' he => hz e (by rw [he])⟩
  rw [hone, hone, h]

/-- Raising `e` raises `e` and nothing else. -/
theorem raisesOnly_raise {e : ε} {s : σ} : RaisesOnly P (raise e : Proc ε σ α) s ↔ P e :=
  raisesOnly_of_error rfl

/-- A lifted result raises what the result is an error of, if it is one. -/
theorem raisesOnly_lift {r : Except ε α} {s : σ} :
    RaisesOnly P (lift r) s ↔ ∀ e, r = .error e → P e := by
  cases r with
  | ok a => exact ⟨fun _ e he => (nomatch he), fun _ => raisesOnly_of_ok rfl⟩
  | error e =>
    rw [raisesOnly_of_error (lift_run _ s)]
    constructor
    · rintro he e' ⟨⟩
      exact he
    · intro h
      exact h e rfl

/-- A composite raises what its first part raises, and what the second raises after it. -/
theorem raisesOnly_bind {x : Proc ε σ α} {f : α → Proc ε σ β} {s : σ} :
    RaisesOnly P (x >>= f) s ↔
      RaisesOnly P x s ∧ ∀ a s', x s = (.ok a, s') → RaisesOnly P (f a) s' := by
  constructor
  · intro h
    refine ⟨fun e s' he => h e s' (bind_error he), fun a s' ha e s'' he => h e s'' ?_⟩
    rw [bind_ok ha]
    exact he
  · rintro ⟨hx, hf⟩ e s' he
    rcases bind_eq_error.mp he with he | ⟨a, s'', ha, he⟩
    · exact hx e s' he
    · exact hf a s'' ha e s' he

/-- A composite whose first part is known to return is judged by its second part. -/
theorem raisesOnly_bind_ok {x : Proc ε σ α} {f : α → Proc ε σ β} {s s' : σ} {a : α}
    (h : x s = (.ok a, s')) : RaisesOnly P (x >>= f) s ↔ RaisesOnly P (f a) s' := by
  unfold RaisesOnly
  rw [bind_ok h]

/-- A composite whose first part is known to raise is judged by that. -/
theorem raisesOnly_bind_error {x : Proc ε σ α} {f : α → Proc ε σ β} {s s' : σ} {e : ε}
    (h : x s = (.error e, s')) : RaisesOnly P (x >>= f) s ↔ P e :=
  raisesOnly_of_error (bind_error h)

/-- What a tried part raises goes to the handler. -/
theorem raisesOnly_attempt_bind {x : Proc ε' σ α} {f : Except ε' α → Proc ε σ β} {s : σ} :
    RaisesOnly P ((attempt x : Proc ε σ (Except ε' α)) >>= f) s ↔
      RaisesOnly P (f (x s).1) (x s).2 := by
  unfold RaisesOnly
  rw [attempt_bind_run]

/-! ## Two runs side by side

  `Alike R x y`: from any state, `x` and `y` leave the same state, and `R` relates their outcomes. -/

def Alike (R : Except ε α → Except ε α → Prop) (x y : Proc ε σ α) : Prop :=
  ∀ s, R (x s).1 (y s).1 ∧ (x s).2 = (y s).2

/-- A computation is alike with itself, for every reflexive comparison of results. -/
theorem Alike.refl {R : Except ε α → Except ε α → Prop} (hR : ∀ r, R r r) (x : Proc ε σ α) :
    Alike R x x := fun s => ⟨hR (x s).1, rfl⟩

/-- What comes after the same first part may differ as much as `R` allows. -/
theorem Alike.bind {R : Except ε β → Except ε β → Prop} (hR : ∀ e, R (.error e) (.error e))
    (x : Proc ε σ α) {f g : α → Proc ε σ β} (h : ∀ a, Alike R (f a) (g a)) :
    Alike R (x >>= f) (x >>= g) := by
  intro s
  rcases hx : x s with ⟨e | a, s'⟩
  · rw [bind_error hx, bind_error hx]
    exact ⟨hR e, rfl⟩
  · rw [bind_ok hx, bind_ok hx]
    exact h a s'

/-! ## Invariants

  `Keeps I x`: what holds before `x` holds after it, whether it returned or raised. -/

def Keeps (I : σ → Prop) (x : Proc ε σ α) : Prop := ∀ s, I s → I (x s).2

variable {I : σ → Prop}

/-- An invariant is kept by a sequence if both halves keep it, the second one for every value of the
    first. -/
theorem Keeps.bind {x : Proc ε σ α} {f : α → Proc ε σ β} (hx : Keeps I x)
    (hf : ∀ a, Keeps I (f a)) : Keeps I (x >>= f) := by
  intro s hs
  have hafter := hx s hs
  rcases h : x s with ⟨e | a, s'⟩
  · rw [bind_error h]
    rwa [h] at hafter
  · rw [bind_ok h]
    rw [h] at hafter
    exact hf a s' hafter

/-- Catching an exception does not touch the state, so the invariant survives it. -/
theorem Keeps.attempt {x : Proc ε' σ α} (hx : Keeps I x) :
    Keeps I (attempt x : Proc ε σ (Except ε' α)) := hx

theorem Keeps.lift (r : Except ε α) : Keeps I (lift r : Proc ε σ α) := fun _ hs => hs

theorem Keeps.pure (a : α) : Keeps I (pure a : Proc ε σ α) := fun _ hs => hs

theorem Keeps.raise (e : ε) : Keeps I (raise e : Proc ε σ α) := fun _ hs => hs

theorem Keeps.gets (f : σ → α) : Keeps I (gets f : Proc ε σ α) := fun _ hs => hs

/-- A modification keeps an invariant if the function on states does. -/
theorem Keeps.modify {f : σ → σ} (h : ∀ s, I s → I (f s)) : Keeps I (modify f : Proc ε σ Unit) := h

/-! ## A computation on a part of the state

  `Mirrors φ x y`: on the part `φ` of its state `x` does what `y` does, and ends the same way.
  What `x` keeps beside that part has no influence. -/

variable {τ : Type}

def Mirrors (φ : τ → σ) (x : Proc ε τ α) (y : Proc ε σ α) : Prop :=
  ∀ t, y (φ t) = ((x t).1, φ (x t).2)

variable {φ : τ → σ}

/-- Projections of the state pass through sequencing: mirrored halves make a mirrored sequence. -/
theorem Mirrors.bind {x : Proc ε τ α} {y : Proc ε σ α} {f : α → Proc ε τ β} {g : α → Proc ε σ β}
    (hx : Mirrors φ x y) (hf : ∀ a, Mirrors φ (f a) (g a)) : Mirrors φ (x >>= f) (y >>= g) := by
  intro t
  have hy := hx t
  rcases h : x t with ⟨e | a, t'⟩
  · rw [h] at hy
    rw [bind_error h, bind_error hy]
  · rw [h] at hy
    rw [bind_ok h, bind_ok hy]
    exact hf a t'

/-- A mirrored computation is mirrored with its exceptions caught, too. -/
theorem Mirrors.attempt {x : Proc ε' τ α} {y : Proc ε' σ α} (hx : Mirrors φ x y) :
    Mirrors φ (attempt x : Proc ε τ (Except ε' α)) (attempt y) := fun t => attempt_run (hx t)

theorem Mirrors.lift (r : Except ε α) : Mirrors φ (lift r) (lift r : Proc ε σ α) := fun _ => rfl

theorem Mirrors.pure (a : α) : Mirrors φ (pure a) (pure a : Proc ε σ α) := fun _ => rfl

theorem Mirrors.raise (e : ε) : Mirrors φ (raise e) (raise e : Proc ε σ α) := fun _ => rfl

/-- A value read off the part that is mirrored. -/
theorem Mirrors.gets {f : τ → α} {g : σ → α} (h : ∀ t, f t = g (φ t)) :
    Mirrors φ (gets f) (gets g : Proc ε σ α) := by
  intro t
  rw [gets_run, gets_run, h]

/-- A modification is mirrored by what it does to the projected state. -/
theorem Mirrors.modify {f : τ → τ} {g : σ → σ} (h : ∀ t, φ (f t) = g (φ t)) :
    Mirrors φ (modify f) (modify g : Proc ε σ Unit) := by
  intro t
  rw [modify_run, modify_run, h]

/-! ## Using up a resource

  `Spends m cost x`: `x` never makes the measure `m` of the state grow, and when it returns `a` it
  has used up at least `cost a` of it.  A loop whose rounds each spend something is total. -/

def Spends (m : σ → Nat) (cost : α → Nat) (x : Proc ε σ α) : Prop :=
  ∀ s, m (x s).2 ≤ m s ∧ ∀ a, (x s).1 = .ok a → cost a + m (x s).2 ≤ m s

variable {m : σ → Nat}

/-- What the first part spends need not be spent by the second. -/
theorem Spends.bind {x : Proc ε σ α} {f : α → Proc ε σ β} {c : α → Nat} {d : β → Nat}
    (hx : Spends m c x) (hf : ∀ a, Spends m (fun b => d b - c a) (f a)) :
    Spends m d (x >>= f) := by
  intro s
  obtain ⟨hle, hok⟩ := hx s
  rcases h : x s with ⟨r, s'⟩
  rw [h] at hle hok
  cases r with
  | ok a =>
    rw [bind_ok h]
    have hcost : c a + m s' ≤ m s := hok a rfl
    obtain ⟨hle', hok'⟩ := hf a s'
    refine ⟨by omega, fun b hb => ?_⟩
    have hrest : d b - c a + m (f a s').2 ≤ m s' := hok' b hb
    omega
  | error e =>
    rw [bind_error h]
    exact ⟨hle, fun b hb => nomatch hb⟩

/-- A budget that is spent at one rate is spent at every smaller one. -/
theorem Spends.mono {x : Proc ε σ α} {c d : α → Nat} (hx : Spends m c x) (h : ∀ a, d a ≤ c a) :
    Spends m d x := by
  intro s
  obtain ⟨hle, hok⟩ := hx s
  refine ⟨hle, fun a ha => ?_⟩
  have h1 := hok a ha
  have h2 := h a
  omega

/-- What returns at once spends nothing, so its rate must be zero there. -/
theorem Spends.pure (m : σ → Nat) {c : α → Nat} {a : α} (h : c a = 0) :
    Spends m c (pure a : Proc ε σ α) := by
  intro s
  refine ⟨Nat.le_refl _, fun b hb => ?_⟩
  cases hb
  rw [h, Nat.zero_add]
  exact Nat.le_refl _

/-- What raises at once may claim any rate: a rate counts only where a value is returned. -/
theorem Spends.raise (m : σ → Nat) (c : α → Nat) (e : ε) : Spends m c (raise e : Proc ε σ α) :=
  fun _ => ⟨Nat.le_refl _, fun _ hb => nomatch hb⟩

theorem Spends.lift (m : σ → Nat) (r : Except ε α) :
    Spends m (fun _ => 0) (lift r : Proc ε σ α) :=
  fun s => ⟨Nat.le_refl _, fun _ _ => Nat.le_of_eq (Nat.zero_add (m s))⟩

/-- A modification that does not raise the measure spends nothing. -/
theorem Spends.modify {f : σ → σ} (h : ∀ s, m (f s) ≤ m s) :
    Spends m (fun _ => 0) (modify f : Proc ε σ Unit) := by
  intro s
  refine ⟨h s, fun _ _ => ?_⟩
  rw [Nat.zero_add]
  exact h s

theorem Spends.gets (m : σ → Nat) (f : σ → α) :
    Spends m (fun _ => 0) (gets f : Proc ε σ α) :=
  fun s => ⟨Nat.le_refl _, fun _ _ => Nat.le_of_eq (Nat.zero_add (m s))⟩

/-- What the outcome of a tried part costs: a raise costs nothing. -/
def outcomeCost (c : α → Nat) : Except ε α → Nat
  | .ok a => c a
  | .error _ => 0

/-- A part whose exceptions are caught spends according to what it returned. -/
theorem Spends.attempt {x : Proc ε σ α} {c : α → Nat} (hx : Spends m c x) :
    Spends m (outcomeCost c) (attempt x : Proc ε' σ (Except ε α)) := by
  intro s
  obtain ⟨hle, hok⟩ := hx s
  rcases h : x s with ⟨r, s'⟩
  rw [h] at hle hok
  rw [attempt_run h]
  refine ⟨hle, fun r' hr => ?_⟩
  cases hr
  cases r with
  | ok a => exact hok a rfl
  | error e =>
    have hle' : m s' ≤ m s := hle
    show 0 + m s' ≤ m s
    omega

end Proc
end RiseSun
