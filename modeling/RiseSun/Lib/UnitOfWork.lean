/-
  Programs over a database, and the units of work they run in: changes are collected, and a commit
  stores them all.

  The database may refuse whatever it is asked, for any reason (what is pending, what is stored, how
  often it was asked).  After a refusal the unit is broken: it refuses whatever is asked of it.

  1. **Programs** — trees over changes and questions; a question goes on with what the unit sees or
     with the exception it was refused with.  `bind` and `tryExcept` are defined on the trees.

  2. **Runs** (`Program.run`) — all at once; `run_bind` and `run_tryExcept` are how a run is read.

  3. **Acceptance** — a run in which nothing is refused (`accepted_bind`, `accepted_tryExcept`).  A
     program that does not catch refusals fails in the others (`Conforms.run_refused`).

  4. **Writes** — what holds of every write of a program relates what is stored behind a run to what
     was stored before it, whatever is refused (`Writes.turn`).

  5. **Turns** (`Program.turn`) — one change or one question at a time, so that programs interleave.  A
     program whose own exceptions are caught raises none while nothing is refused (`Safe.turn`,
     `Safe.tryExcept`).

  6. **All or nothing** — a program that commits at its end only stores what it makes of the database by
     itself, or nothing (`CommitsLast.run_cases`).
-/
import RiseSun.Lib.Proc

namespace RiseSun

/-! ## Programs -/

inductive Program (ε δ α : Type)
  | done (a : α)
  | raise (e : ε)
  | write (f : δ → δ) (rest : Program ε δ α)
  /-- A query or a flush, or a commit. -/
  | ask (commits : Bool) (rest : Except ε δ → Program ε δ α)

structure UnitOfWork (δ : Type) where
  stored : δ
  /-- What a commit makes of it. -/
  pending : δ → δ := id
  broken : Bool := false
  /-- How often the database has answered. -/
  asked : Nat := 0

/-- A database: what it refuses, and what a broken unit refuses with. -/
structure Database (ε δ : Type) where
  refuses : Bool → UnitOfWork δ → Option ε
  rollbackFirst : ε

namespace UnitOfWork

variable {ε δ : Type}

def seen (u : UnitOfWork δ) : δ := u.pending u.stored

def write (f : δ → δ) (u : UnitOfWork δ) : UnitOfWork δ :=
  { u with pending := fun d => f (u.pending d) }

/-- The unit after a question that was not refused. -/
def after (commits : Bool) (u : UnitOfWork δ) : UnitOfWork δ :=
  if commits then { u with stored := u.seen, pending := id, asked := u.asked + 1 }
  else { u with asked := u.asked + 1 }

def refusal (D : Database ε δ) (commits : Bool) (u : UnitOfWork δ) : Option ε :=
  if u.broken then some D.rollbackFirst else D.refuses commits u

def answer (D : Database ε δ) (commits : Bool) (u : UnitOfWork δ) : Except ε δ × UnitOfWork δ :=
  match u.refusal D commits with
  | some e => (.error e, { u with broken := true })
  | none => (.ok (u.after commits).seen, u.after commits)

variable {D : Database ε δ} {commits : Bool} {u : UnitOfWork δ}

@[simp] theorem write_broken (f : δ → δ) : (u.write f).broken = u.broken := rfl

@[simp] theorem write_stored (f : δ → δ) : (u.write f).stored = u.stored := rfl

@[simp] theorem write_seen (f : δ → δ) : (u.write f).seen = f u.seen := rfl

/-- An accepted answer changes what is stored, if it was a commit, but never makes a session broken
    or whole. -/
@[simp] theorem after_broken (commits : Bool) : (u.after commits).broken = u.broken := by
  cases commits <;> rfl

/-- A session sees the same rows before and behind a commit: its own writes are in both. -/
@[simp] theorem after_seen (commits : Bool) : (u.after commits).seen = u.seen := by
  cases commits <;> rfl

/-- What a whole session hears of a statement that the database does not refuse: the rows as it sees
    them. -/
theorem answer_accepted (hwhole : u.broken = false) (h : D.refuses commits u = none) :
    u.answer D commits = (.ok u.seen, u.after commits) := by
  simp only [answer, refusal, hwhole, h, Bool.false_eq_true, if_false, after_seen]

/-- A refused statement raises, and from then on the session is broken. -/
theorem answer_refused {e : ε} (hwhole : u.broken = false) (h : D.refuses commits u = some e) :
    u.answer D commits = (.error e, { u with broken := true }) := by
  simp only [answer, refusal, hwhole, h, Bool.false_eq_true, if_false]

/-- A broken session hears of nothing but the rollback that has to come first, whatever it asks. -/
theorem answer_broken (h : u.broken = true) :
    u.answer D commits = (.error D.rollbackFirst, { u with broken := true }) := by
  simp only [answer, refusal, h, if_true]

end UnitOfWork

namespace Program

variable {ε δ α β : Type}

def bind : Program ε δ α → (α → Program ε δ β) → Program ε δ β
  | .done a, f => f a
  | .raise e, _ => .raise e
  | .write g rest, f => .write g (bind rest f)
  | .ask commits rest, f => .ask commits fun r => bind (rest r) f

instance : Monad (Program ε δ) where
  pure := done
  bind := bind

/-- An exception of the program, its own or a refusal, goes to the handler. -/
def tryExcept : Program ε δ α → (ε → Program ε δ α) → Program ε δ α
  | .done a, _ => .done a
  | .raise e, handler => handler e
  | .write g rest, handler => .write g (tryExcept rest handler)
  | .ask commits rest, handler => .ask commits fun r => tryExcept (rest r) handler

def ofExcept : Except ε α → Program ε δ α
  | .ok a => .done a
  | .error e => .raise e

/-- A query: what the unit sees. -/
def query : Program ε δ δ := .ask false ofExcept

def flush : Program ε δ Unit := .ask false fun r => ofExcept (r.map fun _ => ())

def commit : Program ε δ Unit := .ask true fun r => ofExcept (r.map fun _ => ())

def change (f : δ → δ) : Program ε δ Unit := .write f (.done ())

/-! ## Runs -/

def run (D : Database ε δ) : Program ε δ α → Proc ε (UnitOfWork δ) α
  | .done a => fun u => (.ok a, u)
  | .raise e => fun u => (.error e, u)
  | .write f rest => fun u => run D rest (u.write f)
  | .ask commits rest => fun u => run D (rest (u.answer D commits).1) (u.answer D commits).2

variable {D : Database ε δ}

theorem run_ask (commits : Bool) (rest : Except ε δ → Program ε δ α) (u : UnitOfWork δ) :
    (ask commits rest).run D u = (rest (u.answer D commits).1).run D (u.answer D commits).2 := rfl

/-- An accepted statement can be passed over: the program goes on from the session behind it. -/
theorem run_ask_accepted {commits : Bool} {rest : Except ε δ → Program ε δ α} {u : UnitOfWork δ}
    (hwhole : u.broken = false) (h : D.refuses commits u = none) :
    (ask commits rest).run D u = (rest (.ok u.seen)).run D (u.after commits) := by
  rw [run_ask, UnitOfWork.answer_accepted hwhole h]

/-- Sequencing of programs is sequencing of their runs; a program that raised leaves its session as
    it is. -/
theorem run_bind (p : Program ε δ α) (f : α → Program ε δ β) (u : UnitOfWork δ) :
    (p >>= f).run D u =
      match p.run D u with
      | (.ok a, v) => (f a).run D v
      | (.error e, v) => (.error e, v) := by
  show (bind p f).run D u = _
  induction p generalizing u with
  | done a => rfl
  | raise e => rfl
  | write g rest ih => exact ih (u.write g)
  | ask commits rest ih => exact ih _ _

/-- A commit in front of a program: if it is refused the program does not run. -/
theorem run_commit_bind (k : Unit → Program ε δ α) (u : UnitOfWork δ) :
    (commit >>= k).run D u =
      match u.answer D true with
      | (.ok _, v) => (k ()).run D v
      | (.error e, v) => (.error e, v) := by
  rw [run_bind, commit, run_ask]
  rcases u.answer D true with ⟨_ | _, v⟩
  · rfl
  · rfl

/-- A handler runs in the session the exception has left, broken or not: nothing is rolled back on
    its way. -/
theorem run_tryExcept (p : Program ε δ α) (handler : ε → Program ε δ α) (u : UnitOfWork δ) :
    (tryExcept p handler).run D u =
      match p.run D u with
      | (.ok a, v) => (.ok a, v)
      | (.error e, v) => (handler e).run D v := by
  induction p generalizing u with
  | done a => rfl
  | raise e => rfl
  | write g rest ih => exact ih (u.write g)
  | ask commits rest ih => exact ih _ _

/-! ## Acceptance -/

/-- Nothing the program asks is refused. -/
def Accepted (D : Database ε δ) : Program ε δ α → UnitOfWork δ → Prop
  | .done _, _ => True
  | .raise _, _ => True
  | .write f rest, u => Accepted D rest (u.write f)
  | .ask commits rest, u =>
    D.refuses commits u = none ∧ Accepted D (rest (.ok u.seen)) (u.after commits)

/-- The writes are among `W`, the exceptions of its own among `E`, and a refusal is not caught. -/
def Conforms (W : (δ → δ) → Prop) (E : ε → Prop) : Program ε δ α → Prop
  | .done _ => True
  | .raise e => E e
  | .write f rest => W f ∧ Conforms W E rest
  | .ask _ rest => (∀ e, rest (.error e) = .raise e) ∧ ∀ d, Conforms W E (rest (.ok d))

/-- Where no statement is refused the session is still whole at the end. -/
theorem Accepted.run_whole {p : Program ε δ α} {u : UnitOfWork δ} (h : p.Accepted D u)
    (hwhole : u.broken = false) : (p.run D u).2.broken = false := by
  induction p generalizing u with
  | done a => exact hwhole
  | raise e => exact hwhole
  | write f rest ih => exact ih h hwhole
  | ask commits rest ih =>
    rw [run_ask_accepted hwhole h.1]
    exact ih _ h.2 ((u.after_broken commits).trans hwhole)

/-- Nothing is refused in a sequence iff nothing is in its first half, and nothing in the second
    behind the value of the first. -/
theorem accepted_bind {p : Program ε δ α} {f : α → Program ε δ β} {u : UnitOfWork δ}
    (hwhole : u.broken = false) :
    (p >>= f).Accepted D u ↔ p.Accepted D u ∧ ∀ a, (p.run D u).1 = .ok a →
      (f a).Accepted D (p.run D u).2 := by
  show (bind p f).Accepted D u ↔ _
  induction p generalizing u with
  | done a =>
    refine ⟨fun h => ⟨trivial, fun a' ha' => ?_⟩, fun h => h.2 a rfl⟩
    obtain rfl : a = a' := Except.ok.inj ha'
    exact h
  | raise e => exact ⟨fun _ => ⟨trivial, fun a ha => nomatch ha⟩, fun _ => trivial⟩
  | write g rest ih => exact ih hwhole
  | ask commits rest ih =>
    rw [bind, Accepted, Accepted, and_assoc]
    refine and_congr_right fun haccepts => ?_
    rw [run_ask_accepted hwhole haccepts]
    exact ih _ ((u.after_broken commits).trans hwhole)

/-- With a handler around it a program is accepted iff it is and, where it raises by itself, its
    handler is, too. -/
theorem accepted_tryExcept {p : Program ε δ α} {handler : ε → Program ε δ α} {u : UnitOfWork δ}
    (hwhole : u.broken = false) :
    (tryExcept p handler).Accepted D u ↔ p.Accepted D u ∧ ∀ e, (p.run D u).1 = .error e →
      (handler e).Accepted D (p.run D u).2 := by
  induction p generalizing u with
  | done a => exact ⟨fun _ => ⟨trivial, fun e he => nomatch he⟩, fun _ => trivial⟩
  | raise e =>
    refine ⟨fun h => ⟨trivial, fun e' he' => ?_⟩, fun h => h.2 e rfl⟩
    obtain rfl : e = e' := Except.error.inj he'
    exact h
  | write g rest ih => exact ih hwhole
  | ask commits rest ih =>
    rw [tryExcept, Accepted, Accepted, and_assoc]
    refine and_congr_right fun haccepts => ?_
    rw [run_ask_accepted hwhole haccepts]
    exact ih _ ((u.after_broken commits).trans hwhole)

section Conforms

variable {W : (δ → δ) → Prop} {E : ε → Prop}

/-- The effects of a sequence are those of its halves: all writes of one kind, all exceptions of one
    kind. -/
theorem Conforms.bind {p : Program ε δ α} {f : α → Program ε δ β} (h : p.Conforms W E)
    (hf : ∀ a, (f a).Conforms W E) : (p >>= f).Conforms W E := by
  show (Program.bind p f).Conforms W E
  induction p with
  | done a => exact hf a
  | raise e => exact h
  | write g rest ih => exact ⟨h.1, ih h.2⟩
  | ask commits rest ih =>
    refine ⟨fun e => ?_, fun d => ih _ (h.2 d)⟩
    show Program.bind (rest (.error e)) f = _
    rw [h.1 e]
    rfl

/-- What conforms to narrow kinds of writes and exceptions conforms to wider ones. -/
theorem Conforms.mono {W' : (δ → δ) → Prop} {E' : ε → Prop} {p : Program ε δ α}
    (h : p.Conforms W E) (hW : ∀ f, W f → W' f) (hE : ∀ e, E e → E' e) : p.Conforms W' E' := by
  induction p with
  | done a => trivial
  | raise e => exact hE e h
  | write f rest ih => exact ⟨hW f h.1, ih h.2⟩
  | ask commits rest ih => exact ⟨h.1, fun d => ih _ (h.2 d)⟩

theorem conforms_pure (a : α) : (pure a : Program ε δ α).Conforms W E := trivial

/-- A result conforms if its exception is of the wanted kind; it writes nothing. -/
theorem conforms_ofExcept {r : Except ε α} (h : ∀ e, r = .error e → E e) :
    (ofExcept r : Program ε δ α).Conforms W E := by
  cases r with
  | ok a => trivial
  | error e => exact h e rfl

theorem conforms_query : (query : Program ε δ δ).Conforms W E := ⟨fun _ => rfl, fun _ => trivial⟩

theorem conforms_flush : (flush : Program ε δ Unit).Conforms W E :=
  ⟨fun _ => rfl, fun _ => trivial⟩

theorem conforms_commit : (commit : Program ε δ Unit).Conforms W E :=
  ⟨fun _ => rfl, fun _ => trivial⟩

/-- A change conforms if it is a write of the wanted kind. -/
theorem conforms_change {f : δ → δ} (h : W f) : (change f : Program ε δ Unit).Conforms W E :=
  ⟨h, trivial⟩

/-- A refusal comes out, and the unit stays broken. -/
theorem Conforms.run_refused {p : Program ε δ α} {u : UnitOfWork δ} (h : p.Conforms W E)
    (hwhole : u.broken = false) (hrefused : ¬ p.Accepted D u) :
    ∃ e, (p.run D u).1 = .error e ∧ (p.run D u).2.broken = true := by
  induction p generalizing u with
  | done a => exact absurd trivial hrefused
  | raise e => exact absurd trivial hrefused
  | write f rest ih => exact ih h.2 hwhole hrefused
  | ask commits rest ih =>
    rcases hrefuses : D.refuses commits u with _ | e
    · rw [run_ask_accepted hwhole hrefuses]
      exact ih _ (h.2 _) ((u.after_broken commits).trans hwhole) fun haccepted =>
        hrefused ⟨hrefuses, haccepted⟩
    · rw [run_ask, UnitOfWork.answer_refused hwhole hrefuses, h.1 e]
      exact ⟨e, rfl, rfl⟩

/-- Without exceptions of its own it returns exactly if nothing is refused. -/
theorem Conforms.run_ok_iff {p : Program ε δ α} {u : UnitOfWork δ} (h : p.Conforms W fun _ => False)
    (hwhole : u.broken = false) : (∃ a, (p.run D u).1 = .ok a) ↔ p.Accepted D u := by
  constructor
  · rintro ⟨a, ha⟩
    refine Classical.byContradiction fun hrefused => ?_
    obtain ⟨e, he, -⟩ := h.run_refused hwhole hrefused
    rw [ha] at he
    cases he
  · intro haccepted
    induction p generalizing u with
    | done a => exact ⟨a, rfl⟩
    | raise e => exact h.elim
    | write f rest ih => exact ih h.2 hwhole haccepted
    | ask commits rest ih =>
      rw [run_ask_accepted hwhole haccepted.1]
      exact ih _ (h.2 _) ((u.after_broken commits).trans hwhole) haccepted.2

/-- What every write keeps, a run keeps, in what is stored and in what the unit sees. -/
theorem Conforms.run_keeps {I : δ → Prop} {p : Program ε δ α} {u : UnitOfWork δ}
    (h : p.Conforms W E) (hW : ∀ f, W f → ∀ d, I d → I (f d)) (hstored : I u.stored)
    (hseen : I u.seen) : I (p.run D u).2.stored ∧ I (p.run D u).2.seen := by
  induction p generalizing u with
  | done a => exact ⟨hstored, hseen⟩
  | raise e => exact ⟨hstored, hseen⟩
  | write f rest ih => exact ih h.2 hstored (hW f h.1 _ hseen)
  | ask commits rest ih =>
    rw [run_ask, UnitOfWork.answer]
    rcases u.refusal D commits with _ | e
    · refine ih _ (h.2 _) ?_ ?_
      · cases commits
        · exact hstored
        · exact hseen
      · rwa [UnitOfWork.after_seen]
    · dsimp only
      rw [h.1 e]
      exact ⟨hstored, hseen⟩

end Conforms

/-! ## Writes -/

/-- The writes are among `W`, whatever is refused. -/
def Writes (W : (δ → δ) → Prop) : Program ε δ α → Prop
  | .done _ => True
  | .raise _ => True
  | .write f rest => W f ∧ Writes W rest
  | .ask _ rest => ∀ r, Writes W (rest r)

section Writes

variable {W : (δ → δ) → Prop}

/-- A program whose writes are of one kind has writes of every wider kind. -/
theorem Writes.mono {W' : (δ → δ) → Prop} {p : Program ε δ α} (h : p.Writes W)
    (hW : ∀ f, W f → W' f) : p.Writes W' := by
  induction p with
  | done a => trivial
  | raise e => trivial
  | write f rest ih => exact ⟨hW f h.1, ih h.2⟩
  | ask commits rest ih => exact fun r => ih r (h r)

/-- The writes of a sequence are those of its halves, whatever the first half returns. -/
theorem Writes.bind {p : Program ε δ α} {f : α → Program ε δ β} (h : p.Writes W)
    (hf : ∀ a, (f a).Writes W) : (p >>= f).Writes W := by
  show (Program.bind p f).Writes W
  induction p with
  | done a => exact hf a
  | raise e => trivial
  | write g rest ih => exact ⟨h.1, ih h.2⟩
  | ask commits rest ih => exact fun r => ih r (h r)

/-- A handler may write, too: the writes of both are of the kind. -/
theorem Writes.tryExcept {p : Program ε δ α} {handler : ε → Program ε δ α} (h : p.Writes W)
    (hhandler : ∀ e, (handler e).Writes W) : (Program.tryExcept p handler).Writes W := by
  induction p with
  | done a => trivial
  | raise e => exact hhandler e
  | write f rest ih => exact ⟨h.1, ih h.2⟩
  | ask commits rest ih => exact fun r => ih r (h r)

/-- A result writes nothing, whether it is a value or an exception. -/
theorem writes_ofExcept (r : Except ε α) : (ofExcept r : Program ε δ α).Writes W := by
  cases r <;> trivial

/-- Behind a result only the programs for its value matter; if it is an exception nothing is written
    any more. -/
theorem writes_ofExcept_bind {r : Except ε α} {f : α → Program ε δ β}
    (h : ∀ a, r = .ok a → (f a).Writes W) : (ofExcept r >>= f).Writes W := by
  cases r with
  | ok a => exact h a rfl
  | error e => trivial

theorem writes_query : (query : Program ε δ δ).Writes W := writes_ofExcept

theorem writes_flush : (flush : Program ε δ Unit).Writes W := fun _ => writes_ofExcept _

theorem writes_commit : (commit : Program ε δ Unit).Writes W := fun _ => writes_ofExcept _

/-- A change is a write of the kind it was made for. -/
theorem writes_change {f : δ → δ} (h : W f) : (change f : Program ε δ Unit).Writes W := ⟨h, trivial⟩

/-- A question stores what is pending, or changes nothing. -/
theorem answer_related {R : δ → δ → Prop} {u : UnitOfWork δ} (commits : Bool) (hrefl : ∀ d, R d d)
    (hpending : ∀ d, R d (u.pending d)) :
    R u.stored (u.answer D commits).2.stored ∧ ∀ d, R d ((u.answer D commits).2.pending d) := by
  unfold UnitOfWork.answer
  rcases u.refusal D commits with _ | e
  · cases commits
    · exact ⟨hrefl _, hpending⟩
    · exact ⟨hpending _, hrefl⟩
  · exact ⟨hrefl _, hpending⟩

end Writes

/-! ## Turns -/

/-- A change, or a question and its answer; a program that is over has none. -/
def turn (D : Database ε δ) : Program ε δ α → UnitOfWork δ → Option (Program ε δ α × UnitOfWork δ)
  | .done _, _ => none
  | .raise _, _ => none
  | .write f rest, u => some (rest, u.write f)
  | .ask commits rest, u => some (rest (u.answer D commits).1, (u.answer D commits).2)

/-- The database does not refuse what is asked next. -/
def Unrefused (D : Database ε δ) : Program ε δ α → UnitOfWork δ → Prop
  | .ask commits _, u => D.refuses commits u = none
  | _, _ => True

/-- The writes are among `W`, and it raises nothing unless something is refused. -/
def Safe (W : (δ → δ) → Prop) : Program ε δ α → Prop
  | .done _ => True
  | .raise _ => False
  | .write f rest => W f ∧ Safe W rest
  | .ask _ rest => ∀ d, Safe W (rest (.ok d))

instance (p : Program ε δ α) (u : UnitOfWork δ) : Decidable (p.Unrefused D u) :=
  match p with
  | .ask commits _ =>
    match h : D.refuses commits u with
    | none => isTrue h
    | some _ => isFalse fun h' => nomatch h.symm.trans h'
  | .done _ | .raise _ | .write .. => isTrue trivial

/-- A turn, refused or not, leaves writes of the same kind, and what is stored has come from there by
    such writes. -/
theorem Writes.turn {W : (δ → δ) → Prop} {R : δ → δ → Prop} {p q : Program ε δ α}
    {u v : UnitOfWork δ} (h : p.Writes W) (hturn : p.turn D u = some (q, v)) (hrefl : ∀ d, R d d)
    (htrans : ∀ {c d e}, R c d → R d e → R c e) (hW : ∀ f, W f → ∀ d, R d (f d))
    (hpending : ∀ d, R d (u.pending d)) :
    q.Writes W ∧ R u.stored v.stored ∧ ∀ d, R d (v.pending d) := by
  cases p with
  | done a => cases hturn
  | raise e => cases hturn
  | write f rest =>
    cases hturn
    exact ⟨h.2, hrefl _, fun d => htrans (hpending d) (hW f h.1 _)⟩
  | ask commits rest =>
    cases hturn
    exact ⟨h _, answer_related commits hrefl hpending⟩

section Safe

variable {W : (δ → δ) → Prop} {E : ε → Prop}

/-- A program that conforms without exceptions of its own can only fail where the database refuses
    something. -/
theorem Conforms.safe {p : Program ε δ α} (h : p.Conforms W fun _ => False) : p.Safe W := by
  induction p with
  | done a => trivial
  | raise e => exact h
  | write f rest ih => exact ⟨h.1, ih h.2⟩
  | ask commits rest ih => exact fun d => ih _ (h.2 d)

/-- A sequence of safe programs is safe: neither half raises by itself. -/
theorem Safe.bind {p : Program ε δ α} {f : α → Program ε δ β} (h : p.Safe W)
    (hf : ∀ a, (f a).Safe W) : (p >>= f).Safe W := by
  show (Program.bind p f).Safe W
  induction p with
  | done a => exact hf a
  | raise e => exact h.elim
  | write g rest ih => exact ⟨h.1, ih h.2⟩
  | ask commits rest ih => exact fun d => ih _ (h d)

/-- Whatever the program raises, it is the handler that goes on. -/
theorem Safe.tryExcept {p : Program ε δ α} {handler : ε → Program ε δ α} (h : p.Conforms W E)
    (hhandler : ∀ e, (handler e).Safe W) : (Program.tryExcept p handler).Safe W := by
  induction p with
  | done a => trivial
  | raise e => exact hhandler e
  | write f rest ih => exact ⟨h.1, ih h.2⟩
  | ask commits rest ih => exact fun d => ih _ (h.2 d)

/-- A turn that is not refused leaves a safe program, a whole unit, and what every write keeps. -/
theorem Safe.turn {I : δ → Prop} {p q : Program ε δ α} {u v : UnitOfWork δ} (h : p.Safe W)
    (hwhole : u.broken = false) (hunrefused : p.Unrefused D u) (hturn : p.turn D u = some (q, v))
    (hW : ∀ f, W f → ∀ d, I d → I (f d)) (hstored : I u.stored)
    (hpending : ∀ d, I d → I (u.pending d)) :
    q.Safe W ∧ v.broken = false ∧ I v.stored ∧ ∀ d, I d → I (v.pending d) := by
  cases p with
  | done a => cases hturn
  | raise e => cases hturn
  | write f rest =>
    cases hturn
    exact ⟨h.2, hwhole, hstored, fun d hd => hW f h.1 _ (hpending d hd)⟩
  | ask commits rest =>
    rw [Program.turn, UnitOfWork.answer_accepted hwhole hunrefused] at hturn
    cases hturn
    refine ⟨h _, (u.after_broken commits).trans hwhole, ?_, ?_⟩
    · cases commits
      · exact hstored
      · exact hpending _ hstored
    · cases commits
      · exact hpending
      · exact fun _ hd => hd

end Safe

/-! ## All or nothing -/

/-- The program by itself: nothing is refused, and nobody else writes. -/
def alone : Program ε δ α → δ → Except ε α × δ
  | .done a, d => (.ok a, d)
  | .raise e, d => (.error e, d)
  | .write f rest, d => alone rest (f d)
  | .ask _ rest, d => alone (rest (.ok d)) d

/-- Alone with the database, a sequence runs its second half from the rows the first one has left.
    -/
theorem alone_bind (p : Program ε δ α) (f : α → Program ε δ β) (d : δ) :
    (p >>= f).alone d =
      match p.alone d with
      | (.ok a, d') => (f a).alone d'
      | (.error e, d') => (.error e, d') := by
  show (bind p f).alone d = _
  induction p generalizing d with
  | done a => rfl
  | raise e => rfl
  | write g rest ih => exact ih (g d)
  | ask commits rest ih => exact ih _ d

/-- Nothing is committed, and refusals come out. -/
def Uncommitted : Program ε δ α → Prop
  | .done _ => True
  | .raise _ => True
  | .write _ rest => Uncommitted rest
  | .ask commits rest =>
    commits = false ∧ (∀ e, rest (.error e) = .raise e) ∧ ∀ d, Uncommitted (rest (.ok d))

/-- What is written is committed, all at once and at the end; `dirty` says that something has been. -/
def CommitsLast : Bool → Program ε δ α → Prop
  | dirty, .done _ => dirty = false
  | _, .raise _ => True
  | _, .write _ rest => CommitsLast true rest
  | dirty, .ask commits rest => (∀ e, rest (.error e) = .raise e) ∧
      ∀ d, if commits then ∃ a, rest (.ok d) = .done a else CommitsLast dirty (rest (.ok d))

theorem uncommitted_flush : (flush : Program ε δ Unit).Uncommitted :=
  ⟨rfl, fun _ => rfl, fun _ => trivial⟩

/-- Halves without a commit make a sequence without one. -/
theorem Uncommitted.bind {p : Program ε δ α} {f : α → Program ε δ β} (h : p.Uncommitted)
    (hf : ∀ a, (f a).Uncommitted) : (p >>= f).Uncommitted := by
  show (Program.bind p f).Uncommitted
  induction p with
  | done a => exact hf a
  | raise e => trivial
  | write g rest ih => exact ih h
  | ask commits rest ih =>
    refine ⟨h.1, fun e => ?_, fun d => ih _ (h.2.2 d)⟩
    show Program.bind (rest (.error e)) f = _
    rw [h.2.1 e]
    rfl

/-- Something without a commit may stand in front of what commits last: the whole commits last. -/
theorem CommitsLast.bind {p : Program ε δ α} {f : α → Program ε δ β} (h : p.Uncommitted)
    (hf : ∀ dirty a, (f a).CommitsLast dirty) (dirty : Bool) : (p >>= f).CommitsLast dirty := by
  show (Program.bind p f).CommitsLast dirty
  induction p generalizing dirty with
  | done a => exact hf dirty a
  | raise e => trivial
  | write g rest ih => exact ih h true
  | ask commits rest ih =>
    obtain ⟨rfl, herror, hrest⟩ := h
    refine ⟨fun e => ?_, fun d => ih _ (hrest d) dirty⟩
    show Program.bind (rest (.error e)) f = _
    rw [herror e]
    rfl

/-- **All or nothing.**  The program fails and nothing is stored, or it returns what it returns by
    itself and leaves that stored. -/
theorem CommitsLast.run_cases {p : Program ε δ α} {dirty : Bool} {u : UnitOfWork δ}
    (h : p.CommitsLast dirty) (hwhole : u.broken = false) (hclean : dirty = false → u.seen = u.stored) :
    (∃ e, (p.run D u).1 = .error e ∧ (p.run D u).2.stored = u.stored) ∨
      ∃ a, (p.run D u).1 = .ok a ∧ p.alone u.seen = (.ok a, (p.run D u).2.stored) := by
  induction p generalizing dirty u with
  | done a => exact .inr ⟨a, rfl, by rw [alone, hclean h]; rfl⟩
  | raise e => exact .inl ⟨e, rfl, rfl⟩
  | write f rest ih => exact ih (u := u.write f) h hwhole fun hclean => by cases hclean
  | ask commits rest ih =>
    rcases hrefuses : D.refuses commits u with _ | e
    · rw [run_ask_accepted hwhole hrefuses]
      have hrest := h.2 u.seen
      cases commits with
      | true =>
        obtain ⟨a, hdone⟩ := hrest
        refine .inr ⟨a, by rw [hdone]; rfl, ?_⟩
        rw [alone, hdone]
        rfl
      | false =>
        exact ih _ (u := u.after false) hrest ((u.after_broken false).trans hwhole) hclean
    · rw [run_ask, UnitOfWork.answer_refused hwhole hrefuses, h.1 e]
      exact .inl ⟨e, rfl, rfl⟩

end Program

end RiseSun
