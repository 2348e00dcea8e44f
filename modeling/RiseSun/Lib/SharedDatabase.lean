/-
  Sessions beside each other on one database, and a logic for what each of them relies on and keeps.

  1. **Contract** — what holds of the database whenever something is stored (`good`), and what may
     become of it meanwhile (`moves`, a preorder).  A session relies on it for the others and keeps it
     itself.

  2. **Logic** (`Program.Keeps`) — from a state `base` the database has been in, with so much pending,
     the program keeps the contract at each of its commits.  There is one rule for each way to build a
     program (`Keeps.bind`, `Keeps.tryExcept`, `keeps_change`, `keeps_commit`, …), and one for programs
     whose writes each keep the contract by themselves (`Writes.keeps`).  After a refusal nothing that
     a session does is stored, so nothing is asked of it.

  3. **Sessions** (`Shared`) — any number of them, one change or one question at a time
     (`run_keeps`): if every program that is started keeps the contract, so does every run.
-/
import Mathlib.Logic.Function.Basic
import RiseSun.Lib.Machine
import RiseSun.Lib.UnitOfWork

namespace RiseSun

open Machine

/-! ## Contract -/

structure Contract (δ : Type) where
  good : δ → Prop
  moves : δ → δ → Prop
  refl : ∀ d, moves d d
  trans : ∀ {c d e}, moves c d → moves d e → moves c e

variable {ε δ α β : Type} {C : Contract δ} {D : Database ε δ}

/-- A commit of what is pending keeps the contract, whatever has happened since `base`. -/
def Contract.Stages (C : Contract δ) (base : δ) (pending : δ → δ) : Prop :=
  ∀ d, C.good d → C.moves base d → C.good (pending d) ∧ C.moves d (pending d)

/-- A session that has written nothing may commit at any time. -/
theorem Contract.stages_id (base : δ) : C.Stages base id := fun d hd _ => ⟨hd, C.refl d⟩

/-- What may be committed on top of one state may be committed on top of every later one: others
    only move as the contract allows. -/
theorem Contract.Stages.later {base base' : δ} {pending : δ → δ} (h : C.Stages base pending)
    (hmoves : C.moves base base') : C.Stages base' pending :=
  fun d hd hd' => h d hd (C.trans hmoves hd')

/-- A session may write more if both its writes so far and the new one keep the contract. -/
theorem Contract.Stages.write {base : δ} {pending f : δ → δ} (h : C.Stages base pending)
    (hf : C.Stages base f) : C.Stages base fun d => f (pending d) := by
  intro d hd hbase
  obtain ⟨hgood, hmoves⟩ := h d hd hbase
  obtain ⟨hgood', hmoves'⟩ := hf _ hgood (C.trans hbase hmoves)
  exact ⟨hgood', C.trans hmoves hmoves'⟩

/-! ## Logic -/

namespace Program

/-- `Q` holds where the program ends, `E` where it ends with an exception of its own. -/
def Keeps (C : Contract δ) (Q : α → δ → (δ → δ) → Prop) (E : ε → δ → (δ → δ) → Prop) :
    Program ε δ α → δ → (δ → δ) → Prop
  | .done a, base, pending => Q a base pending
  | .raise e, base, pending => E e base pending
  | .write f rest, base, pending => Keeps C Q E rest base fun d => f (pending d)
  | .ask false rest, base, pending => ∀ d, C.good d → C.moves base d →
      Keeps C Q E (rest (.ok (pending d))) d pending
  | .ask true rest, base, pending => ∀ d, C.good d → C.moves base d →
      C.good (pending d) ∧ C.moves d (pending d) ∧
        Keeps C Q E (rest (.ok (pending d))) (pending d) id

section Rules

variable {Q Q' : α → δ → (δ → δ) → Prop} {E E' : ε → δ → (δ → δ) → Prop} {base : δ}
  {pending : δ → δ}

/-- Consequence: weaker conditions at the two ends of a program follow from stronger ones. -/
theorem Keeps.mono {p : Program ε δ α} (h : p.Keeps C Q E base pending)
    (hQ : ∀ a base pending, Q a base pending → Q' a base pending)
    (hE : ∀ e base pending, E e base pending → E' e base pending) : p.Keeps C Q' E' base pending := by
  induction p generalizing base pending with
  | done a => exact hQ a base pending h
  | raise e => exact hE e base pending h
  | write f rest ih => exact ih h
  | ask commits rest ih =>
    cases commits with
    | false => exact fun d hd hbase => ih _ (h d hd hbase)
    | true =>
      intro d hd hbase
      obtain ⟨hgood, hmoves, hrest⟩ := h d hd hbase
      exact ⟨hgood, hmoves, ih _ hrest⟩

/-- The rule for sequences: the second half must keep the contract wherever the first one ends. -/
theorem Keeps.bind {Q : β → δ → (δ → δ) → Prop} {p : Program ε δ α} {f : α → Program ε δ β}
    (h : p.Keeps C (fun a => (f a).Keeps C Q E) E base pending) :
    (p >>= f).Keeps C Q E base pending := by
  show (Program.bind p f).Keeps C Q E base pending
  induction p generalizing base pending with
  | done a => exact h
  | raise e => exact h
  | write g rest ih => exact ih h
  | ask commits rest ih =>
    cases commits with
    | false => exact fun d hd hbase => ih _ (h d hd hbase)
    | true =>
      intro d hd hbase
      obtain ⟨hgood, hmoves, hrest⟩ := h d hd hbase
      exact ⟨hgood, hmoves, ih _ hrest⟩

/-- The rule for handlers: the handler must keep the contract wherever the program raises. -/
theorem Keeps.tryExcept {p : Program ε δ α} {handler : ε → Program ε δ α}
    (h : p.Keeps C Q (fun e => (handler e).Keeps C Q E) base pending) :
    (Program.tryExcept p handler).Keeps C Q E base pending := by
  induction p generalizing base pending with
  | done a => exact h
  | raise e => exact h
  | write f rest ih => exact ih h
  | ask commits rest ih =>
    cases commits with
    | false => exact fun d hd hbase => ih _ (h d hd hbase)
    | true =>
      intro d hd hbase
      obtain ⟨hgood, hmoves, hrest⟩ := h d hd hbase
      exact ⟨hgood, hmoves, ih _ hrest⟩

/-- A result moves nothing: its value must meet the one condition, its exception the other. -/
theorem keeps_ofExcept {r : Except ε α} (hok : ∀ a, r = .ok a → Q a base pending)
    (herror : ∀ e, r = .error e → E e base pending) :
    (ofExcept r : Program ε δ α).Keeps C Q E base pending := by
  cases r with
  | ok a => exact hok a rfl
  | error e => exact herror e rfl

/-- A query shows a state that others have meanwhile moved to, with the writes of the session on
    top. -/
theorem keeps_query {Q : δ → δ → (δ → δ) → Prop}
    (h : ∀ d, C.good d → C.moves base d → Q (pending d) d pending) :
    (query : Program ε δ δ).Keeps C Q E base pending := h

/-- A flush shows the session nothing new, but others may have moved before it. -/
theorem keeps_flush {Q : Unit → δ → (δ → δ) → Prop}
    (h : ∀ d, C.good d → C.moves base d → Q () d pending) :
    (flush : Program ε δ Unit).Keeps C Q E base pending := h

/-- The rule for commits: what is staged must be good on top of whatever is stored by then, and
    nothing is pending behind it. -/
theorem keeps_commit {Q : Unit → δ → (δ → δ) → Prop} (hstages : C.Stages base pending)
    (h : ∀ d, C.good d → C.moves base d → Q () (pending d) id) :
    (commit : Program ε δ Unit).Keeps C Q E base pending := by
  intro d hd hbase
  obtain ⟨hgood, hmoves⟩ := hstages d hd hbase
  exact ⟨hgood, hmoves, h d hd hbase⟩

/-- A change is pending only; nobody else sees it before the commit. -/
theorem keeps_change {Q : Unit → δ → (δ → δ) → Prop} {f : δ → δ}
    (h : Q () base fun d => f (pending d)) :
    (change f : Program ε δ Unit).Keeps C Q E base pending := h

/-- Where each write keeps the contract, the program does. -/
theorem Writes.keeps {start : δ} {W : (δ → δ) → Prop} {p : Program ε δ α} (h : p.Writes W)
    (hW : ∀ f, W f → C.Stages start f) (hstart : C.moves start base)
    (hpending : C.Stages base pending) :
    p.Keeps C (fun _ base pending => C.moves start base ∧ C.Stages base pending)
      (fun _ base pending => C.moves start base ∧ C.Stages base pending) base pending := by
  induction p generalizing base pending with
  | done a => exact ⟨hstart, hpending⟩
  | raise e => exact ⟨hstart, hpending⟩
  | write f rest ih => exact ih h.2 hstart (hpending.write ((hW f h.1).later hstart))
  | ask commits rest ih =>
    cases commits with
    | false => exact fun d _ hbase => ih _ (h _) (C.trans hstart hbase) (hpending.later hbase)
    | true =>
      intro d hd hbase
      obtain ⟨hgood, hmoves⟩ := hpending d hd hbase
      exact ⟨hgood, hmoves, ih _ (h _) (C.trans hstart (C.trans hbase hmoves)) (C.stages_id _)⟩

end Rules

end Program

/-! ## Sessions -/

inductive Client (ε δ : Type)
  | idle
  | busy (pending : δ → δ) (broken : Bool) (rest : Program ε δ Unit)

structure Shared (ε δ : Type) (n : Nat) where
  stored : δ
  asked : Nat := 0
  clients : Fin n → Client ε δ

inductive SharedAction (ε δ : Type) (n : Nat)
  | start (k : Fin n) (program : Program ε δ Unit)
  | act (k : Fin n)
  /-- Anyone else has written. -/
  | elsewhere (d : δ)

variable {n : Nat} {s t : Shared ε δ n} {a : SharedAction ε δ n}

/-- One turn of a client; a program that is over closes its session. -/
def Shared.act (D : Database ε δ) (s : Shared ε δ n) (k : Fin n) (pending : δ → δ) (broken : Bool)
    (program : Program ε δ Unit) : Shared ε δ n :=
  match program.turn D ⟨s.stored, pending, broken, s.asked⟩ with
  | some (rest, u) =>
    { stored := u.stored, asked := u.asked,
      clients := Function.update s.clients k (.busy u.pending u.broken rest) }
  | none => { s with clients := Function.update s.clients k .idle }

/-- A client opens a session. -/
def Shared.opened (s : Shared ε δ n) (k : Fin n) (program : Program ε δ Unit) : Shared ε δ n :=
  { s with clients := Function.update s.clients k (.busy id false program) }

def Shared.step (D : Database ε δ) (s : Shared ε δ n) :
    SharedAction ε δ n → Option (Shared ε δ n)
  | .start k program =>
    match s.clients k with
    | .idle => some (s.opened k program)
    | .busy .. => none
  | .act k =>
    match s.clients k with
    | .idle => none
    | .busy pending broken program => some (s.act D k pending broken program)
  | .elsewhere d => some { s with stored := d }

/-- What is started keeps the contract; so do the others. -/
def Fits (C : Contract δ) (s : Shared ε δ n) : SharedAction ε δ n → Prop
  | .start _ program =>
    program.Keeps C (fun _ _ _ => True) (fun _ _ _ => True) s.stored id
  | .act _ => True
  | .elsewhere d => C.good d ∧ C.moves s.stored d

/-- A client that is broken stores nothing any more; any other one keeps the contract from a state the
    database has been in. -/
def Client.Keeping (C : Contract δ) (stored : δ) : Client ε δ → Prop
  | .idle => True
  | .busy pending broken program => broken = false → ∃ base, C.moves base stored ∧
      program.Keeps C (fun _ _ _ => True) (fun _ _ _ => True) base pending

/-- A client that keeps the contract from one state on keeps it from every state that others move
    to. -/
theorem Client.Keeping.moved {client : Client ε δ} {d d' : δ} (h : client.Keeping C d)
    (hmoves : C.moves d d') : client.Keeping C d' := by
  cases client with
  | idle => trivial
  | busy pending broken program =>
    intro hwhole
    obtain ⟨base, hbase, hkeeps⟩ := h hwhole
    exact ⟨base, C.trans hbase hmoves, hkeeps⟩

structure Kept (C : Contract δ) (s : Shared ε δ n) : Prop where
  good : C.good s.stored
  clients : ∀ k, (s.clients k).Keeping C s.stored

/-- One client has acted: the state it left is good, it keeps the contract from there on, and so do
    all the others. -/
theorem Kept.update (h : Kept C s) {d : δ} {asked : Nat} {k : Fin n} {client : Client ε δ}
    (hgood : C.good d) (hmoves : C.moves s.stored d) (hclient : client.Keeping C d) :
    Kept C ⟨d, asked, Function.update s.clients k client⟩ where
  good := hgood
  clients k' := by
    show Client.Keeping C d (Function.update s.clients k client k')
    rcases eq_or_ne k' k with rfl | hne
    · rw [Function.update_self]
      exact hclient
    · rw [Function.update_of_ne hne]
      exact (h.clients k').moved hmoves

/-- A turn of a client, refused or not. -/
theorem Kept.act (h : Kept C s) {k : Fin n} {pending : δ → δ} {broken : Bool}
    {program : Program ε δ Unit} (hk : s.clients k = .busy pending broken program) :
    Kept C (s.act D k pending broken program) ∧
      C.moves s.stored (s.act D k pending broken program).stored := by
  have hclient := h.clients k
  rw [hk] at hclient
  unfold Shared.act
  cases program with
  | done a => exact ⟨h.update h.good (C.refl _) trivial, C.refl _⟩
  | raise e => exact ⟨h.update h.good (C.refl _) trivial, C.refl _⟩
  | write f rest => exact ⟨h.update h.good (C.refl _) hclient, C.refl _⟩
  | ask commits rest =>
    rcases hrefusal : UnitOfWork.refusal D commits ⟨s.stored, pending, broken, s.asked⟩ with _ | e
    · have hwhole : broken = false := by
        cases broken with
        | false => rfl
        | true => cases hrefusal
      obtain ⟨base, hbase, hkeeps⟩ := hclient hwhole
      simp only [Program.turn, UnitOfWork.answer, hrefusal]
      cases commits with
      | false => exact ⟨h.update h.good (C.refl _) fun _ =>
          ⟨s.stored, C.refl _, hkeeps s.stored h.good hbase⟩, C.refl _⟩
      | true =>
        obtain ⟨hgood, hmoves, hrest⟩ := hkeeps s.stored h.good hbase
        exact ⟨h.update hgood hmoves fun _ => ⟨pending s.stored, C.refl _, hrest⟩, hmoves⟩
    · simp only [Program.turn, UnitOfWork.answer, hrefusal]
      exact ⟨h.update h.good (C.refl _) (fun hwhole => by cases hwhole), C.refl _⟩

/-- **The step.** Whatever a step of the system is, the contract is kept by all clients, and the
    stored state moves as it allows. -/
theorem Kept.step (h : Kept C s) (cond : Fits C s a) (hstep : s.step D a = some t) :
    Kept C t ∧ C.moves s.stored t.stored := by
  cases a with
  | start k program =>
    simp only [Shared.step] at hstep
    split at hstep
    · cases hstep
      exact ⟨h.update h.good (C.refl _) fun _ => ⟨s.stored, C.refl _, cond⟩, C.refl _⟩
    · cases hstep
  | act k =>
    simp only [Shared.step] at hstep
    split at hstep
    · cases hstep
    · rename_i pending broken program hk
      cases hstep
      exact h.act hk
  | elsewhere d =>
    cases hstep
    exact ⟨⟨cond.1, fun k => (h.clients k).moved cond.2⟩, cond.2⟩

/-- **Every run keeps the contract**: what is stored stays good, and has only moved as the contract
    allows. -/
theorem run_keeps {P : Shared ε δ n → SharedAction ε δ n → Prop}
    {actions : List (SharedAction ε δ n)} (hidle : ∀ k, s.clients k = .idle)
    (hgood : C.good s.stored) (hfits : ∀ {s a}, C.good s.stored → P s a → Fits C s a)
    (run : Run (Shared.step D) P s actions t) : C.good t.stored ∧ C.moves s.stored t.stored := by
  have hstart : Kept C s := ⟨hgood, fun k => by rw [hidle k]; trivial⟩
  have hkeep : ∀ {s a t}, Kept C s → P s a → Shared.step D s a = some t → Kept C t :=
    fun h cond hstep => (h.step (hfits h.good cond) hstep).1
  exact ⟨(run.invariant hstart hkeep).good, run.related (R := fun s t => C.moves s.stored t.stored)
    (fun s => C.refl s.stored) C.trans hstart hkeep
    fun h cond hstep => (h.step (hfits h.good cond) hstep).2⟩

end RiseSun
