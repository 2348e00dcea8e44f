/-
  A connection of the pool has one owner.

  1. **Condition** (`ClaimsIntact`) — `claim()` hands out no connection whose serial number is broken.
     Such a connection is in the pool between the moment its thread sets the number and the lock
     section that rejects it; whoever takes it then has it closed under him (`broken_claim_closed`).

  2. **Invariant** (`Owned`) — a connection that was handed over has a thread that neither reads it nor
     will close it.  Everything else follows from that and from leaving once: who closes a
     connection, who uses it, and what an eviction still has to close (`Closing`).

  3. **Every run** (`connections_owned`).
-/
import RiseSun.Gateway.Pool

namespace RiseSun.Gateway

open Machine

variable {config : PoolConfig} {s t : PoolState}

/-! ## Condition -/

/-- The condition on a step: `claim()` asks for a serial number that is in order, or finds nothing.
    -/
def ClaimsIntact (s : PoolState) : PoolAction → Prop
  | .claim _ serial maxAge now =>
    PyText.isDigit serial = true ∨ s.claimable serial maxAge now = []
  | _ => True

instance (s : PoolState) : ∀ a, Decidable (ClaimsIntact s a)
  | .claim _ serial maxAge now =>
    inferInstanceAs (Decidable (PyText.isDigit serial = true ∨ s.claimable serial maxAge now = []))
  | .admitConnection _ | .proceed _ | .announce .. | .identify _ | .handOver _ | .lookForSibling _ | .finish _
  | .use .. | .close .. => inferInstanceAs (Decidable True)

/-! ## Window -/

/-- Taking connections out does not make the pool larger. -/
theorem length_leave {gone : List Nat} {exit : Exit} :
    (s.leave gone exit).pool.length ≤ s.pool.length := List.length_filter_le _ _

/-- A window of at least one connection is never exceeded: each step keeps the pool within it. -/
theorem window_step {a : PoolAction} (windowed : 1 ≤ config.windowSize)
    (h : s.pool.length ≤ config.windowSize) (change : PoolChange config s a t) :
    t.pool.length ≤ config.windowSize := by
  cases change with
  | admitted room =>
    rw [PoolState.pool, PoolState.enter, Roster.arrive, List.length_append]
    exact room
  | @windowFull _ oldest rest _ first =>
    have hheld : oldest ∈ s.pool := by
      rw [first]
      exact List.mem_cons_self
    have hshorter : (s.leave [oldest.connNo] .window).pool.length < s.pool.length :=
      List.length_filter_lt_length_iff_exists.mpr
        ⟨oldest, hheld, fun h => of_decide_eq_true h (List.mem_singleton.mpr rfl)⟩
    rw [PoolState.pool, PoolState.enter, Roster.arrive, List.length_append]
    exact Nat.le_trans hshorter h
  | noWindow full => exact absurd (Nat.le_trans windowed full) (Nat.not_succ_le_zero 0)
  | announced =>
    rw [PoolState.pool, PoolState.announce, Roster.revise, List.length_map]
    exact h
  | rejected | limitReached | handedOver | siblingFound | claimed =>
    exact Nat.le_trans length_leave h
  | proceeded | limitFree | noLimit | goneBefore | noSibling | finished | claimedInVain | used
  | closed => exact h

/-! ## Owners -/

/-- The thread reads its connection, or will close it. -/
def Stage.keeps : Stage → Bool
  | .admitted _ | .reading | .rejecting => true
  | .named serial => !PyText.isDigit serial
  | .idle | .evicting .. | .asking _ | .serving _ => false

/-- The connection has left the pool because it was thrown away. -/
def PoolState.Evicted (s : PoolState) (connNo : Nat) : Prop :=
  ∃ exit, (connNo, exit) ∈ s.exits ∧ exit.owner = none

/-- A close of what was thrown away, or by the owner. -/
def PoolState.Rightful (s : PoolState) (r : Nat × Exit) : Prop :=
  r.2.owner = none ∧ s.Evicted r.1 ∨ r ∈ s.exits

/-- A connection that was handed over is out of its thread's hands; threads close only what was
    thrown away; every close is rightful; only those a connection was handed to use it. -/
structure PoolState.Owned (s : PoolState) : Prop where
  own : ∀ connNo owner, (connNo, .handed owner) ∈ s.exits → (s.stage connNo).keeps = false
  closing : ∀ n, ∀ r ∈ (s.stage n).closing n, s.Evicted r.1
  closes : ∀ r ∈ s.closes, s.Rightful r
  uses : ∀ r ∈ s.uses, (r.1, .handed r.2) ∈ s.exits

/-- What a thread closes on its own account was thrown away, and handed to nobody. -/
theorem Stage.closing_owner {stage : Stage} {n : Nat} {r : Nat × Exit}
    (h : r ∈ stage.closing n) : r.2.owner = none := by
  cases stage with
  | admitted evicted | evicting _ evicted =>
    obtain ⟨_, -, rfl⟩ := Option.map_eq_some_iff.mp h
    rfl
  | rejecting =>
    obtain rfl := Option.some.inj h
    rfl
  | idle | reading | named | asking | serving => cases h

/-- A thread that has let go of its connection does not take it up again by going on. -/
theorem Stage.after_keeps {stage next : Stage} (h : stage.after = some next)
    (free : stage.keeps = false) : next.keeps = false := by
  cases stage with
  | admitted => cases free
  | rejecting => cases free
  | evicting =>
    obtain rfl := Option.some.inj h
    rfl
  | idle | reading | named | asking | serving => cases h

/-- A thread closes one connection at a time. -/
theorem Stage.after_closing {stage next : Stage} {n : Nat} (h : stage.after = some next) :
    next.closing n = none := by
  cases stage with
  | admitted | rejecting | evicting =>
    obtain rfl := Option.some.inj h
    rfl
  | idle | reading | named | asking | serving => cases h

/-- A thread that has something to close does not end. -/
theorem Stage.mayEnd_closing {stage : Stage} {n : Nat} (h : stage.mayEnd = true) :
    stage.closing n = none := by
  cases stage with
  | reading | asking | serving => rfl
  | idle | admitted | named | rejecting | evicting => cases h

/-- A thread with something to close has a stage to go on to. -/
theorem Stage.after_of_closing {stage : Stage} {n : Nat} {r : Nat × Exit}
    (h : stage.closing n = some r) : ∃ next, stage.after = some next := by
  cases stage with
  | admitted | rejecting | evicting => exact ⟨_, rfl⟩
  | idle | reading | named | asking | serving => cases h

/-- A held connection with a serial number in order is out of its thread's hands. -/
theorem Stage.Names.free {stage : Stage} {serial : String} (h : stage.Names (some serial))
    (digits : PyText.isDigit serial = true) : stage.keeps = false := by
  cases stage with
  | admitted | reading => cases h
  | named =>
    obtain rfl := Option.some.inj h
    rw [Stage.keeps, digits]
    rfl
  | rejecting => exact h.elim
  | idle | evicting | asking | serving => rfl

namespace PoolState

/-- Taking out adds to the record exactly the connections that were held. -/
theorem mem_exits_leave {gone : List Nat} {exit e : Exit} {connNo : Nat} :
    (connNo, e) ∈ (s.leave gone exit).exits ↔ (connNo, e) ∈ s.exits ∨
      e = exit ∧ connNo ∈ gone ∧ ∃ p ∈ s.pool, p.connNo = connNo := Roster.mem_left_leave

/-- A connection that was thrown away stays so while the record grows. -/
theorem Evicted.mono {connNo : Nat} (h : s.Evicted connNo)
    (exits : ∀ r ∈ s.exits, r ∈ t.exits) : t.Evicted connNo :=
  h.imp fun _ => And.imp_left (exits _)

/-- A rightful close stays rightful while the record grows. -/
theorem Rightful.mono {r : Nat × Exit} (h : s.Rightful r) (exits : ∀ r ∈ s.exits, r ∈ t.exits) :
    t.Rightful r := h.imp (And.imp_right (·.mono exits)) (exits r)

namespace Owned

variable {connNo : Nat} {stage : Stage}

/-- In the empty pool nothing was handed over, closed or used. -/
theorem initial : ({} : PoolState).Owned :=
  ⟨fun _ _ h => (nomatch h), fun _ _ h => (nomatch h), fun _ h => (nomatch h), fun _ h => (nomatch h)⟩

/-- Only connections that their threads are done with may be handed over. -/
theorem leave {gone : List Nat} {exit : Exit} (h : s.Owned)
    (free : exit.owner ≠ none → ∀ p ∈ s.pool, p.connNo ∈ gone → (s.stage p.connNo).keeps = false) :
    (s.leave gone exit).Owned := by
  have hold : ∀ r ∈ s.exits, r ∈ (s.leave gone exit).exits := fun _ => List.mem_append_left _
  refine ⟨fun connNo owner hmem => ?_, fun n r hr => (h.closing n r hr).mono hold,
    fun r hr => (h.closes r hr).mono hold, fun r hr => hold _ (h.uses r hr)⟩
  rcases mem_exits_leave.mp hmem with hbefore | ⟨rfl, hgone, p, hp, rfl⟩
  · exact h.own connNo owner hbefore
  · exact free (fun heq => (nomatch heq)) p hp hgone

/-- A thread may go on to a stage where it keeps its connection only if nobody was handed it, and it
    may plan to close only what was thrown away. -/
theorem advance (h : s.Owned)
    (own : ∀ owner, (connNo, .handed owner) ∈ s.exits → stage.keeps = false)
    (closing : ∀ r ∈ stage.closing connNo, s.Evicted r.1) : (s.advance connNo stage).Owned where
  own := fun c owner hmem => by
    rcases eq_or_ne c connNo with rfl | hne
    · simpa only [PoolState.advance, Function.update_self] using own owner hmem
    · simpa only [PoolState.advance, Function.update_of_ne hne] using h.own c owner hmem
  closing := fun n r hr => by
    rcases eq_or_ne n connNo with rfl | hne
    · exact closing r (by simpa only [PoolState.advance, Function.update_self] using hr)
    · exact h.closing n r (by simpa only [PoolState.advance, Function.update_of_ne hne] using hr)
  closes := h.closes
  uses := h.uses

/-- Closes may go on record if they are rightful. -/
theorem noteCloses {closes : List (Nat × Exit)} (h : s.Owned)
    (rightful : ∀ r ∈ closes, s.Rightful r) : (s.noteCloses closes).Owned :=
  ⟨h.own, h.closing, fun r hr => (List.mem_append.mp hr).elim (h.closes r) (rightful r), h.uses⟩

/-- What was never admitted was never handed over. -/
theorem enter {now : ℚ} {evicted : Option Nat} (sound : s.Sound) (h : s.Owned)
    (thrown : ∀ c ∈ evicted, s.Evicted c) : (s.enter now evicted).Owned :=
  advance (s := { s with
      roster := s.roster.arrive ⟨s.nextConnNo + 1, none, now⟩
      nextConnNo := s.nextConnNo + 1 })
    ⟨h.own, h.closing, h.closes, h.uses⟩
    (fun _ hmem => absurd (sound.numbered _ (Roster.mem_keys_of_left hmem)) (Nat.not_succ_le_self _))
    fun r hr => by
      obtain ⟨c, hc, rfl⟩ := Option.map_eq_some_iff.mp hr
      exact thrown c hc

/-- What an eviction takes out of the pool is thrown away. -/
theorem evicted_leave {p : PooledConnection} {exit : Exit} (held : p ∈ s.pool)
    (thrown : exit.owner = none) : (s.leave [p.connNo] exit).Evicted p.connNo :=
  ⟨exit, mem_exits_leave.mpr (.inr ⟨rfl, List.mem_singleton.mpr rfl, p, held, rfl⟩), thrown⟩

/-- Whoever is identified with a serial number in order may be handed over. -/
theorem free_of_matching {serial : String} (sound : s.Sound)
    (digits : PyText.isDigit serial = true) {p q : PooledConnection} (mem : q ∈ s.matching serial)
    (same : p.connNo = q.connNo) : (s.stage p.connNo).keeps = false := by
  obtain ⟨hheld, hserial⟩ := mem_matching.mp mem
  exact same ▸ Stage.Names.free (hserial ▸ sound.names q hheld) digits

/-- A thread rejects its own connection, and will close it.  If it is not held any more, it was thrown
    away before: nobody was handed a broken serial number. -/
theorem reject {serial : String} (sound : s.Sound) (h : s.Owned)
    (named : s.stage connNo = .named serial) (broken : PyText.isDigit serial = false) :
    ((s.leave [connNo] .rejection).advance connNo .rejecting).Owned := by
  have hown : ∀ owner, (connNo, .handed owner) ∉ s.exits := fun owner hmem => by
    have hkeeps := h.own connNo owner hmem
    rw [named, Stage.keeps, broken] at hkeeps
    cases hkeeps
  refine (h.leave fun hne => absurd rfl hne).advance (fun owner hmem => ?_) fun r hr => ?_
  · rcases mem_exits_leave.mp hmem with hbefore | ⟨heq, -⟩
    · exact absurd hbefore (hown owner)
    · cases heq
  · obtain rfl := Option.some.inj hr
    rcases List.mem_append.mp (sound.present_of named Stage.noConfusion) with hheld | hleft
    · obtain ⟨p, hp, rfl⟩ := List.mem_map.mp hheld
      exact evicted_leave hp rfl
    · obtain ⟨⟨_, exit⟩, hexit, rfl⟩ := List.mem_map.mp hleft
      refine ⟨exit, mem_exits_leave.mpr (.inl hexit), ?_⟩
      cases exit with
      | handed owner => exact absurd hexit (hown owner)
      | window | limit | rejection => rfl

/-- A thread takes its connection out for an immediate read, and the others of its meter with it. -/
theorem handOver {serial : String} (sound : s.Sound) (h : s.Owned)
    (asking : s.stage connNo = .asking serial) :
    ((s.leave (connNo :: (s.sameSerial connNo serial).map (·.connNo))
      (.handed (.immediateRead connNo))).advance connNo (.serving serial)).Owned := by
  refine (h.leave fun _ p hp hgone => ?_).advance (fun _ _ => rfl) fun _ h => (nomatch h)
  rcases List.mem_cons.mp hgone with heq | hothers
  · rw [heq, asking]
    rfl
  · obtain ⟨q, hq, heq⟩ := List.mem_map.mp hothers
    exact free_of_matching sound (sound.settled_of asking) (List.mem_of_mem_filter hq) heq.symm

/-- Every step that meets the condition keeps the ownership: a case for each change. -/
theorem step {a : PoolAction} (sound : s.Sound) (h : s.Owned) (intact : ClaimsIntact s a)
    (change : PoolChange config s a t) : t.Owned := by
  cases change with
  | admitted => exact h.enter sound fun _ h => (nomatch h)
  | @windowFull _ oldest _ _ first =>
    have hheld : oldest ∈ s.pool := by
      rw [first]
      exact List.mem_cons_self
    refine (h.leave fun hne => absurd rfl hne).enter sound.leave fun c hc => ?_
    exact Option.some.inj hc ▸ evicted_leave hheld rfl
  | noWindow => exact ⟨h.own, h.closing, h.closes, h.uses⟩
  | @proceeded connNo _ after =>
    have hnoted := h.noteCloses fun r hr =>
      .inl ⟨Stage.closing_owner (Option.mem_toList.mp hr), h.closing connNo r (Option.mem_toList.mp hr)⟩
    refine hnoted.advance (fun owner hmem => Stage.after_keeps after (h.own connNo owner hmem)) ?_
    rw [Stage.after_closing after]
    exact fun _ h => (nomatch h)
  -- a thread that reads has a connection nobody was handed
  | @announced connNo _ serial stage =>
    have hrevised : PoolState.Owned { s with
        roster := s.roster.revise fun p =>
          if p.connNo = connNo then { p with serial := some serial } else p } :=
      ⟨h.own, h.closing, h.closes, h.uses⟩
    refine hrevised.advance (fun owner hmem => ?_) fun _ h => (nomatch h)
    have hreads := h.own connNo owner hmem
    rw [stage] at hreads
    cases hreads
  | rejected stage broken => exact h.reject sound stage broken
  | limitFree => exact h.advance (fun _ _ => rfl) fun _ h => (nomatch h)
  | @limitReached connNo serial oldest _ _ _ _ first =>
    have hmem : oldest ∈ s.sameSerial connNo serial := first ▸ List.mem_cons_self
    have hheld : oldest ∈ s.pool := (mem_matching.mp (List.mem_of_mem_filter hmem)).1
    have hnext : ((s.leave [oldest.connNo] .limit).advance connNo
        (.evicting serial (some oldest.connNo))).Owned := by
      refine (h.leave fun hne => absurd rfl hne).advance (fun _ _ => rfl) fun r hr => ?_
      exact Option.some.inj hr ▸ evicted_leave hheld rfl
    exact ⟨hnext.own, hnext.closing, hnext.closes, hnext.uses⟩
  | noLimit | goneBefore | finished => exact h.advance (fun _ _ => rfl) fun _ h => (nomatch h)
  | handedOver stage => exact h.handOver sound stage
  | siblingFound stage found =>
    exact h.leave fun _ p _ hgone =>
      free_of_matching sound (sound.settled_of stage) found (List.mem_singleton.mp hgone)
  | noSibling | claimedInVain => exact h
  -- the only step that takes a serial number from outside, and the only one the condition is for
  | claimed last =>
    have hclaimable := List.mem_of_getLast? last
    refine h.leave fun _ p hp hgone => ?_
    rcases intact with hdigits | hnil
    · exact free_of_matching sound hdigits (mem_claimable.mp hclaimable).1
        (List.mem_singleton.mp hgone)
    · rw [hnil] at hclaimable
      cases hclaimable
  | used handed =>
    refine ⟨h.own, h.closing, h.closes, fun r hr => ?_⟩
    rcases List.mem_append.mp hr with hbefore | hnew
    · exact h.uses r hbefore
    · obtain rfl := List.mem_singleton.mp hnew
      exact handed
  | closed handed => exact h.noteCloses fun r hr => .inr (List.mem_singleton.mp hr ▸ handed)

/-- The ownership holds after every run whose claims meet the condition. -/
theorem run {actions : List PoolAction}
    (run : Run (poolStep config) ClaimsIntact {} actions s) : s.Sound ∧ s.Owned :=
  run.invariant (I := fun s => s.Sound ∧ s.Owned) ⟨.initial, .initial⟩
    fun ⟨hsound, howned⟩ intact next =>
      ⟨hsound.step (poolStep_change next), howned.step hsound intact (poolStep_change next)⟩

end Owned

/-! ## Evictions -/

/-- What was thrown away is closed by what threw it away, or is about to be. -/
def Closing (s : PoolState) : Prop :=
  ∀ r ∈ s.exits, r.2.owner = none → r ∈ s.closes ∨ ∃ n, (s.stage n).closing n = some r

/-- Taking one connection out adds at most that one to the record. -/
theorem mem_exits_leave_one {connNo : Nat} {exit : Exit} {r : Nat × Exit}
    (h : r ∈ (s.leave [connNo] exit).exits) : r ∈ s.exits ∨ r = (connNo, exit) :=
  (mem_exits_leave.mp h).imp_right fun ⟨hexit, hconn, _⟩ =>
    Prod.ext (List.mem_singleton.mp hconn) hexit

/-- A thread may go on once it has closed what it was to close. -/
theorem Closing.advance {connNo : Nat} {stage : Stage} (h : s.Closing)
    (moved : t.stage = Function.update s.stage connNo stage)
    (exits : ∀ r ∈ t.exits, r ∈ s.exits ∨ stage.closing connNo = some r)
    (closes : ∀ r ∈ s.closes, r ∈ t.closes)
    (done : ∀ r ∈ (s.stage connNo).closing connNo, r ∈ t.closes) : t.Closing := by
  intro r hr hthrown
  rcases exits r hr with hbefore | hnew
  · rcases h r hbefore hthrown with hclosed | ⟨n, hn⟩
    · exact .inl (closes r hclosed)
    · rcases eq_or_ne n connNo with rfl | hne
      · exact .inl (done r hn)
      · exact .inr ⟨n, by rwa [moved, Function.update_of_ne hne]⟩
  · exact .inr ⟨connNo, by rwa [moved, Function.update_self]⟩

/-- Handing connections over leaves nothing that would still have to be closed. -/
theorem Closing.handed {gone : List Nat} {owner : Owner} (h : s.Closing) :
    (s.leave gone (.handed owner)).Closing := fun r hr hthrown => by
  rcases mem_exits_leave.mp hr with hbefore | ⟨heq, -⟩
  · exact h r hbefore hthrown
  · rw [heq] at hthrown
    cases hthrown

/-- After every step, what was thrown away is closed or about to be. -/
theorem Closing.step {a : PoolAction} (sound : s.Sound) (h : s.Closing)
    (change : PoolChange config s a t) : t.Closing := by
  cases change with
  | admitted =>
    refine h.advance rfl (fun _ => .inl) (fun _ => id) fun r hr => ?_
    rw [sound.idle_of_new] at hr
    cases hr
  | windowFull =>
    refine h.advance rfl (fun r hr => ?_) (fun _ => id) fun r hr => ?_
    · exact (mem_exits_leave_one hr).imp_right fun heq => congrArg some heq.symm
    · rw [show s.stage ((s.leave _ _).nextConnNo + 1) = .idle from sound.idle_of_new] at hr
      cases hr
  | noWindow | noSibling | claimedInVain | used => exact h
  | proceeded =>
    exact h.advance rfl (fun _ => .inl) (fun _ => List.mem_append_left _)
      fun r hr => List.mem_append_right _ (Option.mem_toList.mpr hr)
  | announced stage =>
    refine h.advance rfl (fun _ => .inl) (fun _ => id) fun r hr => ?_
    rw [stage] at hr
    cases hr
  | rejected stage | limitReached stage =>
    refine h.advance rfl (fun r hr => ?_) (fun _ => id) fun r hr => ?_
    · exact (mem_exits_leave_one hr).imp_right fun heq => congrArg some heq.symm
    · rw [stage] at hr
      cases hr
  | limitFree stage | noLimit stage | goneBefore stage =>
    refine h.advance rfl (fun _ => .inl) (fun _ => id) fun r hr => ?_
    rw [stage] at hr
    cases hr
  | handedOver stage =>
    refine h.handed.advance rfl (fun _ => .inl) (fun _ => id) fun r hr => ?_
    rw [show (s.leave _ _).stage _ = _ from stage] at hr
    cases hr
  | siblingFound | claimed => exact h.handed
  | @finished connNo ends =>
    refine h.advance rfl (fun _ => .inl) (fun _ => id) fun r hr => ?_
    rw [Stage.mayEnd_closing ends] at hr
    cases hr
  | closed =>
    exact fun r hr hthrown => (h r hr hthrown).imp_left (List.mem_append_left _)

/-- A close that is due is the thread's next step. -/
theorem closing_proceeds {n : Nat} {r : Nat × Exit} (h : (s.stage n).closing n = some r) :
    ∃ t, poolStep config s (.proceed n) = some t ∧ r ∈ t.closes := by
  obtain ⟨next, hafter⟩ := Stage.after_of_closing h
  exact ⟨_, congrArg (Option.map _) hafter, List.mem_append_right _ (Option.mem_toList.mpr h)⟩

/-! ## The choice of `claim()` -/

/-- What `claim()` chooses from stands in the order of the pool. -/
theorem claimable_sublist (serial : String) (maxAge : Option ℚ) (now : ℚ) :
    (s.claimable serial maxAge now).Sublist s.pool := by
  rcases maxAge with _ | age
  · exact List.filter_sublist
  · exact List.filter_sublist.trans List.filter_sublist

/-- The one `claim()` takes has the highest number of those it chooses from. -/
theorem le_last {serial : String} {maxAge : Option ℚ} {now : ℚ} {chosen p : PooledConnection}
    (sound : s.Sound) (last : (s.claimable serial maxAge now).getLast? = some chosen)
    (mem : p ∈ s.claimable serial maxAge now) : p.connNo ≤ chosen.connNo := by
  have horder := sound.order.sublist (claimable_sublist serial maxAge now)
  obtain ⟨before, hsplit⟩ := List.getLast?_eq_some_iff.mp last
  rw [hsplit] at horder mem
  rcases List.mem_append.mp mem with hbefore | hlast
  · exact ((List.pairwise_append.mp horder).2.2 p hbefore chosen (List.mem_singleton.mpr rfl)).le
  · rw [List.mem_singleton.mp hlast]

/-- Whoever claims a broken serial number has the connection closed by its thread. -/
theorem broken_claim_closed {caller : Nat} {serial : String} {maxAge : Option ℚ} {now : ℚ}
    {chosen : PooledConnection} (sound : s.Sound) (broken : PyText.isDigit serial = false)
    (last : (s.claimable serial maxAge now).getLast? = some chosen) :
    ∃ t, exec (poolStep config) (s.claim caller serial maxAge now)
        [.identify chosen.connNo, .proceed chosen.connNo] = some t ∧
      (chosen.connNo, .handed (.caller caller)) ∈ t.exits ∧
      (chosen.connNo, .rejection) ∈ t.closes := by
  obtain ⟨hheld, hserial⟩ := mem_matching.mp (mem_claimable.mp (List.mem_of_getLast? last)).1
  have hstage : s.stage chosen.connNo = .named serial :=
    Stage.Names.named (hserial ▸ sound.names chosen hheld) (sound.settled _) broken
  have hclaim : s.claim caller serial maxAge now =
      s.leave [chosen.connNo] (.handed (.caller caller)) := by rw [claim, last]
  obtain ⟨rejected, hrejected⟩ : ∃ rejected : PoolState, rejected =
      ((s.leave [chosen.connNo] (.handed (.caller caller))).leave [chosen.connNo]
        .rejection).advance chosen.connNo .rejecting := ⟨_, rfl⟩
  have hidentify : poolStep config (s.claim caller serial maxAge now) (.identify chosen.connNo) =
      some rejected := by
    rw [hrejected, hclaim, poolStep, show (s.leave _ _).stage chosen.connNo = _ from hstage]
    simp only [identify, broken, Bool.false_eq_true, if_false]
  have hproceed : poolStep config rejected (.proceed chosen.connNo) =
      some ((rejected.noteCloses [(chosen.connNo, .rejection)]).advance chosen.connNo .idle) := by
    rw [poolStep, show rejected.stage chosen.connNo = .rejecting from
      hrejected ▸ Function.update_self _ _ _]
    rfl
  have hexec : exec (poolStep config) (s.claim caller serial maxAge now)
      [.identify chosen.connNo, .proceed chosen.connNo] =
      some ((rejected.noteCloses [(chosen.connNo, .rejection)]).advance chosen.connNo .idle) := by
    rw [exec, hidentify, Option.bind_some, exec, hproceed]
    rfl
  refine ⟨_, hexec, ?_, List.mem_append_right _ (List.mem_singleton.mpr rfl)⟩
  rw [show ((rejected.noteCloses _).advance _ _).exits = rejected.exits from rfl, hrejected]
  exact mem_exits_leave.mpr (.inl (mem_exits_leave.mpr
    (.inr ⟨rfl, List.mem_singleton.mpr rfl, chosen, hheld, rfl⟩)))

/-! ## Every run -/

/-- Connections leave the pool once, thrown away and closed or handed to one owner who alone uses and
    closes them from then on, and `claim()` takes the newest it may. -/
structure OneOwner (config : PoolConfig) (s : PoolState) : Prop where
  window : s.pool.length ≤ config.windowSize
  once : (s.pool.map (·.connNo) ++ s.exits.map Prod.fst).Nodup
  thrown : ∀ connNo exit, (connNo, exit) ∈ s.exits → exit.owner = none →
    ((connNo, exit) ∈ s.closes ∨
      ∃ n t, poolStep config s (.proceed n) = some t ∧ (connNo, exit) ∈ t.closes) ∧
    ∀ user, (connNo, user) ∉ s.uses
  handed : ∀ connNo owner, (connNo, .handed owner) ∈ s.exits →
    (∀ exit, (connNo, exit) ∈ s.closes → exit = .handed owner) ∧
    (∀ user, (connNo, user) ∈ s.uses → user = owner) ∧ (s.stage connNo).keeps = false
  newest : ∀ caller serial maxAge now,
    s.claimable serial maxAge now = [] ∧ s.claim caller serial maxAge now = s ∨
    ∃ chosen ∈ s.claimable serial maxAge now,
      (∀ p ∈ s.claimable serial maxAge now, p.connNo ≤ chosen.connNo) ∧
      s.claim caller serial maxAge now = s.leave [chosen.connNo] (.handed (.caller caller))

end PoolState

/-- In every run in which `claim()` hands out no broken serial number, connections have one owner. -/
theorem connections_owned {actions : List PoolAction} (windowed : 1 ≤ config.windowSize)
    (run : Run (poolStep config) ClaimsIntact {} actions s) : s.OneOwner config := by
  obtain ⟨hsound, howned⟩ := PoolState.Owned.run run
  have hclosing : s.Sound ∧ s.Closing :=
    run.invariant (I := fun s => s.Sound ∧ s.Closing) ⟨.initial, fun _ h => (nomatch h)⟩
      fun ⟨hsound, hclosing⟩ _ next =>
        ⟨hsound.step (poolStep_change next), hclosing.step hsound (poolStep_change next)⟩
  have hwindow : s.pool.length ≤ config.windowSize :=
    run.invariant (I := fun s => s.pool.length ≤ config.windowSize) (Nat.zero_le _)
      fun h _ next => window_step windowed h (poolStep_change next)
  refine ⟨hwindow, hsound.once, fun connNo exit hexit hthrown => ⟨?_, fun user huse => ?_⟩,
    fun connNo owner hexit => ⟨fun exit hclose => ?_, fun user huse => ?_, ?_⟩,
    fun caller serial maxAge now => ?_⟩
  · rcases hclosing.2 _ hexit hthrown with hclosed | ⟨n, hn⟩
    · exact .inl hclosed
    · exact .inr ⟨n, PoolState.closing_proceeds hn⟩
  · rw [hsound.once.exit_eq hexit (howned.uses _ huse)] at hthrown
    cases hthrown
  · rcases howned.closes _ hclose with ⟨-, other, hother, hthrown⟩ | hmem
    · rw [hsound.once.exit_eq hother hexit] at hthrown
      cases hthrown
    · exact hsound.once.exit_eq hmem hexit
  · exact Exit.handed.inj (hsound.once.exit_eq (howned.uses _ huse) hexit)
  · exact howned.own connNo owner hexit
  · rcases hlast : (s.claimable serial maxAge now).getLast? with _ | chosen
    · exact .inl ⟨List.getLast?_eq_none_iff.mp hlast, by rw [PoolState.claim, hlast]⟩
    · exact .inr ⟨chosen, List.mem_of_getLast? hlast,
        fun p hp => PoolState.le_last hsound hlast hp, by rw [PoolState.claim, hlast]⟩

/-! ### Two meters -/

/-- Not all halves of a byte are decimal digits. -/
def brokenAddress : Bytes := [0x5c, 0x23, 0x00, 0x01, 0x20, 0x20]

/-- The oldest of three connections falls to the window, the newest is claimed, and the one left is
    read at once. -/
theorem connections_owned_three : ∃ s : PoolState,
    s.exits = [(1, .window), (3, .handed (.caller 7)), (2, .handed (.immediateRead 2))] ∧
    s.closes = [(1, .window), (3, .handed (.caller 7))] ∧ s.OneOwner { windowSize := 2 } := by
  have hexec : ((exec (guarded (poolStep { windowSize := 2 }) ClaimsIntact) {}
      (callIn 1 meterAddress ++ callIn 2 meterAddress ++ callIn 3 meterAddress ++
        [.identify 2, .proceed 2, .claim 7 meterSerial none 1, .use (.caller 7) 3,
          .close (.caller 7) 3, .handOver 2, .use (.immediateRead 2) 2])).map
        fun s => (s.exits, s.closes)) =
      some ([(1, .window), (3, .handed (.caller 7)), (2, .handed (.immediateRead 2))],
        [(1, .window), (3, .handed (.caller 7))]) := by decide
  obtain ⟨s, hrun, hresult⟩ := Option.map_eq_some_iff.mp hexec
  obtain ⟨hexits, hcloses⟩ := Prod.mk.inj hresult
  exact ⟨s, hexits, hcloses, connections_owned (by decide) (Run.of_guarded hrun)⟩

/-- A connection whose serial number is broken is claimed before its thread takes the lock to reject
    it: the thread closes what the caller owns. -/
theorem broken_serial_claimed :
    ¬ ∀ (config : PoolConfig) (actions : List PoolAction) (s : PoolState), 1 ≤ config.windowSize →
      Run (poolStep config) (fun _ _ => True) {} actions s → s.OneOwner config := by
  intro h
  have hexec : ((exec (guarded (poolStep {}) fun _ _ => True) {}
      (callIn 1 brokenAddress ++
        [.claim 7 "20200100235c" none 1, .identify 1, .proceed 1])).map
        fun s => (s.exits, s.closes)) =
      some ([(1, .handed (.caller 7))], [(1, .rejection)]) := by decide
  obtain ⟨s, hrun, hresult⟩ := Option.map_eq_some_iff.mp hexec
  obtain ⟨hexits, hcloses⟩ := Prod.mk.inj hresult
  have hown := ((h {} _ s (by decide) (Run.of_guarded hrun)).handed 1 (.caller 7)
    (hexits ▸ List.mem_singleton.mpr rfl)).1 .rejection (hcloses ▸ List.mem_singleton.mpr rfl)
  cases hown

end RiseSun.Gateway
