/-
  The pool of connections the meters have called in on (`CallHomePool`, `callhome.py`).

  1. **State** — the pool in the order of its dict, the thread of each connection and where it
     stands, and records of what left the pool and how, who closed and who used it, and what the
     per-serial limit has cost.

  2. **Steps** — every lock section is one step: `_admit`, the one that ends the identification, the
     hand-over to an immediate read, a look for a sibling connection, `claim()`.  What a thread does
     between two of them is a step of its own: it closes what it has evicted, and it sets the serial
     number, which it does outside the lock.

  3. **Changes** (`PoolChange`) — a step, case by case.

  4. **Invariant** (`Sound`) — connections leave once, and a held connection has the serial number
     its thread has come to.
-/
import Mathlib.Logic.Function.Basic
import RiseSun.Gateway.CallHome
import RiseSun.Lib.Machine
import RiseSun.Lib.Roster

namespace RiseSun.Gateway

open Machine

/-! ## State -/

/-- The bounds of the pool: of all its connections, and of those with one serial number. -/
structure PoolConfig where
  windowSize : Nat := 1000
  maxPerSerial : Nat := 10

/-- Whoever a connection is handed to. -/
inductive Owner
  | caller (id : Nat)
  /-- The immediate read in the thread of this connection. -/
  | immediateRead (connNo : Nat)
  deriving DecidableEq, Repr

/-- How a connection leaves the pool. -/
inductive Exit
  | window
  | limit
  /-- Its serial number is broken. -/
  | rejection
  | handed (owner : Owner)
  deriving DecidableEq, Repr

def Exit.owner : Exit → Option Owner
  | .handed owner => some owner
  | .window | .limit | .rejection => none

/-- Where the thread of a connection stands. -/
inductive Stage
  /-- It is not there. -/
  | idle
  /-- `_admit` has let the lock go, and has yet to start it. -/
  | admitted (evicted : Option Nat)
  | reading
  /-- The serial number is set, the lock not taken yet. -/
  | named (serial : String)
  | rejecting
  /-- The limit has been looked at. -/
  | evicting (serial : String) (evicted : Option Nat)
  /-- The backend is asked what is due. -/
  | asking (serial : String)
  /-- The immediate read. -/
  | serving (serial : String)
  deriving DecidableEq, Repr

/-- The close that the thread makes next, if it has one to make. -/
def Stage.closing (connNo : Nat) : Stage → Option (Nat × Exit)
  | .admitted evicted => evicted.map (·, .window)
  | .rejecting => some (connNo, .rejection)
  | .evicting _ evicted => evicted.map (·, .limit)
  | .idle | .reading | .named _ | .asking _ | .serving _ => none

/-- The stage that follows what is closed next. -/
def Stage.after : Stage → Option Stage
  | .admitted _ => some .reading
  | .rejecting => some .idle
  | .evicting serial _ => some (.asking serial)
  | .idle | .reading | .named _ | .asking _ | .serving _ => none

/-- The thread may end here: the connection says nothing more, or not what was expected; nothing is
    due; the immediate read is done. -/
def Stage.mayEnd : Stage → Bool
  | .reading | .asking _ | .serving _ => true
  | .idle | .admitted _ | .named _ | .rejecting | .evicting .. => false

/-- The pool with the threads of its connections, and the records of what has happened to them. -/
structure PoolState where
  roster : Roster PooledConnection Nat Exit := {}
  nextConnNo : Nat := 0
  stage : Nat → Stage := fun _ => .idle
  /-- The closes, and on what account. -/
  closes : List (Nat × Exit) := []
  /-- The reads and writes of those a connection was handed to. -/
  uses : List (Nat × Owner) := []
  /-- For every eviction by the limit, the serial number and how many connections of it were held. -/
  limits : List (String × Nat) := []

namespace PoolState

/-- The connections held now. -/
abbrev pool (s : PoolState) : List PooledConnection := s.roster.here

/-- What has left the pool, and on what account. -/
abbrev exits (s : PoolState) : List (Nat × Exit) := s.roster.left

/-- The connections identified with a serial number. -/
def matching (s : PoolState) (serial : String) : List PooledConnection :=
  s.pool.filter (·.serial = some serial)

/-- The number of connections held with a serial number. -/
def held (s : PoolState) (serial : String) : Nat := (s.matching serial).length

/-- The other connections of a serial number, without the one that is just being identified. -/
def sameSerial (s : PoolState) (connNo : Nat) (serial : String) : List PooledConnection :=
  (s.matching serial).filter (·.connNo ≠ connNo)

/-- The connections `claim()` chooses from. -/
def claimable (s : PoolState) (serial : String) (maxAge : Option ℚ) (now : ℚ) :
    List PooledConnection :=
  match maxAge with
  | some age => (s.matching serial).filter fun p => now - p.acceptedAt ≤ age
  | none => s.matching serial

/-- Connections are taken out of the pool, on the same account. -/
def leave (s : PoolState) (gone : List Nat) (exit : Exit) : PoolState :=
  { s with roster := s.roster.leave (·.connNo) gone exit }

/-- The thread of a connection goes on to a stage. -/
def advance (s : PoolState) (connNo : Nat) (stage : Stage) : PoolState :=
  { s with stage := Function.update s.stage connNo stage }

/-- Closes go on record. -/
def noteCloses (s : PoolState) (closes : List (Nat × Exit)) : PoolState :=
  { s with closes := s.closes ++ closes }

/-! ## Steps -/

/-- A connection joins the pool under the next number, and its thread still has to close the evicted
    one. -/
def enter (s : PoolState) (now : ℚ) (evicted : Option Nat) : PoolState :=
  { s with
    roster := s.roster.arrive ⟨s.nextConnNo + 1, none, now⟩
    nextConnNo := s.nextConnNo + 1
    stage := Function.update s.stage (s.nextConnNo + 1) (.admitted evicted) }

/-- The lock section of `_admit`. -/
def admitConnection (config : PoolConfig) (s : PoolState) (now : ℚ) : PoolState :=
  if config.windowSize ≤ s.pool.length then
    match s.pool with
    | oldest :: _ => (s.leave [oldest.connNo] .window).enter now (some oldest.connNo)
    -- `next(iter(...))` fails, with the number taken
    | [] => { s with nextConnNo := s.nextConnNo + 1 }
  else s.enter now none

/-- The announcement is read, and the serial number set. -/
def announce (s : PoolState) (connNo : Nat) (serial : String) : PoolState :=
  { s with
    roster := s.roster.revise fun p =>
      if p.connNo = connNo then { p with serial := some serial } else p
    stage := Function.update s.stage connNo (.named serial) }

/-- The lock section of `_identify`. -/
def identify (config : PoolConfig) (s : PoolState) (connNo : Nat) (serial : String) : PoolState :=
  if PyText.isDigit serial then
    if config.maxPerSerial ≤ (s.sameSerial connNo serial).length then
      match s.sameSerial connNo serial with
      | oldest :: _ =>
        { (s.leave [oldest.connNo] .limit).advance connNo
            (.evicting serial (some oldest.connNo)) with
          limits := s.limits ++ [(serial, s.held serial)] }
      -- `same_serial[0]` fails, and the thread with it
      | [] => s.advance connNo .idle
    else s.advance connNo (.evicting serial none)
  else (s.leave [connNo] .rejection).advance connNo .rejecting

/-- The lock section of `_maybe_trigger_immediate_read`. -/
def handOver (s : PoolState) (connNo : Nat) (serial : String) : PoolState :=
  if connNo ∈ s.pool.map (·.connNo) then
    (s.leave (connNo :: (s.sameSerial connNo serial).map (·.connNo))
      (.handed (.immediateRead connNo))).advance connNo (.serving serial)
  else s.advance connNo .idle

/-- One look of `_wait_for_sibling_connection`. -/
def lookForSibling (s : PoolState) (connNo : Nat) (serial : String) : PoolState :=
  match s.matching serial with
  | p :: _ => s.leave [p.connNo] (.handed (.immediateRead connNo))
  | [] => s

/-- The newest connection that fits goes to the caller. -/
def claim (s : PoolState) (caller : Nat) (serial : String) (maxAge : Option ℚ) (now : ℚ) :
    PoolState :=
  match (s.claimable serial maxAge now).getLast? with
  | some chosen => s.leave [chosen.connNo] (.handed (.caller caller))
  | none => s

end PoolState

/-- `serial_from_dlt645_address`; `none` is its `ValueError`. -/
def serialFromDlt645Address (addr6 : Bytes) : Option String :=
  if addr6.length = 6 then some (hexText (hexDigits addr6.reverse)) else none

/-- A meter whose announcements were recorded. -/
def meterAddress : Bytes := [0x52, 0x23, 0x00, 0x01, 0x20, 0x20]

def meterSerial : String := "202001002352"

example : serialFromDlt645Address meterAddress = some meterSerial := by decide

/-- The steps that threads and callers take. -/
inductive PoolAction
  | admitConnection (now : ℚ)
  /-- What follows `_admit`'s lock section, a rejection, or the look at the limit. -/
  | proceed (connNo : Nat)
  | announce (connNo : Nat) (addr6 : Bytes)
  | identify (connNo : Nat)
  | handOver (connNo : Nat)
  | lookForSibling (connNo : Nat)
  | finish (connNo : Nat)
  | claim (caller : Nat) (serial : String) (maxAge : Option ℚ) (now : ℚ)
  | use (owner : Owner) (connNo : Nat)
  | close (owner : Owner) (connNo : Nat)

/-- A call is taken, and its announcement read. -/
def callIn (connNo : Nat) (addr6 : Bytes) : List PoolAction :=
  [.admitConnection 0, .proceed connNo, .announce connNo addr6]

/-- One step; `none` says that it cannot be taken where the thread stands. -/
def poolStep (config : PoolConfig) (s : PoolState) : PoolAction → Option PoolState
  | .admitConnection now => some (s.admitConnection config now)
  | .proceed connNo =>
    (s.stage connNo).after.map
      ((s.noteCloses ((s.stage connNo).closing connNo).toList).advance connNo)
  | .announce connNo addr6 =>
    match s.stage connNo with
    | .reading => (serialFromDlt645Address addr6).map (s.announce connNo)
    | _ => none
  | .identify connNo =>
    match s.stage connNo with
    | .named serial => some (s.identify config connNo serial)
    | _ => none
  | .handOver connNo =>
    match s.stage connNo with
    | .asking serial => some (s.handOver connNo serial)
    | _ => none
  | .lookForSibling connNo =>
    match s.stage connNo with
    | .serving serial => some (s.lookForSibling connNo serial)
    | _ => none
  | .finish connNo => if (s.stage connNo).mayEnd then some (s.advance connNo .idle) else none
  | .claim caller serial maxAge now => some (s.claim caller serial maxAge now)
  | .use owner connNo =>
    if (connNo, .handed owner) ∈ s.exits then
      some { s with uses := s.uses ++ [(connNo, owner)] }
    else none
  | .close owner connNo =>
    if (connNo, .handed owner) ∈ s.exits then
      some (s.noteCloses [(connNo, .handed owner)])
    else none

/-! ## Changes -/

/-- What a step does to the pool, case by case, with what has to hold for it. -/
inductive PoolChange (config : PoolConfig) (s : PoolState) : PoolAction → PoolState → Prop
  | admitted {now : ℚ} (room : s.pool.length < config.windowSize) :
    PoolChange config s (.admitConnection now) (s.enter now none)
  | windowFull {now : ℚ} {oldest : PooledConnection} {rest : List PooledConnection}
      (full : config.windowSize ≤ s.pool.length) (first : s.pool = oldest :: rest) :
    PoolChange config s (.admitConnection now)
      ((s.leave [oldest.connNo] .window).enter now (some oldest.connNo))
  | noWindow {now : ℚ} (full : config.windowSize ≤ 0) :
    PoolChange config s (.admitConnection now) { s with nextConnNo := s.nextConnNo + 1 }
  | proceeded {connNo : Nat} {next : Stage} (after : (s.stage connNo).after = some next) :
    PoolChange config s (.proceed connNo)
      ((s.noteCloses ((s.stage connNo).closing connNo).toList).advance connNo next)
  | announced {connNo : Nat} {addr6 : Bytes} {serial : String} (stage : s.stage connNo = .reading) :
    PoolChange config s (.announce connNo addr6) (s.announce connNo serial)
  | rejected {connNo : Nat} {serial : String} (stage : s.stage connNo = .named serial)
      (broken : PyText.isDigit serial = false) :
    PoolChange config s (.identify connNo)
      ((s.leave [connNo] .rejection).advance connNo .rejecting)
  | limitFree {connNo : Nat} {serial : String} (stage : s.stage connNo = .named serial)
      (digits : PyText.isDigit serial = true)
      (free : (s.sameSerial connNo serial).length < config.maxPerSerial) :
    PoolChange config s (.identify connNo) (s.advance connNo (.evicting serial none))
  | limitReached {connNo : Nat} {serial : String} {oldest : PooledConnection}
      {rest : List PooledConnection} (stage : s.stage connNo = .named serial)
      (digits : PyText.isDigit serial = true)
      (reached : config.maxPerSerial ≤ (s.sameSerial connNo serial).length)
      (first : s.sameSerial connNo serial = oldest :: rest) :
    PoolChange config s (.identify connNo)
      { (s.leave [oldest.connNo] .limit).advance connNo (.evicting serial (some oldest.connNo)) with
        limits := s.limits ++ [(serial, s.held serial)] }
  | noLimit {connNo : Nat} {serial : String} (stage : s.stage connNo = .named serial)
      (digits : PyText.isDigit serial = true) (reached : config.maxPerSerial ≤ 0) :
    PoolChange config s (.identify connNo) (s.advance connNo .idle)
  | handedOver {connNo : Nat} {serial : String} (stage : s.stage connNo = .asking serial) :
    PoolChange config s (.handOver connNo)
      ((s.leave (connNo :: (s.sameSerial connNo serial).map (·.connNo))
        (.handed (.immediateRead connNo))).advance connNo (.serving serial))
  | goneBefore {connNo : Nat} {serial : String} (stage : s.stage connNo = .asking serial)
      (gone : ∀ p ∈ s.pool, p.connNo ≠ connNo) :
    PoolChange config s (.handOver connNo) (s.advance connNo .idle)
  | siblingFound {connNo : Nat} {serial : String} {p : PooledConnection}
      (stage : s.stage connNo = .serving serial) (found : p ∈ s.matching serial) :
    PoolChange config s (.lookForSibling connNo)
      (s.leave [p.connNo] (.handed (.immediateRead connNo)))
  | noSibling {connNo : Nat} : PoolChange config s (.lookForSibling connNo) s
  | finished {connNo : Nat} (ends : (s.stage connNo).mayEnd = true) :
    PoolChange config s (.finish connNo) (s.advance connNo .idle)
  | claimed {caller : Nat} {serial : String} {maxAge : Option ℚ} {now : ℚ} {chosen : PooledConnection}
      (last : (s.claimable serial maxAge now).getLast? = some chosen) :
    PoolChange config s (.claim caller serial maxAge now)
      (s.leave [chosen.connNo] (.handed (.caller caller)))
  | claimedInVain {caller : Nat} {serial : String} {maxAge : Option ℚ} {now : ℚ} :
    PoolChange config s (.claim caller serial maxAge now) s
  | used {owner : Owner} {connNo : Nat} (handed : (connNo, .handed owner) ∈ s.exits) :
    PoolChange config s (.use owner connNo) { s with uses := s.uses ++ [(connNo, owner)] }
  | closed {owner : Owner} {connNo : Nat} (handed : (connNo, .handed owner) ∈ s.exits) :
    PoolChange config s (.close owner connNo) (s.noteCloses [(connNo, .handed owner)])

variable {config : PoolConfig} {s t : PoolState}

/-- What the lock section of `_admit` can do to the pool. -/
theorem admitConnection_change (now : ℚ) :
    PoolChange config s (.admitConnection now) (s.admitConnection config now) := by
  rw [PoolState.admitConnection]
  split
  · rename_i full
    split
    · rename_i first
      exact .windowFull full first
    · rename_i hnil
      rw [hnil] at full
      exact .noWindow full
  · rename_i room
    exact .admitted (Nat.lt_of_not_le room)

/-- What the lock section that ends the identification can do to the pool. -/
theorem identify_change {connNo : Nat} {serial : String} (stage : s.stage connNo = .named serial) :
    PoolChange config s (.identify connNo) (s.identify config connNo serial) := by
  rw [PoolState.identify]
  split
  · rename_i hdigits
    split
    · rename_i hreached
      split
      · rename_i hfirst
        exact .limitReached stage hdigits hreached hfirst
      · rename_i hnil
        rw [hnil] at hreached
        exact .noLimit stage hdigits hreached
    · rename_i hfree
      exact .limitFree stage hdigits (Nat.lt_of_not_le hfree)
  · rename_i hbroken
    exact .rejected stage (Bool.eq_false_iff.mpr hbroken)

/-- What the lock section of the hand-over to an immediate read can do to the pool. -/
theorem handOver_change {connNo : Nat} {serial : String} (stage : s.stage connNo = .asking serial) :
    PoolChange config s (.handOver connNo) (s.handOver connNo serial) := by
  rw [PoolState.handOver]
  split
  · exact .handedOver stage
  · rename_i hgone
    exact .goneBefore stage fun p hp heq => hgone (List.mem_map.mpr ⟨p, hp, heq⟩)

/-- A look for a sibling takes a connection of the same serial number, or finds none. -/
theorem lookForSibling_change {connNo : Nat} {serial : String}
    (stage : s.stage connNo = .serving serial) :
    PoolChange config s (.lookForSibling connNo) (s.lookForSibling connNo serial) := by
  rw [PoolState.lookForSibling]
  split
  · rename_i hfirst
    exact .siblingFound stage (hfirst ▸ List.mem_cons_self)
  · exact .noSibling

/-- `claim()` takes the newest of the connections it chooses from, or there is none. -/
theorem claim_change (caller : Nat) (serial : String) (maxAge : Option ℚ) (now : ℚ) :
    PoolChange config s (.claim caller serial maxAge now) (s.claim caller serial maxAge now) := by
  rw [PoolState.claim]
  split
  · rename_i hlast
    exact .claimed hlast
  · exact .claimedInVain

/-- Every step of the pool is one of the changes listed above. -/
theorem poolStep_change {a : PoolAction} (next : poolStep config s a = some t) :
    PoolChange config s a t := by
  cases a with
  | admitConnection now =>
    obtain rfl := Option.some.inj next
    exact admitConnection_change now
  | proceed connNo =>
    obtain ⟨next, hafter, rfl⟩ := Option.map_eq_some_iff.mp next
    exact .proceeded hafter
  | announce connNo addr6 =>
    rw [poolStep] at next
    split at next
    · rename_i hstage
      obtain ⟨serial, -, rfl⟩ := Option.map_eq_some_iff.mp next
      exact .announced hstage
    · cases next
  | identify connNo =>
    rw [poolStep] at next
    split at next
    · rename_i hstage
      obtain rfl := Option.some.inj next
      exact identify_change hstage
    · cases next
  | handOver connNo =>
    rw [poolStep] at next
    split at next
    · rename_i hstage
      obtain rfl := Option.some.inj next
      exact handOver_change hstage
    · cases next
  | lookForSibling connNo =>
    rw [poolStep] at next
    split at next
    · rename_i hstage
      obtain rfl := Option.some.inj next
      exact lookForSibling_change hstage
    · cases next
  | finish connNo =>
    rcases ite_eq_iff.mp next with ⟨hends, next⟩ | ⟨_, next⟩
    · obtain rfl := Option.some.inj next
      exact .finished hends
    · cases next
  | claim caller serial maxAge now =>
    obtain rfl := Option.some.inj next
    exact claim_change caller serial maxAge now
  | use owner connNo =>
    rcases ite_eq_iff.mp next with ⟨handed, next⟩ | ⟨_, next⟩
    · obtain rfl := Option.some.inj next
      exact .used handed
    · cases next
  | close owner connNo =>
    rcases ite_eq_iff.mp next with ⟨handed, next⟩ | ⟨_, next⟩
    · obtain rfl := Option.some.inj next
      exact .closed handed
    · cases next

/-! ## Invariant -/

/-- The serial number of a held connection whose thread stands here. -/
def Stage.Names : Stage → Option String → Prop
  | .idle, known => ∀ serial ∈ known, PyText.isDigit serial = true
  | .admitted _, known | .reading, known => known = none
  | .named serial, known | .evicting serial _, known | .asking serial, known => known = some serial
  | .rejecting, _ | .serving _, _ => False

/-- Past the lock section of `_identify`, a serial number is in order. -/
def Stage.Settled : Stage → Prop
  | .evicting serial _ | .asking serial | .serving serial => PyText.isDigit serial = true
  | .idle | .admitted _ | .reading | .named _ | .rejecting => True

/-- A broken serial number is held only until its thread takes the lock. -/
theorem Stage.Names.named {stage : Stage} {serial : String} (h : stage.Names (some serial))
    (settled : stage.Settled) (broken : PyText.isDigit serial = false) :
    stage = .named serial := by
  have habsurd : ∀ {known : String}, some serial = some known → PyText.isDigit known = true →
      stage = .named serial := fun hknown hdigits => by
    rw [← Option.some.inj hknown, broken] at hdigits
    cases hdigits
  cases stage with
  | idle => exact habsurd rfl (h serial rfl)
  | admitted | reading => cases h
  | named => rw [Option.some.inj h]
  | rejecting | serving => exact h.elim
  | evicting | asking => exact habsurd h settled

/-- A thread that goes on to its next stage was there, and what its stage says about serial numbers
    still holds. -/
theorem Stage.after_sound {stage next : Stage} (h : stage.after = some next) :
    stage ≠ .idle ∧ (stage.Settled → next.Settled) ∧
      ∀ known, stage.Names known → next.Names known := by
  cases stage with
  | admitted | evicting =>
    obtain rfl := Option.some.inj h
    exact ⟨Stage.noConfusion, id, fun _ => id⟩
  | rejecting =>
    obtain rfl := Option.some.inj h
    exact ⟨Stage.noConfusion, id, fun _ => False.elim⟩
  | idle | reading | named | asking | serving => cases h

/-- A connection whose thread ends is as good as one without a thread. -/
theorem Stage.mayEnd_sound {stage : Stage} (h : stage.mayEnd = true) :
    stage ≠ .idle ∧
      (stage.Settled → ∀ known, stage.Names known → Stage.idle.Names known) := by
  cases stage with
  -- nothing was read, so no serial number is known
  | reading =>
    refine ⟨Stage.noConfusion, ?_⟩
    rintro - _ rfl _ hserial
    cases hserial
  | asking =>
    refine ⟨Stage.noConfusion, ?_⟩
    rintro hdigits _ rfl _ hserial
    exact Option.some.inj hserial ▸ hdigits
  -- what is being read is not held
  | serving => exact ⟨Stage.noConfusion, fun _ _ => False.elim⟩
  | idle | admitted | named | rejecting | evicting => cases h

/-- The pool is in the order of its numbers, a connection leaves once, a thread has a connection on
    record, and a held connection has the serial number that its thread has come to. -/
structure PoolState.Sound (s : PoolState) : Prop where
  order : s.pool.Pairwise fun p q => p.connNo < q.connNo
  once : s.roster.Once (·.connNo)
  numbered : ∀ connNo ∈ s.roster.keys (·.connNo), connNo ≤ s.nextConnNo
  present : ∀ connNo, s.stage connNo ≠ .idle → connNo ∈ s.roster.keys (·.connNo)
  settled : ∀ connNo, (s.stage connNo).Settled
  names : ∀ p ∈ s.pool, (s.stage p.connNo).Names p.serial

namespace PoolState

/-- The connections of a serial number are those of the pool that are identified with it. -/
theorem mem_matching {serial : String} {p : PooledConnection} :
    p ∈ s.matching serial ↔ p ∈ s.pool ∧ p.serial = some serial := by
  rw [matching, List.mem_filter, decide_eq_true_eq]

/-- `claim()` chooses from the connections of the serial number that are not too old for it. -/
theorem mem_claimable {serial : String} {maxAge : Option ℚ} {now : ℚ} {p : PooledConnection} :
    p ∈ s.claimable serial maxAge now ↔
      p ∈ s.matching serial ∧ ∀ age ∈ maxAge, now - p.acceptedAt ≤ age := by
  rcases maxAge with _ | age
  · exact (and_iff_left fun _ h => (nomatch h)).symm
  · simp [claimable, List.mem_filter]

namespace Sound

variable {connNo : Nat} {stage : Stage}

/-- The empty pool is in order, with every thread idle. -/
theorem initial : ({} : PoolState).Sound where
  order := .nil
  once := .empty
  numbered := fun _ h => (nomatch h)
  present := fun _ h => absurd rfl h
  settled := fun _ => trivial
  names := fun _ h => (nomatch h)

/-- Taking connections out keeps the pool in order: they stay on record, and the others are as
    before. -/
theorem leave {gone : List Nat} {exit : Exit} (h : s.Sound) : (s.leave gone exit).Sound where
  order := h.order.sublist List.filter_sublist
  once := h.once.leave
  numbered := fun c hc => h.numbered c (Roster.keys_leave.mem_iff.mp hc)
  present := fun c hc => Roster.keys_leave.mem_iff.mpr (h.present c hc)
  settled := h.settled
  names := fun p hp => h.names p (Roster.mem_here_leave.mp hp).1

/-- A thread whose connection is on record may go on to a stage that agrees with the serial number
    held. -/
theorem advance (h : s.Sound) (present : connNo ∈ s.roster.keys (·.connNo))
    (settled : stage.Settled) (names : ∀ p ∈ s.pool, p.connNo = connNo → stage.Names p.serial) :
    (s.advance connNo stage).Sound where
  order := h.order
  once := h.once
  numbered := h.numbered
  present := fun c hc => by
    rcases eq_or_ne c connNo with rfl | hne
    · exact present
    · exact h.present c fun heq => hc ((Function.update_of_ne hne _ _).trans heq)
  settled := fun c => by
    rcases eq_or_ne c connNo with rfl | hne
    · simpa only [PoolState.advance, Function.update_self] using settled
    · simpa only [PoolState.advance, Function.update_of_ne hne] using h.settled c
  names := fun p hp => by
    rcases eq_or_ne p.connNo connNo with heq | hne
    · simpa only [PoolState.advance, heq, Function.update_self] using names p hp heq
    · simpa only [PoolState.advance, Function.update_of_ne hne] using h.names p hp

/-- The record of the closes is no part of the order. -/
theorem noteCloses {closes : List (Nat × Exit)} (h : s.Sound) : (s.noteCloses closes).Sound :=
  ⟨h.order, h.once, h.numbered, h.present, h.settled, h.names⟩

/-- A new connection gets a number that no other ever had, and comes last. -/
theorem enter {now : ℚ} {evicted : Option Nat} (h : s.Sound) : (s.enter now evicted).Sound := by
  have hnew : s.nextConnNo + 1 ∉ s.roster.keys (·.connNo) := fun hmem =>
    absurd (h.numbered _ hmem) (Nat.not_succ_le_self _)
  have hbelow : ∀ p ∈ s.pool, p.connNo < s.nextConnNo + 1 := fun p hp =>
    Nat.lt_succ_of_le (h.numbered _ (Roster.mem_keys_of_here hp))
  refine ⟨?_, h.once.arrive hnew, fun c hc => ?_, fun c hc => ?_, fun c => ?_, fun p hp => ?_⟩
  · refine List.pairwise_append.mpr ⟨h.order, List.pairwise_singleton _ _, fun p hp q hq => ?_⟩
    rw [List.mem_singleton.mp hq]
    exact hbelow p hp
  · rcases List.mem_cons.mp (Roster.keys_arrive.mem_iff.mp hc) with rfl | hold
    · exact Nat.le_refl _
    · exact Nat.le_succ_of_le (h.numbered c hold)
  · refine Roster.keys_arrive.mem_iff.mpr (List.mem_cons.mpr ?_)
    rcases eq_or_ne c (s.nextConnNo + 1) with rfl | hne
    · exact .inl rfl
    · exact .inr (h.present c fun heq => hc ((Function.update_of_ne hne _ _).trans heq))
  · rcases eq_or_ne c (s.nextConnNo + 1) with rfl | hne
    · simp only [PoolState.enter, Function.update_self]
      trivial
    · simpa only [PoolState.enter, Function.update_of_ne hne] using h.settled c
  · rcases List.mem_append.mp hp with hold | hadded
    · simpa only [PoolState.enter, Function.update_of_ne (hbelow p hold).ne] using h.names p hold
    · rw [List.mem_singleton.mp hadded]
      simp only [PoolState.enter, Function.update_self]
      rfl

/-- Setting the serial number of a connection that is being read keeps the pool in order. -/
theorem announce {serial : String} (h : s.Sound) (stage : s.stage connNo = .reading) :
    (s.announce connNo serial).Sound := by
  have hsame : ∀ p : PooledConnection,
      (if p.connNo = connNo then { p with serial := some serial } else p).connNo = p.connNo :=
    fun p => by split <;> rfl
  have hkeys := Roster.keys_revise (r := s.roster) hsame
  refine ⟨?_, ?_, fun c hc => h.numbered c (hkeys ▸ hc), fun c hc => hkeys.symm ▸ ?_, fun c => ?_,
    fun p hp => ?_⟩
  · exact List.pairwise_map.mpr (h.order.imp fun hlt => by rwa [hsame, hsame])
  · exact (congrArg List.Nodup hkeys).mpr h.once
  · rcases eq_or_ne c connNo with rfl | hne
    · exact h.present c (stage ▸ Stage.noConfusion)
    · exact h.present c fun heq => hc ((Function.update_of_ne hne _ _).trans heq)
  · rcases eq_or_ne c connNo with rfl | hne
    · simp only [PoolState.announce, Function.update_self]
      trivial
    · simpa only [PoolState.announce, Function.update_of_ne hne] using h.settled c
  · obtain ⟨q, hq, rfl⟩ := List.mem_map.mp hp
    rcases eq_or_ne q.connNo connNo with heq | hne
    · simp only [PoolState.announce, heq, if_true, Function.update_self]
      rfl
    · simpa only [PoolState.announce, if_neg hne, Function.update_of_ne hne] using h.names q hq

/-- A connection whose thread is at work is on record. -/
theorem present_of (h : s.Sound) (at_stage : s.stage connNo = stage) (busy : stage ≠ .idle) :
    connNo ∈ s.roster.keys (·.connNo) := h.present connNo (at_stage ▸ busy)

/-- The next connection to be admitted has no thread yet. -/
theorem idle_of_new (h : s.Sound) : s.stage (s.nextConnNo + 1) = .idle := by
  by_contra hbusy
  exact absurd (h.numbered _ (h.present _ hbusy)) (Nat.not_succ_le_self _)

/-- Past the lock section of `_identify`, the serial number at hand is in order. -/
theorem settled_of (h : s.Sound) (at_stage : s.stage connNo = stage) : stage.Settled :=
  at_stage ▸ h.settled connNo

/-- A held connection has the serial number that the stage of its thread says. -/
theorem names_of (h : s.Sound) (at_stage : s.stage connNo = stage) :
    ∀ p ∈ s.pool, p.connNo = connNo → stage.Names p.serial := fun p hp heq =>
  at_stage ▸ heq ▸ h.names p hp

/-- A connection that has just left has no serial number to agree with. -/
theorem not_held_leave {gone : List Nat} {exit : Exit} (mem : connNo ∈ gone) :
    ∀ p ∈ (s.leave gone exit).pool, p.connNo = connNo → stage.Names p.serial := fun _ hp heq =>
  absurd (heq ▸ mem) (Roster.mem_here_leave.mp hp).2

/-- Every step of a thread or a caller keeps the pool in order. -/
theorem step {a : PoolAction} (h : s.Sound) (change : PoolChange config s a t) : t.Sound := by
  cases change with
  | admitted => exact h.enter
  | windowFull => exact h.leave.enter
  | noWindow =>
    exact ⟨h.order, h.once, fun c hc => Nat.le_succ_of_le (h.numbered c hc), h.present, h.settled,
      h.names⟩
  | @proceeded connNo _ after =>
    obtain ⟨hbusy, hsettled, hnames⟩ := Stage.after_sound after
    exact h.noteCloses.advance (h.present connNo hbusy) (hsettled (h.settled connNo))
      fun p hp heq => hnames _ (h.names_of rfl p hp heq)
  | announced stage => exact h.announce stage
  -- the connection that goes is the thread's own
  | rejected stage =>
    exact h.leave.advance (h.leave.present_of stage Stage.noConfusion) trivial
      (not_held_leave (List.mem_singleton.mpr rfl))
  | limitFree stage digits =>
    have hnames := h.names_of stage
    exact h.advance (h.present_of stage Stage.noConfusion) digits hnames
  -- the connection that goes is another one: the thread's own, if still held, keeps its number
  | @limitReached connNo serial oldest _ stage digits =>
    have hnames := h.names_of stage
    have hnext : ((s.leave [oldest.connNo] .limit).advance connNo
        (.evicting serial (some oldest.connNo))).Sound :=
      h.leave.advance (h.leave.present_of stage Stage.noConfusion) digits
        fun p hp => hnames p (Roster.mem_here_leave.mp hp).1
    exact ⟨hnext.order, hnext.once, hnext.numbered, hnext.present, hnext.settled, hnext.names⟩
  | @noLimit _ serial stage digits =>
    refine h.advance (h.present_of stage Stage.noConfusion) trivial fun p hp heq known hknown => ?_
    obtain rfl := Option.some.inj ((h.names_of stage p hp heq).symm.trans hknown)
    exact digits
  | handedOver stage =>
    have hdigits := h.settled_of stage
    exact h.leave.advance (h.leave.present_of stage Stage.noConfusion) hdigits
      (not_held_leave List.mem_cons_self)
  | goneBefore stage gone =>
    exact h.advance (h.present_of stage Stage.noConfusion) trivial
      fun p hp heq => absurd heq (gone p hp)
  | siblingFound => exact h.leave
  | noSibling => exact h
  | @finished connNo ends =>
    obtain ⟨hbusy, hnames⟩ := Stage.mayEnd_sound ends
    exact h.advance (h.present connNo hbusy) trivial
      fun p hp heq => hnames (h.settled connNo) _ (h.names_of rfl p hp heq)
  | claimed => exact h.leave
  | claimedInVain => exact h
  | used => exact ⟨h.order, h.once, h.numbered, h.present, h.settled, h.names⟩
  | closed => exact h.noteCloses

/-- The pool is in order after every run from the empty pool. -/
theorem run {P : PoolState → PoolAction → Prop} {actions : List PoolAction}
    (run : Run (poolStep config) P {} actions s) : s.Sound :=
  run.invariant initial fun h _ next => h.step (poolStep_change next)

end Sound

end PoolState

end RiseSun.Gateway
