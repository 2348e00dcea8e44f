/-
  Reading over the connections a meter has called in on (`read_via_call_home` and
  `read_load_profile_via_call_home`, `callhome.py`): the path of a worker, which has no connection of
  its own and claims those that the pool holds, one after the other.

  1. **Program** — a connection is claimed, the SNRM is repeated until the meter confirms the link, and
     the exchange is made once.  If either fails, the connection is closed and the next one claimed,
     until the time is up.  A register and a load profile are read by the same loop
     (`overHeldConnections`).

  2. **Draining** (`drainStaleBytes_eq`) — between two attempts everything that has arrived by now is
     thrown away, and nothing else: what is received afterwards comes later (`recv_drained`).

  3. **One connection** (`exchangeOver_run`) — the exchange returns, or there is an error after which
     the next connection is tried, or an exception escapes: a refused password, and what is neither an
     error of the Gateway nor of the socket (`Escapes`).

  4. **Accounts** (`overHeldConnections_owned`) — by induction on the turns of the loop
     (`heldTurns_run`), every connection claimed is closed before the next one is claimed.  The last
     one is left to the runtime when the loop is left through an exchange: with what it returned, or
     with what escapes.  Both handlers inherit this for every request (`doReadCallHome_owned`,
     `doReadLoadProfileCallHome_owned`).

  5. **Rows** (`readLoadProfileViaCallHome_rows`) — a reading only adds to the rows it has yielded,
     whichever connections break.
-/
import RiseSun.Gateway.Operations
import RiseSun.Gateway.Pool
import RiseSun.Gateway.ProfileFailures

namespace RiseSun.Gateway

open Proc

variable {σ ω ρ α : Type}

/-! ## Draining -/

/-- `recv(4096)` without blocking until nothing comes. -/
def drainLoop : (fuel : Nat) → Wire → Wire
  | 0, w => w
  | fuel + 1, w =>
    match Wire.recv 4096 w with
    | (.ok (_ :: _), w') => drainLoop fuel w'
    | (_, w') => w'

/-- `_drain_stale_bytes`: the timeout is zero meanwhile. -/
def drainStaleBytes (w : Wire) : Wire :=
  { drainLoop (w.pending + 1) { w with timeout := 0 } with timeout := w.timeout }

/-- The event is data that has arrived by `now`. -/
def hasArrived (now : ℚ) : ℚ × RxEvent → Bool
  | (t, .data _ _) => decide (t ≤ now)
  | _ => false

/-- A rest that is put back has arrived with the chunk it is the rest of. -/
theorem dropWhile_putBack {now t : ℚ} (ht : t ≤ now) (rest : Bytes) (later : List (ℚ × RxEvent)) :
    (Wire.putBack t rest later).dropWhile (hasArrived now) = later.dropWhile (hasArrived now) := by
  cases rest with
  | nil => rfl
  | cons b bs => exact List.dropWhile_cons_of_pos (decide_eq_true ht)

/-- Without a timeout the loop ends before the first event that is yet to come, or that is no data:
    induction on the fuel, of which every byte takes some. -/
theorem drainLoop_eq : ∀ (fuel : Nat) (w : Wire), w.timeout = 0 → w.pending < fuel →
    drainLoop fuel w = { w with incoming := w.incoming.dropWhile (hasArrived w.now) } := by
  intro fuel
  induction fuel with
  | zero => exact fun w _ h => absurd h (Nat.not_lt_zero _)
  | succ fuel ih =>
    rintro ⟨now, timeout, incoming, answers, sent⟩ htimeout hpending
    obtain rfl : timeout = 0 := htimeout
    rcases incoming with _ | ⟨⟨t, ev⟩, later⟩
    · simp [drainLoop, Wire.recv]
    by_cases ht : t ≤ now
    · cases ev with
      | data b cs =>
        have hrecv : Wire.recv 4096 ⟨now, 0, (t, .data b cs) :: later, answers, sent⟩ =
            (.ok (b :: cs.take 4095),
              ⟨now, 0, Wire.putBack t (cs.drop 4095) later, answers, sent⟩) := by
          rw [Wire.recv_data 4095 rfl (by simpa using ht)]
          simp only [max_eq_left ht]
        have hless := (Wire.recv_pending 4096 _).2 _ (congrArg Prod.fst hrecv)
        rw [hrecv, List.length_cons] at hless
        dsimp only at hless
        rw [drainLoop, hrecv]
        dsimp only
        have harrived : hasArrived now (t, .data b cs) = true := decide_eq_true ht
        rw [ih _ rfl (by omega), dropWhile_putBack ht, List.dropWhile_cons_of_pos harrived]
      | eof => simp [drainLoop, Wire.recv, ht, hasArrived]
      | reset => simp [drainLoop, Wire.recv, ht, hasArrived]
    · have hlater : ¬ t ≤ now + 0 := by simpa using ht
      cases ev <;> simp [drainLoop, Wire.recv, ht, hasArrived]

/-- **Draining** throws away what has arrived, and nothing else: a late answer to an attempt that has
    timed out is not taken for the answer to the next one. -/
theorem drainStaleBytes_eq (w : Wire) :
    drainStaleBytes w = { w with incoming := w.incoming.dropWhile (hasArrived w.now) } := by
  rw [drainStaleBytes, drainLoop_eq (w.pending + 1) { w with timeout := 0 } rfl (Nat.lt_succ_self _)]

/-- After draining, nothing is received that had arrived before: what comes next takes time to come. -/
theorem recv_drained {n : Nat} {w w' : Wire} {b : UInt8} {bs : Bytes}
    (h : Wire.recv n (drainStaleBytes w) = (.ok (b :: bs), w')) : w.now < w'.now := by
  rw [drainStaleBytes_eq] at h
  obtain ⟨t, c, cs, rest, hin, -, hrecv⟩ | ⟨t, rest, -, hrecv⟩ | ⟨e, now', hrecv⟩ :=
    Wire.recv_cases n { w with incoming := w.incoming.dropWhile (hasArrived w.now) }
  · have hnot := List.head?_dropWhile_not (hasArrived w.now) w.incoming
    have hhead : (w.incoming.dropWhile (hasArrived w.now)).head? = some (t, .data c cs) :=
      congrArg List.head? hin
    rw [hhead] at hnot
    have hlater : w.now < t := not_le.mp (of_decide_eq_false hnot)
    obtain rfl : w' = _ := congrArg Prod.snd (h.symm.trans hrecv)
    exact lt_max_of_lt_right hlater
  · cases h.symm.trans hrecv
  · cases h.symm.trans hrecv

/-- A call-home connection on the concrete socket. -/
def heldConnection : Connection (DlT645FilteringSocket Wire) where
  socket := filtering stillWire
  wrap f := { sock := f.sock }
  drainStaleBytes f := { f with sock := Gateway.drainStaleBytes f.sock }
  sleep d f := { f with sock := { f.sock with now := f.sock.now + d } }

/-! ## Program -/

/-- What a worker uses beside the pool. -/
structure HeldWorld (ω : Type) where
  connection : PooledConnection → Connection (Shared ω)
  time : Shared ω → ℚ
  sleep : ℚ → Shared ω → Shared ω
  /-- At most so many turns of the loop begin before the deadline. -/
  turns : (deadline : ℚ) → Shared ω → Nat

/-- A call of a worker: what it shares with the other threads, the connections it has claimed and not
    closed, and what it has yielded. -/
structure HeldCall (ω ρ : Type) where
  shared : Shared ω
  owned : Multiset Nat := 0
  rows : List ρ := []

/-- A part of the call that leaves the connections alone. -/
def onShared (x : Proc PyExc (Shared ω × List ρ) α) : Proc PyExc (HeldCall ω ρ) α := fun s =>
  ((x (s.shared, s.rows)).1,
    { s with shared := (x (s.shared, s.rows)).2.1, rows := (x (s.shared, s.rows)).2.2 })

def defaultMaxClaimAge : ℚ := 30

/-- The connections of a meter that are not too old. -/
def claimableFrom (pool : List PooledConnection) (serial : String) (maxAge now : ℚ) :
    List PooledConnection :=
  (pool.filter (·.serial = some serial)).filter fun p => now - p.acceptedAt ≤ maxAge

/-- `claim()` with the default age, as its caller sees it. -/
def claimHeld (serial : String) (now : ℚ) :
    Proc PyExc (HeldCall ω ρ) (Option PooledConnection) := do
  let pool ← gets (·.shared.1)
  match (claimableFrom pool serial defaultMaxClaimAge now).getLast? with
  | some chosen => do
    modify fun s => { s with
      shared := (s.shared.1.filter (·.connNo ≠ chosen.connNo), s.shared.2)
      owned := chosen.connNo ::ₘ s.owned }
    pure (some chosen)
  | none => pure none

/-- The SNRM attempts on a claimed connection: whether the link stands, and the last error. -/
def linkAttempts (C : Connection σ) (server : Int) (connNo : Nat) (deadline : ℚ) :
    (left : Nat) → (lastError : Option GatewayError) → Proc PyExc σ (Bool × Option GatewayError)
  | 0, lastError => pure (false, lastError)
  | left + 1, lastError => do
    let now ← gets C.socket.time
    if deadline ≤ now then pure (false, lastError)
    else do
      modify (C.socket.settimeout defaultPerAttemptTimeout)
      match ← attempt (establishLink C.socket server defaultClientAddress) with
      | .ok () => pure (true, lastError)
      | .error (.gateway e) => do
        modify C.drainStaleBytes
        modify (C.sleep defaultRetryInterval)
        linkAttempts C server connNo deadline left (some e)
      | .error (.socket _) => pure (false, some (connectionBroke connNo))
      | .error e => raise e

/-- The deadline of the exchange, once the link stands. -/
def armExchange (C : Connection σ) (associationTimeout : ℚ) : Proc PyExc σ Unit := do
  let now ← gets C.socket.time
  setDeadline C.socket (some (now + associationTimeout))

/-- One connection: what the exchange returned on it, or else the last error. -/
def exchangeOver (C : Connection σ) (server : Int) (connNo : Nat) (deadline associationTimeout : ℚ)
    (exchange : Proc PyExc (σ × List ρ) α) (lastError : Option GatewayError) :
    Proc PyExc (σ × List ρ) (Except (Option GatewayError) α) := do
  within (modify C.wrap)
  let (linked, lastError) ←
    within (linkAttempts C server connNo deadline defaultMaxAttemptsPerConnection lastError)
  if linked then do
    within (armExchange C associationTimeout)
    match ← attempt exchange with
    | .ok a => pure (.ok a)
    | .error (.gateway e) =>
      if e.code = "AUTH_FAILED" then raise (.gateway e) else pure (.error (some e))
    | .error (.socket _) => pure (.error (some (connectionBroke connNo)))
    | .error e => raise e
  else pure (.error lastError)

/-- How the loop is left. -/
inductive HeldEnd (α : Type)
  | returned (a : α)
  | timeUp (triedAny : Bool) (lastError : Option GatewayError)

section Program

variable (W : HeldWorld ω) (serial : String) (server : Int) (deadline associationTimeout : ℚ)
  (exchange : PooledConnection → Proc PyExc (Shared ω × List ρ) α)

/-- The loop over the connections of the meter. -/
def heldTurns : (turns : Nat) → (triedAny : Bool) → (lastError : Option GatewayError) →
    Proc PyExc (HeldCall ω ρ) (HeldEnd α)
  | 0, triedAny, lastError => pure (.timeUp triedAny lastError)
  | turns + 1, triedAny, lastError => do
    let now ← gets fun s => W.time s.shared
    if deadline ≤ now then pure (.timeUp triedAny lastError)
    else do
      match ← claimHeld serial now with
      | none => do
        modify fun s => { s with shared := W.sleep (1 / 2) s.shared }
        heldTurns turns triedAny lastError
      | some pc => do
        match ← onShared (exchangeOver (W.connection pc) server pc.connNo deadline associationTimeout
            (exchange pc) lastError) with
        | .ok a => pure (.returned a)
        | .error lastError => do
          modify fun s => { s with owned := s.owned.erase pc.connNo }
          heldTurns turns true lastError

/-- What is raised when the time is up; `what` was to be read. -/
def heldFailure (what serial : String) (maxWait : ℚ) :
    (triedAny : Bool) → (lastError : Option GatewayError) → GatewayError
  | false, _ =>
    { cls := .noConnectionEstablishedError
      message := [.text "Счётчик ", .text serial,
        .text " ещё не установил ни одного call-home соединения с Gateway"] }
  | true, some e => e
  | true, none =>
    { cls := .gatewayError
      message := [.text "Не удалось прочитать ", .text what, .text " со счётчика ", .text serial,
        .text " за ", .number maxWait, .text "с"] }

/-- What the two readings have in common.  The address is checked before anything is waited for. -/
def overHeldConnections (what : String) (maxWait : ℚ) : Proc PyExc (HeldCall ω ρ) α := do
  let server ← lift (serverAddress serial)
  let deadline ← gets fun s => W.time s.shared + maxWait
  let turns ← gets fun s => W.turns deadline s.shared
  match ← heldTurns W serial server deadline associationTimeout exchange turns false none with
  | .returned a => pure a
  | .timeUp triedAny lastError =>
    raise (.gateway (heldFailure what serial maxWait triedAny lastError))

end Program

/-! ## Readings -/

section Readings

variable (W : HeldWorld ω) (serial : String) (password : Bytes) (obis : String)

/-- `read_via_call_home`. -/
def readViaCallHome (maxWait associationTimeout : ℚ) (mechanismId : Nat) :
    Proc PyExc (HeldCall ω ProfileRow) RegisterValue :=
  overHeldConnections W serial associationTimeout
    (fun pc => within (readRegisterViaEstablishedLink (W.connection pc).socket serial password obis
      registerClassId mechanismId)) "регистр" maxWait

/-- `read_load_profile_via_call_home`, a generator. -/
def readLoadProfileViaCallHome (classId : Int) (fromDt toDt : DateTime) (maxWait : ℚ) :
    Proc PyExc (HeldCall ω ProfileRow) Unit :=
  overHeldConnections W serial defaultAssociationTimeout
    (fun pc => do
      let address ← lift (physicalAddress serial)
      readLoadProfileViaEstablishedLink (W.connection pc).socket address password obis classId fromDt
        toDt false)
    "профиль нагрузки" maxWait

end Readings

/-! ## Handlers -/

def poolNotRunning : PyExc := .plain [.text "Call-home пул не запущен на этом экземпляре Gateway"]

/-- How long a register is waited for: more than the default if the request wants to wait longer for
    an answer. -/
def readMaxWait (r : MeterRequest) : ℚ :=
  if r.timeoutMs = 0 then 150 else max 150 (r.timeoutMs / 1000 + 20)

/-- `_do_read` for a meter that calls the Gateway; `mechanismId` is 0 where the request does not set
    it.  A negative one, on which `encode_oid` does not end, is left out. -/
def doReadCallHome (pool : Option (HeldWorld ω)) (r : MeterRequest) (obis : String)
    (mechanismId : Nat) : Proc PyExc (HeldCall ω ProfileRow) RegisterValue := do
  let password ← lift (asciiEncode r.password)
  match pool with
  | none => raise poolNotRunning
  | some W =>
    readViaCallHome W r.serial password obis (readMaxWait r)
      (if r.timeoutMs = 0 then defaultAssociationTimeout else r.timeoutMs / 1000)
      (if mechanismId = 0 then 1 else mechanismId)

/-- `_do_read_load_profile` for a meter that calls the Gateway. -/
def doReadLoadProfileCallHome (pool : Option (HeldWorld ω))
    (fromisoformat : String → Except PyExc DateTime) (r : MeterRequest) (obis : String)
    (classId : Int) (fromIso toIso : String) : Proc PyExc (HeldCall ω ProfileRow) Unit := do
  let password ← lift (asciiEncode r.password)
  if r.profile ≠ "hdlc_dlms" then
    raise (.plain [.text "Профиль нагрузки для протокольного профиля ", .quoted r.profile,
      .text " пока не реализован"])
  else do
    let fromDt ← lift (fromisoformat fromIso)
    let toDt ← lift (fromisoformat toIso)
    match pool with
    | none => raise poolNotRunning
    | some W => readLoadProfileViaCallHome W r.serial password obis classId fromDt toDt 150

/-! ## What is raised -/

/-- An exception that ends the call at once: a refused password, or what is neither an error of the
    Gateway nor of the socket. -/
def Escapes (e : PyExc) : Prop :=
  e.isOSError = false ∧ ∀ g, e = .gateway g → g.code = "AUTH_FAILED"

/-- The last error is one after which the next connection is tried. -/
def GivenUp (lastError : Option GatewayError) : Prop := ∀ e ∈ lastError, e.code ≠ "AUTH_FAILED"

/-- What is returned satisfies `P`, and what is raised escapes. -/
def Settled (P : α → Prop) : Except PyExc α → Prop
  | .ok a => P a
  | .error e => Escapes e

/-- After a connection has broken, the next one is tried. -/
theorem connectionBroke_givenUp (connNo : Nat) : GivenUp (some (connectionBroke connNo)) := by
  rintro e ⟨⟩
  exact show ErrorClass.gatewayError.code ≠ "AUTH_FAILED" by decide

/-- The frame that answers an SNRM is received, or the link fails with a caught exception. -/
theorem snrmAnswer_caught (S : MeterSocket σ) {server client : Int}
    (hs : 0 ≤ server ∧ server < 2 ^ 28) (hc : 0 ≤ client ∧ client < 2 ^ 28) (s : σ) :
    RaisesOnly Caught (snrmAnswer S server client) s := by
  obtain ⟨raw, hraw⟩ := encode_short (f := ⟨server, client, controlSnrm, snrmParameterNegotiation⟩)
    ⟨hs, hc⟩ (show snrmParameterNegotiation.length ≤ 2003 by decide)
  rw [snrmAnswer, hraw]
  refine raisesOnly_bind.mpr ⟨raisesOnly_of_ok rfl, fun _ s₁ _ => ?_⟩
  refine raisesOnly_bind.mpr ⟨fun e s₂ he => ?_, fun _ s₂ _ e s₃ he => ?_⟩
  · rw [send_raises_lost S _ s₁ e s₂ he]
    exact .of_linkLoss rfl
  · exact Caught.consumes.frame (readFrameFromTransport_raises S s₂ e s₃ he)

/-- No SNRM is answered with a refused password: establishing the link raises a caught exception, or
    the index error of a frame that ends before its control byte. -/
theorem establishLink_caught (S : MeterSocket σ) {server client : Int}
    (hs : 0 ≤ server ∧ server < 2 ^ 28) (hc : 0 ≤ client ∧ client < 2 ^ 28) (s : σ) :
    RaisesOnly (fun e => Caught e ∨ e = .indexError) (establishLink S server client) s := by
  rw [raisesOnly_congr (congrArg Prod.fst (establishLink_eq S server client s))]
  refine raisesOnly_bind.mpr ⟨fun e s₁ he => .inl (snrmAnswer_caught S hs hc s e s₁ he), ?_⟩
  refine fun raw s₁ _ => raisesOnly_bind.mpr ⟨fun e s₂ he => ?_, fun response s₂ _ => ?_⟩
  · exact (HdlcFrame.decode_error (congrArg Prod.fst he)).imp_left .of_badAnswer
  · split
    · exact raisesOnly_raise.mpr (.inl (show ErrorClass.gatewayError.code ≠ "AUTH_FAILED" by decide))
    · exact raisesOnly_of_ok rfl

/-- The attempts end with the link, or with an error after which the next connection is tried, unless
    an exception escapes: induction on the attempts that are left. -/
theorem linkAttempts_run (C : Connection σ) {server : Int} (hs : 0 ≤ server ∧ server < 2 ^ 28)
    (connNo : Nat) (deadline : ℚ) : ∀ (left : Nat) (lastError : Option GatewayError) (s : σ),
    GivenUp lastError →
    Settled (fun r => GivenUp r.2)
      (linkAttempts C server connNo deadline left lastError s).1 := by
  intro left
  induction left with
  | zero => exact fun lastError s hlast => hlast
  | succ left ih =>
    intro lastError s hlast
    rw [linkAttempts, gets_bind_run]
    by_cases hlate : deadline ≤ C.socket.time s
    · rw [if_pos hlate]
      exact hlast
    · rw [if_neg hlate, modify_bind_run, attempt_bind_run]
      have hclient : 0 ≤ defaultClientAddress ∧ defaultClientAddress < 2 ^ 28 := by decide
      have hcaught := establishLink_caught C.socket hs hclient
        (C.socket.settimeout defaultPerAttemptTimeout s)
      rcases hrun : establishLink C.socket server defaultClientAddress
        (C.socket.settimeout defaultPerAttemptTimeout s) with ⟨e | ⟨⟩, s₁⟩
      · have hraised := hcaught e s₁ hrun
        cases e with
        | gateway e =>
          refine ih (some e) _ ?_
          rintro e' ⟨⟩
          exact hraised.resolve_right (by rintro ⟨⟩)
        | socket e => exact connectionBroke_givenUp connNo
        | _ => exact ⟨rfl, by rintro g ⟨⟩⟩
      · exact hlast

/-- **One connection.**  Either the exchange ran on it and returned, or there is an error after which
    the next one is tried, or an exception escapes. -/
theorem exchangeOver_run (C : Connection σ) {server : Int} (hs : 0 ≤ server ∧ server < 2 ^ 28)
    (connNo : Nat) (deadline associationTimeout : ℚ) (exchange : Proc PyExc (σ × List ρ) α)
    {lastError : Option GatewayError} (hlast : GivenUp lastError) (s : σ × List ρ) :
    ∃ s',
      (∃ a t, exchange t = (.ok a, s') ∧
        exchangeOver C server connNo deadline associationTimeout exchange lastError s =
          (.ok (.ok a), s')) ∨
      (∃ lastError', GivenUp lastError' ∧
        exchangeOver C server connNo deadline associationTimeout exchange lastError s =
          (.ok (.error lastError'), s')) ∨
      ∃ e, Escapes e ∧
        exchangeOver C server connNo deadline associationTimeout exchange lastError s =
          (.error e, s') := by
  obtain ⟨t, ys⟩ := s
  have hsettled := linkAttempts_run C hs connNo deadline defaultMaxAttemptsPerConnection lastError
    (C.wrap t) hlast
  rw [exchangeOver, bind_ok (within_run (modify_run C.wrap t) ys)]
  rcases hlink : linkAttempts C server connNo deadline defaultMaxAttemptsPerConnection lastError
    (C.wrap t) with ⟨e | ⟨linked, lastError₁⟩, t₁⟩
  · rw [hlink] at hsettled
    exact ⟨_, .inr (.inr ⟨e, hsettled, bind_error (within_run hlink ys)⟩)⟩
  · rw [hlink] at hsettled
    rw [bind_ok (within_run hlink ys)]
    cases linked with
    | false => exact ⟨_, .inr (.inl ⟨lastError₁, hsettled, rfl⟩)⟩
    | true =>
      obtain ⟨t₂, harm⟩ : ∃ t₂, armExchange C associationTimeout t₁ = (.ok (), t₂) := by
        rw [armExchange, gets_bind_run, setDeadline]
        cases C.socket.deadline <;> exact ⟨_, rfl⟩
      simp only [if_true]
      rw [bind_ok (within_run harm ys), attempt_bind_run]
      rcases hexchange : exchange (t₂, ys) with ⟨e | a, s'⟩
      · refine ⟨s', .inr ?_⟩
        cases e with
        | gateway e =>
          by_cases hauth : e.code = "AUTH_FAILED"
          · refine .inr ⟨.gateway e, ⟨rfl, ?_⟩, congrFun (if_pos hauth) s'⟩
            rintro g ⟨⟩
            exact hauth
          · refine .inl ⟨some e, ?_, congrFun (if_neg hauth) s'⟩
            rintro e' ⟨⟩
            exact hauth
        | socket e => exact .inl ⟨_, connectionBroke_givenUp connNo, rfl⟩
        | _ => exact .inr ⟨_, ⟨rfl, by rintro g ⟨⟩⟩, rfl⟩
      · exact ⟨s', .inl ⟨a, _, hexchange, rfl⟩⟩

/-! ## Accounts -/

/-- One connection of the meter is open besides `owned`. -/
def LeftOpen (serial : String) (owned : Multiset Nat) (s' : HeldCall ω ρ) : Prop :=
  ∃ pc : PooledConnection, pc.serial = some serial ∧ s'.owned = pc.connNo ::ₘ owned

/-- How a call that had `owned` open is left: with what an exchange over a connection of the meter
    returned, with nothing, or with an exception that escapes.  In the first and the last case this
    one connection is still open. -/
def Leaves (serial : String) (exchange : PooledConnection → Proc PyExc (Shared ω × List ρ) α)
    (owned : Multiset Nat) (s' : HeldCall ω ρ) : Except PyExc (HeldEnd α) → Prop
  | .ok (.returned a) => ∃ pc t, pc.serial = some serial ∧
      exchange pc t = (.ok a, (s'.shared, s'.rows)) ∧ s'.owned = pc.connNo ::ₘ owned
  | .ok (.timeUp _ lastError) => GivenUp lastError ∧ s'.owned = owned
  | .error e => Escapes e ∧ LeftOpen serial owned s'

/-- What a call that had `owned` open does with the connections: the last one is open after an answer,
    or after an exception that escapes; otherwise all of them are closed. -/
structure Accounted (serial : String) (owned : Multiset Nat)
    (run : Except PyExc α × HeldCall ω ρ) : Prop where
  returned : ∀ a, run.1 = .ok a → LeftOpen serial owned run.2
  raised : ∀ e, run.1 = .error e → run.2.owned = owned ∨ Escapes e ∧ LeftOpen serial owned run.2

/-- A part that leaves the connections alone runs inside the call as it runs alone. -/
theorem onShared_run {x : Proc PyExc (Shared ω × List ρ) α} {s : HeldCall ω ρ}
    {s' : Shared ω × List ρ} {r : Except PyExc α} (h : x (s.shared, s.rows) = (r, s')) :
    onShared x s = (r, { s with shared := s'.1, rows := s'.2 }) := by
  simp only [onShared, h]

/-- `claim()` of the loop is that of the pool, with the default age. -/
theorem claimableFrom_pool (s : PoolState) (serial : String) (maxAge now : ℚ) :
    claimableFrom s.pool serial maxAge now = s.claimable serial (some maxAge) now := rfl

/-- A claim finds nothing and changes nothing, or takes a connection of the meter out of the pool,
    one not older than the default age. -/
theorem claimHeld_run (serial : String) (now : ℚ) (s : HeldCall ω ρ) :
    claimHeld serial now s = (.ok none, s) ∨
    ∃ pc ∈ s.shared.1, pc.serial = some serial ∧ now - pc.acceptedAt ≤ defaultMaxClaimAge ∧
      claimHeld serial now s = (.ok (some pc), { s with
        shared := (s.shared.1.filter (·.connNo ≠ pc.connNo), s.shared.2)
        owned := pc.connNo ::ₘ s.owned }) := by
  rw [claimHeld, gets_bind_run]
  rcases hlast : (claimableFrom s.shared.1 serial defaultMaxClaimAge now).getLast? with _ | pc
  · exact .inl rfl
  · have hmem := List.mem_of_getLast? hlast
    rw [claimableFrom, List.mem_filter, List.mem_filter, decide_eq_true_eq, decide_eq_true_eq] at hmem
    exact .inr ⟨pc, hmem.1.1, hmem.1.2, hmem.2, rfl⟩

/-- An exception before anything was claimed, or after everything was closed, leaves nothing open. -/
theorem Accounted.of_closed (serial : String) {owned : Multiset Nat} (e : PyExc)
    {s' : HeldCall ω ρ} (h : s'.owned = owned) :
    Accounted serial owned ((.error e, s') : Except PyExc α × HeldCall ω ρ) where
  returned := by rintro a ⟨⟩
  raised _ _ := .inl h

section Accounts

variable (W : HeldWorld ω) (serial : String) {server : Int} (hs : 0 ≤ server ∧ server < 2 ^ 28)
  (deadline associationTimeout : ℚ)
  (exchange : PooledConnection → Proc PyExc (Shared ω × List ρ) α)

include hs

/-- **The loop** is left as described, whatever the connections do: induction on its turns.  A
    connection on which nothing was read is closed in the turn that claimed it. -/
theorem heldTurns_run : ∀ (turns : Nat) (triedAny : Bool) (lastError : Option GatewayError)
    (s : HeldCall ω ρ), GivenUp lastError →
    Leaves serial exchange s.owned
      (heldTurns W serial server deadline associationTimeout exchange turns triedAny lastError s).2
      (heldTurns W serial server deadline associationTimeout exchange turns triedAny lastError s).1 := by
  intro turns
  induction turns with
  | zero => exact fun triedAny lastError s hlast => ⟨hlast, rfl⟩
  | succ turns ih =>
    intro triedAny lastError s hlast
    rw [heldTurns, gets_bind_run]
    by_cases hlate : deadline ≤ W.time s.shared
    · rw [if_pos hlate]
      exact ⟨hlast, rfl⟩
    · rw [if_neg hlate]
      rcases claimHeld_run serial (W.time s.shared) s with hnone | ⟨pc, -, hserial, -, hclaim⟩
      · rw [bind_ok hnone]
        exact ih triedAny lastError _ hlast
      · rw [bind_ok hclaim]
        dsimp only
        obtain ⟨s', ⟨a, t, hexchange, hrun⟩ | ⟨lastError', hgiven, hrun⟩ | ⟨e, hescapes, hrun⟩⟩ :=
          exchangeOver_run (W.connection pc) hs pc.connNo deadline associationTimeout (exchange pc)
            hlast ((s.shared.1.filter (·.connNo ≠ pc.connNo), s.shared.2), s.rows)
        · rw [bind_ok (onShared_run hrun)]
          exact ⟨pc, t, hserial, hexchange, rfl⟩
        · rw [bind_ok (onShared_run hrun)]
          have hnext := ih true lastError' { s with shared := s'.1, rows := s'.2 } hgiven
          dsimp only
          rw [modify_bind_run, Multiset.erase_cons_head]
          exact hnext
        · rw [bind_error (onShared_run hrun)]
          exact ⟨hescapes, pc, hserial, rfl⟩

omit hs

/-- The error with which the call ends when its time is up is one of the Gateway, and not a refused
    password. -/
theorem heldFailure_code (what : String) (maxWait : ℚ) (triedAny : Bool)
    {lastError : Option GatewayError} (hlast : GivenUp lastError) :
    (heldFailure what serial maxWait triedAny lastError).code ≠ "AUTH_FAILED" := by
  cases triedAny with
  | false => exact show ErrorClass.noConnectionEstablishedError.code ≠ "AUTH_FAILED" by decide
  | true =>
    cases lastError with
    | none => exact show ErrorClass.gatewayError.code ≠ "AUTH_FAILED" by decide
    | some e => exact hlast e rfl

variable (what : String) (maxWait : ℚ)

/-- **What a call returns** is what the exchange returned over a connection of the meter that the pool
    held. -/
theorem overHeldConnections_returned {s s' : HeldCall ω ρ} {a : α}
    (h : overHeldConnections W serial associationTimeout exchange what maxWait s = (.ok a, s')) :
    ∃ pc t, pc.serial = some serial ∧ exchange pc t = (.ok a, (s'.shared, s'.rows)) ∧
      s'.owned = pc.connNo ::ₘ s.owned := by
  obtain ⟨server, haddress, h⟩ := lift_bind_eq_ok h
  rw [gets_bind_run, gets_bind_run] at h
  obtain ⟨ended, s₁, hturns, hend⟩ := bind_eq_ok.mp h
  have hleaves := heldTurns_run W serial (serverAddress_bounds haddress) (W.time s.shared + maxWait)
    associationTimeout exchange (W.turns (W.time s.shared + maxWait) s.shared) false none s
    (by rintro e ⟨⟩)
  rw [hturns] at hleaves
  cases ended with
  | returned a =>
    cases hend
    exact hleaves
  | timeUp => cases hend

/-- **Accounts.**  Whatever the connections do, a call closes every connection it has claimed, but for
    the one it is left through. -/
theorem overHeldConnections_owned (s : HeldCall ω ρ) :
    Accounted serial s.owned
      (overHeldConnections W serial associationTimeout exchange what maxWait s) := by
  rw [overHeldConnections]
  rcases haddress : serverAddress serial with e | server
  · rw [lift_error_bind_run]
    exact .of_closed serial e rfl
  rw [lift_ok_bind_run, gets_bind_run, gets_bind_run]
  have hleaves := heldTurns_run W serial (serverAddress_bounds haddress) (W.time s.shared + maxWait)
    associationTimeout exchange (W.turns (W.time s.shared + maxWait) s.shared) false none s
    (by rintro e ⟨⟩)
  rcases hturns : heldTurns W serial server (W.time s.shared + maxWait) associationTimeout exchange
    (W.turns (W.time s.shared + maxWait) s.shared) false none s with ⟨e | ended, s₁⟩
  · rw [hturns] at hleaves
    rw [bind_error hturns]
    exact ⟨by rintro a ⟨⟩, by rintro e' ⟨⟩; exact .inr hleaves⟩
  · rw [hturns] at hleaves
    rw [bind_ok hturns]
    cases ended with
    | returned a =>
      obtain ⟨pc, -, hserial, -, howned⟩ := hleaves
      exact ⟨fun _ _ => ⟨pc, hserial, howned⟩, by rintro e ⟨⟩⟩
    | timeUp => exact .of_closed serial _ hleaves.2

end Accounts

/-- `_do_read` keeps account of the connections, whatever the request says. -/
theorem doReadCallHome_owned (pool : Option (HeldWorld ω)) (r : MeterRequest) (obis : String)
    (mechanismId : Nat) (s : HeldCall ω ProfileRow) :
    Accounted r.serial s.owned (doReadCallHome pool r obis mechanismId s) := by
  rw [doReadCallHome]
  cases asciiEncode r.password with
  | error e => exact .of_closed r.serial e rfl
  | ok password =>
    rw [lift_ok_bind_run]
    cases pool with
    | none => exact .of_closed r.serial _ rfl
    | some W => exact overHeldConnections_owned W r.serial _ _ _ _ s

/-- `_do_read_load_profile` keeps account of the connections, whatever the request says. -/
theorem doReadLoadProfileCallHome_owned (pool : Option (HeldWorld ω))
    (fromisoformat : String → Except PyExc DateTime) (r : MeterRequest) (obis : String)
    (classId : Int) (fromIso toIso : String) (s : HeldCall ω ProfileRow) :
    Accounted r.serial s.owned
      (doReadLoadProfileCallHome pool fromisoformat r obis classId fromIso toIso s) := by
  rw [doReadLoadProfileCallHome]
  cases asciiEncode r.password with
  | error e => exact .of_closed r.serial e rfl
  | ok password =>
    rw [lift_ok_bind_run]
    split
    · exact .of_closed r.serial _ rfl
    cases fromisoformat fromIso with
    | error e => exact .of_closed r.serial e rfl
    | ok fromDt =>
      rw [lift_ok_bind_run]
      cases fromisoformat toIso with
      | error e => exact .of_closed r.serial e rfl
      | ok toDt =>
        rw [lift_ok_bind_run]
        cases pool with
        | none => exact .of_closed r.serial _ rfl
        | some W => exact overHeldConnections_owned W r.serial _ _ _ _ s

/-! ## Rows -/

section Rows

variable (ys : List ρ)

/-- A part of a generator that yields nothing takes nothing back. -/
theorem within_rows (x : Proc PyExc σ α) :
    Keeps (fun s => ys <+: s.2) (within x : Proc PyExc (σ × List ρ) α) := fun _ hs => hs

/-- One connection takes nothing back of what was yielded, if the exchange does not. -/
theorem exchangeOver_rows (C : Connection σ) (server : Int) (connNo : Nat)
    (deadline associationTimeout : ℚ) {exchange : Proc PyExc (σ × List ρ) α}
    (hexchange : Keeps (fun s => ys <+: s.2) exchange) (lastError : Option GatewayError) :
    Keeps (fun s => ys <+: s.2)
      (exchangeOver C server connNo deadline associationTimeout exchange lastError) := by
  refine .bind (within_rows ys _) fun _ => .bind (within_rows ys _) fun linked => ?_
  obtain ⟨linked, lastError₁⟩ := linked
  cases linked with
  | false => exact .pure _
  | true =>
    refine .bind (within_rows ys _) fun _ => .bind (.attempt hexchange) fun outcome => ?_
    split
    · exact .pure _
    · split
      · exact .raise _
      · exact .pure _
    · exact .pure _
    · exact .raise _

/-- Nor does the loop over the connections: induction on its turns. -/
theorem heldTurns_rows (W : HeldWorld ω) (serial : String) (server : Int)
    (deadline associationTimeout : ℚ)
    {exchange : PooledConnection → Proc PyExc (Shared ω × List ρ) α}
    (hexchange : ∀ pc, Keeps (fun s => ys <+: s.2) (exchange pc)) :
    ∀ (turns : Nat) (triedAny : Bool) (lastError : Option GatewayError),
      Keeps (fun s : HeldCall ω ρ => ys <+: s.rows)
        (heldTurns W serial server deadline associationTimeout exchange turns triedAny lastError) := by
  intro turns
  induction turns with
  | zero => exact fun _ _ => .pure _
  | succ turns ih =>
    refine fun triedAny lastError => .bind (.gets _) fun now => ?_
    split
    · exact .pure _
    refine .bind (fun s hs => ?_) fun claimed => ?_
    · rcases claimHeld_run serial now s with h | ⟨pc, -, -, -, h⟩
      · rwa [h]
      · rwa [h]
    · cases claimed with
      | none => exact .bind (.modify fun _ hs => hs) fun _ => ih triedAny lastError
      | some pc =>
        refine .bind (fun s hs => exchangeOver_rows ys (W.connection pc) server pc.connNo deadline
          associationTimeout (hexchange pc) lastError (s.shared, s.rows) hs) fun outcome => ?_
        cases outcome with
        | ok a => exact .pure _
        | error lastError' => exact .bind (.modify fun _ hs => hs) fun _ => ih true lastError'

end Rows

/-- What the exchange of a load profile has yielded stays yielded, however it ends. -/
theorem readLoadProfileViaEstablishedLink_rows (ys : List ProfileRow) (S : MeterSocket σ)
    (physicalAddress : String) (password : Bytes) (obis : String) (classId : Int)
    (fromDt toDt : DateTime) (probe : Bool) :
    Keeps (fun s => ys <+: s.2) (readLoadProfileViaEstablishedLink S physicalAddress password obis
      classId fromDt toDt probe) := by
  have hemit : ∀ xs, Keeps (fun s => ys <+: s.2) (emit xs : Proc PyExc (σ × List ProfileRow) Unit) :=
    fun xs _ hs => hs.trans (List.prefix_append _ xs)
  have hloop : ∀ server client fuel t,
      Keeps (fun s => ys <+: s.2) (transferLoop S server client fromDt toDt fuel t) := by
    intro server client fuel
    induction fuel with
    | zero => exact fun t => .pure ()
    | succ fuel ih =>
      refine fun t => .bind (within_rows ys _) fun payload => .bind (hemit _) fun _ => ?_
      cases (onPayload fromDt toDt t payload).2 with
      | done => exact .pure ()
      | failed e => exact .raise e
      | ask t' => exact .bind (within_rows ys _) fun _ => ih _
  refine .bind (.lift _) fun server => .bind (within_rows ys _) fun _ => ?_
  refine .bind (.lift _) fun parsedObis => .bind (.lift _) fun request => ?_
  exact .bind (within_rows ys _) fun _ s hs => hloop _ _ _ _ s hs

/-- **Rows.**  A row that was yielded over one connection is not lost when that connection breaks: the
    reading only ever adds to what it has yielded. -/
theorem readLoadProfileViaCallHome_rows (ys : List ProfileRow) (W : HeldWorld ω) (serial : String)
    (password : Bytes) (obis : String) (classId : Int) (fromDt toDt : DateTime) (maxWait : ℚ) :
    Keeps (fun s => ys <+: s.rows)
      (readLoadProfileViaCallHome W serial password obis classId fromDt toDt maxWait) := by
  refine .bind (.lift _) fun server => .bind (.gets _) fun deadline => .bind (.gets _) fun turns => ?_
  refine .bind (heldTurns_rows ys W serial server deadline _ (fun pc => .bind (.lift _) fun address =>
    readLoadProfileViaEstablishedLink_rows ys _ _ _ _ _ _ _ _) turns false none) fun ended => ?_
  cases ended with
  | returned a => exact .pure a
  | timeUp triedAny lastError => exact .raise _

end RiseSun.Gateway
