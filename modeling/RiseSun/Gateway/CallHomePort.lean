/-
  Moving the call-home port of a running gateway (`SetCallHomePort`, `grpc_server.py`).

  1. **Program** — the sockets of the process, `CallHomePool.start` and `stop`, the start of the
     server, and the call that puts a new pool in the place of the old one.

  2. **Invariant** (`Running`) — the pool listens on its port and on the extra ones, and the sockets
     that are open are those of the pool and those others work with.

  3. **`set_call_home_port_iff`** — the new pool gets the port and nothing else of the old one, so the
     call keeps its promise exactly when the port is refused or there was nothing else.
-/
import RiseSun.Gateway.Pool

namespace RiseSun.Gateway

open Proc

/-! ## Sockets -/

/-- The open sockets of the process by number; a new one gets the next number. -/
structure Sockets where
  opened : List Nat := []
  nextFd : Nat := 0
  deriving DecidableEq, Repr

def Sockets.more (s : Sockets) : Sockets :=
  { opened := s.opened ++ [s.nextFd], nextFd := s.nextFd + 1 }

/-- What the operating system answers; a text is that of an `OSError`. -/
structure Os where
  socket : Sockets → Option String
  /-- The free port it finds, if it is asked for any. -/
  bind : Sockets → String → Int → Except String Int
  listen : Sockets → Int → Nat → Option String

inductive StartError
  | osError (message : String)
  /-- The port is not between 0 and 65535. -/
  | overflowError
  deriving DecidableEq, Repr

structure Listener where
  fd : Nat
  port : Int
  deriving DecidableEq, Repr

structure HeldConnection extends PooledConnection where
  fd : Nat
  deriving DecidableEq, Repr

structure CallHomePool where
  bindHost : String
  bindPort : Int
  extraBindPorts : List Int := []
  config : PoolConfig := {}
  listeners : List Listener := []
  held : List HeldConnection := []
  nextConnNo : Nat := 0
  seenSerials : List (String × ℚ) := []

namespace CallHomePool

def bindPorts (pool : CallHomePool) : List Int :=
  if pool.listeners = [] then pool.bindPort :: pool.extraBindPorts else pool.listeners.map (·.port)

/-- The sockets a pool refers to. -/
def fds (pool : CallHomePool) : List Nat := pool.listeners.map (·.fd) ++ pool.held.map (·.fd)

end CallHomePool

section Program

variable (os : Os)

def newSocket : Proc StartError Sockets Nat := fun s =>
  match os.socket s with
  | some message => (.error (.osError message), s)
  | none => (.ok s.nextFd, s.more)

/-- `bind`, and what `getsockname` says afterwards. -/
def bindSocket (host : String) (port : Int) : Proc StartError Sockets Int := fun s =>
  if port < 0 ∨ 65535 < port then (.error .overflowError, s)
  else match os.bind s host port with
    | .error message => (.error (.osError message), s)
    | .ok free => (.ok (if port = 0 then free else port), s)

def listenOn (backlog : Nat) (listener : Listener) : Proc StartError Sockets Unit := fun s =>
  match os.listen s listener.port backlog with
  | some message => (.error (.osError message), s)
  | none => (.ok (), s)

def openListener (host : String) (port : Int) : Proc StartError Sockets Listener := do
  let fd ← newSocket os
  let bound ← bindSocket os host port
  pure ⟨fd, bound⟩

def openListeners (host : String) : List Int → Proc StartError Sockets (List Listener)
  | [] => pure []
  | port :: ports => do
    let listener ← openListener os host port
    let listeners ← openListeners host ports
    pure (listener :: listeners)

def listenAll (backlog : Nat) : List Listener → Proc StartError Sockets Unit
  | [] => pure ()
  | listener :: listeners => do
    listenOn os backlog listener
    listenAll backlog listeners

/-- `CallHomePool.start`. -/
def CallHomePool.start (pool : CallHomePool) : Proc StartError Sockets CallHomePool := do
  let primary ← openListener os pool.bindHost pool.bindPort
  let extra ← openListeners os pool.bindHost pool.extraBindPorts
  listenAll os (pool.config.windowSize + 5) (primary :: extra)
  pure { pool with bindPort := primary.port, listeners := primary :: extra }

/-- `CallHomePool.stop`: listeners and held connections are closed. -/
def CallHomePool.stop (pool : CallHomePool) (s : Sockets) : Sockets :=
  { s with opened := s.opened.filter (· ∉ pool.fds) }

structure GatewayServicer where
  callHomeBindHost : String
  callHomePool : Option CallHomePool
  sockets : Sockets := {}
  /-- Sockets that others refer to: the server, and the readers of claimed connections. -/
  others : List Nat := []

def GatewayServicer.reachable (s : GatewayServicer) : List Nat :=
  (s.callHomePool.map CallHomePool.fds).getD [] ++ s.others

/-- A socket that nothing refers to any more is closed. -/
def GatewayServicer.dropUnreachable (s : GatewayServicer) : GatewayServicer :=
  { s with sockets := { s.sockets with opened := s.sockets.opened.filter (· ∈ s.reachable) } }

/-- `serve`, as far as the pool goes. -/
def serveCallHome (host : String) (callHomePort : Option Int) (extraCallHomePorts : List Int)
    (others : List Nat) : Proc StartError Sockets GatewayServicer :=
  match callHomePort with
  | none => fun s => (.ok ⟨host, none, s, others⟩, s)
  | some port => do
    let pool ← CallHomePool.start os
      { bindHost := host, bindPort := port, extraBindPorts := extraCallHomePorts }
    gets fun s => ⟨host, some pool, s, others⟩

inductive SetCallHomePortResponse
  | error (code message : String)
  | success (port : Int)
  deriving DecidableEq, Repr

/-- `SetCallHomePort`.  An exception that is no `OSError` ends the call with an error status. -/
def setCallHomePort (port : Int) (s : GatewayServicer) :
    Except StartError SetCallHomePortResponse × GatewayServicer :=
  -- the extra ports and the limits are left to their defaults
  let newPool : CallHomePool := { bindHost := s.callHomeBindHost, bindPort := port }
  match newPool.start os s.sockets with
  | (.ok pool, sockets) =>
    let stopped := match s.callHomePool with
      | some oldPool => oldPool.stop sockets
      | none => sockets
    (.ok (.success pool.bindPort), { s with callHomePool := some pool, sockets := stopped })
  | (.error (.osError message), sockets) =>
    (.ok (.error "GATEWAY_ERROR" message), { s with sockets := sockets }.dropUnreachable)
  | (.error .overflowError, sockets) =>
    (.error .overflowError, { s with sockets := sockets }.dropUnreachable)

/-- The system lets the process listen on this port, with the backlog of a default window. -/
def canListen (port : Int) (s : GatewayServicer) : Bool :=
  os.socket s.sockets = none && 0 ≤ port && port ≤ 65535 &&
    match os.bind s.sockets.more s.callHomeBindHost port with
    | .ok free => os.listen s.sockets.more (if port = 0 then free else port)
        (({} : PoolConfig).windowSize + 5) = none
    | .error _ => false

end Program

/-! ## Invariant -/

structure Running (s : GatewayServicer) : Prop where
  /-- Nothing else is open, and nothing is open twice. -/
  opened : s.sockets.opened.Perm s.reachable
  nodup : s.sockets.opened.Nodup
  fresh : ∀ fd ∈ s.sockets.opened, fd < s.sockets.nextFd
  listening : ∀ pool ∈ s.callHomePool, ∃ primary extra, pool.listeners = primary :: extra ∧
    primary.port = pool.bindPort ∧ extra.length = pool.extraBindPorts.length

/-- The ports that are listened on beside the primary one. -/
def GatewayServicer.extraPorts (s : GatewayServicer) : List Int :=
  (s.callHomePool.map fun pool => pool.bindPorts.tail).getD []

/-- The promise of the call: an answer that is no success changes nothing, and after a success the
gateway listens on the new port and on the extra ones it had, with the limits it had. -/
def OnlyThePort (port : Int) (before : GatewayServicer) :
    Except StartError SetCallHomePortResponse × GatewayServicer → Prop
  | (.ok (.success bound), after) => (port ≠ 0 → bound = port) ∧
      ∃ pool, after.callHomePool = some pool ∧ pool.bindPorts = bound :: before.extraPorts ∧
        (∀ old ∈ before.callHomePool, pool.config = old.config) ∧
        after.sockets.opened.Perm (pool.listeners.map (·.fd) ++ before.others)
  | (.ok (.error ..), after) | (.error _, after) => after.callHomePool = before.callHomePool ∧
      after.sockets.opened = before.sockets.opened

/-! ## What a start does to the sockets -/

section Start

variable {os : Os}

/-- Some more sockets are open, with the next numbers. -/
def Opened (before : Sockets) (n : Nat) (after : Sockets) : Prop :=
  after.opened = before.opened ++ List.range' before.nextFd n ∧ after.nextFd = before.nextFd + n

theorem Opened.refl (s : Sockets) : Opened s 0 s := ⟨(List.append_nil _).symm, rfl⟩

theorem Opened.trans {s t u : Sockets} {m n : Nat} (h : Opened s m t) (h' : Opened t n u) :
    Opened s (m + n) u := by
  obtain ⟨hopened, hnext⟩ := h
  obtain ⟨hopened', hnext'⟩ := h'
  constructor
  · rw [hopened', hopened, hnext, List.append_assoc, List.range'_append_1]
  · omega

/-- However far it gets, nothing is closed. -/
def Opens (x : Proc StartError Sockets α) : Prop :=
  ∀ before, Keeps (fun after => ∃ n, Opened before n after) x

theorem newSocket_opens : Opens (newSocket os) := by
  rintro before s ⟨n, hs⟩
  rw [newSocket]
  split
  · exact ⟨n, hs⟩
  · exact ⟨n + 1, hs.trans ⟨rfl, rfl⟩⟩

theorem bindSocket_opens (host : String) (port : Int) : Opens (bindSocket os host port) := by
  intro before s hs
  rw [bindSocket]
  split
  · exact hs
  · split <;> exact hs

/-- Listening opens and closes no socket, so every condition on the sockets is kept. -/
theorem listenAll_keeps (os : Os) {I : Sockets → Prop} (backlog : Nat) (listeners : List Listener) :
    Keeps I (listenAll os backlog listeners) := by
  induction listeners with
  | nil => exact Keeps.pure _
  | cons listener listeners ih =>
    refine Keeps.bind (fun s hs => ?_) fun _ => ih
    rw [listenOn]
    split <;> exact hs

theorem openListener_opens (host : String) (port : Int) : Opens (openListener os host port) :=
  fun before => (newSocket_opens before).bind fun _ =>
    (bindSocket_opens host port before).bind fun _ => Keeps.pure _

theorem openListeners_opens (host : String) (ports : List Int) :
    Opens (openListeners os host ports) := by
  induction ports with
  | nil => exact fun before => Keeps.pure _
  | cons port ports ih =>
    exact fun before => (openListener_opens host port before).bind fun _ =>
      (ih before).bind fun _ => Keeps.pure _

theorem start_opens (os : Os) (pool : CallHomePool) : Opens (pool.start os) :=
  fun before => (openListener_opens _ _ before).bind fun _ =>
    (openListeners_opens _ _ before).bind fun _ =>
      (listenAll_keeps os _ _).bind fun _ => Keeps.pure _

/-- A socket on a port is to be had where the system gives one and the port is free. -/
theorem openListener_cases (os : Os) (s : Sockets) (host : String) (port : Int) :
    (∃ bound, (port ≠ 0 → bound = port) ∧
      openListener os host port s = (.ok ⟨s.nextFd, bound⟩, s.more) ∧
      os.socket s = none ∧ 0 ≤ port ∧ port ≤ 65535 ∧
      ∃ free, os.bind s.more host port = .ok free ∧ bound = if port = 0 then free else port) ∨
    ((∃ e, (openListener os host port s).1 = .error e) ∧
      (os.socket s ≠ none ∨ ¬ (0 ≤ port ∧ port ≤ 65535) ∨
        ∃ message, os.bind s.more host port = .error message)) := by
  rcases hsocket : os.socket s with _ | message
  · have hnew : newSocket os s = (.ok s.nextFd, s.more) := by
      rw [newSocket, hsocket]
    rw [openListener, bind_ok hnew]
    by_cases hrange : 0 ≤ port ∧ port ≤ 65535
    · have hin : ¬ (port < 0 ∨ 65535 < port) := by omega
      rcases hbind : os.bind s.more host port with
        message | free
      · have hrun := bind_error (f := fun bound => (pure ⟨s.nextFd, bound⟩ : Proc _ _ Listener))
          (show bindSocket os host port _ = (.error (.osError message), _) by
            rw [bindSocket, if_neg hin, hbind])
        exact .inr ⟨⟨_, congrArg Prod.fst hrun⟩, .inr (.inr ⟨message, rfl⟩)⟩
      · have hrun := bind_ok (f := fun bound => (pure ⟨s.nextFd, bound⟩ : Proc _ _ Listener))
          (show bindSocket os host port _ = (.ok (if port = 0 then free else port), _) by
            rw [bindSocket, if_neg hin, hbind])
        exact .inl ⟨_, fun hport => if_neg hport, hrun, rfl, hrange.1, hrange.2, free, rfl, rfl⟩
    · have hrun := bind_error (f := fun bound => (pure ⟨s.nextFd, bound⟩ : Proc _ _ Listener))
        (show bindSocket os host port s.more = (.error .overflowError, _) by
          rw [bindSocket, if_pos (by omega)])
      exact .inr ⟨⟨_, congrArg Prod.fst hrun⟩, .inr (.inl hrange)⟩
  · have hrun := bind_error (f := fun fd => do
        let bound ← bindSocket os host port
        pure (⟨fd, bound⟩ : Listener))
      (show newSocket os s = (.error (.osError message), s) by rw [newSocket, hsocket])
    exact .inr ⟨⟨_, congrArg Prod.fst hrun⟩, .inl (by simp)⟩

/-- A pool with one port starts exactly when the system lets it. -/
theorem start_alone (os : Os) (s : GatewayServicer) (port : Int) :
    let newPool : CallHomePool := { bindHost := s.callHomeBindHost, bindPort := port }
    if canListen os port s then
      ∃ bound, (port ≠ 0 → bound = port) ∧ newPool.start os s.sockets =
        (.ok { newPool with bindPort := bound, listeners := [⟨s.sockets.nextFd, bound⟩] },
          s.sockets.more)
    else ∃ e, (newPool.start os s.sockets).1 = .error e := by
  dsimp only
  rcases openListener_cases os s.sockets s.callHomeBindHost port with
    ⟨bound, hbound, hopen, hsocket, hlow, hhigh, free, hbind, hfree⟩ | ⟨⟨e, herror⟩, hwhy⟩
  · have hstart : CallHomePool.start os { bindHost := s.callHomeBindHost, bindPort := port } s.sockets =
        (listenAll os (({} : PoolConfig).windowSize + 5) [⟨s.sockets.nextFd, bound⟩] >>= fun _ =>
          (pure { bindHost := s.callHomeBindHost, bindPort := bound,
                  listeners := [⟨s.sockets.nextFd, bound⟩] } : Proc _ _ CallHomePool))
          s.sockets.more := bind_ok hopen
    rw [hstart]
    rcases hlisten : os.listen s.sockets.more bound (({} : PoolConfig).windowSize + 5) with _ | message
    · have hgranted : canListen os port s = true := by
        simp [canListen, hsocket, hlow, hhigh, hbind, ← hfree, hlisten]
      have hrun : listenOn os (({} : PoolConfig).windowSize + 5) ⟨s.sockets.nextFd, bound⟩
          s.sockets.more = (.ok (), s.sockets.more) := by
        rw [listenOn, hlisten]
      rw [hgranted]
      exact ⟨bound, hbound, bind_ok (bind_ok hrun)⟩
    · have hrefused : canListen os port s = false := by
        simp [canListen, hsocket, hlow, hhigh, hbind, ← hfree, hlisten]
      have hrun : listenOn os (({} : PoolConfig).windowSize + 5) ⟨s.sockets.nextFd, bound⟩
          s.sockets.more = (.error (.osError message), s.sockets.more) := by
        rw [listenOn, hlisten]
      rw [hrefused]
      exact ⟨.osError message, congrArg Prod.fst (bind_error (bind_error hrun))⟩
  · have hrefused : canListen os port s = false := by
      rcases hwhy with hwhy | hwhy | ⟨message, hwhy⟩
      · simp [canListen, hwhy]
      · rcases not_and_or.mp hwhy with hlow | hhigh
        · simp [canListen, hlow]
        · simp [canListen, hhigh]
      · simp [canListen, hwhy]
    rw [hrefused]
    exact ⟨e, congrArg Prod.fst (bind_error (run_eq herror))⟩

/-- A start that succeeds has opened one socket for each port, under consecutive numbers. -/
theorem openListeners_ok {host : String} {ports : List Int} {s t : Sockets}
    {listeners : List Listener} (h : openListeners os host ports s = (.ok listeners, t)) :
    Opened s ports.length t ∧ listeners.map (·.fd) = List.range' s.nextFd ports.length := by
  induction ports generalizing s listeners with
  | nil =>
    cases h
    exact ⟨Opened.refl _, rfl⟩
  | cons port ports ih =>
    obtain ⟨listener, u, hlistener, h⟩ := bind_eq_ok.mp h
    obtain ⟨rest, v, hrest, h⟩ := bind_eq_ok.mp h
    cases h
    rcases openListener_cases os s host port with ⟨bound, -, hrun, -⟩ | ⟨⟨e, he⟩, -⟩
    · rw [hrun] at hlistener
      cases hlistener
      obtain ⟨hopened, hfds⟩ := ih hrest
      refine ⟨?_, ?_⟩
      · rw [List.length_cons, Nat.add_comm]
        exact Opened.trans ⟨rfl, rfl⟩ hopened
      · rw [List.map_cons, hfds, List.length_cons, List.range'_succ]
        rfl
    · rw [hlistener] at he
      cases he

theorem start_ok {pool started : CallHomePool} {s t : Sockets}
    (h : pool.start os s = (.ok started, t)) : ∃ primary extra,
    started = { pool with bindPort := primary.port, listeners := primary :: extra } ∧
    Opened s (pool.extraBindPorts.length + 1) t ∧
    started.listeners.map (·.fd) = List.range' s.nextFd (pool.extraBindPorts.length + 1) := by
  obtain ⟨primary, u, hprimary, h⟩ := bind_eq_ok.mp h
  obtain ⟨extra, v, hextra, h⟩ := bind_eq_ok.mp h
  obtain ⟨_, w, hlisten, h⟩ := bind_eq_ok.mp h
  cases h
  have hall : openListeners os pool.bindHost (pool.bindPort :: pool.extraBindPorts) s =
      (.ok (primary :: extra), v) :=
    (bind_ok hprimary).trans (bind_ok hextra)
  have hsame : t = v := by
    have hkept := listenAll_keeps os (I := (· = v)) (pool.config.windowSize + 5)
      (primary :: extra) v rfl
    rwa [hlisten] at hkept
  obtain ⟨hopened, hfds⟩ := openListeners_ok hall
  exact ⟨primary, extra, rfl, hsame ▸ hopened, hfds⟩

end Start

/-! ## The call -/

section Call

variable {os : Os} {s : GatewayServicer} {port : Int}

/-- New sockets that nothing refers to are closed, and no others. -/
theorem Running.dropUnreachable {n : Nat} {sockets : Sockets} (running : Running s)
    (hopened : Opened s.sockets n sockets) :
    ({ s with sockets := sockets }.dropUnreachable).sockets.opened = s.sockets.opened := by
  show sockets.opened.filter (· ∈ s.reachable) = _
  have hold : s.sockets.opened.filter (· ∈ s.reachable) = s.sockets.opened :=
    List.filter_eq_self.mpr fun fd hfd => decide_eq_true (running.opened.subset hfd)
  have hnew : (List.range' s.sockets.nextFd n).filter (· ∈ s.reachable) = [] := by
    refine List.filter_eq_nil_iff.mpr fun fd hfd hin => ?_
    have hlt := running.fresh fd (running.opened.symm.subset (of_decide_eq_true hin))
    have hge := (List.mem_range'_1.mp hfd).1
    omega
  rw [hopened.1, List.filter_append, hold, hnew, List.append_nil]

/-- Stopping the old pool leaves the new socket and what others work with. -/
theorem Running.stop_perm {old : CallHomePool} (running : Running s) (hpool : s.callHomePool = some old) :
    (old.stop s.sockets.more).opened.Perm (s.sockets.nextFd :: s.others) := by
  have hall : s.sockets.opened.Perm (old.fds ++ s.others) := by
    have hopened := running.opened
    rwa [GatewayServicer.reachable, hpool] at hopened
  have hnodup := hall.nodup_iff.mp running.nodup
  have hothers : (old.fds ++ s.others).filter (· ∉ old.fds) = s.others := by
    rw [List.filter_append, List.filter_eq_nil_iff.mpr, List.nil_append, List.filter_eq_self.mpr]
    · exact fun fd hfd => decide_eq_true fun hin =>
        (List.nodup_append.mp hnodup).2.2 fd hin fd hfd rfl
    · exact fun fd hfd hout => of_decide_eq_true hout hfd
  have hnew : [s.sockets.nextFd].filter (· ∉ old.fds) = [s.sockets.nextFd] := by
    refine List.filter_eq_self.mpr fun fd hfd => decide_eq_true fun hin => ?_
    obtain rfl := List.mem_singleton.mp hfd
    exact absurd (running.fresh _ (hall.symm.subset (List.mem_append_left _ hin))) (lt_irrefl _)
  show ((s.sockets.opened ++ [s.sockets.nextFd]).filter (· ∉ old.fds)).Perm _
  rw [List.filter_append, hnew]
  have hkept := hall.filter (· ∉ old.fds)
  rw [hothers] at hkept
  exact (hkept.append_right _).trans (List.perm_append_singleton _ _)

/-- A port that is refused: the answer is an error, and the sockets of the attempt are gone. -/
theorem setCallHomePort_refused (os : Os) (running : Running s) (hrefused : canListen os port s = false) :
    ∃ n sockets, Opened s.sockets n sockets ∧
      (setCallHomePort os port s).2 = { s with sockets := sockets }.dropUnreachable ∧
      OnlyThePort port s (setCallHomePort os port s) := by
  have hstart := start_alone os s port
  have hopens := start_opens os { bindHost := s.callHomeBindHost, bindPort := port }
    s.sockets s.sockets ⟨0, Opened.refl _⟩
  rw [hrefused] at hstart
  obtain ⟨e, he⟩ := hstart
  obtain ⟨n, hopened⟩ := hopens
  refine ⟨n, _, hopened, ?_⟩
  rw [setCallHomePort, run_eq he]
  cases e with
  | osError message => exact ⟨rfl, rfl, running.dropUnreachable hopened⟩
  | overflowError => exact ⟨rfl, rfl, running.dropUnreachable hopened⟩

/-- A port that is granted: the new pool has this port and no other, and the default limits. -/
theorem setCallHomePort_granted (running : Running s) (hgranted : canListen os port s = true) :
    ∃ bound sockets, (port ≠ 0 → bound = port) ∧
      setCallHomePort os port s = (.ok (.success bound), { s with
        callHomePool := some { bindHost := s.callHomeBindHost, bindPort := bound,
                               listeners := [⟨s.sockets.nextFd, bound⟩] }
        sockets := sockets }) ∧
      sockets.opened.Perm (s.sockets.nextFd :: s.others) ∧ sockets.nextFd = s.sockets.nextFd + 1 := by
  have hstart := start_alone os s port
  rw [hgranted] at hstart
  obtain ⟨bound, hbound, hstart⟩ := hstart
  rcases hpool : s.callHomePool with _ | old
  · refine ⟨bound, s.sockets.more, hbound, by rw [setCallHomePort, hstart, hpool], ?_, rfl⟩
    have hopened := running.opened
    rw [GatewayServicer.reachable, hpool] at hopened
    exact (hopened.append_right _).trans (List.perm_append_singleton _ _)
  · exact ⟨bound, old.stop s.sockets.more, hbound, by rw [setCallHomePort, hstart, hpool],
      running.stop_perm hpool, rfl⟩

/-- The call keeps its promise exactly when the port is refused, or there were no extra ports and the
limits were the default ones. -/
theorem set_call_home_port_iff (running : Running s) :
    OnlyThePort port s (setCallHomePort os port s) ↔
      (canListen os port s = true → ∀ old ∈ s.callHomePool,
        old.extraBindPorts = [] ∧ old.config = {}) := by
  constructor
  · intro hpromise hgranted old hold
    obtain ⟨bound, sockets, -, hcall, -⟩ := setCallHomePort_granted running hgranted
    rw [hcall] at hpromise
    obtain ⟨-, pool, hpool, hports, hlimits, -⟩ := hpromise
    cases hpool
    refine ⟨?_, (hlimits old hold).symm⟩
    obtain ⟨primary, extra, hlisteners, -, hlength⟩ := running.listening old hold
    have hextra : s.extraPorts = [] := ((List.cons.inj hports).2).symm
    rw [GatewayServicer.extraPorts, Option.mem_def.mp hold] at hextra
    have hnone : extra.map (·.port) = [] := by
      simpa [CallHomePool.bindPorts, hlisteners] using hextra
    rw [List.map_eq_nil_iff.mp hnone] at hlength
    exact List.length_eq_zero_iff.mp hlength.symm
  · intro hdefault
    rcases hgranted : canListen os port s with _ | _
    · obtain ⟨-, -, -, -, hpromise⟩ := setCallHomePort_refused os running hgranted
      exact hpromise
    · obtain ⟨bound, sockets, hbound, hcall, hopened, -⟩ := setCallHomePort_granted running hgranted
      rw [hcall]
      refine ⟨hbound, _, rfl, ?_, fun old hold => (hdefault hgranted old hold).2.symm, hopened⟩
      have hextra : s.extraPorts = [] := by
        rw [GatewayServicer.extraPorts]
        rcases hpool : s.callHomePool with _ | old
        · rfl
        · obtain ⟨primary, extra, hlisteners, -, hlength⟩ := running.listening old hpool
          rw [(hdefault hgranted old hpool).1] at hlength
          rw [Option.map_some, Option.getD_some, CallHomePool.bindPorts, hlisteners,
            List.length_eq_zero_iff.mp hlength]
          rfl
      rw [hextra]
      rfl

end Call

/-! ## Runs -/

section Runs

variable {os : Os}

/-- A gateway that has started is in order: its pool listens on the sockets it has opened. -/
theorem serveCallHome_running {host : String} {callHomePort : Option Int} {extra : List Int}
    {others : List Nat} {before after : Sockets} {s : GatewayServicer}
    (hothers : before.opened.Perm others) (hnodup : others.Nodup)
    (hfresh : ∀ fd ∈ others, fd < before.nextFd)
    (h : serveCallHome os host callHomePort extra others before = (.ok s, after)) : Running s := by
  cases callHomePort with
  | none =>
    cases h
    exact ⟨hothers, hothers.nodup_iff.mpr hnodup, fun fd hfd => hfresh fd (hothers.subset hfd),
      fun _ hpool => nomatch hpool⟩
  | some port =>
    obtain ⟨pool, sockets, hstart, h⟩ := bind_eq_ok.mp h
    cases h
    obtain ⟨primary, listeners, hpool, ⟨hopened, hnext⟩, hfds⟩ := start_ok hstart
    have hheld : pool.fds = List.range' before.nextFd (extra.length + 1) := by
      rw [CallHomePool.fds, hfds, hpool]
      exact List.append_nil _
    have hall : after.opened.Perm (pool.fds ++ others) := by
      rw [hopened, hheld]
      exact (List.perm_append_comm).trans (hothers.append_left _)
    refine ⟨hall, ?_, fun fd hfd => ?_, ?_⟩
    · rw [hall.nodup_iff, hheld]
      refine List.nodup_append.mpr ⟨List.nodup_range', hnodup, ?_⟩
      rintro fd hin _ hother rfl
      have hlt := hfresh fd hother
      have hge := (List.mem_range'_1.mp hin).1
      omega
    · rcases List.mem_append.mp (hall.subset hfd) with hin | hother
      · rw [hheld] at hin
        have hlt := (List.mem_range'_1.mp hin).2
        show fd < after.nextFd
        rw [hnext]
        exact hlt
      · have hlt := hfresh fd hother
        show fd < after.nextFd
        omega
    · rintro _ ⟨⟩
      have hlength := congrArg List.length hfds
      rw [hpool, List.length_map, List.length_range', List.length_cons] at hlength
      refine ⟨primary, listeners, by rw [hpool], by rw [hpool], ?_⟩
      rw [hpool]
      exact Nat.succ.inj hlength

/-- Whatever the answer, the gateway goes on in order. -/
theorem setCallHomePort_running {s : GatewayServicer} {port : Int} (running : Running s) :
    Running (setCallHomePort os port s).2 := by
  rcases hgranted : canListen os port s with _ | _
  · obtain ⟨n, sockets, hopened, hafter, -⟩ := setCallHomePort_refused os running hgranted
    rw [hafter]
    have hsame := running.dropUnreachable hopened
    have hlater : s.sockets.nextFd ≤ sockets.nextFd := by
      rw [hopened.2]
      exact Nat.le_add_right _ _
    refine ⟨?_, ?_, ?_, running.listening⟩
    · rw [hsame]
      exact running.opened
    · rw [hsame]
      exact running.nodup
    · rw [hsame]
      exact fun fd hfd => (running.fresh fd hfd).trans_le hlater
  · obtain ⟨bound, sockets, -, hcall, hopened, hnext⟩ := setCallHomePort_granted running hgranted
    rw [hcall]
    have hothers : ∀ fd ∈ s.others, fd < s.sockets.nextFd := fun fd hfd =>
      running.fresh fd (running.opened.symm.subset (List.mem_append_right _ hfd))
    have hnodup := (List.nodup_append.mp (running.opened.nodup_iff.mp running.nodup)).2.1
    refine ⟨hopened, ?_, fun fd hfd => ?_, ?_⟩
    · exact hopened.nodup_iff.mpr (List.nodup_cons.mpr
        ⟨fun hin => absurd (hothers _ hin) (lt_irrefl _), hnodup⟩)
    · show fd < sockets.nextFd
      rw [hnext]
      rcases List.mem_cons.mp (hopened.subset hfd) with rfl | hin
      · exact Nat.lt_succ_self _
      · exact (hothers fd hin).trans (Nat.lt_succ_self _)
    · rintro _ ⟨⟩
      exact ⟨_, [], rfl, rfl, rfl⟩

/-- So it does after any number of requests. -/
theorem setCallHomePort_runs {s : GatewayServicer} (running : Running s) (ports : List Int) :
    Running (ports.foldl (fun s port => (setCallHomePort os port s).2) s) := by
  induction ports generalizing s with
  | nil => exact running
  | cons port ports ih => exact ih (setCallHomePort_running running)

end Runs

section Districts

/-- A system that grants every port. -/
def grantingOs : Os := ⟨fun _ => none, fun _ _ _ => .ok 40000, fun _ _ _ => none⟩

/-- Socket 0 is the server's; the pool listens on one port and on two more for other districts. -/
def districts : GatewayServicer where
  callHomeBindHost := "0.0.0.0"
  callHomePool := some
    { bindHost := "0.0.0.0", bindPort := 2010, extraBindPorts := [2011, 2012],
      listeners := [⟨1, 2010⟩, ⟨2, 2011⟩, ⟨3, 2012⟩] }
  sockets := ⟨[0, 1, 2, 3], 4⟩
  others := [0]

theorem districts_started :
    serveCallHome grantingOs "0.0.0.0" (some 2010) [2011, 2012] [0] ⟨[0], 1⟩ =
      (.ok districts, districts.sockets) := rfl

/-- The main port is moved, and nobody listens for the meters of the other districts any more. -/
theorem districts_cut_off : Running districts ∧
    ¬ OnlyThePort 2020 districts (setCallHomePort grantingOs 2020 districts) := by
  refine ⟨serveCallHome_running (List.Perm.refl [0]) (by decide) (by decide) districts_started, ?_⟩
  rintro ⟨-, pool, hpool, hports, -⟩
  cases hpool
  exact absurd hports (by decide)

/-- With one port, moved: the promise is kept. -/
theorem set_call_home_port_iff_alone :
    let gateway : GatewayServicer :=
      { callHomeBindHost := "0.0.0.0"
        callHomePool := some
          { bindHost := "0.0.0.0", bindPort := 2010, listeners := [⟨0, 2010⟩] }
        sockets := ⟨[0], 1⟩ }
    canListen grantingOs 2020 gateway = true ∧
      OnlyThePort 2020 gateway (setCallHomePort grantingOs 2020 gateway) := by
  intro gateway
  have running : Running gateway :=
    ⟨List.Perm.refl [0], by decide, by decide, by
      rintro _ ⟨⟩
      exact ⟨_, [], rfl, rfl, rfl⟩⟩
  refine ⟨by decide, (set_call_home_port_iff running).mpr fun _ => ?_⟩
  rintro _ ⟨⟩
  exact ⟨rfl, rfl⟩

end Districts

end RiseSun.Gateway
