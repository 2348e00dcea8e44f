/-
  The handlers of the Gateway on a meter that fails at times.

  1. **The world of the handlers** (`Site`) — the meter, the connections it has accepted, how many of
     them are closed again, and how long the Gateway has slept.

  2. **One try** — over a connection of its own it ends as on the abstract meter, or is lost after
     the meter has obeyed.

  3. **All tries** (`retried_run`) — how many connections a command takes and what it leaves.  A
     command that is done twice leaves what it leaves when it is done once (`perform_again`), so the
     tries before the last one do no harm.

  4. **Calls** (`calls_survive`, `doDisconnect_switches`) — the handlers themselves, in any order.
-/
import Mathlib.Tactic.Ring
import RiseSun.Gateway.MeterRuns
import RiseSun.Gateway.StagedFailures

namespace RiseSun.Gateway

open Proc Server PyText

/-! ## The world of the handlers -/

/-- A meter and what the Gateway has done to reach it. -/
structure Site where
  objects : MeterObjects
  connections : Nat
  closed : Nat
  slept : ℚ

/-- The emulator behind TCP: it accepts every connection and counts them. -/
def Emulator.network (E : Emulator) : Network Site (Line Session) where
  socket := E.meterSocket
  connect := fun timeout w =>
    (some { server := ⟨.snrm, w.objects, w.connections + 1⟩, timeout := timeout },
      { w with connections := w.connections + 1 })
  close := fun l w => { w with objects := l.server.objects, closed := w.closed + 1 }
  sleep := fun delay w => { w with slept := w.slept + delay }

/-- A number of tries, and the time slept between them. -/
structure Spent (w w' : Site) (tries : Nat) (pauses : ℚ) : Prop where
  connections : w'.connections = w.connections + tries
  closed : w'.closed = w.closed + tries
  slept : w'.slept = w.slept + pauses

/-- The connections and pauses of two stretches of time add up. -/
theorem Spent.trans {w₁ w₂ w₃ : Site} {n n' : Nat} {p p' : ℚ} (h : Spent w₁ w₂ n p)
    (h' : Spent w₂ w₃ n' p') : Spent w₁ w₃ (n + n') (p + p') where
  connections := by rw [h'.connections, h.connections, Nat.add_assoc]
  closed := by rw [h'.closed, h.closed, Nat.add_assoc]
  slept := by rw [h'.slept, h.slept, add_assoc]

/-- How often a request is tried: a negative count is no try at all. -/
def MeterRequest.tries (r : MeterRequest) : Nat := r.maxRetries.toNat

/-- There is always one try, unless the count is negative. -/
theorem MeterRequest.tries_pos {r : MeterRequest} : 0 < r.tries ↔ 0 ≤ r.retries := by
  unfold tries maxRetries defaultRetries
  split <;> omega

/-- Where there is a try, the loop of `run_with_retries` runs. -/
theorem runWithRetries_tries {ω α : Type} (sleep : ℚ → ω → ω) (operation : Proc PyExc ω α)
    {r : MeterRequest} (htried : 0 ≤ r.retries) :
    runWithRetries sleep operation r.maxRetries =
      Retry.retry PyExc.isRetryable (fun k => sleep (retryDelay k)) operation (r.tries - 1) 0 := by
  have hpos := MeterRequest.tries_pos.mpr htried
  unfold MeterRequest.tries at hpos
  exact if_neg (by omega)

/-- With a negative count no connection is opened, and the assertion behind the loop fails. -/
theorem runWithRetries_untried {ω α : Type} (sleep : ℚ → ω → ω) (operation : Proc PyExc ω α)
    {r : MeterRequest} (huntried : r.retries < 0) (w : ω) :
    runWithRetries sleep operation r.maxRetries w = (.error .assertionError, w) := by
  have hnone : r.maxRetries < 1 := by
    unfold MeterRequest.maxRetries
    rw [if_neg (by omega)]
    omega
  unfold runWithRetries
  rw [if_pos hnone]
  rfl

/-- A command with the password, tried again as `run_with_retries` does. -/
def retried {ω σ : Type} (N : Network ω σ) (r : MeterRequest) (password : Bytes) (c : Command) :
    Proc PyExc ω Answer :=
  runWithRetries N.sleep (withTransport N r.config (c.run N.socket r.serial password)) r.maxRetries

/-! ## One try -/

/-- How many more connections fail on a command. -/
def Emulator.failures (E : Emulator) (password : Bytes) (c : Command) (connections : Nat) : Nat :=
  if (E.errorInjection.forceCrcError = true ∨ E.errorInjection.forcePartialDisconnect = true) ∧
      E.accepts password = true ∧ c.request.isOk = true then
    E.errorInjection.failAttempts - connections
  else 0

section Tries

variable {E : Emulator} {password : Bytes} {c : Command}

/-- Each connection uses up one of the failures that are still staged. -/
theorem failures_succ (E : Emulator) (password : Bytes) (c : Command) (connections : Nat) :
    E.failures password c (connections + 1) = E.failures password c connections - 1 := by
  unfold Emulator.failures
  split <;> omega

/-- A failure can only be left if one is staged, the password is right and the command can be
    encoded. -/
theorem failures_staged {connections : Nat} (h : 0 < E.failures password c connections) :
    E.Staged (connections + 1) ∧ E.accepts password = true ∧ c.request.isOk = true := by
  unfold Emulator.failures at h
  split at h
  · rename_i hforced
    exact ⟨⟨hforced.1, by omega⟩, hforced.2⟩
  · exact absurd h (Nat.lt_irrefl 0)

/-- Once no failure is left, the next connection is calm. -/
theorem failures_calm {connections : Nat} (h : E.failures password c connections = 0)
    (haccepts : E.accepts password = true) (hrequest : c.request.isOk = true) :
    E.Calm (connections + 1) := by
  intro hforced
  rw [Emulator.failures, if_pos ⟨hforced, haccepts, hrequest⟩] at h
  omega

/-- A try is its command on a new connection, which is closed behind it. -/
theorem withTransport_run {α : Type} (operation : Proc PyExc (Line Session) α)
    (config : TransportConfig) {w : Site} (I : Except PyExc α → MeterObjects → Prop)
    (h : ∀ l, Talk ⟨.snrm, w.objects, w.connections + 1⟩ l [] →
      ∃ r l', operation l = (r, l') ∧ I r l'.server.objects) :
    ∃ r w', withTransport E.network config operation w = (r, w') ∧ Spent w w' 1 0 ∧
      I r w'.objects := by
  obtain ⟨r, l', hrun, hI⟩ := h
    { server := ⟨.snrm, w.objects, w.connections + 1⟩, timeout := config.timeoutMs / 1000 }
    ⟨rfl, rfl, rfl⟩
  have hleft : withTransport E.network config operation w =
      ((operation { server := ⟨.snrm, w.objects, w.connections + 1⟩
                    timeout := config.timeoutMs / 1000 }).1,
        { w with
          objects := (operation { server := ⟨.snrm, w.objects, w.connections + 1⟩
                                  timeout := config.timeoutMs / 1000 }).2.server.objects
          connections := w.connections + 1
          closed := w.closed + 1 }) := rfl
  rw [hleft, hrun]
  exact ⟨r, _, rfl, ⟨rfl, rfl, (add_zero _).symm⟩, hI⟩

variable {r : MeterRequest} {server : Int} {aarq : Bytes}

/-- A try on a meter that fails: the meter obeys, and the client does not hear of it. -/
theorem try_lost (hE : E.Proper) (haddr : serverAddress r.serial = .ok server)
    (haarq : buildAarq password userInformationInitiate = .ok aarq) (hfits : c.Fits) {w : Site}
    {m : Memory} (hm : Represents m w.objects) (hfails : 0 < E.failures password c w.connections) :
    ∃ e w', withTransport E.network r.config (c.run E.network.socket r.serial password) w =
        (.error e, w') ∧ e.isRetryable = true ∧ Spent w w' 1 0 ∧
      Represents (E.perform password c m).2 w'.objects := by
  obtain ⟨hstaged, haccepts, hrequest⟩ := failures_staged hfails
  obtain ⟨_, w', hrun, hspent, ⟨e, rfl, hretry⟩, hleft⟩ :=
    withTransport_run (E := E) (w := w) (c.run E.network.socket r.serial password) r.config
      (fun out objects => (∃ e : PyExc, out = .error e ∧ e.isRetryable = true) ∧
        Represents (E.perform password c m).2 objects)
      fun l hl =>
        let ⟨e, l', hrun, hretry, hleft⟩ :=
          command_lost hE hstaged haddr haarq haccepts hm hfits hrequest hl
        ⟨.error e, l', hrun, ⟨e, rfl, hretry⟩, hleft⟩
  exact ⟨e, w', hrun, hretry, hspent, hleft⟩

/-- A try on a meter that does not fail ends as on the abstract meter. -/
theorem try_agrees (hE : E.Proper) (haddr : serverAddress r.serial = .ok server)
    (haarq : buildAarq password userInformationInitiate = .ok aarq) (hfits : c.Fits) {w : Site}
    {m : Memory} (hm : Represents m w.objects) (hcalm : E.failures password c w.connections = 0) :
    ∃ w', withTransport E.network r.config (c.run E.network.socket r.serial password) w =
        ((E.perform password c m).1, w') ∧ Spent w w' 1 0 ∧
      Represents (E.perform password c m).2 w'.objects := by
  obtain ⟨_, w', hrun, hspent, rfl, hleft⟩ :=
    withTransport_run (E := E) (w := w) (c.run E.network.socket r.serial password) r.config
      (fun out objects => out = (E.perform password c m).1 ∧
        Represents (E.perform password c m).2 objects)
      fun l hl =>
        let ⟨out, m', l', hperform, hrun, hleft⟩ :=
          command_agrees hE haddr haarq hm hfits (failures_calm hcalm) hl
        ⟨out, l', hrun, by rw [hperform], by rw [hperform]; exact hleft⟩
  exact ⟨w', hrun, hspent, hleft⟩

/-! ## All tries -/

/-- A command done again does what it did. -/
theorem perform_again (E : Emulator) (password : Bytes) (c : Command) (m : Memory) :
    E.perform password c (E.perform password c m).2 = E.perform password c m := by
  cases hencoded : c.encoded with
  | error e => rw [perform_unencoded password hencoded, perform_unencoded password hencoded]
  | ok u =>
    rw [perform_run password hencoded, perform_run password hencoded]
    by_cases haccepts : E.accepts password = true
    swap
    · rw [if_neg haccepts, if_neg haccepts]
    rw [if_pos haccepts, if_pos haccepts]
    cases c with
    | read obis classId => rw [Emulator.obey, readOut_memory]
    | write obis value classId =>
      rw [Emulator.obey]
      unfold Emulator.store
      cases parseObis obis with
      | error e => rfl
      | ok target =>
        rw [lift_ok_bind_run, lift_ok_bind_run]
        cases toBytes 2 classId with
        | error e => rfl
        | ok cls =>
          show (_, (⟨Function.update (Function.update m.data target _) target _, m.actions⟩ : Memory)) =
            _
          rw [Function.update_idem]
          rfl
    | act obis methodId classId parameters =>
      rw [Emulator.obey]
      unfold Emulator.execute
      cases parseObis obis with
      | error e => rfl
      | ok target =>
        rw [lift_ok_bind_run, lift_ok_bind_run]
        cases toBytes 2 classId with
        | error e => rfl
        | ok cls =>
          have htwice : ∀ m : Memory, (⟨m.data, Function.update (Function.update m.actions target
              (some (methodId, parameters))) target (some (methodId, parameters))⟩ : Memory) =
              ⟨m.data, Function.update m.actions target (some (methodId, parameters))⟩ := by
            intro m
            rw [Function.update_idem]
          rw [lift_ok_bind_run, lift_ok_bind_run, modify_bind_run, modify_bind_run]
          split <;> exact Prod.ext rfl (htwice m)

/-- A number that does not fit stays one. -/
theorem toBytes_final {w : Nat} {n : Int} {e : PyExc} (h : toBytes w n = .error e) :
    e.isRetryable = false := by
  unfold toBytes at h
  split at h <;> cases h
  rfl

/-- What the abstract meter raises is never worth another try. -/
theorem perform_final (E : Emulator) (password : Bytes) {c : Command}
    (hencoded : c.encoded = .ok ()) (m : Memory) :
    Retry.Final PyExc.isRetryable (E.perform password c m).1 := by
  rw [perform_run password hencoded]
  split
  swap
  · rfl
  cases c with
  | read obis classId =>
    rw [Emulator.obey]
    unfold Emulator.readOut
    rcases parseObis_cases obis with ⟨target, htarget, hlength⟩ | ⟨message, hbad⟩
    swap
    · rw [hbad]
      rfl
    rw [htarget, lift_ok_bind_run]
    rcases valueTarget_cases obis hlength with ⟨vt, hvt, hvlength⟩ | ⟨message, hbad⟩
    swap
    · rw [hbad]
      rfl
    rw [hvt, lift_ok_bind_run]
    split
    · cases E.obisValues.get vt <;> first | rfl | trivial
    · rcases hcls : toBytes 2 classId with e | cls
      · rw [lift_error_bind_run]
        exact toBytes_final hcls
      · rw [lift_ok_bind_run, gets_bind_run]
        cases m.data vt <;> first | rfl | trivial
  | write obis value classId =>
    rw [Emulator.obey]
    unfold Emulator.store
    rcases parseObis_cases obis with ⟨target, htarget, hlength⟩ | ⟨message, hbad⟩
    swap
    · rw [hbad]
      rfl
    rw [htarget, lift_ok_bind_run]
    rcases hcls : toBytes 2 classId with e | cls
    · exact toBytes_final hcls
    · trivial
  | act obis methodId classId parameters =>
    rw [Emulator.obey]
    unfold Emulator.execute
    rcases parseObis_cases obis with ⟨target, htarget, hlength⟩ | ⟨message, hbad⟩
    swap
    · rw [hbad]
      rfl
    rw [htarget, lift_ok_bind_run]
    rcases hcls : toBytes 2 classId with e | cls
    · exact toBytes_final hcls
    · rw [lift_ok_bind_run, modify_bind_run]
      split
      · trivial
      · rfl

/-- The time slept in front of `n` more tries. -/
def pauses (first n : Nat) : ℚ := retryDelay first * (2 ^ n - 1)

/-- The first pause comes before the others, which start one step further on. -/
theorem pauses_succ (first n : Nat) :
    pauses first (n + 1) = retryDelay first + pauses (first + 1) n := by
  unfold pauses retryDelay
  ring

/-- Tries that the meter fails leave a command as it was, but done. -/
theorem lost_trail (hE : E.Proper) (haddr : serverAddress r.serial = .ok server)
    (haarq : buildAarq password userInformationInitiate = .ok aarq) (hfits : c.Fits) :
    ∀ (n first : Nat) {w : Site} {m : Memory}, Represents m w.objects →
      n ≤ E.failures password c w.connections →
      ∃ w' m', Retry.Trail PyExc.isRetryable (fun k => E.network.sleep (retryDelay k))
          (withTransport E.network r.config (c.run E.network.socket r.serial password)) first n w w' ∧
        Spent w w' n (pauses first n) ∧ Represents m' w'.objects ∧
        E.perform password c m' = E.perform password c m := by
  intro n
  induction n with
  | zero =>
    intro first w m hm _
    exact ⟨w, m, .nil, ⟨rfl, rfl, by unfold pauses; ring⟩, hm, rfl⟩
  | succ n ih =>
    intro first w m hm hle
    obtain ⟨e, w₁, hlost, hretry, hspent, hleft⟩ := try_lost hE haddr haarq hfits hm (by omega)
    have hpaused : Spent w₁ (E.network.sleep (retryDelay first) w₁) 0 (retryDelay first) :=
      ⟨rfl, rfl, rfl⟩
    have hfirst := hspent.trans hpaused
    obtain ⟨w', m', htrail, hrest, hm', hsame⟩ :=
      ih (first + 1) (w := E.network.sleep (retryDelay first) w₁) hleft
        (by rw [hfirst.connections, failures_succ]; omega)
    refine ⟨w', m', .cons hlost hretry htrail, ?_, hm', hsame.trans (perform_again E password c m)⟩
    have hall := hfirst.trans hrest
    rw [pauses_succ]
    rw [zero_add, show 1 + 0 + n = n + 1 by omega] at hall
    exact hall

/-- **All tries.**  Each try takes a connection and closes it, the staged failures cost one try
    each, and the memory is that of the command performed once. -/
theorem retried_run (hE : E.Proper) (haddr : serverAddress r.serial = .ok server)
    (haarq : buildAarq password userInformationInitiate = .ok aarq) (hfits : c.Fits)
    (hencoded : c.encoded = .ok ()) (htried : 0 ≤ r.retries) {w : Site} {m : Memory}
    (hm : Represents m w.objects) :
    ∃ out w', retried E.network r password c w = (out, w') ∧
      Spent w w' (min (r.tries - 1) (E.failures password c w.connections) + 1)
        (pauses 0 (min (r.tries - 1) (E.failures password c w.connections))) ∧
      Represents (E.perform password c m).2 w'.objects ∧
      (E.failures password c w.connections ≤ r.tries - 1 → out = (E.perform password c m).1) ∧
      (r.tries - 1 < E.failures password c w.connections →
        ∃ e, out = .error e ∧ e.isRetryable = true) := by
  generalize hn : min (r.tries - 1) (E.failures password c w.connections) = n
  obtain ⟨w₁, m₁, htrail, hspent, hm₁, hsame⟩ :=
    lost_trail (r := r) hE haddr haarq hfits n 0 hm (by omega)
  have hrun : retried E.network r password c w =
      Retry.retry PyExc.isRetryable (fun k => E.network.sleep (retryDelay k))
        (withTransport E.network r.config (c.run E.network.socket r.serial password))
        (r.tries - 1 - n) (0 + n) w₁ := by
    rw [← Retry.retry_of_trail htrail, show n + (r.tries - 1 - n) = r.tries - 1 by omega]
    exact congrFun (runWithRetries_tries _ _ htried) w
  have hleft : E.failures password c w₁.connections = E.failures password c w.connections - n := by
    rw [hspent.connections]
    unfold Emulator.failures
    split <;> omega
  rcases Nat.lt_or_ge (r.tries - 1) (E.failures password c w.connections) with hmany | hfew
  · obtain ⟨e, w', hlost, hretry, hlast, hm'⟩ := try_lost (r := r) hE haddr haarq hfits hm₁
      (by omega)
    rw [hrun, show r.tries - 1 - n = 0 by omega]
    refine ⟨.error e, w', hlost, ?_, hsame ▸ hm', fun h => absurd h (by omega),
      fun _ => ⟨e, rfl, hretry⟩⟩
    have hall := hspent.trans hlast
    rwa [add_zero] at hall
  · obtain ⟨w', hagrees, hlast, hm'⟩ := try_agrees (r := r) hE haddr haarq hfits hm₁ (by omega)
    have hfinal := perform_final E password hencoded m₁
    rw [hrun, Retry.retry_final (by rw [hagrees]; exact hfinal), hagrees, hsame]
    refine ⟨_, w', rfl, ?_, hsame ▸ hm', fun _ => rfl, fun h => absurd h (by omega)⟩
    have hall := hspent.trans hlast
    rwa [add_zero] at hall

end Tries

/-! ## Calls -/

/-- What a caller of the Gateway asks for. -/
inductive Ask
  | read (obis : String) (classId : Int)
  | write (obis : String) (classId : Int) (valueType : String) (valueBytes : Bytes)
  | disconnect (operation : String)

/-- The value behind `value_bytes`. -/
def writtenValue (valueType : String) (valueBytes : Bytes) : Except PyExc Tree :=
  if valueType = "octet_string" then .ok (.octetString valueBytes)
  else if valueType = "unsigned" then (byteAt valueBytes 0).map fun first => .unsigned first.toNat
  else .error (.plain [.text "Неподдержанный тип значения для записи: ", .quoted valueType])

/-- The command that is meant. -/
def Ask.command : Ask → Except PyExc Command
  | .read obis classId => .ok (.read obis (effectiveClassId classId))
  | .write obis classId valueType valueBytes =>
    (writtenValue valueType valueBytes).map fun value => .write obis value (effectiveClassId classId)
  | .disconnect operation =>
    match disconnectMethodId operation with
    | none => .error (.plain [.text "Неизвестная операция отключения: ", .quoted operation])
    | some methodId => .ok (.act disconnectControlObis methodId disconnectControlClassId
        (some disconnectActionParameters))

/-- A call with all its fields. -/
structure Call where
  request : MeterRequest
  ask : Ask

/-- A result of `_do_read` without the traces of its encoding; `shown` is for numbers of mode C. -/
def ReadResult.answer {F : Type} (shown : F → Answer) : ReadResult F → Answer
  | .register value => value.answer
  | .number value => shown value

/-- The handler of a call. -/
def Call.handle {ω σ F : Type} (N : Network ω σ) (fmt : FloatFormat F) (shown : F → Answer)
    (call : Call) : Proc PyExc ω Answer :=
  match call.ask with
  | .read obis classId => do
    let value ← doRead N fmt call.request obis classId
    pure (value.answer shown)
  | .write obis classId valueType valueBytes => do
    doWrite N call.request false obis classId valueType valueBytes
    pure .done
  | .disconnect operation => do
    doDisconnect N call.request false operation
    pure .done

/-- What the abstract meter does on a call. -/
def Call.perform (E : Emulator) (call : Call) : Proc PyExc Memory Answer := do
  let password ← lift (asciiEncode call.request.password)
  let c ← lift call.ask.command
  E.perform password c

section Handlers

variable {ω σ F : Type} (N : Network ω σ) (fmt : FloatFormat F) (shown : F → Answer)

/-- The encoders of `_VALUE_ENCODERS` are those of the values. -/
theorem encodeForWrite_eq (valueType : String) (valueBytes : Bytes) :
    encodeForWrite valueType valueBytes = writtenValue valueType valueBytes >>= Tree.encode := by
  unfold encodeForWrite writtenValue
  split
  · rfl
  · split
    · cases byteAt valueBytes 0 with
      | error e => rfl
      | ok first => rfl
    · rfl

/-- A connected try, from the run of its operation. -/
theorem withTransport_connected {α : Type} {config : TransportConfig} {operation : Proc PyExc σ α}
    {w w' : ω} {s s' : σ} {out : Except PyExc α}
    (hconnect : N.connect (config.timeoutMs / 1000) w = (some s, w'))
    (hrun : operation (N.socket.settimeout (config.timeoutMs / 1000) s) = (out, s')) :
    withTransport N config operation w = (out, N.close s' w') := by
  unfold withTransport
  rw [hconnect]
  dsimp only
  rw [hrun]

/-- A connection that is refused ends the operation before it has begun. -/
theorem withTransport_refused {α : Type} {config : TransportConfig} {operation : Proc PyExc σ α}
    {w w' : ω} (hconnect : N.connect (config.timeoutMs / 1000) w = (none, w')) :
    withTransport N config operation w = (.error (connectFailed config), w') := by
  unfold withTransport
  rw [hconnect]

/-- What is done with a result can be done on the connection. -/
theorem withTransport_map {α β : Type} (config : TransportConfig) (operation : Proc PyExc σ α)
    (f : α → β) : withTransport N config (operation >>= fun a => pure (f a)) =
      (withTransport N config operation >>= fun a => pure (f a)) := by
  funext w
  rcases hconnect : N.connect (config.timeoutMs / 1000) w with ⟨_ | s, w'⟩
  · rw [withTransport_refused N hconnect]
    exact (bind_error (withTransport_refused N hconnect)).symm
  · rcases hrun : operation (N.socket.settimeout (config.timeoutMs / 1000) s) with ⟨e | a, s'⟩
    · rw [withTransport_connected N hconnect (bind_error hrun)]
      exact (bind_error (withTransport_connected N hconnect hrun)).symm
    · have hmapped : (operation >>= fun a => pure (f a)) _ = (.ok (f a), s') := bind_ok hrun
      rw [withTransport_connected N hconnect hmapped]
      exact (bind_ok (f := fun a => pure (f a)) (withTransport_connected N hconnect hrun)).symm

/-- What is done with the result of an operation can be done after all its tries as well. -/
theorem runWithRetries_map {α β : Type} (r : MeterRequest) (operation : Proc PyExc σ α) (f : α → β)
    (w : ω) :
    runWithRetries N.sleep (withTransport N r.config (operation >>= fun a => pure (f a)))
        r.maxRetries w =
      (runWithRetries N.sleep (withTransport N r.config operation) r.maxRetries >>=
        fun a => pure (f a)) w := by
  rw [withTransport_map]
  unfold runWithRetries
  split
  · rfl
  · exact Retry.retry_map f _ _ w

section Profile

variable {N} {r : MeterRequest} {password : Bytes} (hprofile : r.profile = "hdlc_dlms")
  (hpassword : asciiEncode r.password = .ok password)

include hprofile hpassword

/-- A read of the driver is the retried command to read. -/
theorem doRead_retried (obis : String) (classId : Int) (w : ω) :
    (doRead N fmt r obis classId >>= fun value => pure (value.answer shown)) w =
      retried N r password (.read obis (effectiveClassId classId)) w := by
  have hread : doRead N fmt r obis classId w =
      runWithRetries N.sleep (withTransport N r.config
        (readRegister N.socket r.serial password obis (effectiveClassId classId) >>=
          fun value => pure (.register value))) r.maxRetries w := by
    unfold doRead
    rw [hpassword, lift_ok_bind_run, if_neg (by rw [hprofile]; decide),
      if_neg (by rw [hprofile]; decide), if_pos hprofile]
  rw [bind_same_run hread, ← runWithRetries_map]
  unfold retried
  congr 2
  funext s
  exact bind_assoc_run _ _ _ s

/-- A write of the driver encodes its value and is then the retried command to write. -/
theorem doWrite_retried (obis : String) (classId : Int) (valueType : String) {valueBytes : Bytes}
    {value : Tree} (hvalue : writtenValue valueType valueBytes = .ok value) (w : ω) :
    (doWrite N r false obis classId valueType valueBytes >>= fun _ => pure Answer.done) w =
      (do
        lift (Command.write obis value (effectiveClassId classId)).encoded
        retried N r password (.write obis value (effectiveClassId classId))) w := by
  unfold doWrite
  rw [hpassword, bind_assoc_run, lift_ok_bind_run, encodeForWrite_eq, hvalue, Result.ok_bind,
    bind_assoc_run, Command.encoded]
  cases hencoded : value.encode with
  | error e => rfl
  | ok encoded =>
    rw [lift_ok_bind_run, if_neg Bool.false_ne_true, if_pos hprofile, ← runWithRetries_map]
    unfold retried
    rw [Command.run, hencoded]
    rfl

/-- A disconnection or reconnection of the driver is the retried action with its method. -/
theorem doDisconnect_retried {operation : String} {methodId : UInt8}
    (hmethod : disconnectMethodId operation = some methodId) (w : ω) :
    (doDisconnect N r false operation >>= fun _ => pure Answer.done) w =
      retried N r password (.act disconnectControlObis methodId disconnectControlClassId
        (some disconnectActionParameters)) w := by
  unfold doDisconnect
  rw [hpassword, bind_assoc_run, lift_ok_bind_run, hmethod]
  dsimp only
  rw [if_neg Bool.false_ne_true, if_neg (not_not_intro hprofile), ← runWithRetries_map]
  rfl

end Profile

/-- **A call is its command.**  On the profile of the emulator each handler encodes first, and then
    tries the command. -/
theorem handle_retried {call : Call} (hprofile : call.request.profile = "hdlc_dlms") (w : ω) :
    call.handle N fmt shown w = (do
      let password ← lift (asciiEncode call.request.password)
      let c ← lift call.ask.command
      lift c.encoded
      retried N call.request password c) w := by
  obtain ⟨r, ask⟩ := call
  have hprofile : r.profile = "hdlc_dlms" := hprofile
  unfold Call.handle
  cases hpassword : asciiEncode r.password with
  | error e =>
    rw [lift_error_bind_run]
    cases ask with
    | read =>
      exact bind_error (by unfold doRead; rw [hpassword, lift_error_bind_run])
    | write =>
      exact bind_error (by unfold doWrite; rw [hpassword, lift_error_bind_run])
    | disconnect =>
      exact bind_error (by unfold doDisconnect; rw [hpassword, lift_error_bind_run])
  | ok password =>
    rw [lift_ok_bind_run]
    cases ask with
    | read obis classId => exact doRead_retried fmt shown hprofile hpassword obis classId w
    | write obis classId valueType valueBytes =>
      rw [Ask.command]
      cases hvalue : writtenValue valueType valueBytes with
      | error e =>
        dsimp only
        unfold doWrite
        rw [hpassword, bind_assoc_run, lift_ok_bind_run, encodeForWrite_eq, hvalue]
        rfl
      | ok value =>
        exact doWrite_retried hprofile hpassword obis classId valueType hvalue w
    | disconnect operation =>
      rw [Ask.command]
      cases hmethod : disconnectMethodId operation with
      | none =>
        dsimp only
        unfold doDisconnect
        rw [hpassword, bind_assoc_run, lift_ok_bind_run, hmethod]
        rfl
      | some methodId => exact doDisconnect_retried hprofile hpassword hmethod w

/-- A request with a negative count opens no connection: it fails, and nothing has happened. -/
theorem handle_untried {call : Call} (hprofile : call.request.profile = "hdlc_dlms")
    (huntried : call.request.retries < 0) (w : ω) :
    ∃ e, call.handle N fmt shown w = (.error e, w) := by
  rw [handle_retried N fmt shown hprofile]
  cases asciiEncode call.request.password with
  | error e => exact ⟨e, rfl⟩
  | ok password =>
  cases call.ask.command with
  | error e => exact ⟨e, rfl⟩
  | ok c =>
  rw [lift_ok_bind_run, lift_ok_bind_run]
  cases c.encoded with
  | error e => exact ⟨e, rfl⟩
  | ok u => exact ⟨_, runWithRetries_untried _ _ huntried w⟩

end Handlers

section Calls

variable {E : Emulator} {F : Type} {fmt : FloatFormat F} {shown : F → Answer}

/-- The call names a meter of this profile, its bytes fit, and its count of tries is not negative. -/
structure Call.Valid (call : Call) : Prop where
  profile : call.request.profile = "hdlc_dlms"
  address : ∃ server, serverAddress call.request.serial = .ok server
  aarq : ∀ password, asciiEncode call.request.password = .ok password →
    ∃ aarq, buildAarq password userInformationInitiate = .ok aarq
  fits : ∀ c, call.ask.command = .ok c → c.Fits
  tried : 0 ≤ call.request.retries

/-- The meter has the memory, and no connection is left open. -/
def Held (m : Memory) (w : Site) : Prop := Represents m w.objects ∧ w.closed = w.connections

/-- No more failures are left than were staged. -/
theorem failures_le (E : Emulator) (password : Bytes) (c : Command) (connections : Nat) :
    E.failures password c connections ≤ E.errorInjection.failAttempts := by
  unfold Emulator.failures
  split <;> omega

/-- One call: the meter does what it does on the abstract side; its caller hears of it, or that the
    connection has failed too often. -/
theorem handle_run (hE : E.Proper) {call : Call} (hv : call.Valid) {m : Memory} {w : Site}
    (hm : Held m w) :
    ∃ out w', call.handle E.network fmt shown w = (out, w') ∧ Held (call.perform E m).2 w' ∧
      (out = (call.perform E m).1 ∨ (∃ e, out = .error e ∧ e.isRetryable = true) ∧
        call.request.tries ≤ E.errorInjection.failAttempts) := by
  rw [handle_retried E.network fmt shown hv.profile]
  unfold Call.perform
  cases hpassword : asciiEncode call.request.password with
  | error e => exact ⟨.error e, w, rfl, hm, .inl rfl⟩
  | ok password =>
    rw [lift_ok_bind_run, lift_ok_bind_run]
    cases hcommand : call.ask.command with
    | error e => exact ⟨.error e, w, rfl, hm, .inl rfl⟩
    | ok c =>
      rw [lift_ok_bind_run, lift_ok_bind_run]
      cases hencoded : c.encoded with
      | error e =>
        rw [perform_unencoded password hencoded]
        exact ⟨.error e, w, rfl, hm, .inl rfl⟩
      | ok u =>
        obtain ⟨server, haddr⟩ := hv.address
        obtain ⟨aarq, haarq⟩ := hv.aarq password hpassword
        obtain ⟨out, w', hrun, hspent, hleft, hfew, hmany⟩ :=
          retried_run hE haddr haarq (hv.fits c hcommand) hencoded hv.tried hm.1
        refine ⟨out, w', hrun, ⟨hleft, by rw [hspent.closed, hspent.connections, hm.2]⟩, ?_⟩
        rcases Nat.lt_or_ge (call.request.tries - 1) (E.failures password c w.connections)
          with h | h
        · refine .inr ⟨hmany h, ?_⟩
          have hle := failures_le E password c w.connections
          omega
        · exact .inl (hfew h)

/-- **Calls.**  Reads, writes and relay commands in any order, on a meter that fails at times, each
    tried as often as its request says: the meter has the memory that it has when nothing fails, and
    no connection is left open.  A caller has the answer of the abstract meter, or the failure of his
    last try; where the tries outnumber the failures, everyone has his answer. -/
theorem calls_survive (hE : E.Proper) {calls : List Call} (hv : ∀ call ∈ calls, call.Valid)
    {m : Memory} {w : Site} (hm : Represents m w.objects) (hclosed : w.closed = w.connections) :
    let wanted := runEach (calls.map (Call.perform E)) m
    let got := runEach (calls.map (Call.handle E.network fmt shown)) w
    Represents wanted.2 got.2.objects ∧ got.2.closed = got.2.connections ∧
      List.Forall₂ (fun want out => out = want ∨ ∃ e, out = .error e ∧ e.isRetryable = true)
        wanted.1 got.1 ∧
      ((∀ call ∈ calls, E.errorInjection.failAttempts < call.request.tries) →
        got.1 = wanted.1) := by
  have hrelates : ∀ {O : Except PyExc Answer → Except PyExc Answer → Prop},
      (∀ call ∈ calls, ∀ want out, (out = want ∨ (∃ e, out = .error e ∧ e.isRetryable = true) ∧
        call.request.tries ≤ E.errorInjection.failAttempts) → O want out) →
      List.Forall₂ (Relates O Held) (calls.map (Call.perform E))
        (calls.map (Call.handle E.network fmt shown)) := by
    intro O hO
    induction calls with
    | nil => exact .nil
    | cons call calls ih =>
      refine .cons (Relates.of_runs fun m w hm => ?_)
        (ih (fun call h => hv call (List.mem_cons_of_mem _ h))
          fun call h => hO call (List.mem_cons_of_mem _ h))
      obtain ⟨out, w', hrun, hheld, hout⟩ := handle_run hE (hv call (List.mem_cons_self ..)) hm
      exact ⟨_, out, _, w', rfl, hrun, hO call (List.mem_cons_self ..) _ _ hout, hheld⟩
  obtain ⟨houts, hrep, hopen⟩ := runEach_relates
    (hrelates fun call _ want out h => h.imp_right And.left) ⟨hm, hclosed⟩
  refine ⟨hrep, hopen, houts, fun hoften => ?_⟩
  obtain ⟨hsame, -⟩ := runEach_relates (O := Eq)
    (hrelates fun call hcall want out h => by
      rcases h with rfl | ⟨-, hle⟩
      · rfl
      · exact absurd (hoften call hcall) (Nat.not_lt.mpr hle)) ⟨hm, hclosed⟩
  rw [List.forall₂_eq_eq_eq] at hsame
  exact hsame.symm

/-- The meter of the three clients, with two connections that fail. -/
def failingMeter : Emulator :=
  { energyMeter with errorInjection := { forceCrcError := true, failAttempts := 2 } }

/-- The failing meter of the example is a proper one. -/
theorem failingMeter_proper : failingMeter.Proper :=
  ⟨energyMeter_proper.values, energyMeter_proper.scalers, energyMeter_proper.units⟩

/-- A request with the password, and the defaults for the rest. -/
def defaultRequest : MeterRequest := ⟨"10.0.0.1", 4059, "202310012345", "00000000", "hdlc_dlms", 0, 0⟩

/-- The default password of a request is eight ASCII zeros. -/
theorem defaultRequest_password :
    asciiEncode defaultRequest.password = .ok (List.replicate 8 0x30) := by
  decide

/-- The AARQ for the default password can be built. -/
theorem defaultRequest_aarq :
    (buildAarq (List.replicate 8 0x30) userInformationInitiate).isOk = true := by decide

/-- The supply is cut off, and the energy read. -/
def twoCalls : List Call :=
  [⟨defaultRequest, .disconnect "disconnect"⟩, ⟨defaultRequest, .read "1.1.1.8.0.ff" 0⟩]

/-- Both calls of the example are valid for the failing meter. -/
theorem twoCalls_valid : ∀ call ∈ twoCalls, call.Valid := by
  have haarq : ∀ password, asciiEncode defaultRequest.password = .ok password →
      ∃ aarq, buildAarq password userInformationInitiate = .ok aarq := by
    intro password h
    rw [defaultRequest_password] at h
    cases h
    exact eight_fits defaultRequest_aarq
  intro call hcall
  simp only [twoCalls, List.mem_cons, List.not_mem_nil, or_false] at hcall
  rcases hcall with rfl | rfl
  · refine ⟨rfl, ⟨_, threeVisits_address⟩, haarq, fun c h => ?_, by decide⟩
    cases (Except.ok.inj (show Except.ok (ε := PyExc) (Command.act _ _ _ _) = .ok c from h))
    exact ⟨by decide, by decide⟩
  · refine ⟨rfl, ⟨_, threeVisits_address⟩, haarq, fun c h => ?_, by decide⟩
    cases Except.ok.inj h
    trivial

/-- Numbers that nobody looks at. -/
def unitFloat : FloatFormat Unit := ⟨fun _ _ _ => (), fun _ => (), ()⟩

/-- The law of the calls for the two calls of the example. -/
theorem calls_survive_two :
    let wanted := runEach (twoCalls.map (Call.perform failingMeter)) ⟨fun _ => none, fun _ => none⟩
    let got := runEach (twoCalls.map (Call.handle failingMeter.network unitFloat fun _ => .done))
      ⟨emptyObjects, 0, 0, 0⟩
    Represents wanted.2 got.2.objects ∧ got.2.closed = got.2.connections ∧
      List.Forall₂ (fun want out => out = want ∨ ∃ e, out = .error e ∧ e.isRetryable = true)
        wanted.1 got.1 ∧
      ((∀ call ∈ twoCalls, failingMeter.errorInjection.failAttempts < call.request.tries) →
        got.1 = wanted.1) :=
  calls_survive failingMeter_proper twoCalls_valid emptyObjects_represents rfl

/-- The code of the relay. -/
def relayCode : Bytes := [0, 0, 0x60, 3, 0x0A, 0xFF]

/-- A meter whose relay has got this action last. -/
def Memory.switched (m : Memory) (methodId : UInt8) : Memory where
  data := m.data
  actions := Function.update m.actions relayCode (some (methodId, some disconnectActionParameters))

/-- How many more connections fail. -/
def Emulator.failing (E : Emulator) (connections : Nat) : Nat :=
  if E.errorInjection.forceCrcError = true ∨ E.errorInjection.forcePartialDisconnect = true then
    E.errorInjection.failAttempts - connections
  else 0

/-- **A relay command** with the password is carried out whatever its caller hears: the relay has got
    the action.  It takes one connection more than fail, as far as the tries go; the pauses between
    them double. -/
theorem doDisconnect_switches (hE : E.Proper) {r : MeterRequest} {server : Int}
    {password aarq : Bytes} (hprofile : r.profile = "hdlc_dlms") (htried : 0 ≤ r.retries)
    (hpassword : asciiEncode r.password = .ok password) (haddr : serverAddress r.serial = .ok server)
    (haarq : buildAarq password userInformationInitiate = .ok aarq)
    (haccepts : E.accepts password = true) {operation : String} {methodId : UInt8}
    (hmethod : disconnectMethodId operation = some methodId) {m : Memory} {w : Site}
    (hm : Represents m w.objects) :
    let again := min (r.tries - 1) (E.failing w.connections)
    ∃ out w', doDisconnect E.network r false operation w = (out, w') ∧
      w'.connections = w.connections + (again + 1) ∧ w'.closed = w.closed + (again + 1) ∧
      w'.slept = w.slept + 1 / 2 * (2 ^ again - 1) ∧
      Represents (m.switched methodId) w'.objects ∧
      (E.failing w.connections < r.tries →
        out = if E.actionForceResult.getD actionResultSuccess = actionResultSuccess then .ok ()
          else .error (actionRefused (E.actionForceResult.getD actionResultSuccess))) ∧
      (r.tries ≤ E.failing w.connections → ∃ e, out = .error e ∧ e.isRetryable = true) := by
  intro again
  generalize hc : Command.act disconnectControlObis methodId disconnectControlClassId
    (some disconnectActionParameters) = c
  have hencoded : c.encoded = .ok () := by rw [← hc]; rfl
  have hfits : c.Fits := by rw [← hc]; exact ⟨by decide, by decide⟩
  have hfailures : E.failures password c w.connections = E.failing w.connections := by
    have hrequest : c.request.isOk = true := by
      rw [← hc, Command.request, buildActionRequest_relay]
      rfl
    unfold Emulator.failures Emulator.failing
    simp only [haccepts, hrequest, and_true]
  have hperform : E.perform password c m =
      (if E.actionForceResult.getD actionResultSuccess = actionResultSuccess then .ok .done
        else .error (actionRefused (E.actionForceResult.getD actionResultSuccess)),
        m.switched methodId) := by
    rw [perform_run password hencoded, if_pos haccepts, ← hc, Emulator.obey]
    unfold Emulator.execute
    rw [show parseObis disconnectControlObis = .ok relayCode from by decide, lift_ok_bind_run,
      show toBytes 2 disconnectControlClassId = .ok [0, 70] from by decide, lift_ok_bind_run,
      modify_bind_run]
    split <;> rfl
  have hpos := MeterRequest.tries_pos.mpr htried
  obtain ⟨out, w', hrun, hspent, hleft, hfew, hmany⟩ :=
    retried_run (r := r) hE haddr haarq hfits hencoded htried hm
  rw [hfailures] at hspent hfew hmany
  rw [hperform] at hleft hfew
  have hdone := doDisconnect_retried (N := E.network) hprofile hpassword hmethod w
  rw [hc, hrun] at hdone
  have hslept : w'.slept = w.slept + 1 / 2 * (2 ^ again - 1) := by
    rw [hspent.slept, pauses, retryDelay, pow_zero, mul_one]
  rcases hhere : doDisconnect E.network r false operation w with ⟨e | u, w₁⟩
  · rw [bind_error hhere] at hdone
    cases hdone
    refine ⟨.error e, _, rfl, hspent.connections, hspent.closed, hslept, hleft, fun h => ?_,
      fun h => ?_⟩
    · have hout := hfew (by omega)
      split at hout
      · cases hout
      · rename_i hrefused
        rw [if_neg hrefused]
        cases hout
        rfl
    · obtain ⟨e', he, hretry⟩ := hmany (by omega)
      cases he
      exact ⟨_, rfl, hretry⟩
  · rw [bind_ok hhere] at hdone
    cases hdone
    refine ⟨.ok u, _, rfl, hspent.connections, hspent.closed, hslept, hleft, fun h => ?_,
      fun h => ?_⟩
    · have hout := hfew (by omega)
      split at hout
      · rename_i hsuccess
        rw [if_pos hsuccess]
      · cases hout
    · obtain ⟨e', he, -⟩ := hmany (by omega)
      cases he

/-- The law of the disconnection for the failing meter. -/
theorem doDisconnect_switches_failing :
    let again := min (defaultRequest.tries - 1) (failingMeter.failing 0)
    ∃ out w', doDisconnect failingMeter.network defaultRequest false "disconnect"
        ⟨emptyObjects, 0, 0, 0⟩ = (out, w') ∧
      w'.connections = 0 + (again + 1) ∧ w'.closed = 0 + (again + 1) ∧
      w'.slept = 0 + 1 / 2 * (2 ^ again - 1) ∧
      Represents (Memory.switched ⟨fun _ => none, fun _ => none⟩ methodRemoteDisconnect) w'.objects ∧
      (failingMeter.failing 0 < defaultRequest.tries →
        out = if failingMeter.actionForceResult.getD actionResultSuccess = actionResultSuccess then
            .ok ()
          else .error (actionRefused (failingMeter.actionForceResult.getD actionResultSuccess))) ∧
      (defaultRequest.tries ≤ failingMeter.failing 0 →
        ∃ e, out = .error e ∧ e.isRetryable = true) := by
  obtain ⟨aarq, haarq⟩ := eight_fits defaultRequest_aarq
  exact doDisconnect_switches failingMeter_proper rfl (by decide) defaultRequest_password threeVisits_address
    haarq (by decide) rfl emptyObjects_represents

end Calls

end RiseSun.Gateway
