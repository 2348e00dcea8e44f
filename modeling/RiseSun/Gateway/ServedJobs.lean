/-
  One job of an event: what has to come from the meter and from the backend so that it is served.

  Around a job the event path catches `GatewayError`s and the socket's own errors, and around a report
  what the exchange with the backend ends with in the usual way.  Whatever else is raised leaves the
  list of jobs.

  1. **Reports** (`ReportHandled`) — the number of the job can be written, and the exchange raises
     nothing but a usual failure (`ExchangeFailure`).

  2. **The three kinds of work** — a relay command (`ControlServed`), a round of reading
     (`ReadServed`) and a load profile (`ProfileServed`).  Each returns iff what comes from the meter
     is within its condition.
-/
import RiseSun.Gateway.CallHome
import RiseSun.Gateway.FreshReadings

namespace RiseSun.Gateway

open Proc PyObject

variable {ω : Type} (E : Environment ω) (serial : String) (password : Bytes)

/-! ## Reports -/

/-- How an exchange with the backend fails in the usual way: an error of the socket, of HTTP or a
    timeout, or a `ValueError`, as text and data are that cannot be decoded. -/
def ExchangeFailure : Raised → Prop
  | .py (.socket _) | .py (.valueError _) | .py .unicodeError | .py (.dlmsData _) => True
  | _ => False

/-- These are the failures that are caught around the exchange, and no others are. -/
theorem exchangeFailure_iff {e : Raised} : ExchangeFailure e ↔ e.isRequestFailure = true := by
  cases e with
  | other name => exact ⟨False.elim, fun h => (by cases h)⟩
  | py e =>
    cases e with
    | socket | valueError | unicodeError | dlmsData => exact ⟨fun _ => rfl, fun _ => trivial⟩
    | gateway | indexError | overflowError | typeError | unboundLocalError | assertionError =>
      exact ⟨False.elim, fun h => (by cases h)⟩

/-- What a report needs: with a secret set, the number of the job can be written, and the exchange
    with the backend raises nothing but a usual failure. -/
def ReportHandled (path : String) (jobId : Int) (payload : PyObject) (s : Shared ω) : Prop :=
  E.hasInternalSecret = true → tooManyDigits jobId = false ∧
    RaisesOnly ExchangeFailure (E.urlopen path payload) s

/-- A payload is posted, or the failure is swallowed, iff it is serialised and the exchange raises
    nothing but what is caught; without a secret nothing is sent. -/
theorem postJson_returns (path : String) (payload : PyObject) (s : Shared ω) :
    (∃ arrived s', E.postJson path payload s = (.ok arrived, s')) ↔
      (E.hasInternalSecret = true → jsonDumps payload = .ok () ∧
        RaisesOnly ExchangeFailure (E.urlopen path payload) s) := by
  rw [Environment.postJson]
  rcases hsecret : E.hasInternalSecret with _ | _
  · rw [if_neg Bool.false_ne_true]
    exact ⟨fun _ h => (by cases h), fun _ => ⟨false, s, rfl⟩⟩
  rw [if_pos rfl]
  refine Iff.trans ?_ (⟨fun h _ => h, fun h => h rfl⟩ : _ ↔ (true = true → _))
  rcases hdumps : jsonDumps payload with e | _
  · have hraise : (raising (lift (.error e)) : Proc Raised (Shared ω) Unit) s = (.error (.py e), s) :=
      rfl
    rw [bind_error hraise]
    exact ⟨fun ⟨_, _, h⟩ => (by cases h), fun h => (by cases h.1)⟩
  have hreturn : (raising (lift (.ok ())) : Proc Raised (Shared ω) Unit) s = (.ok (), s) := rfl
  rw [and_iff_right rfl, bind_ok hreturn, attempt_bind_run]
  rcases hopen : E.urlopen path payload s with ⟨e | answered, s'⟩
  · rw [raisesOnly_of_error hopen, exchangeFailure_iff]
    dsimp only
    rcases hcaught : e.isRequestFailure with _ | _
    · rw [if_neg Bool.false_ne_true]
      exact ⟨fun ⟨_, _, h⟩ => (by cases h), fun h => (by cases h)⟩
    · rw [if_pos rfl]
      exact ⟨fun _ => rfl, fun _ => ⟨false, s', rfl⟩⟩
  · exact ⟨fun _ => raisesOnly_of_ok hopen, fun _ => ⟨answered, s', rfl⟩⟩

/-! ## A job with its connection -/

section Serve

variable {α : Type} (work : Proc Raised (CallHome ω) α) (report : α → Proc Raised (Shared ω) Bool)

/-- The work returns, and so does the report of what came out of it. -/
def Served (s : CallHome ω) : Prop :=
  ∃ outcome s₁, work s = (.ok outcome, s₁) ∧ ∃ arrived s₂, report outcome s₁.shared = (.ok arrived, s₂)

variable {work report}

/-- A job is served iff its work returns and, with what it returns, the report. -/
theorem served_iff {s : CallHome ω} : Served work report s ↔
    (∃ outcome s₁, work s = (.ok outcome, s₁)) ∧ ∀ outcome s₁, work s = (.ok outcome, s₁) →
      ∃ arrived s₂, report outcome s₁.shared = (.ok arrived, s₂) := by
  constructor
  · rintro ⟨outcome, s₁, hrun, hreport⟩
    refine ⟨⟨outcome, s₁, hrun⟩, fun outcome' s₁' hrun' => ?_⟩
    cases hrun.symm.trans hrun'
    exact hreport
  · rintro ⟨⟨outcome, s₁, hrun⟩, hreport⟩
    exact ⟨outcome, s₁, hrun, hreport outcome s₁ hrun⟩

/-- **One job**, noted as one that got a connection: it is served, and then noted as reported, or an
    exception of the work or of the report ends it. -/
theorem serve_run (work : Proc Raised (CallHome ω) α) (report : α → Proc Raised (Shared ω) Bool)
    (jobId : Int) (s : CallHome ω) :
    ∃ r s₁ shared, work { s with obtained := s.obtained ++ [jobId] } = (r, s₁) ∧
      ((Served work report { s with obtained := s.obtained ++ [jobId] } ∧
          serve jobId work report s =
            (.ok (), { s₁ with shared := shared, reported := s₁.reported ++ [jobId] })) ∨
        (¬ Served work report { s with obtained := s.obtained ++ [jobId] } ∧
          ∃ e, serve jobId work report s = (.error e, { s₁ with shared := shared }))) := by
  rw [serve, noteObtained, modify_bind_run, Served]
  rcases hrun : work { s with obtained := s.obtained ++ [jobId] } with ⟨e | outcome, s₁⟩
  · refine ⟨.error e, s₁, s₁.shared, rfl, .inr ⟨?_, e, bind_error hrun⟩⟩
    rintro ⟨_, _, h, _⟩
    cases h
  rw [bind_ok hrun]
  rcases hreport : report outcome s₁.shared with ⟨e | arrived, shared⟩
  · have houtside : outside (report outcome) s₁ = (.error e, { s₁ with shared := shared }) := by
      rw [outside, hreport]
    refine ⟨.ok outcome, s₁, shared, rfl, .inr ⟨?_, e, bind_error houtside⟩⟩
    rintro ⟨_, _, ⟨⟩, _, _, h⟩
    cases hreport.symm.trans h
  · have houtside : outside (report outcome) s₁ = (.ok arrived, { s₁ with shared := shared }) := by
      rw [outside, hreport]
    exact ⟨.ok outcome, s₁, shared, rfl,
      .inl ⟨⟨outcome, s₁, rfl, arrived, shared, hreport⟩, bind_ok houtside⟩⟩

/-- The job returns iff it is served, noted as one that got a connection. -/
theorem serve_returns (jobId : Int) (s : CallHome ω) :
    (∃ s', serve jobId work report s = (.ok (), s')) ↔
      Served work report { s with obtained := s.obtained ++ [jobId] } := by
  obtain ⟨r, s₁, shared, -, ⟨hserved, hrun⟩ | ⟨hnot, e, hrun⟩⟩ := serve_run work report jobId s
  · exact ⟨fun _ => hserved, fun _ => ⟨_, hrun⟩⟩
  · refine ⟨?_, fun hserved => absurd hserved hnot⟩
    rintro ⟨s', h⟩
    cases hrun.symm.trans h

end Serve

/-- The `try` around an exchange, its connection closed, returns iff what comes out of the exchange is
    caught: `k` is what the handlers make of the outcome, and `P` what they catch. -/
theorem attempt_returns {α β : Type} {P : PyExc → Prop} (x : Proc PyExc (Shared ω) α)
    (candidate : PooledConnection) (k : Except Raised α → Proc Raised (CallHome ω) β)
    (hok : ∀ a s, ∃ b, k (.ok a) s = (.ok b, s))
    (herror : ∀ e s, (∃ b s', k (.error (.py e)) s = (.ok b, s')) ↔ P e) (s : CallHome ω) :
    (∃ b s', (attempt (outside (raising x)) >>= fun outcome => close candidate >>= fun _ =>
      k outcome) s = (.ok b, s')) ↔ RaisesOnly P x s.shared := by
  rw [attempt_bind_run, outside, raising]
  rcases hrun : x s.shared with ⟨e | a, shared⟩
  · rw [raisesOnly_of_error hrun]
    exact herror e _
  · refine ⟨fun _ => raisesOnly_of_ok hrun, fun _ => ?_⟩
    obtain ⟨b, hb⟩ := hok a { s with shared := shared, owned := s.owned.erase candidate.connNo }
    exact ⟨b, _, hb⟩

/-! ### A relay command -/

/-- A command returns iff only what is caught comes out of the exchange. -/
theorem runCommand_returns (candidate : PooledConnection) (methodId : UInt8) (s : CallHome ω) :
    (∃ error s₁, runCommand E serial password candidate methodId s = (.ok error, s₁)) ↔
      RaisesOnly (·.isOSError = true) (executeControlViaFreshConnection (E.connection candidate)
        candidate.connNo serial password methodId) s.shared := by
  refine attempt_returns _ candidate _ (fun _ _ => ?_) (fun e s => ?_) s
  · exact ⟨_, rfl⟩
  · cases e with
    | socket => exact ⟨fun _ => rfl, fun _ => ⟨_, _, rfl⟩⟩
    | gateway | dlmsData | valueError | unicodeError | indexError | overflowError | typeError
    | unboundLocalError | assertionError => exact ⟨fun ⟨_, _, h⟩ => (by cases h), fun h => (by cases h)⟩

/-- The exchange of a command whose type is known is within the `GatewayError`s and the socket's own
    errors, and its report is handled. -/
def ControlServed (candidate : PooledConnection) (job : DueControlJob) (s : CallHome ω) : Prop :=
  (∀ methodId, methodIds.lookup job.jobType = some methodId →
    ControlWithin (ResultOr (·.isOSError = true)) (E.connection candidate) serial password methodId
      s.shared) ∧
  ∀ error s₁, controlError E serial password candidate job s = (.ok error, s₁) →
    ReportHandled E "/api/internal/gateway/job-results" job.jobId
      (jobResultsPayload serial [controlReport job error]) s₁.shared

theorem controlReport_serialisable {job : DueControlJob} {error : Option GatewayError} :
    jsonDumps (jobResultsPayload serial [controlReport job error]) = .ok () ↔
      tooManyDigits job.jobId = false := by
  rw [jsonDumps_jobResultsPayload, List.forall_mem_singleton, JobResultReport.Serialisable]
  exact and_iff_left fun _ h => by cases h

/-- A command and its report return iff it is served. -/
theorem served_control_iff (candidate : PooledConnection) (job : DueControlJob) (s : CallHome ω) :
    Served (controlError E serial password candidate job)
        (fun error => E.reportJobResults serial [controlReport job error]) s ↔
      ControlServed E serial password candidate job s := by
  have hwork : (∃ error s₁, controlError E serial password candidate job s = (.ok error, s₁)) ↔
      ∀ methodId, methodIds.lookup job.jobType = some methodId →
        ControlWithin (ResultOr (·.isOSError = true)) (E.connection candidate) serial password
          methodId s.shared := by
    rw [controlError]
    rcases methodIds.lookup job.jobType with _ | methodId
    · exact ⟨fun _ _ h => (by cases h), fun _ => ⟨_, s, rfl⟩⟩
    · dsimp only
      rw [runCommand_returns, executeControl_raises id]
      exact ⟨fun h _ hm => Option.some.inj hm ▸ h, fun h => h methodId rfl⟩
  rw [served_iff, hwork, ControlServed]
  refine and_congr_right fun _ => forall₃_congr fun error s₁ _ => ?_
  rw [Environment.reportJobResults, postJson_returns, controlReport_serialisable, ReportHandled]

/-! ### A round of reading -/

/-- A round of reading returns iff only what is caught comes out of the exchange. -/
theorem readCandidate_returns (obisSpecs : List (String × Int)) (candidate : PooledConnection)
    (s : CallHome ω) :
    (∃ result s₁, readCandidate E serial password obisSpecs candidate s = (.ok result, s₁)) ↔
      RaisesOnly LinkFailure (readBatchViaFreshConnection (E.connection candidate) candidate.connNo
        serial password obisSpecs) s.shared := by
  refine attempt_returns _ candidate _ (fun _ _ => ?_) (fun e s => ?_) s
  · exact ⟨_, rfl⟩
  · cases e with
    | gateway => exact ⟨fun _ => .inl rfl, fun _ => ⟨_, _, rfl⟩⟩
    | socket => exact ⟨fun _ => .inr rfl, fun _ => ⟨_, _, rfl⟩⟩
    | dlmsData | valueError | unicodeError | indexError | overflowError | typeError
    | unboundLocalError | assertionError => exact ⟨fun ⟨_, _, h⟩ => (by cases h), by rintro (⟨⟨⟩⟩ | ⟨⟨⟩⟩)⟩

/-- Over the connection the opening and the registers are bodied. -/
def ReadServed (obisSpecs : List (String × Int)) (candidate : PooledConnection) (s : CallHome ω) :
    Prop :=
  OpeningBodied (E.connection candidate) serial
    (RegistersBodied (E.connection candidate) password obisSpecs) s.shared

theorem served_read_iff (obisSpecs : List (String × Int)) (candidate : PooledConnection)
    (s : CallHome ω) :
    (∃ result s₁, readCandidate E serial password obisSpecs candidate s = (.ok result, s₁)) ↔
      ReadServed E serial password obisSpecs candidate s := by
  rw [readCandidate_returns, readBatch_raises, ReadServed]

/-! ### A load profile -/

end RiseSun.Gateway
