/-
  What the Gateway gets from the backend for a meter that has called (`backend_client.py`), and which
  of it one call of `_maybe_trigger_immediate_read` goes through.

  The answer to a claim has three lists.  `ClaimDueJobsResult.lanes` is the order of branches of
  `_maybe_trigger_immediate_read` (`callhome.py`): control jobs exclude everything else, reads and
  load profiles follow one another.
-/
import Mathlib.Data.List.Basic
import Mathlib.Tactic.Common

namespace RiseSun.Gateway

structure DueJob where
  jobId : Int
  jobType : String
  obis : String
  classId : Int
  deriving DecidableEq, Repr

structure DueLoadProfileJob where
  jobId : Int
  obis : String
  classId : Int
  fromIso : String
  toIso : String
  deriving DecidableEq, Repr

structure DueControlJob where
  jobId : Int
  jobType : String
  deriving DecidableEq, Repr

/-- The answer of the backend; `meterId`, the profile and the password stand only with a meter. -/
structure ClaimDueJobsResult where
  meterFound : Bool
  meterId : Option Int := none
  protocolProfile : Option String := none
  password : Option String := none
  jobs : List DueJob := []
  loadProfileJobs : List DueLoadProfileJob := []
  controlJobs : List DueControlJob := []
  deriving DecidableEq, Repr

/-- The three lists of an answer. -/
inductive Lane
  | jobs
  | loadProfileJobs
  | controlJobs
  deriving DecidableEq, Repr

/-- The ids in a list. -/
def ClaimDueJobsResult.ids (claimed : ClaimDueJobsResult) : Lane → List Int
  | .jobs => claimed.jobs.map (·.jobId)
  | .loadProfileJobs => claimed.loadProfileJobs.map (·.jobId)
  | .controlJobs => claimed.controlJobs.map (·.jobId)

/-- The lists one call goes through. -/
def ClaimDueJobsResult.lanes (claimed : ClaimDueJobsResult) : List Lane :=
  if claimed.meterFound = false ∨
      (claimed.jobs = [] ∧ claimed.loadProfileJobs = [] ∧ claimed.controlJobs = []) then []
  else if claimed.controlJobs ≠ [] then [.controlJobs]
  else (if claimed.jobs ≠ [] then [.jobs] else []) ++
    if claimed.loadProfileJobs ≠ [] then [.loadProfileJobs] else []

/-- A job is attempted: it stands once in one of the lists, and the call goes through that list. -/
def ClaimDueJobsResult.Attempts (claimed : ClaimDueJobsResult) (jobId : Int) : Prop :=
  ∃ lane ∈ claimed.lanes, (claimed.ids lane).count jobId = 1 ∧
    ∀ other ≠ lane, jobId ∉ claimed.ids other

/-- Without control jobs every list that has a job is gone through. -/
theorem ClaimDueJobsResult.mem_lanes {claimed : ClaimDueJobsResult} (hfound : claimed.meterFound)
    (hcontrol : claimed.controlJobs = []) {lane : Lane} {jobId : Int}
    (h : jobId ∈ claimed.ids lane) : lane ∈ claimed.lanes := by
  rcases claimed with ⟨_, _, _, _, jobs, loadProfileJobs, controlJobs⟩
  obtain rfl : controlJobs = [] := hcontrol
  subst hfound
  rcases lane with _ | _ | _
  · rcases jobs with _ | ⟨job, jobs⟩
    · cases h
    · simp [lanes]
  · rcases loadProfileJobs with _ | ⟨job, loadProfileJobs⟩
    · cases h
    · rcases jobs with _ | ⟨_, _⟩ <;> simp [lanes]
  · cases h

theorem ClaimDueJobsResult.lanes_control {claimed : ClaimDueJobsResult}
    (hfound : claimed.meterFound) (hcontrol : claimed.controlJobs ≠ []) :
    claimed.lanes = [.controlJobs] := by
  rw [lanes, if_neg, if_pos hcontrol]
  rintro (h | ⟨_, _, h⟩)
  · rw [hfound] at h
    cases h
  · exact hcontrol h

end RiseSun.Gateway
