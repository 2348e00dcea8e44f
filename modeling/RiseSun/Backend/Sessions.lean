/-
  The sessions in which the parties work on jobs, and which jobs each of their actions ends.

  A worker opens a session for one job, the Gateway's request one for all items of its report, a
  sweep one for all its rows.  Sessions outlive their commits, and keep the rows they have loaded.
-/
import RiseSun.Lib.RowCache
import RiseSun.Backend.JobRows

namespace RiseSun.Backend

variable {V : Type} {values : Values V} {s t : JobState V}

inductive DbSession
  | worker (hold : Hold)
  | report (request : Nat)
  | sweep (number : Nat)
  deriving DecidableEq, Repr

/-- Whose action it is; a restart leaves no session. -/
def DbSession.takes : DbSession → JobAction V → Bool
  | .worker hold, .work hold' .. => hold = hold'
  | _, .work .. => false
  | .report _, .reportSelect .. | .report _, .reportCommit .. => true
  | _, .reportSelect .. | _, .reportCommit .. => false
  | .sweep _, .expireSelect _ | .sweep _, .expireCommit .. => true
  | _, .expireSelect _ | _, .expireCommit .. => false
  | _, .restart _ => false
  | _, _ => true

/-- The rows an action loads before it writes. -/
def loads (s : JobState V) : JobAction V → List Int
  | .reportSelect hold _ => [hold.jobId]
  | .expireSelect dayStart => idsWhere (isExpired dayStart) s.jobs
  | _ => []

/-- The jobs an action writes the end of. -/
def ends : JobAction V → List Int
  | .work hold .. | .reportCommit hold .. => [hold.jobId]
  | .expireCommit ids _ => ids
  | _ => []

def JobState.status (s : JobState V) (id : Int) : Option JobStatus := (s.jobs.get id).map (·.status)

/-- What a job comes to without a restart, an action ends. -/
theorem ended_by {a : JobAction V} (change : JobChange values s a t)
    (restarts : ∀ now, a ≠ .restart now) {id : Int} {job job' : Job V}
    (before : s.jobs.get id = some job) (unfinished : job.status.isTerminal = false)
    (after : t.jobs.get id = some job') (finished : job'.status.isTerminal = true) :
    id ∈ ends a := by
  have hsame : ∀ {p : Prop}, s.jobs.get id = some job' → p := fun hget => by
    obtain rfl := Option.some.inj (before.symm.trans hget)
    rw [unfinished] at finished
    cases finished
  have hfinish : ∀ {hold : Hold} {outcome : JobEnd V} {now : Int} {row : Job V},
      (s.finish values now hold row outcome).jobs.get id = some job' → id ∈ [hold.jobId] := by
    intro hold outcome now row hget
    rcases eq_or_ne id hold.jobId with heq | hne
    · exact List.mem_singleton.mpr heq
    · exact hsame ((Table.get_update_ne _ hne _).symm.trans hget)
  have hwrite : ∀ {ids : List Int} {f : Job V → Job V},
      (writeAll ids f s.jobs).get id = some job' → id ∈ ids ∧ f job = job' ∨ s.jobs.get id = some job' := by
    intro ids f hget
    rw [get_writeAll] at hget
    split at hget
    · rw [before] at hget
      exact .inl ⟨by assumption, Option.some.inj hget⟩
    · exact .inr hget
  cases change with
  | @created id' job₀ new queued =>
    rcases eq_or_ne id id' with rfl | hne
    · rw [new] at before
      cases before
    · exact hsame ((Table.get_insert_ne _ _ new hne).symm.trans after)
  | claimed mem =>
    rcases hwrite after with ⟨-, rfl⟩ | hget
    · cases finished
    · exact hsame hget
  | worked => exact hfinish after
  | reported => exact hfinish after
  | requeued mem free =>
    rcases hwrite after with ⟨-, rfl⟩ | hget
    · cases finished
    · exact hsame hget
  | expired mem free =>
    rcases hwrite after with ⟨hid, -⟩ | hget
    · exact hid
    · exact hsame hget
  | restarted => exact absurd rfl (restarts _)
  | askedInVain | asked | askedAgainInVain | askedAgain | accepting | refused | sweptStale
  | sweptExpired | abandoned => exact hsame after

end RiseSun.Backend
