/-
  Runs agree with their jobs.

  1. **Condition** (`Settles`) — nobody writes a finished job; an evaluation that finds all jobs of
     its run finished reads them so, or is not the last of the run; and a restart leaves every open
     run a job in the queue, since what it reaps is not evaluated.

  2. **Invariant** (`Consistent`) — a closed run has its jobs' counts, and an open run whose jobs are
     all finished is about to be evaluated.  The load-bearing step is the one that finishes the last
     job of a run: whoever takes it evaluates the run afterwards.

  3. **Every run** (`runs_consistent`).
-/
import RiseSun.Backend.ScheduledRuns

namespace RiseSun.Backend

open Machine

variable {V : Type} {values : Values V}

/-! ## Jobs of a run -/

/-- No tally has the outcome `running`: a run that is closed has ended. -/
theorem Tally.outcome_ne_running (tally : Tally) : tally.outcome ≠ .running := by
  rw [Tally.outcome]
  split
  · exact RunStatus.noConfusion
  · split <;> exact RunStatus.noConfusion

section Siblings

variable {s t : JobState V} {runId : Int}

/-- No job of the run is open. -/
def AllDone (s : JobState V) (runId : Int) : Prop :=
  ∀ r ∈ siblings s.jobs runId, r.2.status.isTerminal = true

/-- The count of the jobs of a run by their status. -/
def tally (s : JobState V) (runId : Int) : Tally :=
  .of ((siblings s.jobs runId).map (·.2.status))

/-- The siblings of a run are the jobs that are stored with its number. -/
theorem mem_siblings {r : Int × Job V} : r ∈ siblings s.jobs runId ↔
    s.jobs.get r.1 = some r.2 ∧ r.2.scheduledJobRunId = some runId := by
  rw [siblings, List.mem_filter, decide_eq_true_eq, Table.get_eq_some]

/-- The tally of a run only depends on its jobs. -/
theorem tally_congr (h : ∀ r, r ∈ siblings t.jobs runId ↔ r ∈ siblings s.jobs runId) :
    tally t runId = tally s runId := by
  have hperm : (siblings t.jobs runId).Perm (siblings s.jobs runId) :=
    (List.perm_ext_iff_of_nodup ((rows_nodup t.jobs).filter _) ((rows_nodup s.jobs).filter _)).mpr h
  rw [tally, Tally.of, (hperm.map _).count_eq, (hperm.map _).count_eq, (hperm.map _).length_eq,
    ← Tally.of, ← tally]

/-- Finished jobs stay, and a run gets no other jobs. -/
theorem siblings_kept {a : JobAction V} (rows : RowStep s t a)
    (others : ∀ id job, a = .create id job → job.scheduledJobRunId ≠ some runId)
    (done : AllDone s runId) (r : Int × Job V) :
    r ∈ siblings t.jobs runId ↔ r ∈ siblings s.jobs runId := by
  rw [mem_siblings, mem_siblings]
  constructor
  · rintro ⟨hget, hrun⟩
    rcases hbefore : s.jobs.get r.1 with _ | job
    · exact absurd hrun (others _ _ (rows.born hget hbefore))
    · obtain ⟨job', hjob', hsame, hfinal⟩ := rows.kept hbefore
      obtain rfl := Option.some.inj (hget.symm.trans hjob')
      rw [hsame.scheduledJobRunId] at hrun
      rw [hfinal (done (r.1, job) (mem_siblings.mpr ⟨hbefore, hrun⟩))]
      exact ⟨rfl, hrun⟩
  · rintro ⟨hget, hrun⟩
    exact ⟨rows.finalRows _ _ hget (done r (mem_siblings.mpr ⟨hget, hrun⟩)), hrun⟩

/-- Whether a run is done only depends on its jobs. -/
theorem AllDone.congr (h : AllDone s runId)
    (hmem : ∀ r, r ∈ siblings t.jobs runId ↔ r ∈ siblings s.jobs runId) : AllDone t runId :=
  fun r hr => h r ((hmem r).mp hr)

end Siblings

/-! ## Condition -/

/-- The condition on a step: no row that is finished is written; an evaluation of a run that is done
    has read its jobs as ended, or is not the last; a restart finds a queued job in every run that
    is open. -/
def Settles (s : RunsState V) : RunsAction V → Prop
  | .job _ a => WritesOpen s.core a
  | .evaluateSelect evaluation => AllDone s.core evaluation.runId →
      (∀ status ∈ s.reads evaluation, status.isTerminal = true) ∨
        ∃ other ∈ s.evaluations.erase evaluation, other.runId = evaluation.runId
  | .restart _ => ∀ r ∈ s.runs.rows, r.2.status = .running →
      ∃ child ∈ siblings s.core.jobs r.1, child.2.status = .queued
  | _ => True

instance (s : JobState V) (runId : Int) : Decidable (AllDone s runId) :=
  inferInstanceAs (Decidable (∀ r ∈ siblings s.jobs runId, r.2.status.isTerminal = true))

instance (s : RunsState V) : ∀ a, Decidable (Settles s a)
  | .job _ a => inferInstanceAs (Decidable (WritesOpen s.core a))
  | .evaluateSelect evaluation => inferInstanceAs (Decidable (AllDone s.core evaluation.runId →
      (∀ status ∈ s.reads evaluation, status.isTerminal = true) ∨
        ∃ other ∈ s.evaluations.erase evaluation, other.runId = evaluation.runId))
  | .restart _ => inferInstanceAs (Decidable (∀ r ∈ s.runs.rows, r.2.status = .running →
      ∃ child ∈ siblings s.core.jobs r.1, child.2.status = .queued))
  | .trigger .. | .reportCopy .. | .evaluateGet _ | .evaluateCommit .. =>
    inferInstanceAs (Decidable True)

/-! ## Invariant -/

/-- What an evaluation has counted of a run. -/
def EvaluationStage.tally : EvaluationStage → Option Tally
  | .due => none
  | .counted tally | .closing tally => some tally

/-- A closed run has ended with the outcome its jobs have; an open one whose jobs have all ended
    still has an evaluation to come, and what an evaluation has counted is so. -/
structure Consistent (s : RunsState V) : Prop where
  sound : Sound s.core
  recorded : ∀ {id job runId}, s.core.jobs.get id = some job → job.scheduledJobRunId = some runId →
    ∃ run, s.runs.get runId = some run
  evaluated : ∀ e ∈ s.evaluations, ∃ run, s.runs.get e.runId = some run
  closed : ∀ {runId run}, s.runs.get runId = some run → run.status ≠ .running →
    AllDone s.core runId ∧ ∃ now, run = run.close (tally s.core runId) now
  due : ∀ {runId run}, s.runs.get runId = some run → run.status = .running →
    AllDone s.core runId → ∃ e ∈ s.evaluations, e.runId = runId
  counted : ∀ e ∈ s.evaluations, ∀ t ∈ e.stage.tally,
    AllDone s.core e.runId ∧ t = tally s.core e.runId
  copies : s.copies.Settled (·.isTerminal = true) s.core.status

/-! ## Steps of the parties -/

variable {s : RunsState V} {core : JobState V}

/-- What is made by hand belongs to no run. -/
theorem not_created_by_hand {a : JobAction V} (byHand : madeByHand a = true) (runId : Int) :
    ∀ id job, a = .create id job → job.scheduledJobRunId ≠ some runId := by
  rintro id job rfl hrun
  rw [madeByHand, hrun] at byHand
  cases byHand

/-- A step of the jobs leaves a job that has ended in the status it ended with. -/
theorem status_step {s t : JobState V} {a : JobAction V} (rows : RowStep s t a) (id : Int)
    (status : JobStatus) (hstatus : s.status id = some status)
    (hterminal : status.isTerminal = true) : t.status id = some status := by
  obtain ⟨job, hjob, rfl⟩ := Option.map_eq_some_iff.mp hstatus
  exact Option.map_eq_some_iff.mpr ⟨job, rows.finalRows id job hjob hterminal, rfl⟩

/-- Whoever finishes the last open job of a run evaluates the run. -/
theorem evaluates_last {s t : JobState V} {a : JobAction V} {runId : Int} (rows : RowStep s t a)
    (change : JobChange values s a t) (restarts : ∀ now, a ≠ .restart now)
    (before : ¬ AllDone s runId) (after : AllDone t runId) : runId ∈ evaluates s a := by
  rw [AllDone] at before
  push Not at before
  obtain ⟨⟨id, job⟩, hmem, hopen⟩ := before
  obtain ⟨hjob, hrun⟩ := mem_siblings.mp hmem
  obtain ⟨job', hjob', hsame, -⟩ := rows.kept hjob
  have hmem' : (id, job') ∈ siblings t.jobs runId :=
    mem_siblings.mpr ⟨hjob', hsame.scheduledJobRunId.trans hrun⟩
  have hends := ended_by change restarts hjob (Bool.eq_false_iff.mpr hopen) hjob' (after _ hmem')
  exact List.mem_filterMap.mpr ⟨id, hends, Option.bind_eq_some_iff.mpr ⟨job, hjob, hrun⟩⟩

/-- A step of the jobs keeps runs and jobs consistent: a job that ends asks for an evaluation of its
    run, and what has ended stays so. -/
theorem Consistent.job {session : DbSession} {a : JobAction V} (h : Consistent s)
    (unfinished : WritesOpen s.core a) (takes : session.takes a = true)
    (byHand : madeByHand a = true) (change : JobChange values s.core a core) :
    Consistent { s with
      core := core
      copies := (s.copies.load session (loads s.core a) s.core.status).write session (ends a)
        core.status
      evaluations := s.evaluations ++ (evaluates s.core a).map ({ session, runId := · }) } := by
  have rows := h.sound.rowStep unfinished change
  have hkept := fun runId => siblings_kept rows (not_created_by_hand byHand runId)
  have hdue : ∀ e ∈ (evaluates s.core a).map ({ session, runId := · } : Int → Evaluation),
      e.stage = .due ∧ ∃ id job, s.core.jobs.get id = some job ∧
        job.scheduledJobRunId = some e.runId := by
    intro e he
    obtain ⟨runId, hmem, rfl⟩ := List.mem_map.mp he
    obtain ⟨id, -, hbind⟩ := List.mem_filterMap.mp hmem
    obtain ⟨job, hjob, hrun⟩ := Option.bind_eq_some_iff.mp hbind
    exact ⟨rfl, id, job, hjob, hrun⟩
  refine ⟨h.sound.step change, ?_, ?_, ?_, ?_, ?_, ?_⟩
  · intro id job' runId hget hrun
    rcases hbefore : s.core.jobs.get id with _ | job
    · exact absurd hrun (not_created_by_hand byHand runId _ _ (rows.born hget hbefore))
    · obtain ⟨job'', hjob'', hsame, -⟩ := rows.kept hbefore
      obtain rfl := Option.some.inj (hget.symm.trans hjob'')
      exact h.recorded hbefore (hsame.scheduledJobRunId ▸ hrun)
  · intro e he
    rcases List.mem_append.mp he with hold | hnew
    · exact h.evaluated e hold
    · obtain ⟨-, id, job, hjob, hrun⟩ := hdue e hnew
      exact h.recorded hjob hrun
  · intro runId run hrun hclosed
    obtain ⟨hdone, hclose⟩ := h.closed hrun hclosed
    exact ⟨hdone.congr (hkept runId hdone), (tally_congr (hkept runId hdone)).symm ▸ hclose⟩
  · intro runId run hrun hrunning hdone
    rcases Decidable.em (AllDone s.core runId) with hbefore | hbefore
    · obtain ⟨e, he, heq⟩ := h.due hrun hrunning hbefore
      exact ⟨e, List.mem_append_left _ he, heq⟩
    -- the last child has just been done, and whoever did it evaluates the run
    · have hrestarts : ∀ now, a ≠ .restart now := by
        rintro now rfl
        cases session <;> cases takes
      refine ⟨⟨session, runId, .due⟩, List.mem_append_right _ (List.mem_map_of_mem ?_), rfl⟩
      exact evaluates_last rows change hrestarts hbefore hdone
  · intro e he t ht
    rcases List.mem_append.mp he with hold | hnew
    -- children that are done stay as they are, so what was counted still holds
    · obtain ⟨hdone, heq⟩ := h.counted e hold t ht
      exact ⟨hdone.congr (hkept _ hdone), heq.trans (tally_congr (hkept _ hdone)).symm⟩
    · rw [(hdue e hnew).1] at ht
      cases ht
  · exact ((h.copies.load session _).step (status_step rows)).write session _

/-! ## A new run -/

/-- Rows stay, and new ones are of the run. -/
structure Grows (s t : JobState V) (runId : Int) : Prop where
  sound : Sound t
  kept : ∀ {id job}, s.jobs.get id = some job → t.jobs.get id = some job
  born : ∀ {id job}, t.jobs.get id = some job →
    s.jobs.get id = some job ∨ job.scheduledJobRunId = some runId

section Trigger

variable {runId createdAt : Int} {jobType : JobType}

def createChildren (jobType : JobType) (runId createdAt : Int) (ids : List Int)
    (pairs : List (Int × Payload)) : List (JobAction V) :=
  ids.zipWith (fun id pair => .create id (scheduledChild jobType runId createdAt pair)) pairs

/-- The creation of one job of a new run adds it to the rows. -/
theorem Grows.created {s t : JobState V} {id : Int} {job : Job V} (sound : Sound s)
    (hrun : job.scheduledJobRunId = some runId) (change : JobChange values s (.create id job) t) :
    Grows s t runId where
  sound := sound.step change
  kept := fun {id' job'} hget => by
    have rows := sound.rowStep (show WritesOpen s (.create id job) from trivial) change
    obtain ⟨job'', hjob'', -⟩ := rows.kept hget
    rcases created_row change hjob'' with ⟨-, hold⟩ | ⟨rfl, -⟩
    · exact (Option.some.inj (hold.symm.trans hget)) ▸ hjob''
    · rw [(created_new change).1] at hget
      cases hget
  born := fun hget => (created_row change hget).imp (·.2) fun ⟨_, heq⟩ => heq ▸ hrun

/-- The creation of all jobs of a new run adds them to the rows: induction on their numbers. -/
theorem grows_children :
    ∀ (ids : List Int) (pairs : List (Int × Payload)) {s t : JobState V}, Sound s →
      exec (jobStep values) s (createChildren jobType runId createdAt ids pairs) = some t →
      Grows s t runId
  | [], _, s, t, sound, hexec | _ :: _, [], s, t, sound, hexec => by
    obtain rfl := Option.some.inj hexec
    exact ⟨sound, fun hget => hget, .inl⟩
  | id :: ids, pair :: pairs, s, t, sound, hexec => by
    obtain ⟨next, hnext, hexec⟩ := Option.bind_eq_some_iff.mp hexec
    have hfirst : Grows s next runId := .created sound rfl (jobStep_change hnext)
    have hrest := grows_children ids pairs hfirst.sound hexec
    refine ⟨hrest.sound, fun hget => hrest.kept (hfirst.kept hget), fun hget => ?_⟩
    rcases hrest.born hget with hold | hnew
    · exact hfirst.born hold
    · exact .inr hnew

/-- A run that has jobs begins with an open one. -/
theorem children_open {ids : List Int} {pairs : List (Int × Payload)} {s t : JobState V}
    (sound : Sound s) (hpairs : pairs ≠ []) (hlength : ids.length = pairs.length)
    (hexec : exec (jobStep values) s (createChildren jobType runId createdAt ids pairs) = some t) :
    ¬ AllDone t runId := by
  rcases pairs with _ | ⟨pair, pairs⟩
  · exact absurd rfl hpairs
  rcases ids with _ | ⟨id, ids⟩
  · cases hlength
  obtain ⟨next, hnext, hexec⟩ := Option.bind_eq_some_iff.mp hexec
  have hchange := jobStep_change hnext
  have hrest := grows_children ids pairs (sound.step hchange) hexec
  intro hdone
  cases hchange with
  | created new queued =>
    have hchild := hrest.kept (Table.get_insert_self _ _ new)
    cases hdone (id, _) (mem_siblings.mpr ⟨hchild, rfl⟩)

/-- A new run starts with its jobs open, at least one of them. -/
theorem Consistent.trigger {ids : List Int} {pairs : List (Int × Payload)} (h : Consistent s)
    (new : s.runs.get runId = none) (hpairs : pairs ≠ [])
    (hlength : ids.length = pairs.length) (run : ScheduledJobRun) (running : run.status = .running)
    (hexec : exec (jobStep values) s.core (createChildren jobType runId createdAt ids pairs) =
      some core) :
    Consistent { s with core := core, runs := s.runs.insert runId run new } := by
  have grows := grows_children ids pairs h.sound hexec
  have hother : ∀ {runId' : Int}, (∃ run', s.runs.get runId' = some run') → runId' ≠ runId := by
    rintro _ ⟨run', hrun'⟩ rfl
    rw [new] at hrun'
    cases hrun'
  have hkept : ∀ {runId' : Int}, runId' ≠ runId → ∀ r,
      r ∈ siblings core.jobs runId' ↔ r ∈ siblings s.core.jobs runId' := by
    intro runId' hne r
    rw [mem_siblings, mem_siblings]
    refine and_congr_left fun hrun => ⟨fun hget => ?_, grows.kept⟩
    refine (grows.born hget).resolve_right fun hnew => hne ?_
    exact Option.some.inj (hrun.symm.trans hnew)
  have hruns : ∀ {runId' : Int}, runId' ≠ runId →
      (s.runs.insert runId run new).get runId' = s.runs.get runId' := fun hne =>
    Table.get_insert_ne _ _ new hne
  refine ⟨grows.sound, ?_, ?_, ?_, ?_, ?_, ?_⟩
  · intro id job runId' hget hrun
    rcases eq_or_ne runId' runId with rfl | hne
    · exact ⟨run, Table.get_insert_self _ _ new⟩
    · rw [hruns hne]
      refine h.recorded ((grows.born hget).resolve_right fun hnew => hne ?_) hrun
      exact Option.some.inj (hrun.symm.trans hnew)
  · intro e he
    rw [hruns (hother (h.evaluated e he))]
    exact h.evaluated e he
  · intro runId' run' hrun' hclosed
    rcases eq_or_ne runId' runId with rfl | hne
    · rw [Table.get_insert_self] at hrun'
      exact absurd (Option.some.inj hrun' ▸ running) hclosed
    · rw [hruns hne] at hrun'
      obtain ⟨hdone, hclose⟩ := h.closed hrun' hclosed
      exact ⟨hdone.congr (hkept hne), tally_congr (hkept hne) ▸ hclose⟩
  · intro runId' run' hrun' hrunning hdone
    rcases eq_or_ne runId' runId with rfl | hne
    -- a run just triggered has open children, so nothing is due for it
    · exact absurd hdone (children_open h.sound hpairs hlength hexec)
    · rw [hruns hne] at hrun'
      exact h.due hrun' hrunning (hdone.congr fun r => (hkept hne r).symm)
  · intro e he t ht
    have hne := hother (h.evaluated e he)
    obtain ⟨hdone, heq⟩ := h.counted e he t ht
    exact ⟨hdone.congr (hkept hne), heq.trans (tally_congr (hkept hne)).symm⟩
  · refine h.copies.step fun id status hstatus _ => ?_
    obtain ⟨job, hjob, rfl⟩ := Option.map_eq_some_iff.mp hstatus
    exact Option.map_eq_some_iff.mpr ⟨job, grows.kept hjob, rfl⟩

end Trigger

/-! ## Stages of an evaluation -/

section Stages

variable {e : Evaluation} {next : Option EvaluationStage}

/-- Evaluations of other runs stay, and so does this one unless it ends. -/
theorem due_replace {runId : Int} (h : ∃ other ∈ s.evaluations, other.runId = runId)
    (this : runId = e.runId → next.isSome = true ∨
      ∃ other ∈ s.evaluations.erase e, other.runId = runId) :
    ∃ other ∈ s.replace e next, other.runId = runId := by
  obtain ⟨other, hother, rfl⟩ := h
  rcases eq_or_ne other e with rfl | hne
  · rcases this rfl with hsome | ⟨other', hother', heq⟩
    · obtain ⟨stage, hstage⟩ := Option.isSome_iff_exists.mp hsome
      exact ⟨{ other with stage := stage }, mem_goOn_self hstage, rfl⟩
    · exact ⟨other', List.mem_append_left _ hother', heq⟩
  · exact ⟨other, mem_goOn_of_ne hother hne, rfl⟩

/-- What goes on with an evaluation keeps the rest. -/
theorem Consistent.goesOn (h : Consistent s) (mem : e ∈ s.evaluations)
    {copies : RowCache DbSession Int JobStatus}
    (settled : copies.Settled (·.isTerminal = true) s.core.status)
    (due : ∀ run, s.runs.get e.runId = some run → run.status = .running → AllDone s.core e.runId →
      next.isSome = true ∨ ∃ other ∈ s.evaluations.erase e, other.runId = e.runId)
    (counted : ∀ stage ∈ next, ∀ t ∈ stage.tally,
      AllDone s.core e.runId ∧ t = tally s.core e.runId) :
    Consistent { s with copies := copies, evaluations := s.replace e next } := by
  refine ⟨h.sound, h.recorded, ?_, h.closed, ?_, ?_, settled⟩
  · intro other hother
    rcases mem_of_mem_goOn hother with hold | ⟨stage, -, rfl⟩
    · exact h.evaluated other hold
    · exact h.evaluated e mem
  · intro runId run hrun hrunning hdone
    exact due_replace (h.due hrun hrunning hdone) fun heq =>
      heq ▸ due run (heq ▸ hrun) hrunning (heq ▸ hdone)
  · intro other hother t ht
    rcases mem_of_mem_goOn hother with hold | ⟨stage, hstage, rfl⟩
    · exact h.counted other hold t ht
    · exact counted stage hstage t ht

/-- Jobs that are read as finished are as they are read. -/
theorem Consistent.reads_eq (h : Consistent s)
    (finished : ∀ status ∈ s.reads e, status.isTerminal = true) :
    s.reads e = (siblings s.core.jobs e.runId).map (·.2.status) := by
  refine List.map_congr_left fun r hr => h.copies.seen_eq ?_ (finished _ (List.mem_map_of_mem hr))
  exact Option.map_eq_some_iff.mpr ⟨r.2, (mem_siblings.mp hr).1, rfl⟩

/-- An evaluation that reads all jobs of its run may count them, and one that reads too little may
    not be the last. -/
theorem Consistent.select (h : Consistent s) (mem : e ∈ s.evaluations)
    (settles : Settles s (.evaluateSelect e)) :
    Consistent { s with
      copies := s.copies.load e.session ((siblings s.core.jobs e.runId).map (·.1)) s.core.status
      evaluations := s.replace e (if (s.reads e).all (·.isTerminal) then
        some (.counted (.of (s.reads e))) else none) } := by
  refine h.goesOn mem (h.copies.load _ _) (fun run _ _ hdone => ?_) fun stage hstage t ht => ?_
  · refine (settles hdone).imp_left fun hall => ?_
    rw [if_pos (List.all_eq_true.mpr hall)]
    rfl
  · split at hstage
    · rename_i hall
      obtain rfl := Option.some.inj hstage
      obtain rfl := Option.some.inj ht
      have hreads := h.reads_eq (List.all_eq_true.mp hall)
      refine ⟨fun r hr => ?_, by rw [hreads, tally]⟩
      exact List.all_eq_true.mp hall _ (hreads ▸ List.mem_map_of_mem hr)
    · cases hstage

/-- An evaluation that has counted goes on only while the run is still open. -/
theorem Consistent.get {tally : Tally} (h : Consistent s) (mem : e ∈ s.evaluations)
    (stage : e.stage = .counted tally) :
    Consistent { s with
      evaluations := s.replace e (if ∃ run ∈ s.runs.get e.runId, run.status = .running then
        some (.closing tally) else none) } := by
  refine h.goesOn mem h.copies (fun run hrun hrunning _ => .inl ?_) fun next hnext t ht => ?_
  · rw [if_pos ⟨run, hrun, hrunning⟩]
    rfl
  · split at hnext
    · obtain rfl := Option.some.inj hnext
      exact h.counted e mem t (stage ▸ ht)
    · cases hnext

/-- Closing a run with a count that still holds keeps runs and jobs consistent. -/
theorem Consistent.commit {tally : Tally} {now : Int} {notifications : List Notification}
    (h : Consistent s) (mem : e ∈ s.evaluations) (stage : e.stage = .closing tally) :
    Consistent { s with
      runs := s.runs.update e.runId (·.close tally now)
      evaluations := s.replace e none
      notifications := notifications } := by
  obtain ⟨hdone, htally⟩ := h.counted e mem tally (stage ▸ rfl)
  have hget : ∀ {runId : Int}, (∃ run, s.runs.get runId = some run) →
      ∃ run, (s.runs.update e.runId (·.close tally now)).get runId = some run := by
    rintro runId ⟨run, hrun⟩
    exact ⟨_, (Table.get_modify _ _ _).trans (congrArg _ hrun)⟩
  refine ⟨h.sound, fun hjob hrun => hget (h.recorded hjob hrun), ?_, ?_, ?_, ?_, h.copies⟩
  · intro other hother
    rcases mem_of_mem_goOn hother with hold | ⟨stage, hnone, -⟩
    · exact hget (h.evaluated other hold)
    · cases hnone
  · intro runId run hrun hclosed
    rcases eq_or_ne runId e.runId with rfl | hne
    · rw [Table.get_update_self] at hrun
      obtain ⟨before, hbefore, rfl⟩ := Option.map_eq_some_iff.mp hrun
      exact ⟨hdone, now, htally ▸ rfl⟩
    · rw [Table.get_update_ne _ hne] at hrun
      exact h.closed hrun hclosed
  · intro runId run hrun hrunning hall
    rcases eq_or_ne runId e.runId with rfl | hne
    · rw [Table.get_update_self] at hrun
      obtain ⟨before, hbefore, rfl⟩ := Option.map_eq_some_iff.mp hrun
      exact absurd hrunning (Tally.outcome_ne_running tally)
    · rw [Table.get_update_ne _ hne] at hrun
      exact due_replace (h.due hrun hrunning hall) fun heq => absurd heq hne
  · intro other hother t ht
    rcases mem_of_mem_goOn hother with hold | ⟨stage, hnone, -⟩
    · exact h.counted other hold t ht
    · cases hnone

end Stages

/-! ## Every run -/

/-- A job in the queue is not reaped. -/
theorem restart_queued {s : JobState V} {id : Int} {job : Job V} (hjob : s.jobs.get id = some job)
    (hqueued : job.status = .queued) (now : Int) : (restart s now).jobs.get id = some job := by
  rw [restart, Table.get_modify, hjob, Option.map_some, Job.reap_of_ne]
  rw [hqueued]
  exact JobStatus.noConfusion

/-- Every open run has a job that is not reaped. -/
theorem Consistent.restarted {now : Int} (h : Consistent s) (settles : Settles s (.restart now))
    (change : JobChange values s.core (.restart now) (restart s.core now)) :
    Consistent { s with core := restart s.core now, copies := .empty, evaluations := [] } := by
  have rows := h.sound.rowStep (show WritesOpen s.core (.restart now) from trivial) change
  have hkept := fun runId => @siblings_kept V s.core _ runId _ rows (fun _ _ heq => (nomatch heq))
  refine ⟨h.sound.step change, ?_, fun _ he => (nomatch he), ?_, ?_, fun _ he => (nomatch he), .empty⟩
  · intro id job' runId hget hrun
    rcases hbefore : s.core.jobs.get id with _ | job
    · cases rows.born hget hbefore
    · obtain ⟨job'', hjob'', hsame, -⟩ := rows.kept hbefore
      obtain rfl := Option.some.inj (hget.symm.trans hjob'')
      exact h.recorded hbefore (hsame.scheduledJobRunId ▸ hrun)
  · intro runId run hrun hclosed
    obtain ⟨hdone, hclose⟩ := h.closed hrun hclosed
    exact ⟨hdone.congr (hkept runId hdone), (tally_congr (hkept runId hdone)).symm ▸ hclose⟩
  · intro runId run hrun hrunning hdone
    obtain ⟨⟨id, job⟩, hchild, hqueued⟩ := settles (runId, run) (Table.get_eq_some.mp hrun) hrunning
    obtain ⟨hjob, hof⟩ := mem_siblings.mp hchild
    have hterminal := hdone (id, job) (mem_siblings.mpr ⟨restart_queued hjob hqueued now, hof⟩)
    exact absurd hqueued (JobStatus.ne_of_terminal hterminal rfl)

/-- The empty database is consistent, as it has neither runs nor jobs. -/
theorem Consistent.initial : Consistent ({ core := { jobs := ⟨[], List.nodup_nil⟩ } } : RunsState V) where
  sound := .initial _
  recorded := fun h => (nomatch h)
  evaluated := fun _ h => (nomatch h)
  closed := fun h => (nomatch h)
  due := fun h => (nomatch h)
  counted := fun _ h => (nomatch h)
  copies := .empty

/-- Every step that meets the condition keeps runs and jobs consistent. -/
theorem Consistent.step {s t : RunsState V} {a : RunsAction V} (h : Consistent s)
    (settles : Settles s a) (next : runsStep values s a = some t) : Consistent t := by
  cases a with
  | trigger ids runId scheduledJobId createdAt jobType pairs =>
    rcases dite_eq_iff.mp next with ⟨hnew, next⟩ | ⟨_, next⟩
    · rcases ite_eq_iff.mp next with ⟨⟨hpairs, hlength⟩, next⟩ | ⟨_, next⟩
      · obtain ⟨core, hcore, rfl⟩ := Option.map_eq_some_iff.mp next
        exact h.trigger hnew hpairs hlength _ rfl hcore
      · cases next
    · cases next
  | job session a =>
    rcases ite_eq_iff.mp next with ⟨⟨htakes, hhand, -⟩, next⟩ | ⟨_, next⟩
    · obtain ⟨core, hcore, rfl⟩ := Option.map_eq_some_iff.mp next
      exact h.job settles htakes hhand (jobStep_change hcore)
    · cases next
  | reportCopy request hold meterId =>
    rw [runsStep] at next
    rcases hjob : s.core.jobs.get hold.jobId with _ | job <;> rw [hjob] at next
    · cases next
    -- the copy the session holds decides, and the jobs stay as they are
    rcases hcopy : s.copies (.report request) hold.jobId with _ | status <;> rw [hcopy] at next
    · cases next
    rcases ite_eq_iff.mp next with ⟨⟨hhold, -⟩, next⟩ | ⟨_, next⟩
    · obtain rfl := Option.some.inj next
      split
      · exact { h with sound := { h.sound with } }
      · exact { h with sound := { h.sound with
          holds := fun hold' hmem => h.sound.holds hold' (List.mem_filter.mp hmem).1 } }
    · cases next
  | evaluateSelect e =>
    rcases ite_eq_iff.mp next with ⟨⟨hmem, -⟩, next⟩ | ⟨_, next⟩
    · obtain rfl := Option.some.inj next
      exact h.select hmem settles
    · cases next
  | evaluateGet e =>
    rw [runsStep] at next
    rcases hstage : e.stage with _ | tally | tally <;> rw [hstage] at next
    · cases next
    · rcases ite_eq_iff.mp next with ⟨hmem, next⟩ | ⟨_, next⟩
      · obtain rfl := Option.some.inj next
        exact h.get hmem hstage
      · cases next
    · cases next
  | evaluateCommit e name now =>
    rw [runsStep] at next
    rcases hstage : e.stage with _ | tally | tally <;> rw [hstage] at next
    · cases next
    · cases next
    rcases hrun : s.runs.get e.runId with _ | run <;> rw [hrun] at next
    · cases next
    rcases ite_eq_iff.mp next with ⟨hmem, next⟩ | ⟨_, next⟩
    · obtain rfl := Option.some.inj next
      exact h.commit hmem hstage
    · cases next
  | restart now =>
    obtain rfl := Option.some.inj next
    exact h.restarted settles (@jobStep_change V values _ _ _ rfl)

/-- A run is `RUNNING` exactly while one of its jobs is open, and closes with the status and the
    counts of their ends. -/
def RunsState.Agrees (s : RunsState V) : Prop :=
  ∀ runId row, s.runs.get runId = some row →
    (row.status = .running ↔
      ∃ child ∈ siblings s.core.jobs runId, child.2.status.isTerminal = false) ∧
    (row.status ≠ .running → row.status = (tally s.core runId).outcome ∧
      row.metersSucceeded = (tally s.core runId).succeeded ∧
      row.metersFailed = (tally s.core runId).failed)

/-- What the status of a closed run says of its jobs. -/
theorem RunsState.Agrees.outcome {s : RunsState V} (h : s.Agrees) {runId : Int}
    {row : ScheduledJobRun} (hrow : s.runs.get runId = some row) (hclosed : row.status ≠ .running) :
    (row.status = .succeeded ↔
      ∀ child ∈ siblings s.core.jobs runId, child.2.status = .succeeded) ∧
    (row.status = .failed ↔ siblings s.core.jobs runId ≠ [] ∧
      ∀ child ∈ siblings s.core.jobs runId, child.2.status = .failed) ∧
    (row.status = .partialFailure ↔
      (∃ child ∈ siblings s.core.jobs runId, child.2.status = .succeeded) ∧
      ∃ child ∈ siblings s.core.jobs runId, child.2.status = .failed) := by
  obtain ⟨hopen, hcounts⟩ := h runId row hrow
  have hdone : ∀ status ∈ (siblings s.core.jobs runId).map (·.2.status),
      status.isTerminal = true := by
    intro status hstatus
    obtain ⟨child, hchild, rfl⟩ := List.mem_map.mp hstatus
    exact Bool.of_not_eq_false fun hleft => hclosed (hopen.mpr ⟨child, hchild, hleft⟩)
  have hspec := Tally.outcome_of hdone
  rw [(hcounts hclosed).1, tally]
  simpa only [List.mem_map, forall_exists_index, and_imp, forall_apply_eq_imp_iff₂, ne_eq,
    List.map_eq_nil_iff] using hspec

/-- In every run of the parties whose steps settle, the scheduled runs agree with their jobs while
    no evaluation is in flight. -/
theorem runs_consistent {actions : List (RunsAction V)} {s : RunsState V}
    (run : Run (runsStep values) Settles { core := { jobs := ⟨[], List.nodup_nil⟩ } } actions s)
    (idle : s.evaluations = []) : s.Agrees := by
  have h : Consistent s := run.invariant .initial fun inv cond next => inv.step cond next
  intro runId row hrow
  refine ⟨⟨fun hrunning => ?_, ?_⟩, fun hclosed => ?_⟩
  · by_contra hnone
    push Not at hnone
    obtain ⟨e, he, -⟩ := h.due hrow hrunning fun r hr => Bool.of_not_eq_false (hnone r hr)
    rw [idle] at he
    cases he
  · rintro ⟨child, hchild, hopen⟩
    by_contra hclosed
    have hterminal := (h.closed hrow hclosed).1 child hchild
    exact absurd (hopen.symm.trans hterminal) Bool.noConfusion
  · obtain ⟨-, now, hclose⟩ := h.closed hrow hclosed
    rw [hclose]
    exact ⟨rfl, rfl, rfl⟩

/-! ### A run of two jobs -/

/-- A worker takes job 1, and the tick that made it made job 2 too. -/
def tickOfTwo : List (RunsAction Nat) :=
  [.trigger [1, 2] 9 3 100 .readCurrent
      [(7, { obis := some "1.1.1.8.0.ff" }), (8, { obis := some "1.1.1.8.0.ff" })]]

def claimFor (id : Int) (now : Int) : List (RunsAction Nat) :=
  [.job (.sweep 0) (.ask .worker (fun _ => true) Int.toNat),
    .job (.sweep 0) (.askAgain .worker (fun _ => true) Int.toNat),
    .job (.sweep 0) (.commitClaim ⟨false, [id]⟩ now)]

/-- The worker ends its job and evaluates the run. -/
def workOn (hold : Hold) (outcome : JobEnd Nat) : List (RunsAction Nat) :=
  [.job (.worker hold) (.work hold outcome 130), .evaluateSelect ⟨.worker hold, 9, .due⟩]

/-- A run of two jobs, of which one succeeds and one fails, is closed as partial. -/
theorem runs_consistent_partial : ∃ s : RunsState Nat,
    (s.runs.get 9).map (·.status) = some .partialFailure ∧
    s.Agrees := by
  have hexec : ((exec (guarded (runsStep plainValues) Settles)
      { core := { jobs := ⟨[], List.nodup_nil⟩ } }
      (tickOfTwo ++ claimFor 1 110 ++ claimFor 2 120 ++
        workOn ⟨0, 1, false, 110⟩ (.readCurrent ⟨true, 5, none, none, false⟩ "1.1.1.8.0.ff" 110) ++
        workOn ⟨1, 2, false, 120⟩ (.failed ⟨none, none, none⟩) ++
        [.evaluateGet ⟨.worker ⟨1, 2, false, 120⟩, 9, .counted ⟨1, 1, 2⟩⟩,
          .evaluateCommit ⟨.worker ⟨1, 2, false, 120⟩, 9, .closing ⟨1, 1, 2⟩⟩ (some "ночь") 140])).map
        fun s => (s.evaluations, (s.runs.get 9).map (·.status))) =
      some ([], some .partialFailure) := by decide
  obtain ⟨s, hrun, hresult⟩ := Option.map_eq_some_iff.mp hexec
  exact ⟨s, (Prod.mk.inj hresult).2, runs_consistent (Run.of_guarded hrun) (Prod.mk.inj hresult).1⟩

/-- A restart reaps the last job of a run, and nobody evaluates the run. -/
theorem reaped_run_stays_open :
    ¬ ∀ (actions : List (RunsAction Nat)) (s : RunsState Nat),
      Run (runsStep plainValues) (fun _ _ => True) { core := { jobs := ⟨[], List.nodup_nil⟩ } }
        actions s → s.evaluations = [] → s.Agrees := by
  intro h
  have hexec : ((exec (guarded (runsStep plainValues) fun _ _ => True)
      { core := { jobs := ⟨[], List.nodup_nil⟩ } }
      (tickOfTwo ++ claimFor 1 110 ++ claimFor 2 120 ++ [.restart 130])).map
        fun s => (s.evaluations, (s.runs.get 9).map (·.status),
          (siblings s.core.jobs 9).map (·.2.status))) =
      some ([], some .running, [.failed, .failed]) := by decide
  obtain ⟨s, hrun, hresult⟩ := Option.map_eq_some_iff.mp hexec
  obtain ⟨hidle, hrest⟩ := Prod.mk.inj hresult
  obtain ⟨row, hrow, hrunning⟩ := Option.map_eq_some_iff.mp (Prod.mk.inj hrest).1
  obtain ⟨child, hchild, hopen⟩ := (h _ s (Run.of_guarded hrun) hidle 9 row hrow).1.mp hrunning
  have hstatus : child.2.status ∈ [JobStatus.failed, .failed] :=
    (Prod.mk.inj hrest).2 ▸ List.mem_map_of_mem hchild
  rw [List.eq_of_mem_replicate (n := 2) hstatus] at hopen
  cases hopen

end RiseSun.Backend
