/-
  The order of relay commands (`_run_control_jobs` of the Gateway, over the jobs of `job_worker.py`).

  1. **Gateway** — a claim's relay jobs become a list to work through, in the order of the answer.  A
     job without a connection is passed over; else its command is executed, with effect or not.

  2. **Condition** (`InTurn`) — the claims sort by `created_at` what is queued when they ask.
     Nothing looks after a job that an earlier claim has left behind: the condition is that none is.

  3. **Invariant** (`Ordered`) — what is older than an executed command is finished and in no list, so
     that it cannot come up again.

  4. **Every run** (`relay_order`).
-/
import RiseSun.Backend.JobRows

namespace RiseSun.Backend

open Machine

variable {V : Type} {values : Values V}

/-! ## Gateway -/

/-- `_run_control_jobs` at work: the jobs of its claim that are still to come. -/
structure ControlRun where
  claim : Nat
  jobs : List Int
  deriving DecidableEq, Repr

/-- A command sent to a meter; `effect` says that its relay obeyed.  The meter may have obeyed although
    the answer was lost. -/
structure Execution (V : Type) where
  claim : Nat
  jobId : Int
  /-- The row at that time. -/
  job : Job V
  effect : Bool

structure RelayState (V : Type) where
  core : JobState V
  runs : List ControlRun := []
  executed : List (Execution V) := []
  /-- The command the relay of a meter obeyed last. -/
  relay : Int → Option JobType := fun _ => none

inductive RelayAction (V : Type)
  | job (a : JobAction V)
  /-- No connection in time: the loop goes on with the next job. -/
  | skip (run : ControlRun)
  | execute (run : ControlRun) (effect : Bool)
  /-- The answer to the claim never came, the connection is taken, or an exception came out. -/
  | forget (run : ControlRun)

def JobState.isRelayRow (s : JobState V) (id : Int) : Bool := (s.jobs.get id).any isRelayJob

/-- The list a claim of the Gateway begins to work through. -/
def begun (s : JobState V) : JobAction V → List ControlRun
  | .commitClaim claiming _ =>
    if claiming.gateway then [⟨s.claims, claiming.ids.filter s.isRelayRow⟩] else []
  | _ => []

/-- Relay jobs are made by hand or by a batch, never by a schedule, and the Gateway reports a command
    it has sent. -/
def mayTake (s : RelayState V) : JobAction V → Bool
  | .create _ job => isRelayJob job → job.scheduledJobRunId = none
  | .reportSelect hold _ => s.core.isRelayRow hold.jobId →
      ∃ e ∈ s.executed, e.claim = hold.claim ∧ e.jobId = hold.jobId
  | _ => true

def RelayState.replace (s : RelayState V) (run : ControlRun) (jobs : List Int) : RelayState V :=
  { s with runs := s.runs.erase run ++ [{ run with jobs := jobs }] }

/-- The command of a job goes out. -/
def RelayState.execute (s : RelayState V) (claim : Nat) (jobId : Int) (job : Job V) (effect : Bool) :
    RelayState V :=
  { s with
    executed := s.executed ++ [⟨claim, jobId, job, effect⟩]
    relay := fun meterId =>
      if effect ∧ job.meterId = meterId then some job.jobType else s.relay meterId }

/-- The commands the relay of a meter has obeyed. -/
def RelayState.obeyed (s : RelayState V) (meterId : Int) : List (Execution V) :=
  s.executed.filter fun e => e.effect ∧ e.job.meterId = meterId

def relayStep (values : Values V) (s : RelayState V) : RelayAction V → Option (RelayState V)
  | .job a =>
    if mayTake s a then
      (jobStep values s.core a).map fun core =>
        { s with core := core, runs := s.runs ++ begun s.core a }
    else none
  | .skip run =>
    match run.jobs with
    | _ :: rest => if run ∈ s.runs then some (s.replace run rest) else none
    | [] => none
  | .execute run effect =>
    match run.jobs with
    | jobId :: rest =>
      match s.core.jobs.get jobId with
      | some job =>
        if run ∈ s.runs then some ((s.replace run rest).execute run.claim jobId job effect) else none
      | none => none
    | [] => none
  | .forget run => some { s with runs := s.runs.erase run }

/-! ## Condition -/

/-- Both are commands for the relay of one meter, and the first is older. -/
def Before (job job' : Job V) : Prop :=
  isRelayJob job = true ∧ isRelayJob job' = true ∧ job.meterId = job'.meterId ∧
    job.createdAt < job'.createdAt

instance (job job' : Job V) : Decidable (Before job job') :=
  inferInstanceAs (Decidable (_ ∧ _ ∧ _ ∧ _))

/-- Finished, and in no list of commands still to come. -/
def RelayState.Settled (s : RelayState V) (id : Int) : Prop :=
  s.core.Finished id ∧ ∀ run ∈ s.runs, id ∉ run.jobs

instance (s : RelayState V) (id : Int) : Decidable (s.Settled id) :=
  inferInstanceAs (Decidable (_ ∧ ∀ run ∈ s.runs, id ∉ run.jobs))

/-- `created_at` is the time a transaction began: it says the order of the commits as long as none
    overtakes another. -/
def CreatedLast (s : JobState V) : JobAction V → Prop
  | .create _ job => ∀ r ∈ s.jobs.rows, ¬ Before job r.2
  | _ => True

instance (s : JobState V) : ∀ a, Decidable (CreatedLast s a)
  | .create _ job => inferInstanceAs (Decidable (∀ r ∈ s.jobs.rows, ¬ Before job r.2))
  | .ask .. | .askAgain .. | .commitClaim .. | .work .. | .reportSelect .. | .reportCommit ..
  | .requeueSelect _ | .requeueCommit _ | .expireSelect _ | .expireCommit .. | .abandon _
  | .restart _ => inferInstanceAs (Decidable True)

/-- What is taken for granted of the table. -/
def Undisturbed (s : RelayState V) : RelayAction V → Prop
  | .job a => WritesOpen s.core a ∧ CreatedLast s.core a
  | _ => True

/-- A command that goes out leaves no older one behind, but for those that come later in its list. -/
def LeavesNoneBehind (s : RelayState V) : RelayAction V → Prop
  | .execute run _ => ∀ job ∈ run.jobs.head?.bind s.core.jobs.get, ∀ r ∈ s.core.jobs.rows,
      Before r.2 job → r.1 ∈ run.jobs ∨ s.Settled r.1
  | _ => True

/-- The condition on a step. -/
def InTurn (s : RelayState V) (a : RelayAction V) : Prop := Undisturbed s a ∧ LeavesNoneBehind s a

instance (s : RelayState V) : ∀ a, Decidable (Undisturbed s a)
  | .job a => inferInstanceAs (Decidable (WritesOpen s.core a ∧ CreatedLast s.core a))
  | .skip _ | .execute .. | .forget _ => inferInstanceAs (Decidable True)

instance (s : RelayState V) : ∀ a, Decidable (LeavesNoneBehind s a)
  | .execute run _ => inferInstanceAs (Decidable (∀ job ∈ run.jobs.head?.bind s.core.jobs.get,
      ∀ r ∈ s.core.jobs.rows, Before r.2 job → r.1 ∈ run.jobs ∨ s.Settled r.1))
  | .job _ | .skip _ | .forget _ => inferInstanceAs (Decidable True)

instance (s : RelayState V) (a : RelayAction V) : Decidable (InTurn s a) :=
  inferInstanceAs (Decidable (_ ∧ _))

/-! ## Creation order -/

theorem Before.congr {job₁ job₁' job₂ job₂' : Job V} (h₁ : job₁.Same job₁') (h₂ : job₂.Same job₂') :
    Before job₁' job₂' ↔ Before job₁ job₂ := by
  rw [Before, Before, isRelayJob_same h₁, isRelayJob_same h₂, h₁.meterId, h₂.meterId, h₁.createdAt,
    h₂.createdAt]

/-- No job comes after a newer one of its meter. -/
def CreationOrder (s : JobState V) (ids : List Int) : Prop :=
  ids.Pairwise fun i j => ∀ a ∈ s.jobs.get i, ∀ b ∈ s.jobs.get j, ¬ Before b a

theorem CreationOrder.step {s t : JobState V} {a : JobAction V} {ids : List Int}
    (h : CreationOrder s ids) (hrows : ∀ id ∈ ids, s.HasRow id) (step : RowStep s t a) :
    CreationOrder t ids := by
  refine List.Pairwise.imp_of_mem ?_ h
  intro i j hi hj horder x' hx' y' hy' hbefore
  obtain ⟨x, hx⟩ := hrows i hi
  obtain ⟨y, hy⟩ := hrows j hj
  obtain ⟨x'', hx'', hsamex, -⟩ := step.kept hx
  obtain ⟨y'', hy'', hsamey, -⟩ := step.kept hy
  obtain rfl := Option.mem_unique hx' hx''
  obtain rfl := Option.mem_unique hy' hy''
  exact horder x hx y hy ((Before.congr hsamey hsamex).mp hbefore)

/-- A list sorted by a key in which older commands come first. -/
theorem CreationOrder.of_sorted {s : JobState V} {α : Type} [LinearOrder α] {key : Int × Job V → α}
    {rows : List (Int × Job V)} (found : ∀ r ∈ rows, s.jobs.get r.1 = some r.2)
    (sorted : rows.Pairwise fun a b => key a ≤ key b)
    (older : ∀ a ∈ rows, ∀ b ∈ rows, Before b.2 a.2 → key b < key a) :
    CreationOrder s (rows.map (·.1)) := by
  rw [CreationOrder, List.pairwise_map]
  refine List.Pairwise.imp_of_mem ?_ sorted
  intro a b ha hb hle x hx y hy hbefore
  obtain rfl := Option.mem_unique hx (found a ha)
  obtain rfl := Option.mem_unique hy (found b hb)
  exact absurd (older a ha b hb hbefore) hle.not_gt

theorem byCreation_lt {tie : Int → Nat} {a b : Int × Job V} (h : Before b.2 a.2) :
    byCreation tie b < byCreation tie a :=
  Prod.Lex.toLex_lt_toLex.mpr (.inl h.2.2.2)

theorem scheduledLast_lt {tie : Int → Nat} {a b : Int × Job V}
    (ha : isRelayJob a.2 = true → a.2.scheduledJobRunId = none)
    (hb : isRelayJob b.2 = true → b.2.scheduledJobRunId = none) (h : Before b.2 a.2) :
    scheduledLast tie b < scheduledLast tie a := by
  rw [scheduledLast, scheduledLast, ha h.2.1, hb h.1]
  exact Prod.Lex.toLex_lt_toLex.mpr (.inr ⟨rfl, byCreation_lt h⟩)

/-- The rows of a claim come in creation order. -/
theorem claimed_order {s : JobState V} {isCallHome : Int → Bool} {tie : Int → Nat}
    {claimant : Claimant} {rows : List (Int × Job V)} (claimable : Claimable s rows)
    (manual : ∀ {id job}, s.jobs.get id = some job → isRelayJob job = true →
      job.scheduledJobRunId = none)
    (eq : rows = priorityRows s isCallHome tie claimant ∨ rows = otherRows s isCallHome tie claimant) :
    CreationOrder s (rows.map (·.1)) := by
  have hfound : ∀ r ∈ rows, s.jobs.get r.1 = some r.2 := fun r hr => (claimable.queued r hr).1
  rcases eq with heq | heq
  · have hsorted : rows.Pairwise fun a b => byCreation tie a ≤ byCreation tie b := by
      rw [heq]
      cases claimant <;> exact orderBy_pairwise _ _ _
    exact .of_sorted hfound hsorted fun a _ b _ hbefore => byCreation_lt hbefore
  · have hsorted : rows.Pairwise fun a b => scheduledLast tie a ≤ scheduledLast tie b := by
      rw [heq]
      cases claimant <;> exact orderBy_pairwise _ _ _
    exact .of_sorted hfound hsorted fun a ha b hb hbefore =>
      scheduledLast_lt (manual (hfound a ha)) (manual (hfound b hb)) hbefore

/-- What is locked after a step was locked before, or is what a query returned. -/
theorem claiming_step {s t : JobState V} {a : JobAction V} (change : JobChange values s a t)
    {claiming : Claiming} (h : claiming ∈ t.claiming) :
    claiming ∈ s.claiming ∨ ∃ isCallHome tie claimant rows, Claimable s rows ∧
      (rows = priorityRows s isCallHome tie claimant ∨ rows = otherRows s isCallHome tie claimant) ∧
      claiming.ids = rows.map (·.1) := by
  cases change with
  | @asked claimant isCallHome tie rows eq claimable =>
    rcases List.mem_append.mp h with hold | hnew
    · exact .inl hold
    · obtain rfl := List.mem_singleton.mp hnew
      exact .inr ⟨isCallHome, tie, claimant, rows, claimable, .inl eq, rfl⟩
  | @askedAgain claimant isCallHome tie rows eq claimable =>
    rcases List.mem_append.mp h with hold | hnew
    · exact .inl hold
    · obtain rfl := List.mem_singleton.mp hnew
      exact .inr ⟨isCallHome, tie, claimant, rows, claimable, .inr eq, rfl⟩
  | claimed mem => exact .inl (List.mem_of_mem_erase h)
  | restarted => cases h
  | created | askedInVain | askedAgainInVain | worked | accepting | refused | reported | sweptStale
  | requeued | sweptExpired | expired | abandoned => exact .inl h

/-! ## Invariant -/

structure Ordered (s : RelayState V) : Prop where
  sound : Sound s.core
  manual : ∀ {id job}, s.core.jobs.get id = some job → isRelayJob job = true →
    job.scheduledJobRunId = none
  claiming : ∀ claiming ∈ s.core.claiming, CreationOrder s.core claiming.ids
  ahead : ∀ run ∈ s.runs, CreationOrder s.core run.jobs ∧
    ∀ id ∈ run.jobs, ∃ job, s.core.jobs.get id = some job ∧ isRelayJob job = true
  known : ∀ e ∈ s.executed, isRelayJob e.job = true ∧
    ∃ job, s.core.jobs.get e.jobId = some job ∧ e.job.Same job
  passed : ∀ e ∈ s.executed, ∀ id job, s.core.jobs.get id = some job → Before job e.job → s.Settled id
  order : s.executed.Pairwise fun e e' => ¬ Before e'.job e.job

theorem Ordered.initial :
    Ordered ({ core := { jobs := ⟨[], List.nodup_nil⟩ } } : RelayState V) where
  sound := .initial _
  manual := fun hget => (nomatch hget)
  claiming := fun _ h => (nomatch h)
  ahead := fun _ h => (nomatch h)
  known := fun _ h => (nomatch h)
  passed := fun _ h => (nomatch h)
  order := .nil

/-- A list of jobs that only loses jobs stays in order. -/
theorem Ordered.shorten {s : RelayState V} (h : Ordered s) {runs : List ControlRun}
    (from_old : ∀ run ∈ runs, ∃ old ∈ s.runs, run.jobs.Sublist old.jobs) :
    Ordered { s with runs := runs } where
  sound := h.sound
  manual := h.manual
  claiming := h.claiming
  ahead := fun run hrun => by
    obtain ⟨old, hold, hsub⟩ := from_old run hrun
    exact ⟨(h.ahead old hold).1.sublist hsub, fun id hid => (h.ahead old hold).2 id (hsub.subset hid)⟩
  known := h.known
  passed := fun e he id job hjob hbefore => by
    obtain ⟨hfinished, hout⟩ := h.passed e he id job hjob hbefore
    refine ⟨hfinished, fun run hrun hid => ?_⟩
    obtain ⟨old, hold, hsub⟩ := from_old run hrun
    exact hout old hold (hsub.subset hid)
  order := h.order

theorem replace_shorter {s : RelayState V} {run : ControlRun} {jobs : List Int} (hrun : run ∈ s.runs)
    (hsub : jobs.Sublist run.jobs) :
    ∀ run' ∈ (s.replace run jobs).runs, ∃ old ∈ s.runs, run'.jobs.Sublist old.jobs := by
  intro run' hrun'
  rcases List.mem_append.mp hrun' with hold | hnew
  · exact ⟨run', List.mem_of_mem_erase hold, .refl _⟩
  · obtain rfl := List.mem_singleton.mp hnew
    exact ⟨run, hrun, hsub⟩

/-! ## Steps -/

/-- The jobs a claim begins with were locked, so none of them is finished. -/
theorem begun_jobs {s t : JobState V} {a : JobAction V}
    (change : JobChange values s a t) {run : ControlRun} (h : run ∈ begun s a) :
    ∃ claiming ∈ s.claiming, run.jobs = claiming.ids.filter s.isRelayRow := by
  cases change with
  | @claimed claiming now mem =>
    rw [begun] at h
    split at h
    · obtain rfl := List.mem_singleton.mp h
      exact ⟨claiming, mem, rfl⟩
    · cases h
  | created | askedInVain | asked | askedAgainInVain | askedAgain | worked | accepting | refused
  | reported | sweptStale | requeued | sweptExpired | expired | abandoned | restarted => cases h

theorem isRelayRow_iff {s : JobState V} {id : Int} :
    s.isRelayRow id = true ↔ ∃ job, s.jobs.get id = some job ∧ isRelayJob job = true :=
  Option.any_eq_true _ _

theorem Ordered.job {s : RelayState V} {a : JobAction V} {core : JobState V} (h : Ordered s)
    (hmay : mayTake s a = true) (cond : WritesOpen s.core a ∧ CreatedLast s.core a)
    (change : JobChange values s.core a core) :
    Ordered { s with core := core, runs := s.runs ++ begun s.core a } := by
  have hrow := h.sound.rowStep cond.1 change
  have hlockedRow : ∀ claiming ∈ s.core.claiming, ∀ id ∈ claiming.ids, s.core.HasStatus .queued id :=
    fun claiming hclaiming id hid =>
      h.sound.locked id (List.mem_flatMap.mpr ⟨claiming, hclaiming, hid⟩)
  have hmanual : ∀ {id job}, core.jobs.get id = some job → isRelayJob job = true →
      job.scheduledJobRunId = none := by
    intro id job hjob hrelay
    rcases hget : s.core.jobs.get id with _ | old
    · obtain rfl := hrow.born hjob hget
      exact of_decide_eq_true hmay hrelay
    · obtain ⟨job', hjob', hsame, -⟩ := hrow.kept hget
      obtain rfl := Option.some.inj (hjob.symm.trans hjob')
      rw [hsame.scheduledJobRunId]
      exact h.manual hget ((isRelayJob_same hsame).symm.trans hrelay)
  -- A job an executed command knows about keeps its type and time.
  have hsettled : ∀ {id}, s.Settled id →
      RelayState.Settled { s with core := core, runs := s.runs ++ begun s.core a } id := by
    rintro id ⟨⟨job, hjob, hterminal⟩, hout⟩
    refine ⟨⟨job, hrow.finalRows id job hjob hterminal, hterminal⟩, fun run hrun hid => ?_⟩
    rcases List.mem_append.mp hrun with hold | hnew
    · exact hout run hold hid
    · obtain ⟨claiming, hclaiming, hjobs⟩ := begun_jobs change hnew
      rw [hjobs] at hid
      exact Finished.not_hasStatus ⟨job, hjob, hterminal⟩ rfl
        (hlockedRow claiming hclaiming id (List.mem_filter.mp hid).1)
  refine ⟨h.sound.step change, hmanual, ?_, ?_, ?_, ?_, h.order⟩
  · intro claiming hclaiming
    rcases claiming_step change hclaiming with hold | ⟨isCallHome, tie, claimant, rows, hclaimable,
      heq, hids⟩
    · exact (h.claiming claiming hold).step
        (fun id hid => HasStatus.hasRow (hlockedRow claiming hold id hid)) hrow
    · rw [hids]
      refine (claimed_order hclaimable h.manual heq).step (fun id hid => ?_) hrow
      obtain ⟨r, hr, rfl⟩ := List.mem_map.mp hid
      exact ⟨r.2, (hclaimable.queued r hr).1⟩
  · intro run hrun
    have hbefore : CreationOrder s.core run.jobs ∧
        ∀ id ∈ run.jobs, ∃ job, s.core.jobs.get id = some job ∧ isRelayJob job = true := by
      rcases List.mem_append.mp hrun with hold | hnew
      · exact h.ahead run hold
      · obtain ⟨claiming, hclaiming, hjobs⟩ := begun_jobs change hnew
        rw [hjobs]
        exact ⟨(h.claiming claiming hclaiming).sublist List.filter_sublist,
          fun id hid => isRelayRow_iff.mp (List.mem_filter.mp hid).2⟩
    refine ⟨hbefore.1.step (fun id hid => ?_) hrow, fun id hid => ?_⟩
    · obtain ⟨job, hjob, -⟩ := hbefore.2 id hid
      exact ⟨job, hjob⟩
    · obtain ⟨job, hjob, hrelay⟩ := hbefore.2 id hid
      obtain ⟨job', hjob', hsame, -⟩ := hrow.kept hjob
      exact ⟨job', hjob', (isRelayJob_same hsame).trans hrelay⟩
  · intro e he
    obtain ⟨hrelay, job, hjob, hsame⟩ := h.known e he
    obtain ⟨job', hjob', hsame', -⟩ := hrow.kept hjob
    exact ⟨hrelay, job', hjob', hsame.trans hsame'⟩
  · intro e he id job hjob hbefore
    rcases hget : s.core.jobs.get id with _ | old
    -- A job that is made now is not older than a job that is there.
    · obtain rfl := hrow.born hjob hget
      obtain ⟨-, row, hfound, hsame⟩ := h.known e he
      exact absurd ((Before.congr (.refl job) hsame).mpr hbefore)
        (cond.2 (e.jobId, row) (Table.get_eq_some.mp hfound))
    · obtain ⟨job', hjob', hsame, -⟩ := hrow.kept hget
      obtain rfl := Option.some.inj (hjob.symm.trans hjob')
      exact hsettled (h.passed e he id old hget ((Before.congr hsame (.refl _)).mp hbefore))

/-- The command at the head of a list goes out. -/
theorem Ordered.execute {s : RelayState V} {run : ControlRun} {jobId : Int} {rest : List Int}
    {job : Job V} {effect : Bool} (h : Ordered s) (hrun : run ∈ s.runs) (hjobs : run.jobs = jobId :: rest)
    (hjob : s.core.jobs.get jobId = some job)
    (hbehind : ∀ r ∈ s.core.jobs.rows, Before r.2 job → r.1 ∈ run.jobs ∨ s.Settled r.1) :
    Ordered ((s.replace run rest).execute run.claim jobId job effect) := by
  have hshort := h.shorten (replace_shorter hrun (hjobs ▸ List.sublist_cons_self jobId rest))
  obtain ⟨horder, hrelays⟩ := h.ahead run hrun
  have hhead : jobId ∈ run.jobs := hjobs ▸ List.mem_cons_self
  have hrelay : isRelayJob job = true := by
    obtain ⟨job', hjob', hrelay⟩ := hrelays jobId hhead
    obtain rfl := Option.some.inj (hjob.symm.trans hjob')
    exact hrelay
  refine ⟨h.sound, h.manual, h.claiming, hshort.ahead, ?_, ?_, ?_⟩
  · intro e he
    rcases List.mem_append.mp he with hold | hnew
    · exact h.known e hold
    · obtain rfl := List.mem_singleton.mp hnew
      exact ⟨hrelay, job, hjob, .refl job⟩
  · intro e he id older hget hbefore
    rcases List.mem_append.mp he with hold | hnew
    · exact hshort.passed e hold id older hget hbefore
    obtain rfl := List.mem_singleton.mp hnew
    rcases hbehind (id, older) (Table.get_eq_some.mp hget) hbefore with hlater | ⟨hfinished, hout⟩
    -- What comes later in a list is not older: its claim has sorted it.
    · rw [hjobs, List.mem_cons] at hlater
      rcases hlater with rfl | hlater
      · obtain rfl := Option.some.inj (hjob.symm.trans hget)
        exact absurd hbefore.2.2.2 (lt_irrefl _)
      · rw [hjobs] at horder
        exact absurd hbefore ((List.pairwise_cons.mp horder).1 id hlater job hjob older hget)
    · refine ⟨hfinished, fun run' hrun' hid => ?_⟩
      obtain ⟨old, hold, hsub⟩ :=
        replace_shorter hrun (hjobs ▸ List.sublist_cons_self jobId rest) run' hrun'
      exact hout old hold (hsub.subset hid)
  · refine List.pairwise_append.mpr ⟨h.order, List.pairwise_singleton _ _, fun e he e' he' hbefore => ?_⟩
    obtain rfl := List.mem_singleton.mp he'
    exact (h.passed e he jobId job hjob hbefore).2 run hrun hhead

theorem Ordered.step {s t : RelayState V} {a : RelayAction V} (h : Ordered s) (cond : InTurn s a)
    (next : relayStep values s a = some t) : Ordered t := by
  cases a with
  | job a =>
    rcases ite_eq_iff.mp next with ⟨hmay, next⟩ | ⟨_, next⟩
    · obtain ⟨core, hcore, rfl⟩ := Option.map_eq_some_iff.mp next
      exact h.job hmay cond.1 (jobStep_change hcore)
    · cases next
  | skip run =>
    rcases run with ⟨claim, _ | ⟨jobId, rest⟩⟩
    · cases next
    rcases ite_eq_iff.mp next with ⟨hrun, next⟩ | ⟨_, next⟩
    · obtain rfl := Option.some.inj next
      exact h.shorten (replace_shorter hrun (List.sublist_cons_self jobId rest))
    · cases next
  | execute run effect =>
    rcases run with ⟨claim, _ | ⟨jobId, rest⟩⟩
    · cases next
    dsimp only [relayStep] at next
    rcases hget : s.core.jobs.get jobId with _ | job <;> rw [hget] at next
    · cases next
    rcases ite_eq_iff.mp next with ⟨hrun, next⟩ | ⟨_, next⟩
    · obtain rfl := Option.some.inj next
      exact h.execute hrun rfl hget (cond.2 job hget)
    · cases next
  | forget run =>
    obtain rfl := Option.some.inj next
    exact h.shorten fun run' hrun' => ⟨run', List.mem_of_mem_erase hrun', .refl _⟩

/-! ## The relay -/

/-- The relay stands where the last command it obeyed has put it. -/
def Obedient (s : RelayState V) : Prop :=
  ∀ meterId, s.relay meterId = (s.obeyed meterId).getLast?.map (·.job.jobType)

theorem Obedient.execute {s : RelayState V} (h : Obedient s) (claim : Nat) (jobId : Int) (job : Job V)
    (effect : Bool) : Obedient (s.execute claim jobId job effect) := by
  intro meterId
  have hobeyed : (s.execute claim jobId job effect).obeyed meterId = s.obeyed meterId ++
      if effect ∧ job.meterId = meterId then [⟨claim, jobId, job, effect⟩] else [] := by
    rw [RelayState.obeyed, RelayState.execute, List.filter_append, List.filter_singleton,
      Bool.cond_decide]
    rfl
  rw [hobeyed]
  show (if effect = true ∧ job.meterId = meterId then some job.jobType else s.relay meterId) = _
  split
  · rw [List.getLast?_concat]
    rfl
  · rw [List.append_nil]
    exact h meterId

theorem Obedient.step {s t : RelayState V} {a : RelayAction V} (h : Obedient s)
    (next : relayStep values s a = some t) : Obedient t := by
  cases a with
  | job a =>
    rcases ite_eq_iff.mp next with ⟨_, next⟩ | ⟨_, next⟩
    · obtain ⟨core, _, rfl⟩ := Option.map_eq_some_iff.mp next
      exact h
    · cases next
  | skip run =>
    rcases run with ⟨claim, _ | ⟨jobId, rest⟩⟩
    · cases next
    rcases ite_eq_iff.mp next with ⟨_, next⟩ | ⟨_, next⟩
    · obtain rfl := Option.some.inj next
      exact h
    · cases next
  | execute run effect =>
    rcases run with ⟨claim, _ | ⟨jobId, rest⟩⟩
    · cases next
    dsimp only [relayStep] at next
    rcases hget : s.core.jobs.get jobId with _ | job <;> rw [hget] at next
    · cases next
    rcases ite_eq_iff.mp next with ⟨_, next⟩ | ⟨_, next⟩
    · obtain rfl := Option.some.inj next
      exact Obedient.execute (s := s.replace ⟨claim, jobId :: rest⟩ rest) h claim jobId job effect
    · cases next
  | forget run =>
    obtain rfl := Option.some.inj next
    exact h

/-- The relay stands where the newest of the commands it obeyed has put it. -/
def RelayState.ShowsNewest (s : RelayState V) (meterId : Int) : Prop :=
  s.obeyed meterId ≠ [] → ∃ newest ∈ s.obeyed meterId,
    s.relay meterId = some newest.job.jobType ∧
    ∀ e ∈ s.obeyed meterId, e.job.createdAt ≤ newest.job.createdAt

theorem Ordered.showsNewest {s : RelayState V} (h : Ordered s) (obedient : Obedient s)
    (meterId : Int) : s.ShowsNewest meterId := by
  intro hsome
  obtain ⟨before, newest, hlast⟩ := (List.eq_nil_or_concat' (s.obeyed meterId)).resolve_left hsome
  have hmem : ∀ e ∈ s.obeyed meterId, isRelayJob e.job = true ∧ e.job.meterId = meterId := by
    intro e he
    obtain ⟨hexecuted, hobeyed⟩ := List.mem_filter.mp he
    exact ⟨(h.known e hexecuted).1, (of_decide_eq_true hobeyed).2⟩
  have hsorted : (s.obeyed meterId).Pairwise fun e e' => ¬ Before e'.job e.job :=
    h.order.sublist List.filter_sublist
  rw [hlast] at hsorted hmem
  refine ⟨newest, ?_, ?_, ?_⟩
  · rw [hlast]
    exact List.mem_concat_self
  · rw [obedient meterId, hlast, List.getLast?_concat]
    rfl
  · rw [hlast]
    intro e he
    rcases List.mem_append.mp he with hold | hnew
    · by_contra hlater
      obtain ⟨hrelay, hmeter⟩ := hmem e he
      obtain ⟨hrelay', hmeter'⟩ := hmem newest List.mem_concat_self
      exact (List.pairwise_append.mp hsorted).2.2 e hold newest (List.mem_singleton.mpr rfl)
        ⟨hrelay', hrelay, hmeter'.trans hmeter.symm, not_le.mp hlater⟩
    · rw [List.mem_singleton.mp hnew]

/-! ## Every run -/

/-- In every run in which no finished row is written, no relay job is committed behind a newer one
    of its meter, and no command goes out over an older one that is left behind, commands go out in
    the order their jobs were created, and each relay stands where the newest has put it. -/
theorem relay_order {actions : List (RelayAction V)} {s : RelayState V}
    (run : Run (relayStep values) InTurn { core := { jobs := ⟨[], List.nodup_nil⟩ } } actions s) :
    (s.executed.Pairwise fun e e' => ¬ Before e'.job e.job) ∧ ∀ meterId, s.ShowsNewest meterId := by
  have hordered : Ordered s := run.invariant .initial fun inv cond next => inv.step cond next
  have hobedient : Obedient s :=
    run.invariant (fun _ => rfl) fun inv _ next => Obedient.step inv next
  exact ⟨hordered.order, hordered.showsNewest hobedient⟩

/-! ### A command left behind -/

def relayJob (jobType : JobType) (createdAt : Int) : Job Nat where
  jobType := jobType
  meterId := 7
  createdAt := createdAt

/-- The Gateway claims these jobs of meter 7. -/
def claimRelays (ids : List Int) (now : Int) : List (RelayAction Nat) :=
  [.job (.ask (.gateway 7 [.disconnect, .reconnect] 50) (fun _ => true) Int.toNat),
    .job (.commitClaim ⟨true, ids⟩ now)]

/-- It sends the first command of the list, and reports that it was obeyed. -/
def obey (claim : Nat) (id : Int) (rest : List Int) (operation : String) (since : Int) :
    List (RelayAction Nat) :=
  [.execute ⟨claim, id :: rest⟩ true, .job (.reportSelect ⟨claim, id, true, since⟩ 7),
    .job (.reportCommit ⟨claim, id, true, since⟩ (.disconnect operation true none none) since)]

/-- Two relay commands of a meter that one claim takes are executed in the order of their creation.
    -/
theorem relay_order_one_claim : ∃ s : RelayState Nat,
    s.executed.map (·.jobId) = [1, 2] ∧ s.relay 7 = some .reconnect ∧
    (s.executed.Pairwise fun e e' => ¬ Before e'.job e.job) ∧ ∀ meterId, s.ShowsNewest meterId := by
  have hexec : ((exec (guarded (relayStep plainValues) InTurn)
      { core := { jobs := ⟨[], List.nodup_nil⟩ } }
      ([.job (.create 1 (relayJob .disconnect 10)), .job (.create 2 (relayJob .reconnect 20))] ++
        claimRelays [1, 2] 30 ++ obey 0 1 [2] "disconnect" 30 ++ obey 0 2 [] "reconnect" 30)).map
        fun s => (s.executed.map (·.jobId), s.relay 7)) = some ([1, 2], some .reconnect) := by decide
  obtain ⟨s, hrun, hresult⟩ := Option.map_eq_some_iff.mp hexec
  exact ⟨s, (Prod.mk.inj hresult).1, (Prod.mk.inj hresult).2, relay_order (Run.of_guarded hrun)⟩

/-- No connection comes for the disconnection; it stays `RUNNING` while the reconnection made after
    it is claimed and obeyed, is put back by the timer, and comes up again. -/
theorem disconnected_last :
    ¬ ∀ (actions : List (RelayAction Nat)) (s : RelayState Nat),
      Run (relayStep plainValues) Undisturbed { core := { jobs := ⟨[], List.nodup_nil⟩ } } actions s →
      (s.executed.Pairwise fun e e' => ¬ Before e'.job e.job) ∧ ∀ meterId, s.ShowsNewest meterId := by
  intro h
  have hexec : ((exec (guarded (relayStep plainValues) Undisturbed)
      { core := { jobs := ⟨[], List.nodup_nil⟩ } }
      ([.job (.create 1 (relayJob .disconnect 10))] ++ claimRelays [1] 20 ++ [.skip ⟨0, [1]⟩,
        .job (.create 2 (relayJob .reconnect 30))] ++ claimRelays [2] 40 ++ obey 1 2 [] "reconnect" 40 ++
        [.job (.requeueSelect 400), .job (.requeueCommit [1])] ++ claimRelays [1] 410 ++
        obey 2 1 [] "disconnect" 410)).map
        fun s => s.executed.map (·.job)) =
      some [(relayJob .reconnect 30).start 40, (relayJob .disconnect 10).start 410] := by decide
  obtain ⟨s, hrun, hresult⟩ := Option.map_eq_some_iff.mp hexec
  have horder : (s.executed.map (·.job)).Pairwise fun job job' => ¬ Before job' job :=
    List.pairwise_map.mpr (h _ s (Run.of_guarded hrun)).1
  rw [hresult] at horder
  exact absurd horder (by decide)

end RiseSun.Backend
