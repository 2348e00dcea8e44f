/-
  What the steps of the parties do to the rows of jobs.

  1. **Rows** — which status a row has, and how the writes of a sweep and of a claim are read.

  2. **Sound** — what holds whatever the parties do: rows a claim has locked are queued and apart, and
     what is in hand or was read is about a job that is there.

  3. **Open writes** (`WritesOpen`) — the condition that nobody writes a row that is finished.  Under
     it a step keeps who a job is, and finished rows as they are (`RowStep`), and stores at most one
     reading, with the end of its job (`stored_cases`).
-/
import RiseSun.Backend.JobMachine

namespace RiseSun.Backend

open Machine

variable {V : Type} {values : Values V} {s t : JobState V}

/-! ## Rows -/

def JobState.HasStatus (s : JobState V) (status : JobStatus) (id : Int) : Prop :=
  ∃ job ∈ s.jobs.get id, job.status = status

def JobState.Finished (s : JobState V) (id : Int) : Prop :=
  ∃ job ∈ s.jobs.get id, job.status.isTerminal = true

instance (s : JobState V) (status : JobStatus) (id : Int) : Decidable (s.HasStatus status id) :=
  inferInstanceAs (Decidable (∃ job ∈ s.jobs.get id, job.status = status))

instance (s : JobState V) (id : Int) : Decidable (s.Finished id) :=
  inferInstanceAs (Decidable (∃ job ∈ s.jobs.get id, job.status.isTerminal = true))

/-- A row has one status, so two statuses found for the same id are equal. -/
theorem HasStatus.unique {status status' : JobStatus} {id : Int} (h : s.HasStatus status id)
    (h' : s.HasStatus status' id) : status = status' := by
  obtain ⟨job, hjob, rfl⟩ := h
  obtain ⟨job', hjob', rfl⟩ := h'
  rw [Option.mem_unique hjob hjob']

/-- A row that is finished has none of the open statuses. -/
theorem Finished.not_hasStatus {status : JobStatus} {id : Int} (h : s.Finished id)
    (hopen : status.isTerminal = false) : ¬ s.HasStatus status id := by
  rintro ⟨job, hjob, rfl⟩
  obtain ⟨job', hjob', hterminal⟩ := h
  rw [Option.mem_unique hjob hjob'] at hopen
  rw [hopen] at hterminal
  cases hterminal

/-- A row that is the same has the same status. -/
theorem HasStatus.of_get {status : JobStatus} {id : Int} (h : s.HasStatus status id)
    (hget : t.jobs.get id = s.jobs.get id) : t.HasStatus status id := by
  obtain ⟨job, hjob, hstatus⟩ := h
  exact ⟨job, hget ▸ hjob, hstatus⟩

/-- A row that is the same is finished if it was. -/
theorem Finished.of_get {id : Int} (h : s.Finished id) (hget : t.jobs.get id = s.jobs.get id) :
    t.Finished id := by
  obtain ⟨job, hjob, hterminal⟩ := h
  exact ⟨job, hget ▸ hjob, hterminal⟩

/-- The ids that a query selects are those of the rows it asks for. -/
theorem mem_idsWhere {p : Job V → Bool} {jobs : Table Int (Job V)} {id : Int} :
    id ∈ idsWhere p jobs ↔ ∃ job ∈ jobs.get id, p job = true := by
  rw [idsWhere, List.mem_map]
  constructor
  · rintro ⟨⟨id', job⟩, hmem, rfl⟩
    rw [List.mem_filter] at hmem
    exact ⟨job, Table.get_eq_some.mpr hmem.1, hmem.2⟩
  · rintro ⟨job, hget, hp⟩
    exact ⟨(id, job), List.mem_filter.mpr ⟨Table.get_eq_some.mp hget, hp⟩, rfl⟩

/-- The ids that a query selects are different, because the ids of the table are. -/
theorem idsWhere_nodup (p : Job V → Bool) (jobs : Table Int (Job V)) : (idsWhere p jobs).Nodup :=
  jobs.keys.sublist (List.Sublist.map _ List.filter_sublist)

/-- The sweep selects the rows that are `RUNNING`. -/
theorem mem_running {id : Int} : id ∈ idsWhere isRunning s.jobs ↔ s.HasStatus .running id := by
  rw [mem_idsWhere]
  exact exists_congr fun job => and_congr_right fun _ => decide_eq_true_iff

/-- A write of some rows changes those and no others. -/
theorem get_writeAll (ids : List Int) (f : Job V → Job V) (jobs : Table Int (Job V)) (id : Int) :
    (writeAll ids f jobs).get id = if id ∈ ids then (jobs.get id).map f else jobs.get id := by
  rw [writeAll, Table.get_modify]
  split
  · rfl
  · exact Option.map_id'

/-- A claim starts the rows it has locked, and no others. -/
theorem get_startAll (ids : List Int) (now : Int) (jobs : Table Int (Job V)) (id : Int) :
    (startAll ids now jobs).get id =
      if id ∈ ids then (jobs.get id).map (·.start now) else jobs.get id :=
  get_writeAll ids (·.start now) jobs id

/-- The reaper leaves alone what is not `RUNNING`. -/
theorem Job.reap_of_ne {job : Job V} (h : job.status ≠ .running) (now : Int) : job.reap now = job :=
  if_neg h

/-- A job that a restart has failed is still the same job, with its meter, type and run. -/
theorem Job.same_reap (job : Job V) (now : Int) : job.Same (job.reap now) := by
  rw [Job.reap]
  split
  · exact ⟨rfl, rfl, rfl, rfl, rfl⟩
  · exact .refl job

/-- A status at the end of a job differs from every open one. -/
theorem JobStatus.ne_of_terminal {status other : JobStatus} (h : status.isTerminal = true)
    (hopen : other.isTerminal = false) : status ≠ other := by
  rintro rfl
  rw [hopen] at h
  cases h

/-- The rows of a claim, apart from those of all others. -/
theorem lockedIds_perm {claiming : Claiming} (mem : claiming ∈ s.claiming) :
    s.lockedIds.Perm (claiming.ids ++ (s.claiming.erase claiming).flatMap (·.ids)) :=
  (List.perm_cons_erase mem).flatMap_right _

/-- A lock adds the rows it takes to those that are locked. -/
theorem lockedIds_lock (s : JobState V) (claimant : Claimant) (rows : List (Int × Job V)) :
    (s.lock claimant rows).lockedIds = s.lockedIds ++ rows.map (·.1) := by
  rw [JobState.lockedIds, JobState.lock, List.flatMap_append, List.flatMap_singleton]
  rfl

/-- What is not locked is in nobody's hands. -/
theorem not_mem_lockedIds {id : Int} (h : s.locked id = false) : id ∉ s.lockedIds :=
  of_decide_eq_false h

/-! ## What holds in any case -/

/-- The table has a row of this job. -/
def JobState.HasRow (s : JobState V) (id : Int) : Prop := ∃ job, s.jobs.get id = some job

/-- What holds whatever the parties do: locked rows are queued and locked once, and what is in hand
    is about rows that are there. -/
structure Sound (s : JobState V) : Prop where
  locked : ∀ id ∈ s.lockedIds, s.HasStatus .queued id
  apart : s.lockedIds.Nodup
  holds : ∀ h ∈ s.holds, s.HasRow h.jobId
  readings : ∀ r ∈ s.readings, s.HasRow r.1

/-- A job whose status is known has a row in the table. -/
theorem HasStatus.hasRow {status : JobStatus} {id : Int} (h : s.HasStatus status id) :
    s.HasRow id := by
  obtain ⟨job, hjob, -⟩ := h
  exact ⟨job, hjob⟩

/-- A job that is finished has a row in the table. -/
theorem Finished.hasRow {id : Int} (h : s.Finished id) : s.HasRow id := by
  obtain ⟨job, hjob, -⟩ := h
  exact ⟨job, hjob⟩

/-- No step of the jobs removes a row from the table. -/
theorem HasRow.step {a : JobAction V} {id : Int} (h : s.HasRow id) (change : JobChange values s a t) :
    t.HasRow id := by
  obtain ⟨job, hjob⟩ := h
  have hwrite : ∀ {ids : List Int} {f : Job V → Job V},
      ∃ job', (writeAll ids f s.jobs).get id = some job' := by
    intro ids f
    rw [get_writeAll, hjob]
    split
    · exact ⟨_, rfl⟩
    · exact ⟨_, rfl⟩
  have hfinish : ∀ {hold : Hold} {outcome : JobEnd V} {now : Int} {job' : Job V},
      (s.finish values now hold job' outcome).HasRow id := by
    intro hold outcome now job'
    rcases eq_or_ne id hold.jobId with rfl | hne
    · exact ⟨_, (Table.get_update_self _ _ _).trans (congrArg _ hjob)⟩
    · exact ⟨_, (Table.get_update_ne _ hne _).trans hjob⟩
  cases change with
  | @created id' job' new queued =>
    refine ⟨job, (Table.get_insert_ne _ _ new ?_).trans hjob⟩
    rintro rfl
    rw [new] at hjob
    cases hjob
  | claimed mem => exact hwrite
  | worked => exact hfinish
  | reported => exact hfinish
  | requeued => exact hwrite
  | expired => exact hwrite
  | restarted => exact ⟨_, (Table.get_modify _ _ _).trans (congrArg _ hjob)⟩
  | askedInVain | asked | askedAgainInVain | askedAgain | accepting | refused | sweptStale
  | sweptExpired | abandoned => exact ⟨job, hjob⟩

/-- A job is created under a new id, and nothing else happens. -/
theorem created_new {id : Int} {job : Job V} (change : JobChange values s (.create id job) t) :
    s.jobs.get id = none ∧ t.readings = s.readings ∧ t.holds = s.holds := by
  cases change with
  | created new queued => exact ⟨new, rfl, rfl⟩

/-- The rows there were, and the new one. -/
theorem created_row {id : Int} {job : Job V} (change : JobChange values s (.create id job) t)
    {id' : Int} {job' : Job V} (hget : t.jobs.get id' = some job') :
    id' ≠ id ∧ s.jobs.get id' = some job' ∨ id' = id ∧ job' = job := by
  cases change with
  | created new queued =>
    rcases eq_or_ne id' id with rfl | hne
    · rw [Table.get_insert_self] at hget
      exact .inr ⟨rfl, (Option.some.inj hget).symm⟩
    · exact .inl ⟨hne, (Table.get_insert_ne _ _ new hne).symm.trans hget⟩

/-- Rows a claim has locked stay queued: whoever writes a row waits for it. -/
theorem Sound.locked_step {a : JobAction V} (h : Sound s) (change : JobChange values s a t) :
    ∀ id ∈ t.lockedIds, t.HasStatus .queued id := by
  have hwrite : ∀ {ids : List Int} {f : Job V → Job V} {id : Int}, (∀ i ∈ ids, s.locked i = false) →
      id ∈ s.lockedIds → (writeAll ids f s.jobs).get id = s.jobs.get id := by
    intro ids f id hfree hid
    rw [get_writeAll, if_neg fun hmem => not_mem_lockedIds (hfree id hmem) hid]
  have hfinish : ∀ {hold : Hold} {outcome : JobEnd V} {now : Int} {job : Job V},
      s.locked hold.jobId = false → ∀ id ∈ s.lockedIds,
        (s.finish values now hold job outcome).HasStatus .queued id := by
    intro hold outcome now job hfree id hid
    refine HasStatus.of_get (h.locked id hid) (Table.get_update_ne _ ?_ _)
    rintro rfl
    exact not_mem_lockedIds hfree hid
  have hlock : ∀ {claimant : Claimant} {rows : List (Int × Job V)}, Claimable s rows →
      ∀ id ∈ (s.lock claimant rows).lockedIds, s.HasStatus .queued id := by
    intro claimant rows claimable id hid
    rw [lockedIds_lock, List.mem_append] at hid
    rcases hid with hold | hnew
    · exact h.locked id hold
    · obtain ⟨r, hr, rfl⟩ := List.mem_map.mp hnew
      exact ⟨r.2, (claimable.queued r hr).1, (claimable.queued r hr).2.1⟩
  intro id hid
  cases change with
  | @created id' job new queued =>
    refine HasStatus.of_get (h.locked id hid) (Table.get_insert_ne _ _ new ?_)
    rintro rfl
    obtain ⟨job', hjob'⟩ := HasStatus.hasRow (h.locked _ hid)
    rw [new] at hjob'
    cases hjob'
  | asked eq claimable => exact hlock claimable id hid
  | askedAgain eq claimable => exact hlock claimable id hid
  | @claimed claiming now mem =>
    have hperm := lockedIds_perm mem
    have hout : id ∉ claiming.ids := fun hin =>
      (List.nodup_append.mp (hperm.nodup_iff.mp h.apart)).2.2 id hin id hid rfl
    exact HasStatus.of_get (h.locked id (hperm.mem_iff.mpr (List.mem_append_right _ hid)))
      ((get_startAll _ now _ _).trans (if_neg hout))
  | worked found mem worker free may => exact hfinish free id hid
  | reported found mem reporting free may => exact hfinish free id hid
  | requeued mem free => exact HasStatus.of_get (h.locked id hid) (hwrite free hid)
  | expired mem free => exact HasStatus.of_get (h.locked id hid) (hwrite free hid)
  | restarted => exact nomatch hid
  | askedInVain | askedAgainInVain | accepting | refused | sweptStale | sweptExpired | abandoned =>
    exact h.locked id hid

/-- No row is locked twice: a second claim skips what the first one has locked. -/
theorem Sound.apart_step {a : JobAction V} (h : Sound s) (change : JobChange values s a t) :
    t.lockedIds.Nodup := by
  have hlock : ∀ {claimant : Claimant} {rows : List (Int × Job V)}, Claimable s rows →
      (s.lock claimant rows).lockedIds.Nodup := by
    intro claimant rows claimable
    rw [lockedIds_lock]
    refine h.apart.append claimable.nodup fun id hid hnew => ?_
    obtain ⟨r, hr, rfl⟩ := List.mem_map.mp hnew
    exact not_mem_lockedIds (claimable.queued r hr).2.2 hid
  cases change with
  | asked eq claimable => exact hlock claimable
  | askedAgain eq claimable => exact hlock claimable
  | claimed mem =>
    exact (List.nodup_append.mp ((lockedIds_perm mem).nodup_iff.mp h.apart)).2.1
  | restarted => exact List.nodup_nil
  | created | askedInVain | askedAgainInVain | worked | accepting | refused | reported | sweptStale
  | requeued | sweptExpired | expired | abandoned => exact h.apart

/-- A job in hand was in hand before, or was locked. -/
theorem holds_step {a : JobAction V} (change : JobChange values s a t) {h : Hold} (hh : h ∈ t.holds) :
    h ∈ s.holds ∨ ∃ claiming now, a = .commitClaim claiming now ∧ claiming ∈ s.claiming ∧
      h.jobId ∈ claiming.ids ∧ h.since = now := by
  cases change with
  | @claimed claiming now mem =>
    rcases List.mem_append.mp hh with hold | hnew
    · exact .inl hold
    · obtain ⟨id, hid, rfl⟩ := List.mem_map.mp hnew
      exact .inr ⟨claiming, now, rfl, mem, hid, rfl⟩
  | worked | refused | reported | abandoned => exact .inl (List.mem_filter.mp hh).1
  | restarted => exact .inl (List.mem_filter.mp hh).1
  | created | askedInVain | asked | askedAgainInVain | askedAgain | accepting | sweptStale
  | requeued | sweptExpired | expired => exact .inl hh

/-- A reading was stored before, or it comes with the end of a job that is in hand. -/
theorem stored_cases {a : JobAction V} (change : JobChange values s a t) :
    t.readings = s.readings ∨ ∃ hold job outcome obis readAt now,
      hold ∈ s.holds ∧ s.jobs.get hold.jobId = some job ∧
      (a = .work hold (.readCurrent outcome obis readAt) now ∨
        a = .reportCommit hold (.readCurrent outcome obis readAt) now) ∧
      t.readings = s.readings ++ [(hold.jobId, ⟨job.meterId, obis, outcome.value, readAt⟩)] ∧
      (job.jobType = .readCurrent ∧ job.payload.obis = some obis ∨
        job.jobType = .readRelayState ∧ obis = relayStateObis) ∧
      t.Finished hold.jobId := by
  have hfinish : ∀ {hold : Hold} {outcome : JobEnd V} {now : Int} {job : Job V},
      s.jobs.get hold.jobId = some job → workerMayEnd job outcome = true →
      (s.finish values now hold job outcome).readings = s.readings ∨
        ∃ result obis readAt, outcome = .readCurrent result obis readAt ∧
          (s.finish values now hold job outcome).readings =
            s.readings ++ [(hold.jobId, ⟨job.meterId, obis, result.value, readAt⟩)] ∧
          (job.jobType = .readCurrent ∧ job.payload.obis = some obis ∨
            job.jobType = .readRelayState ∧ obis = relayStateObis) ∧
          (s.finish values now hold job outcome).Finished hold.jobId := by
    intro hold outcome now job found may
    have hplain : (outcome.apply values now job).2 = none →
        (s.finish values now hold job outcome).readings = s.readings := by
      intro hnone
      rw [JobState.finish, hnone]
      exact List.append_nil _
    rcases outcome with ⟨result, obis, readAt⟩ | _ | _ | _ | (_ | _) | _
    · rw [JobState.finish, JobEnd.apply, finalizeReadCurrentJob]
      rcases Bool.eq_false_or_eq_true result.ok with hok | hfailed
      · rw [if_pos hok]
        refine .inr ⟨result, obis, readAt, rfl, rfl, of_decide_eq_true may, ?_⟩
        exact ⟨_, (Table.get_update_self _ _ _).trans (congrArg _ found), rfl⟩
      · rw [if_neg (ne_true_of_eq_false hfailed)]
        split <;> exact .inl (List.append_nil _)
    all_goals exact .inl (hplain rfl)
  cases change with
  | @worked hold outcome now job found mem worker free may =>
    rcases hfinish found may with hsame | ⟨result, obis, readAt, rfl, hstored, hobis, hfinished⟩
    · exact .inl hsame
    · exact .inr ⟨hold, job, result, obis, readAt, now, mem, found, .inl rfl, hstored, hobis, hfinished⟩
  | @reported hold outcome now job found mem reporting free may =>
    have hmay : workerMayEnd job outcome = true := by
      rcases outcome with _ | _ | _ | _ | _ | _ <;> first | exact may | cases may
    rcases hfinish found hmay with hsame | ⟨result, obis, readAt, rfl, hstored, hobis, hfinished⟩
    · exact .inl hsame
    · exact .inr ⟨hold, job, result, obis, readAt, now, mem, found, .inr rfl, hstored, hobis, hfinished⟩
  | created | askedInVain | asked | askedAgainInVain | askedAgain | claimed | accepting | refused
  | sweptStale | requeued | sweptExpired | expired | abandoned | restarted => exact .inl rfl

/-- **The step.**  Every step of the parties keeps the table sound. -/
theorem Sound.step {a : JobAction V} (h : Sound s) (change : JobChange values s a t) : Sound t where
  locked := h.locked_step change
  apart := h.apart_step change
  holds := fun hold hhold => by
    rcases holds_step change hhold with hold' | ⟨claiming, now, rfl, hmem, hid, -⟩
    · exact HasRow.step (h.holds hold hold') change
    · refine HasRow.step (HasStatus.hasRow (h.locked _ ?_)) change
      exact (lockedIds_perm hmem).mem_iff.mpr (List.mem_append_left _ hid)
  readings := fun r hr => by
    rcases stored_cases change with hsame | ⟨hold, job, _, _, _, _, _, hget, _, hstored, _⟩
    · exact HasRow.step (h.readings r (hsame ▸ hr)) change
    · rw [hstored, List.mem_append, List.mem_singleton] at hr
      rcases hr with hold | rfl
      · exact HasRow.step (h.readings r hold) change
      · exact HasRow.step ⟨job, hget⟩ change

/-- A table with nothing in hand is sound. -/
theorem Sound.initial (jobs : Table Int (Job V)) : Sound ({ jobs := jobs } : JobState V) where
  locked := fun _ h => nomatch h
  apart := List.nodup_nil
  holds := fun _ h => nomatch h
  readings := fun _ h => nomatch h

/-! ## Open writes -/

/-- No row that is finished is written. -/
def WritesOpen (s : JobState V) : JobAction V → Prop
  | .work hold _ _ | .reportCommit hold _ _ => ¬ s.Finished hold.jobId
  | .requeueCommit ids | .expireCommit ids _ => ∀ id ∈ ids, ¬ s.Finished id
  | _ => True

instance (s : JobState V) : ∀ a, Decidable (WritesOpen s a)
  | .work hold _ _ | .reportCommit hold _ _ =>
    inferInstanceAs (Decidable (¬ s.Finished hold.jobId))
  | .requeueCommit ids | .expireCommit ids _ =>
    inferInstanceAs (Decidable (∀ id ∈ ids, ¬ s.Finished id))
  | .create .. | .ask .. | .askAgain .. | .commitClaim .. | .reportSelect .. | .requeueSelect _
  | .expireSelect _ | .abandon _ | .restart _ => inferInstanceAs (Decidable True)

/-- A row stays the same job, and as it is once it is finished. -/
def Job.Follows (job job' : Job V) : Prop :=
  job.Same job' ∧ (job.status.isTerminal = true → job' = job)

/-- A job that has not changed follows itself. -/
theorem Job.Follows.refl (job : Job V) : job.Follows job := ⟨.refl job, fun _ => rfl⟩

/-- What a step does to rows: none is lost, each stays the same job, a finished one as it is, and
    new ones are created. -/
structure RowStep (s t : JobState V) (a : JobAction V) : Prop where
  kept : ∀ {id job}, s.jobs.get id = some job → ∃ job', t.jobs.get id = some job' ∧ job.Follows job'
  born : ∀ {id job}, t.jobs.get id = some job → s.jobs.get id = none → a = .create id job

/-- A write that maps rows, none of them finished. -/
theorem RowStep.of_map {a : JobAction V} {f : Int → Job V → Job V}
    (rows : ∀ id, t.jobs.get id = (s.jobs.get id).map (f id))
    (same : ∀ {id job}, s.jobs.get id = some job → job.Follows (f id job)) : RowStep s t a where
  kept := fun hjob => ⟨_, (rows _).trans (congrArg _ hjob), same hjob⟩
  born := fun hjob hnone => by
    rw [rows, hnone] at hjob
    cases hjob

/-- A write of rows that are not finished is such a step, if it leaves jobs who they are. -/
theorem RowStep.of_write {a : JobAction V} {ids : List Int} {f : Job V → Job V}
    (rows : t.jobs = writeAll ids f s.jobs) (same : ∀ job : Job V, job.Same (f job))
    (unfinished : ∀ id ∈ ids, ¬ s.Finished id) : RowStep s t a := by
  refine .of_map (fun id => by rw [rows, writeAll, Table.get_modify]) fun {id job} hjob => ?_
  split
  · exact ⟨same job, fun hterminal => absurd ⟨job, hjob, hterminal⟩ (unfinished id (by assumption))⟩
  · exact .refl job

/-- **Rows.**  A step that writes no finished row is such a step, whichever party takes it. -/
theorem Sound.rowStep {a : JobAction V} (h : Sound s) (unfinished : WritesOpen s a)
    (change : JobChange values s a t) : RowStep s t a := by
  have hsame : ∀ {u : JobState V}, u.jobs = s.jobs → RowStep s u a := fun heq =>
    .of_map (f := fun _ job => job) (fun id => by rw [heq, Option.map_id']) fun _ => .refl _
  have hfinish : ∀ {hold : Hold} {outcome : JobEnd V} {now : Int} {job : Job V},
      s.jobs.get hold.jobId = some job → ¬ s.Finished hold.jobId → ∀ {u : JobState V},
      u.jobs = (s.finish values now hold job outcome).jobs → RowStep s u a := by
    intro hold outcome now job found hopen u heq
    refine .of_map (fun id => by rw [heq, JobState.finish, Table.update, Table.get_modify])
      fun {id job'} hjob' => ?_
    split
    · rename_i heq
      rw [heq, found] at hjob'
      obtain rfl := Option.some.inj hjob'
      exact ⟨(JobEnd.apply_spec values now job outcome).1,
        fun hterminal => absurd ⟨job, found, hterminal⟩ hopen⟩
    · exact .refl job'
  cases change with
  | @created id job new queued =>
    constructor
    · intro id' job' hjob'
      refine ⟨job', (Table.get_insert_ne _ _ new ?_).trans hjob', .refl job'⟩
      rintro rfl
      rw [new] at hjob'
      cases hjob'
    · intro id' job' hjob' hnone
      rcases eq_or_ne id' id with rfl | hne
      · rw [Table.get_insert_self] at hjob'
        rw [Option.some.inj hjob']
      · rw [Table.get_insert_ne _ _ new hne, hnone] at hjob'
        cases hjob'
  | @claimed claiming now mem =>
    refine .of_write (f := (·.start now)) rfl (fun _ => ⟨rfl, rfl, rfl, rfl, rfl⟩) fun id hid => ?_
    exact fun hfinished => Finished.not_hasStatus hfinished rfl
      (h.locked id ((lockedIds_perm mem).mem_iff.mpr (List.mem_append_left _ hid)))
  | worked found mem worker free may => exact hfinish found unfinished rfl
  | reported found mem reporting free may => exact hfinish found unfinished rfl
  | requeued mem free => exact .of_write rfl (fun _ => ⟨rfl, rfl, rfl, rfl, rfl⟩) unfinished
  | expired mem free => exact .of_write rfl (fun _ => ⟨rfl, rfl, rfl, rfl, rfl⟩) unfinished
  | @restarted now =>
    refine .of_map (fun id => Table.get_modify _ _ id) fun {id job} hjob => ?_
    exact ⟨job.same_reap now, fun hterminal =>
      Job.reap_of_ne (JobStatus.ne_of_terminal hterminal rfl) now⟩
  | askedInVain | asked | askedAgainInVain | askedAgain | accepting | refused | sweptStale
  | sweptExpired | abandoned => exact hsame rfl

/-- Finished rows stay as they are. -/
def FinalRows (s t : JobState V) : Prop :=
  ∀ id job, s.jobs.get id = some job → job.status.isTerminal = true → t.jobs.get id = some job

/-- Where nothing happens no finished row is changed. -/
theorem FinalRows.refl (s : JobState V) : FinalRows s s := fun _ _ h _ => h

/-- Finished rows stay over two stretches if they stay over each. -/
theorem FinalRows.trans {u : JobState V} (h : FinalRows s t) (h' : FinalRows t u) :
    FinalRows s u := fun id job hjob hterminal => h' id job (h id job hjob hterminal) hterminal

/-- Such a step leaves finished rows as they are. -/
theorem RowStep.finalRows {a : JobAction V} (h : RowStep s t a) : FinalRows s t := by
  intro id job hjob hterminal
  obtain ⟨job', hjob', -, hfinal⟩ := h.kept hjob
  rw [hjob', hfinal hterminal]

end RiseSun.Backend
