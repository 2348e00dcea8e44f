/-
  Who holds a running job.

  1. **Condition** (`Keeps`) — a sweep that puts jobs back finds them running, with no executor left;
     a sweep that expires them finds them still queued.  Nothing in the program sees to it: both
     read first, and write whatever they have read.

  2. **Ownership** (`Owned`) — a job in the hands of an executor is running under that executor's
     claim, or else it is finished and its report will be refused.

  3. **Every run** (`jobs_owned`) — a job is finalized once, its reading stored once, its row final,
     and a report accepted only from the claim the row runs under.
-/
import RiseSun.Backend.JobRows

namespace RiseSun.Backend

open Machine

variable {V : Type} {values : Values V} {s t : JobState V}

/-! ## Condition -/

/-- Nobody has the job in hand. -/
def JobState.Unheld (s : JobState V) (id : Int) : Prop := ∀ h ∈ s.holds, h.jobId ≠ id

/-- The condition on a step. -/
def Keeps (s : JobState V) : JobAction V → Prop
  | .requeueCommit ids => ∀ id ∈ ids, s.HasStatus .running id ∧ s.Unheld id
  | .expireCommit ids _ => ∀ id ∈ ids, s.HasStatus .queued id
  | _ => True

instance (s : JobState V) (id : Int) : Decidable (s.Unheld id) :=
  inferInstanceAs (Decidable (∀ h ∈ s.holds, h.jobId ≠ id))

instance (s : JobState V) : ∀ a, Decidable (Keeps s a)
  | .requeueCommit ids =>
    inferInstanceAs (Decidable (∀ id ∈ ids, s.HasStatus .running id ∧ s.Unheld id))
  | .expireCommit ids _ => inferInstanceAs (Decidable (∀ id ∈ ids, s.HasStatus .queued id))
  | .create .. | .ask .. | .askAgain .. | .commitClaim .. | .work .. | .reportSelect ..
  | .reportCommit .. | .requeueSelect _ | .expireSelect _ | .abandon _ | .restart _ =>
    inferInstanceAs (Decidable True)

/-! ## Ownership -/

/-- The row runs under the claim. -/
def JobState.RunsUnder (s : JobState V) (h : Hold) : Prop :=
  s.HasStatus .running h.jobId ∧ s.owner h.jobId = some h.claim

structure Owned (s : JobState V) : Prop where
  held : ∀ h ∈ s.holds, s.RunsUnder h ∨ h.gateway = true ∧ h ∉ s.reporting ∧ s.Finished h.jobId
  reporting : ∀ h ∈ s.reporting, h ∈ s.holds
  holds : s.holds.Nodup
  numbered : ∀ h ∈ s.holds, h.claim < s.claims
  executor : ∀ h ∈ s.holds, ∀ h' ∈ s.holds, h.claim = h'.claim →
    h.gateway = h'.gateway ∧ h.since = h'.since
  expiring : ∀ ids ∈ s.expiring, ids.Nodup
  finalized : ∀ id ∈ s.finalized, s.Finished id
  once : s.finalized.Nodup
  readings : ∀ r ∈ s.readings, r.1 ∈ s.finalized
  stored : (s.readings.map (·.1)).Nodup
  accepted : ∀ a ∈ s.accepted, a.rightful = true

/-- A job that is running is in one hand at most. -/
theorem Owned.eq_of_running (h : Owned s) {a b : Hold} (ha : a ∈ s.holds) (hb : b ∈ s.holds)
    (hjob : a.jobId = b.jobId) (hrunning : s.HasStatus .running a.jobId) : a = b := by
  have hunder : ∀ c ∈ s.holds, c.jobId = a.jobId → s.owner a.jobId = some c.claim := by
    intro c hc hcjob
    rcases h.held c hc with hruns | ⟨-, -, hfinished⟩
    · exact hcjob ▸ hruns.2
    · exact absurd (hcjob ▸ hrunning) (Finished.not_hasStatus hfinished rfl)
  have hclaim : a.claim = b.claim := Option.some.inj
    ((hunder a ha rfl).symm.trans (hunder b hb hjob.symm))
  obtain ⟨hgateway, hsince⟩ := h.executor a ha b hb hclaim
  cases a
  cases b
  simp_all

/-! ## Steps -/

/-- A job that some worker or gateway has in hand has a row in the table. -/
theorem Owned.row_of_held (h : Owned s) {a : Hold} (ha : a ∈ s.holds) :
    s.HasStatus .running a.jobId ∨ s.Finished a.jobId := by
  rcases h.held a ha with hruns | ⟨-, -, hfinished⟩
  · exact .inl hruns.1
  · exact .inr hfinished

theorem Owned.unheld_of_queued (h : Owned s) {id : Int} (hqueued : s.HasStatus .queued id) :
    s.Unheld id := by
  rintro a ha rfl
  rcases h.row_of_held ha with hrunning | hfinished
  · cases HasStatus.unique hqueued hrunning
  · exact Finished.not_hasStatus hfinished rfl hqueued

theorem Owned.not_finalized (h : Owned s) {status : JobStatus} {id : Int}
    (hstatus : s.HasStatus status id) (hopen : status.isTerminal = false) : id ∉ s.finalized :=
  fun hid => Finished.not_hasStatus (h.finalized id hid) hopen hstatus

/-- Rows that nobody holds or locks, and that are not finalized, may be written. -/
theorem Owned.write (h : Owned s) (ids : List Int) {jobs : Table Int (Job V)} {fin : List Int}
    {new : List (Int × MeterReading V)}
    (others : ∀ id, id ∉ ids → jobs.get id = s.jobs.get id) (unheld : ∀ id ∈ ids, s.Unheld id)
    (fresh : ∀ id ∈ ids, id ∉ s.finalized)
    (done : ∀ id ∈ fin, id ∈ ids ∧ ∃ job ∈ jobs.get id, job.status.isTerminal = true)
    (finNodup : fin.Nodup) (stores : ∀ r ∈ new, r.1 ∈ fin) (newNodup : (new.map (·.1)).Nodup) :
    Owned { s with
      jobs := jobs, readings := s.readings ++ new, finalized := s.finalized ++ fin } := by
  have hheld : ∀ a ∈ s.holds, jobs.get a.jobId = s.jobs.get a.jobId := fun a ha =>
    others _ fun hmem => unheld _ hmem a ha rfl
  have hfinal : ∀ id ∈ s.finalized, jobs.get id = s.jobs.get id := fun id hid =>
    others _ fun hmem => fresh id hmem hid
  have hapart : ∀ id ∈ s.finalized, id ∉ fin := fun id hid hfin => fresh id (done id hfin).1 hid
  exact { h with
    held := fun a ha => (h.held a ha).imp
      (fun hruns => ⟨HasStatus.of_get hruns.1 (hheld a ha), hruns.2⟩)
      fun ⟨hgateway, hreporting, hfinished⟩ =>
        ⟨hgateway, hreporting, Finished.of_get hfinished (hheld a ha)⟩
    finalized := fun id hid => (List.mem_append.mp hid).elim
      (fun hold => Finished.of_get (h.finalized id hold) (hfinal id hold)) fun hnew => (done id hnew).2
    once := h.once.append finNodup fun id hid hnew => hapart id hid hnew
    readings := fun r hr => (List.mem_append.mp hr).elim
      (fun hold => List.mem_append_left _ (h.readings r hold))
      fun hnew => List.mem_append_right _ (stores r hnew)
    stored := by
      show ((s.readings ++ new).map (·.1)).Nodup
      rw [List.map_append]
      refine h.stored.append newNodup fun id hid hnew => ?_
      obtain ⟨r, hr, rfl⟩ := List.mem_map.mp hid
      obtain ⟨r', hr', heq⟩ := List.mem_map.mp hnew
      exact hapart _ (h.readings r hr) (heq ▸ stores r' hr') }

theorem Owned.drop (h : Owned s) (hold : Hold) : Owned (s.drop hold) := by
  have hmem : ∀ a, a ∈ (s.drop hold).holds ↔ a ∈ s.holds ∧ a ≠ hold := fun a => by
    rw [JobState.drop, List.mem_filter, decide_eq_true_eq]
  have hmem' : ∀ a, a ∈ (s.drop hold).reporting ↔ a ∈ s.reporting ∧ a ≠ hold := fun a => by
    rw [JobState.drop, List.mem_filter, decide_eq_true_eq]
  exact { h with
    held := fun a ha => (h.held a ((hmem a).mp ha).1).imp id
      fun ⟨hgateway, hreporting, hfinished⟩ =>
        ⟨hgateway, fun hmem => hreporting ((hmem' a).mp hmem).1, hfinished⟩
    reporting := fun a ha => (hmem a).mpr
      ⟨h.reporting a ((hmem' a).mp ha).1, ((hmem' a).mp ha).2⟩
    holds := h.holds.filter _
    numbered := fun a ha => h.numbered a ((hmem a).mp ha).1
    executor := fun a ha b hb => h.executor a ((hmem a).mp ha).1 b ((hmem b).mp hb).1 }

/-- The executor of a running job writes its end. -/
theorem Owned.finish (h : Owned s) {hold : Hold} {outcome : JobEnd V} {now : Int} {job : Job V}
    (found : s.jobs.get hold.jobId = some job) (mem : hold ∈ s.holds) (runs : s.RunsUnder hold) :
    Owned (s.finish values now hold job outcome) := by
  obtain ⟨-, hspec⟩ := JobEnd.apply_spec values now job outcome
  have hdrop := h.drop hold
  have hself : (s.jobs.update hold.jobId fun _ => (outcome.apply values now job).1).get hold.jobId =
      some (outcome.apply values now job).1 := by
    rw [Table.get_update_self, found]
    rfl
  refine hdrop.write [hold.jobId] (fun id hid => ?_) ?_ ?_ ?_ ?_ ?_ ?_
  · exact Table.get_update_ne _ (fun heq => hid (List.mem_singleton.mpr heq)) _
  · rintro id hid a ha heq
    obtain rfl := List.mem_singleton.mp hid
    rw [JobState.drop, List.mem_filter, decide_eq_true_eq] at ha
    exact ha.2 (h.eq_of_running mem ha.1 heq.symm runs.1).symm
  · intro id hid
    obtain rfl := List.mem_singleton.mp hid
    exact h.not_finalized runs.1 rfl
  -- Only a job that is finished counts, and only such a one stores a reading.
  · intro id hid
    split at hid
    · obtain rfl := List.mem_singleton.mp hid
      exact ⟨hid, _, hself, by assumption⟩
    · cases hid
  · split
    · exact List.nodup_singleton _
    · exact List.nodup_nil
  · intro r hr
    obtain ⟨reading, hreading, rfl⟩ := Option.map_eq_some_iff.mp (Option.mem_toList.mp hr)
    rcases hspec with hterminal | ⟨-, hnone⟩
    · rw [if_pos hterminal]
      exact List.mem_singleton.mpr rfl
    · rw [hnone] at hreading
      cases hreading
  · rcases (outcome.apply values now job).2 with _ | reading
    · exact List.nodup_nil
    · exact List.nodup_singleton _

/-- The rows of a claim come into its hands. -/
theorem Owned.claim (h : Owned s) (sound : Sound s) {claiming : Claiming} (now : Int)
    (mem : claiming ∈ s.claiming) : Owned (commitClaim s claiming now) := by
  have hperm := lockedIds_perm mem
  have hnodup : claiming.ids.Nodup := (List.nodup_append.mp (hperm.nodup_iff.mp sound.apart)).1
  have hqueued : ∀ id ∈ claiming.ids, s.HasStatus .queued id := fun id hid =>
    sound.locked id (hperm.mem_iff.mpr (List.mem_append_left _ hid))
  have hother : ∀ {id}, id ∉ claiming.ids →
      (commitClaim s claiming now).jobs.get id = s.jobs.get id ∧
        (commitClaim s claiming now).owner id = s.owner id := fun hid =>
    ⟨(get_startAll _ now _ _).trans (if_neg hid), if_neg hid⟩
  -- what is claimed was queued, so nobody holds it
  have hheld : ∀ a ∈ s.holds, a.jobId ∉ claiming.ids := fun a ha hid =>
    h.unheld_of_queued (hqueued _ hid) a ha rfl
  have hnew : ∀ a ∈ claiming.ids.map fun id => (⟨s.claims, id, claiming.gateway, now⟩ : Hold),
      a.claim = s.claims ∧ (a.gateway = claiming.gateway ∧ a.since = now) ∧ a.jobId ∈ claiming.ids := by
    intro a ha
    obtain ⟨id, hid, rfl⟩ := List.mem_map.mp ha
    exact ⟨rfl, ⟨rfl, rfl⟩, hid⟩
  refine ⟨?_, ?_, ?_, ?_, ?_, h.expiring, ?_, h.once, h.readings, h.stored, h.accepted⟩
  · intro a ha
    rcases List.mem_append.mp ha with hold | hthis
    · obtain ⟨hget, howner⟩ := hother (hheld a hold)
      refine (h.held a hold).imp (fun hruns => ⟨HasStatus.of_get hruns.1 hget, ?_⟩)
        fun ⟨hgateway, hreporting, hfinished⟩ =>
          ⟨hgateway, hreporting, Finished.of_get hfinished hget⟩
      exact howner.trans hruns.2
    · obtain ⟨hclaim, -, hid⟩ := hnew a hthis
      obtain ⟨job, hjob, -⟩ := hqueued _ hid
      refine .inl ⟨⟨job.start now, ?_, rfl⟩, ?_⟩
      · rw [Option.mem_def] at hjob ⊢
        rw [commitClaim, get_startAll, if_pos hid, hjob]
        rfl
      · rw [hclaim]
        exact if_pos hid
  · intro a ha
    exact List.mem_append_left _ (h.reporting a ha)
  · refine h.holds.append (hnodup.map fun id id' heq => congrArg Hold.jobId heq) fun a hold hthis => ?_
    exact hheld a hold (hnew a hthis).2.2
  · intro a ha
    rcases List.mem_append.mp ha with hold | hthis
    · exact Nat.lt_succ_of_lt (h.numbered a hold)
    · exact (hnew a hthis).1 ▸ Nat.lt_succ_self _
  -- holds of one claim: the number of this claim is new
  · intro a ha b hb hclaim
    rcases List.mem_append.mp ha with holda | hthisa <;> rcases List.mem_append.mp hb with holdb | hthisb
    · exact h.executor a holda b holdb hclaim
    · exact absurd (hclaim.trans (hnew b hthisb).1) (h.numbered a holda).ne
    · exact absurd (hclaim.symm.trans (hnew a hthisa).1) (h.numbered b holdb).ne
    · obtain ⟨-, ⟨hgateway, hsince⟩, -⟩ := hnew a hthisa
      obtain ⟨-, ⟨hgateway', hsince'⟩, -⟩ := hnew b hthisb
      exact ⟨hgateway.trans hgateway'.symm, hsince.trans hsince'.symm⟩
  -- a job that was finalized is not queued again
  · intro id hid
    have hout : id ∉ claiming.ids := fun hin => h.not_finalized (hqueued id hin) rfl hid
    exact Finished.of_get (h.finalized id hid) (hother hout).1

theorem Finished.reap {id : Int} (h : s.Finished id) (now : Int) : (restart s now).Finished id := by
  obtain ⟨job, hjob, hterminal⟩ := h
  have hne : job.status ≠ .running := by
    rintro hrunning
    rw [hrunning] at hterminal
    cases hterminal
  refine ⟨job, ?_, hterminal⟩
  rw [Option.mem_def] at hjob ⊢
  rw [restart, Table.get_modify, hjob, Option.map_some, Job.reap_of_ne hne]

theorem HasStatus.reaped {id : Int} (h : s.HasStatus .running id) (now : Int) :
    (restart s now).Finished id := by
  obtain ⟨job, hjob, hrunning⟩ := h
  refine ⟨job.reap now, ?_, ?_⟩
  · rw [Option.mem_def] at hjob ⊢
    rw [restart, Table.get_modify, hjob]
    rfl
  · rw [Job.reap, if_pos hrunning]
    rfl

theorem Owned.restarted (h : Owned s) (now : Int) : Owned (restart s now) := by
  have hmem : ∀ a, a ∈ (restart s now).holds →
      a ∈ s.holds ∧ a.gateway = true ∧ a ∉ s.reporting := fun a ha => by
    rw [restart, List.mem_filter, decide_eq_true_eq] at ha
    exact ha
  refine ⟨?_, fun _ ha => (nomatch ha), h.holds.filter _, ?_, ?_, fun _ hids => (nomatch hids), ?_, ?_,
    ?_, h.stored, h.accepted⟩
  · intro a ha
    obtain ⟨hold, hgateway, -⟩ := hmem a ha
    refine .inr ⟨hgateway, fun hreporting => (nomatch hreporting), ?_⟩
    rcases h.row_of_held hold with hrunning | hfinished
    · exact HasStatus.reaped hrunning now
    · exact Finished.reap hfinished now
  · exact fun a ha => h.numbered a (hmem a ha).1
  · exact fun a ha b hb => h.executor a (hmem a ha).1 b (hmem b hb).1
  · intro id hid
    rcases List.mem_append.mp hid with hold | hnew
    · exact Finished.reap (h.finalized id hold) now
    · exact HasStatus.reaped (mem_running.mp hnew) now
  · refine h.once.append (idsWhere_nodup _ _) fun id hold hnew => ?_
    exact h.not_finalized (mem_running.mp hnew) rfl hold
  · exact fun r hr => List.mem_append_left _ (h.readings r hr)

theorem Owned.runs_of_worker (h : Owned s) {a : Hold} (ha : a ∈ s.holds)
    (hworker : a.gateway = false) : s.RunsUnder a := by
  refine (h.held a ha).resolve_right fun hother => ?_
  rw [hworker] at hother
  cases hother.1

theorem Owned.runs_of_reporting (h : Owned s) {a : Hold} (ha : a ∈ s.holds)
    (hreporting : a ∈ s.reporting) : s.RunsUnder a :=
  (h.held a ha).resolve_right fun hother => hother.2.1 hreporting

/-- What is asked for, what is locked and what was read of stale rows does not matter to it. -/
theorem Owned.aside (h : Owned s) (asked : List Claimant) (claiming : List Claiming)
    (requeueing : List (List Int)) :
    Owned { s with asked := asked, claiming := claiming, requeueing := requeueing } :=
  { h with }

theorem Owned.step {a : JobAction V} (h : Owned s) (sound : Sound s) (keeps : Keeps s a)
    (change : JobChange values s a t) : Owned t := by
  cases change with
  | @created id job new queued =>
    -- a new row is written by nobody else
    have hrow : ∀ id' ∈ [id], ¬ s.HasRow id' := by
      rintro id' hid ⟨job', hjob'⟩
      obtain rfl := List.mem_singleton.mp hid
      rw [new] at hjob'
      cases hjob'
    have hwrite := @Owned.write _ _ h [id] (s.jobs.insert id job new) [] []
      (fun id' hid => Table.get_insert_ne _ _ new fun heq => hid (List.mem_singleton.mpr heq))
      (fun id' hid a ha heq => hrow id' hid (heq ▸ sound.holds a ha))
      (fun id' hid hfinal => hrow id' hid (Finished.hasRow (h.finalized id' hfinal)))
      (fun _ hid => (nomatch hid)) List.nodup_nil (fun _ hr => (nomatch hr)) List.nodup_nil
    rw [List.append_nil, List.append_nil] at hwrite
    exact hwrite
  | askedInVain => exact h.aside _ s.claiming s.requeueing
  | asked => exact h.aside s.asked _ s.requeueing
  | askedAgainInVain => exact h.aside _ s.claiming s.requeueing
  | askedAgain => exact h.aside _ _ s.requeueing
  | claimed mem => exact h.claim sound _ mem
  | worked found mem worker free may => exact h.finish found mem (h.runs_of_worker mem worker)
  | @accepting hold meterId job found mem gateway meter running =>
    have hrunning : s.HasStatus .running hold.jobId := ⟨job, found, running⟩
    exact { h with
      held := fun a ha => by
        rcases h.held a ha with hruns | ⟨hgateway, hreporting, hfinished⟩
        · exact .inl hruns
        · refine .inr ⟨hgateway, fun hmem => ?_, hfinished⟩
          rcases List.mem_append.mp hmem with hold' | hthis
          · exact hreporting hold'
          · rw [List.mem_singleton.mp hthis] at hfinished
            exact Finished.not_hasStatus hfinished rfl hrunning
      reporting := fun a ha => (List.mem_append.mp ha).elim (h.reporting a) fun hthis =>
        (List.mem_singleton.mp hthis).symm ▸ mem }
  | refused => exact h.drop _
  | @reported hold outcome now job found mem reporting free may =>
    have hruns := h.runs_of_reporting mem reporting
    have hfinish := @Owned.finish _ values _ h hold outcome now job found mem hruns
    have hrunning : job.status = .running := by
      obtain ⟨job', hjob', hstatus⟩ := hruns.1
      rw [Option.mem_def, found] at hjob'
      exact Option.some.inj hjob' ▸ hstatus
    exact { hfinish with
      accepted := fun a ha => (List.mem_append.mp ha).elim (h.accepted a) fun hthis => by
        rw [List.mem_singleton.mp hthis]
        exact decide_eq_true ⟨hrunning, hruns.2⟩ }
  | sweptStale => exact h.aside s.asked s.claiming _
  -- the condition: what goes back to the queue is held by nobody
  | @requeued ids mem free =>
    have hwrite := @Owned.write _ _ h ids (writeAll ids Job.requeue s.jobs) [] []
      (fun id hid => (get_writeAll ids _ _ id).trans (if_neg hid)) (fun id hid => (keeps id hid).2)
      (fun id hid => h.not_finalized (keeps id hid).1 rfl) (fun _ hid => (nomatch hid)) List.nodup_nil
      (fun _ hr => (nomatch hr)) List.nodup_nil
    rw [List.append_nil, List.append_nil] at hwrite
    exact hwrite.aside s.asked s.claiming _
  | @sweptExpired dayStart =>
    exact { h with
      expiring := fun ids hids => (List.mem_append.mp hids).elim (h.expiring ids) fun hthis =>
        (List.mem_singleton.mp hthis).symm ▸ idsWhere_nodup _ _ }
  | @expired ids now mem free =>
    have hwrite := @Owned.write _ _ h ids (writeAll ids (Job.expire now) s.jobs) ids []
      (fun id hid => (get_writeAll ids _ _ id).trans (if_neg hid))
      (fun id hid => h.unheld_of_queued (keeps id hid))
      (fun id hid => h.not_finalized (keeps id hid) rfl) (fun id hid => ⟨hid, ?_⟩) (h.expiring ids mem)
      (fun _ hr => (nomatch hr)) List.nodup_nil
    · rw [List.append_nil] at hwrite
      exact { hwrite with
        expiring := fun ids' hids => h.expiring ids' (List.mem_of_mem_erase hids) }
    · obtain ⟨job, hjob, -⟩ := keeps id hid
      refine ⟨job.expire now, ?_, rfl⟩
      rw [Option.mem_def] at hjob ⊢
      rw [get_writeAll, if_pos hid, hjob]
      rfl
  | abandoned => exact h.drop _
  | restarted => exact h.restarted _

/-- An executor whose job is its own does not write a finished row, and neither does a sweep that
    keeps the condition. -/
theorem Owned.writesOpen {a : JobAction V} (h : Owned s) (keeps : Keeps s a)
    (change : JobChange values s a t) : WritesOpen s a := by
  cases change with
  | worked found mem worker free may =>
    exact fun hfinished => Finished.not_hasStatus hfinished rfl (h.runs_of_worker mem worker).1
  | reported found mem reporting free may =>
    exact fun hfinished => Finished.not_hasStatus hfinished rfl (h.runs_of_reporting mem reporting).1
  | requeued => exact fun id hid hfinished => Finished.not_hasStatus hfinished rfl (keeps id hid).1
  | expired => exact fun id hid hfinished => Finished.not_hasStatus hfinished rfl (keeps id hid)
  | created | askedInVain | asked | askedAgainInVain | askedAgain | claimed | accepting | refused
  | sweptStale | sweptExpired | abandoned | restarted => trivial

/-! ## Every run -/

theorem Owned.initial (jobs : Table Int (Job V)) : Owned ({ jobs := jobs } : JobState V) where
  held := fun _ h => nomatch h
  reporting := fun _ h => nomatch h
  holds := List.nodup_nil
  numbered := fun _ h => nomatch h
  executor := fun _ h => nomatch h
  expiring := fun _ h => nomatch h
  finalized := fun _ h => nomatch h
  once := List.nodup_nil
  readings := fun _ h => nomatch h
  stored := List.nodup_nil
  accepted := fun _ h => nomatch h

/-- Any table, any interleaving of workers, claims and reports of the Gateway, and sweeps: while every
    step keeps the condition, no job is finalized twice or stores two readings, a row that is final
    stays as it is, and every report that was accepted came from the claim its row ran under. -/
theorem jobs_owned {jobs : Table Int (Job V)} {actions more : List (JobAction V)}
    (run : Run (jobStep values) Keeps { jobs := jobs } actions s)
    (after : Run (jobStep values) Keeps s more t) :
    s.finalized.Nodup ∧ (s.readings.map (·.1)).Nodup ∧ FinalRows s t ∧
      ∀ a ∈ s.accepted, a.rightful = true := by
  have hkeep : ∀ {u : JobState V} {a : JobAction V} {v : JobState V}, Sound u ∧ Owned u → Keeps u a →
      jobStep values u a = some v → Sound v ∧ Owned v := fun ⟨hsound, howned⟩ keeps next =>
    ⟨hsound.step (jobStep_change next), howned.step hsound keeps (jobStep_change next)⟩
  have hinvariant := run.invariant ⟨.initial jobs, .initial jobs⟩ hkeep
  refine ⟨hinvariant.2.once, hinvariant.2.stored, ?_, hinvariant.2.accepted⟩
  refine after.related FinalRows.refl FinalRows.trans hinvariant hkeep ?_
  rintro u a v ⟨hsound, howned⟩ keeps next
  have hchange := jobStep_change next
  exact (hsound.rowStep (howned.writesOpen keeps hchange) hchange).finalRows

/-! ### One reading, claimed twice -/

def oneReading : Table Int (Job Nat) where
  rows := [(1, { jobType := .readCurrent, meterId := 7, payload := { obis := some "1.1.1.8.0.ff" },
                 createdAt := 0 })]
  keys := List.nodup_singleton _

def energy (value : Nat) : JobEnd Nat := .readCurrent ⟨true, value, none, none, false⟩ "1.1.1.8.0.ff" 0

/-- A claimant that has nothing urgent takes the reading. -/
def claimReading (claimant : Claimant) (now : Int) : List (JobAction Nat) :=
  [.ask claimant (fun _ => true) Int.toNat, .askAgain claimant (fun _ => true) Int.toNat,
    .commitClaim ⟨claimant.isGateway, [1]⟩ now]

/-- The Gateway never reports, the job goes back, and a worker reads the meter. -/
theorem jobs_owned_requeued : ∃ s : JobState Nat, s.finalized = [1] ∧ s.finalized.Nodup ∧
    (s.readings.map (·.1)).Nodup ∧ FinalRows s s ∧ ∀ a ∈ s.accepted, a.rightful = true := by
  have hexec : ((exec (guarded (jobStep plainValues) Keeps) { jobs := oneReading }
      (claimReading (.gateway 7 [.readCurrent] 10) 0 ++
        [.abandon ⟨0, 1, true, 0⟩, .requeueSelect 300, .requeueCommit [1]] ++
        claimReading .worker 400 ++ [.work ⟨1, 1, false, 400⟩ (energy 5) 410])).map
        fun s => s.finalized) = some [1] := by decide
  obtain ⟨s, hrun, hfinalized⟩ := Option.map_eq_some_iff.mp hexec
  exact ⟨s, hfinalized, jobs_owned (Run.of_guarded hrun) .nil⟩

/-- The Gateway is late, not gone: its report is taken for that of the worker's claim, and the worker
    finishes the job again. -/
theorem late_report_stored_twice :
    ¬ ∀ (actions : List (JobAction Nat)) (s : JobState Nat),
      Run (jobStep plainValues) (fun _ _ => True) { jobs := oneReading } actions s →
      s.finalized.Nodup ∧ (s.readings.map (·.1)).Nodup ∧ ∀ a ∈ s.accepted, a.rightful = true := by
  intro h
  have hexec : ((exec (guarded (jobStep plainValues) fun _ _ => True) { jobs := oneReading }
      (claimReading (.gateway 7 [.readCurrent] 10) 0 ++ [.requeueSelect 300, .requeueCommit [1]] ++
        claimReading .worker 400 ++
        [.reportSelect ⟨0, 1, true, 0⟩ 7, .reportCommit ⟨0, 1, true, 0⟩ (energy 5) 405,
          .work ⟨1, 1, false, 400⟩ (energy 6) 410])).map
        fun s => s.finalized) = some [1, 1] := by decide
  obtain ⟨s, hrun, hfinalized⟩ := Option.map_eq_some_iff.mp hexec
  have hnodup := (h _ s (Run.of_guarded hrun)).1
  rw [hfinalized] at hnodup
  exact absurd hnodup (by decide)

end RiseSun.Backend
