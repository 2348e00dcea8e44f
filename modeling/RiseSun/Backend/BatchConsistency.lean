/-
  Batches agree with their jobs.

  1. **Condition** (`Finishes`) — nobody writes a finished job; a restart finds no relay job of a batch
     running and no item on its way; and a finalization that still reads another item as queued is
     not the last one: some other item of the batch really is still to come.

  2. **Invariant** — items stand where their jobs do, or are about to (`Linked`); an open batch has an
     item still to come, or a finalization that will close it (`Balanced`).  The load-bearing step is
     the one that reads the items of a batch for the last time.

  3. **Every run** (`batches_consistent`).
-/
import RiseSun.Backend.Batches

namespace RiseSun.Backend

open Machine

variable {V : Type} {values : Values V}

/-! ## Ends of a batch -/

/-- A batch is closed only when no item is queued, and with the outcome of its items. -/
theorem closes_eq_some {statuses : List ItemStatus} {status : BatchStatus}
    (h : closes statuses = some status) : .queued ∉ statuses ∧ status = outcomeOf statuses := by
  rw [closes] at h
  split at h
  · cases h
  · exact ⟨by assumption, (Option.some.inj h).symm⟩

/-- A batch is left open only if one of its items is queued. -/
theorem closes_eq_none {statuses : List ItemStatus} (h : closes statuses = none) :
    .queued ∈ statuses := by
  rw [closes] at h
  split at h
  · assumption
  · cases h

/-- Whatever its items came to, the outcome of a batch is an end. -/
theorem outcomeOf_closed (statuses : List ItemStatus) : (outcomeOf statuses).isOpen = false := by
  rw [outcomeOf]
  split
  · rfl
  · split <;> rfl

/-- An item that is not queued has failed or is done. -/
theorem ItemStatus.of_ne_queued {status : ItemStatus} (h : status ≠ .queued) :
    status = .failed ↔ status ≠ .done := by
  rcases status with _ | _ | _
  · exact absurd rfl h
  · exact ⟨fun h => (nomatch h), fun h => absurd rfl h⟩
  · exact ⟨fun _ => ItemStatus.noConfusion, fun _ => rfl⟩

/-- All, none or some of the items are done. -/
theorem outcomeOf_spec {statuses : List ItemStatus} (inhabited : statuses ≠ [])
    (settled : .queued ∉ statuses) :
    (outcomeOf statuses = .completed ↔ ∀ x ∈ statuses, x = .done) ∧
    (outcomeOf statuses = .failed ↔ ∀ x ∈ statuses, x ≠ .done) ∧
    (outcomeOf statuses = .completedWithErrors ↔
      (∃ x ∈ statuses, x = .done) ∧ ∃ x ∈ statuses, x ≠ .done) := by
  have hne : ∀ x ∈ statuses, x ≠ .queued := fun x hx heq => settled (heq ▸ hx)
  have hnone : statuses.count .failed = 0 ↔ ∀ x ∈ statuses, x = .done := by
    rw [List.count_eq_zero]
    constructor
    · intro h x hx
      by_contra hx'
      exact h ((ItemStatus.of_ne_queued (hne x hx)).mpr hx' ▸ hx)
    · intro h hmem
      cases h _ hmem
  have hall : statuses.count .failed = statuses.length ↔ ∀ x ∈ statuses, x ≠ .done := by
    rw [List.count_eq_length]
    exact forall₂_congr fun x hx => eq_comm.trans (ItemStatus.of_ne_queued (hne x hx))
  obtain ⟨first, hfirst⟩ := List.exists_mem_of_ne_nil statuses inhabited
  rw [outcomeOf]
  split
  · rename_i hzero
    have hdone := hnone.mp hzero
    exact ⟨iff_of_true rfl hdone,
      iff_of_false BatchStatus.noConfusion fun h => h first hfirst (hdone first hfirst),
      iff_of_false BatchStatus.noConfusion fun ⟨_, x, hx, h⟩ => h (hdone x hx)⟩
  · rename_i hzero
    rw [hnone] at hzero
    split
    · rename_i hlength
      have hfailed := hall.mp hlength
      exact ⟨iff_of_false BatchStatus.noConfusion hzero, iff_of_true rfl hfailed,
        iff_of_false BatchStatus.noConfusion fun ⟨⟨x, hx, h⟩, _⟩ => hfailed x hx h⟩
    · rename_i hlength
      rw [hall] at hlength
      push Not at hzero hlength
      exact ⟨iff_of_false BatchStatus.noConfusion fun h => hzero.elim fun x hx => hx.2 (h x hx.1),
        iff_of_false BatchStatus.noConfusion fun h => hlength.elim fun x hx => h x hx.1 hx.2,
        iff_of_true rfl ⟨hlength, hzero⟩⟩

/-! ## Items -/

section Items

variable {items : Table Int DisconnectBatchItem} {batchPk : Int}

/-- The items of a batch are the rows that name it. -/
theorem mem_itemsOf {r : Int × DisconnectBatchItem} :
    r ∈ itemsOf items batchPk ↔ items.get r.1 = some r.2 ∧ r.2.batchPk = batchPk := by
  rw [itemsOf, List.mem_filter, decide_eq_true_eq, Table.get_eq_some]

/-- A new item is the last one of its batch, and no other batch has it. -/
theorem itemsOf_insert {itemId : Int} {item : DisconnectBatchItem} (new : items.get itemId = none) :
    itemsOf (items.insert itemId item new) batchPk =
      itemsOf items batchPk ++ if item.batchPk = batchPk then [(itemId, item)] else [] := by
  rw [itemsOf, Table.insert, List.filter_append, List.filter_singleton, ← itemsOf]
  rcases Decidable.em (item.batchPk = batchPk) with h | h
  · rw [if_pos h, decide_eq_true h]
    rfl
  · rw [if_neg h, decide_eq_false h]
    rfl

/-- Writing an item leaves it in its batch. -/
theorem itemsOf_update {itemId : Int} {g : DisconnectBatchItem → DisconnectBatchItem}
    (same : ∀ item, (g item).batchPk = item.batchPk) :
    itemsOf (items.update itemId g) batchPk =
      (itemsOf items batchPk).map fun r => if r.1 = itemId then (r.1, g r.2) else r := by
  rw [itemsOf, itemsOf, Table.update, Table.modify, List.filter_map]
  have hfilter : ((fun r : Int × DisconnectBatchItem => decide (r.2.batchPk = batchPk)) ∘
      fun r : Int × DisconnectBatchItem => (r.1, if r.1 = itemId then g r.2 else r.2)) =
      fun r => decide (r.2.batchPk = batchPk) := by
    funext r
    show decide ((if r.1 = itemId then g r.2 else r.2).batchPk = batchPk) = _
    split
    · rw [same]
    · rfl
  rw [hfilter]
  refine List.map_congr_left fun r _ => ?_
  split <;> rfl

/-- What is found for a job is an item that names the job. -/
theorem itemOf_some {jobId : Int} {r : Int × DisconnectBatchItem} (h : itemOf items jobId = some r) :
    items.get r.1 = some r.2 ∧ r.2.jobId = some jobId :=
  ⟨Table.get_eq_some.mpr (List.mem_of_find?_eq_some h),
    of_decide_eq_true
      (List.find?_some (p := fun r : Int × DisconnectBatchItem => decide (r.2.jobId = some jobId)) h)⟩

/-- If nothing is found for a job, no item names it. -/
theorem itemOf_none {jobId itemId : Int} {item : DisconnectBatchItem}
    (h : itemOf items jobId = none) (hitem : items.get itemId = some item) :
    item.jobId ≠ some jobId := fun heq =>
  List.find?_eq_none.mp h (itemId, item) (Table.get_eq_some.mp hitem) (decide_eq_true heq)

end Items

/-! ## Condition -/

/-- The item a finalization has written and read the batch for. -/
def FinalizationStage.target : FinalizationStage → Option (Int × Int)
  | .due => none
  | .flushed itemId batchPk _ => some (itemId, batchPk)
  | .closing itemId batchPk _ => some (itemId, batchPk)

/-- What it will close the batch with. -/
def FinalizationStage.verdict : FinalizationStage → Option BatchStatus
  | .due => none
  | .flushed _ _ next => next
  | .closing _ _ status => some status

/-- The item is still to come: it is queued, and no finalization has read its batch for it. -/
def BatchState.Remaining (s : BatchState V) (r : Int × DisconnectBatchItem) : Prop :=
  r.2.status = .queued ∧ ∀ f ∈ s.finalizations, f.stage.target.map (·.1) ≠ some r.1

instance (s : BatchState V) (r : Int × DisconnectBatchItem) : Decidable (s.Remaining r) :=
  inferInstanceAs (Decidable (_ ∧ ∀ f ∈ s.finalizations, f.stage.target.map (·.1) ≠ some r.1))

/-- If a session reads another item of the batch as queued, one is still to come. -/
def ReadsAhead (s : BatchState V) (f : Finalization) : Prop :=
  ∀ own ∈ itemOf s.items f.jobId,
    (∃ r ∈ itemsOf s.items own.2.batchPk, r.1 ≠ own.1 ∧
      s.copies.seen f.session r.1 r.2.status = .queued) →
    ∃ r ∈ itemsOf s.items own.2.batchPk, r.1 ≠ own.1 ∧ s.Remaining r

/-- No relay job of the item is running, and none has just ended. -/
def AtRest (s : BatchState V) (item : DisconnectBatchItem) : Prop :=
  ∀ jobId ∈ item.jobId, ¬ s.core.HasStatus .running jobId ∧ ∀ f ∈ s.finalizations, f.jobId ≠ jobId

/-- The condition on a step. -/
def Finishes (s : BatchState V) : BatchAction V → Prop
  | .job _ a => WritesOpen s.core a
  | .finalizeSelect f => ReadsAhead s f
  | .restart _ => ∀ r ∈ s.items.rows, AtRest s r.2
  | _ => True

instance (s : BatchState V) (f : Finalization) : Decidable (ReadsAhead s f) :=
  inferInstanceAs (Decidable (∀ own ∈ itemOf s.items f.jobId, _ → _))

instance (s : BatchState V) (item : DisconnectBatchItem) : Decidable (AtRest s item) :=
  inferInstanceAs (Decidable (∀ jobId ∈ item.jobId, _ ∧ ∀ f ∈ s.finalizations, f.jobId ≠ jobId))

instance (s : BatchState V) : ∀ a, Decidable (Finishes s a)
  | .job _ a => inferInstanceAs (Decidable (WritesOpen s.core a))
  | .finalizeSelect f => inferInstanceAs (Decidable (ReadsAhead s f))
  | .restart _ => inferInstanceAs (Decidable (∀ r ∈ s.items.rows, AtRest s r.2))
  | .create .. | .finalizeGet _ | .finalizeCommit .. => inferInstanceAs (Decidable True)

/-! ## Invariant -/

/-- Where an item stands while its job does. -/
def expected : JobStatus → ItemStatus
  | .queued | .running => .queued
  | .succeeded => .done
  | .failed => .failed

/-- The statuses of a batch once an item has the given one. -/
def statusesWith (items : Table Int DisconnectBatchItem) (batchPk itemId : Int)
    (outcome : ItemStatus) : List ItemStatus :=
  (itemsOf items batchPk).map fun r => if r.1 = itemId then outcome else r.2.status

structure Linked (s : BatchState V) : Prop where
  sound : Sound s.core
  routine : ∀ ids ∈ s.core.expiring, ∀ id ∈ ids, ∃ job, s.core.jobs.get id = some job ∧
    isRelayJob job = false
  job : ∀ {itemId item jobId}, s.items.get itemId = some item → item.jobId = some jobId →
    ∃ job, s.core.jobs.get jobId = some job ∧ isRelayJob job = true
  apart : ∀ {itemId itemId' item item' jobId}, s.items.get itemId = some item →
    s.items.get itemId' = some item' → item.jobId = some jobId → item'.jobId = some jobId →
    itemId = itemId'
  unlinked : ∀ {itemId item}, s.items.get itemId = some item → item.jobId = none →
    item.status = .failed
  batch : ∀ {itemId item}, s.items.get itemId = some item →
    ∃ batch, s.batches.get item.batchPk = some batch
  ended : ∀ f ∈ s.finalizations, ∃ job, s.core.jobs.get f.jobId = some job ∧
    job.status.isTerminal = true ∧ f.outcome = itemOutcome job.status
  once : (s.finalizations.map (·.jobId)).Nodup
  stands : ∀ {itemId item jobId job}, s.items.get itemId = some item → item.jobId = some jobId →
    s.core.jobs.get jobId = some job →
    item.status = if ∃ f ∈ s.finalizations, f.jobId = jobId then .queued else expected job.status
  staged : ∀ f ∈ s.finalizations, ∀ target ∈ f.stage.target, ∃ item,
    s.items.get target.1 = some item ∧ item.jobId = some f.jobId ∧ item.batchPk = target.2
  verdict : ∀ f ∈ s.finalizations, ∀ target ∈ f.stage.target, ∀ status ∈ f.stage.verdict,
    (∀ r ∈ itemsOf s.items target.2, r.1 ≠ target.1 → r.2.status ≠ .queued) ∧
      status = outcomeOf (statusesWith s.items target.2 target.1 f.outcome)
  copies : s.copies.Settled (· ≠ .queued) s.itemStatus

structure Balanced (s : BatchState V) (batchPk : Int) (batch : DisconnectBatch) : Prop where
  inhabited : itemsOf s.items batchPk ≠ []
  closed : batch.status.isOpen = false →
    (∀ r ∈ itemsOf s.items batchPk, r.2.status ≠ .queued) ∧
      batch.status = outcomeOf ((itemsOf s.items batchPk).map (·.2.status))
  ahead : batch.status.isOpen = true → (∃ r ∈ itemsOf s.items batchPk, s.Remaining r) ∨
    ∃ f ∈ s.finalizations, f.stage.target.map (·.2) = some batchPk ∧ f.stage.verdict.isSome = true

structure InStep (s : BatchState V) : Prop where
  linked : Linked s
  balanced : ∀ {batchPk batch}, s.batches.get batchPk = some batch → Balanced s batchPk batch

/-! ## Steps of the parties -/

section Jobs

variable {s t : JobState V} {a : JobAction V} {session : DbSession}

/-- The ids in the hands of the sweep at midnight come from a look at the table, now or before. -/
theorem expiring_step (change : JobChange values s a t) {ids : List Int} (h : ids ∈ t.expiring) :
    ids ∈ s.expiring ∨ ∃ dayStart, ids = idsWhere (isExpired dayStart) s.jobs := by
  cases change with
  | @sweptExpired dayStart =>
    exact (List.mem_append.mp h).imp_right fun hnew => ⟨dayStart, List.mem_singleton.mp hnew⟩
  | expired => exact .inl (List.mem_of_mem_erase h)
  | restarted => cases h
  | created | askedInVain | asked | askedAgainInVain | askedAgain | claimed | worked | accepting
  | refused | reported | sweptStale | requeued | abandoned => exact .inl h

/-- Jobs of a routine type switch no relay, so they have no item. -/
theorem routine_not_relay {job : Job V} (h : job.jobType ∈ routineJobTypes) :
    isRelayJob job = false := by
  refine decide_eq_false fun hrelay => ?_
  rcases hrelay with htype | htype <;> rw [htype] at h <;> revert h <;> decide

/-- The end of a relay job finishes it. -/
theorem relay_finished {job : Job V} {outcome : JobEnd V} {now : Int}
    (relay : isRelayJob job = true) (may : workerMayEnd job outcome = true) :
    (outcome.apply values now job).1.status.isTerminal = true := by
  have htype := of_decide_eq_true relay
  have hother : ∀ {other : JobType}, other ≠ .disconnect → other ≠ .reconnect →
      job.jobType ≠ other := by
    rintro other hne hne' heq
    rcases htype with h | h
    · exact hne (heq.symm.trans h)
    · exact hne' (heq.symm.trans h)
  rcases outcome with _ | _ | _ | ⟨operation, ok, errorCode, errorMessage⟩ | _ | _
  · rcases of_decide_eq_true may with ⟨h, -⟩ | ⟨h, -⟩
    · exact absurd h (hother (by decide) (by decide))
    · exact absurd h (hother (by decide) (by decide))
  · exact absurd (of_decide_eq_true may) (hother (by decide) (by decide))
  · exact absurd (of_decide_eq_true may) (hother (by decide) (by decide))
  · rw [JobEnd.apply, finalizeDisconnectJob]
    split <;> rfl
  · rcases of_decide_eq_true may with h | h
    · exact absurd h (hother (by decide) (by decide))
    · exact absurd h (hother (by decide) (by decide))
  · rfl

/-- The end of a job is looked at for its item iff it is a relay job. -/
theorem relayEnd_found {id : Int} {job : Job V} (h : t.jobs.get id = some job) :
    relayEnd session t id = if isRelayJob job then [.of session id job] else [] := by
  rw [relayEnd, h]

/-- The end of a relay job is left to be finalized. -/
theorem mem_relayEnd {hold : Hold} {outcome : JobEnd V} {now : Int} {job : Job V} {f : Finalization}
    (found : s.jobs.get hold.jobId = some job) (may : workerMayEnd job outcome = true)
    (after : t.jobs = (s.finish values now hold job outcome).jobs)
    (h : f ∈ relayEnd session t hold.jobId) : ∃ job', relayEnd session t hold.jobId = [f] ∧
      t.jobs.get hold.jobId = some job' ∧ job'.status.isTerminal = true ∧
      f = .of session hold.jobId job' := by
  have hget : t.jobs.get hold.jobId = some (outcome.apply values now job).1 := by
    rw [after, JobState.finish, Table.get_update_self, found]
    rfl
  rw [relayEnd_found hget] at h ⊢
  split at h
  · rename_i hrelay
    obtain rfl := List.mem_singleton.mp h
    have htype : isRelayJob job = true := by
      rw [isRelayJob, ← (JobEnd.apply_spec values now job outcome).1.jobType]
      exact hrelay
    exact ⟨_, if_pos hrelay, hget, relay_finished htype may, rfl⟩
  · cases h

/-- What an action leaves to be finalized is a relay job it has finished. -/
theorem mem_finalizes (change : JobChange values s a t) {f : Finalization}
    (h : f ∈ finalizes session t a) : ∃ job', finalizes session t a = [f] ∧
      t.jobs.get f.jobId = some job' ∧ job'.status.isTerminal = true ∧
      f = .of session f.jobId job' ∧ (WritesOpen s a → ¬ s.Finished f.jobId) := by
  cases change with
  | worked found mem worker free may =>
    obtain ⟨job', hsingle, hget, hterminal, rfl⟩ := mem_relayEnd found may rfl h
    exact ⟨job', hsingle, hget, hterminal, rfl, id⟩
  | @reported hold outcome now job found mem reporting free may =>
    have hmay : workerMayEnd job outcome = true := by
      rcases outcome with _ | _ | _ | _ | _ | _ <;> first | exact may | cases may
    obtain ⟨job', hsingle, hget, hterminal, rfl⟩ :=
      @mem_relayEnd V values s _ session hold outcome now job f found hmay rfl h
    exact ⟨job', hsingle, hget, hterminal, rfl, id⟩
  | created | askedInVain | asked | askedAgainInVain | askedAgain | claimed | accepting | refused
  | sweptStale | requeued | sweptExpired | expired | abandoned | restarted => cases h

/-- A relay job that is finished without a restart is left to be finalized. -/
theorem finalizes_relay (rows : RowStep s t a) (change : JobChange values s a t)
    (restarts : ∀ now, a ≠ .restart now)
    (routine : ∀ ids ∈ s.expiring, ∀ id ∈ ids, ∃ job, s.jobs.get id = some job ∧
      isRelayJob job = false)
    {id : Int} {job job' : Job V} (before : s.jobs.get id = some job)
    (relay : isRelayJob job = true) (unfinished : job.status.isTerminal = false)
    (after : t.jobs.get id = some job') (finished : job'.status.isTerminal = true) :
    .of session id job' ∈ finalizes session t a := by
  have hends := ended_by change restarts before unfinished after finished
  have hrelay : isRelayJob job' = true := by
    obtain ⟨job'', hjob'', hsame, -⟩ := rows.kept before
    obtain rfl := Option.some.inj (after.symm.trans hjob'')
    rw [isRelayJob, hsame.jobType]
    exact relay
  have hsingle : ∀ {hold : Hold}, id ∈ [hold.jobId] →
      .of session id job' ∈ relayEnd session t hold.jobId := by
    intro hold hid
    obtain rfl := List.mem_singleton.mp hid
    rw [relayEnd_found after, if_pos hrelay]
    exact List.mem_singleton_self _
  cases a with
  | work hold outcome now => exact hsingle hends
  | reportCommit hold outcome now => exact hsingle hends
  | expireCommit ids now =>
    cases change with
    | expired mem free =>
      obtain ⟨job₀, hjob₀, hroutine⟩ := routine ids mem id hends
      obtain rfl := Option.some.inj (before.symm.trans hjob₀)
      rw [relay] at hroutine
      cases hroutine
  | create | ask | askAgain | commitClaim | reportSelect | requeueSelect | requeueCommit
  | expireSelect | abandon | restart => cases hends

/-- The item of an open job is queued. -/
theorem expected_open {status : JobStatus} (h : status.isTerminal = false) :
    expected status = .queued := by
  rcases status with _ | _ | _ | _
  · rfl
  · rfl
  · cases h
  · cases h

/-- The item of a finished job has an outcome, and it is the outcome of the job. -/
theorem expected_finished {status : JobStatus} (h : status.isTerminal = true) :
    expected status = itemOutcome status ∧ itemOutcome status ≠ .queued := by
  rcases status with _ | _ | _ | _
  · cases h
  · cases h
  · exact ⟨rfl, ItemStatus.noConfusion⟩
  · exact ⟨rfl, ItemStatus.noConfusion⟩

variable {s : BatchState V} {core : JobState V}

/-- A step of the parties that only touches jobs keeps items and finalizations linked: a job keeps
    its type, and a finished one stays finished. -/
theorem Linked.job_step (h : Linked s) (unfinished : WritesOpen s.core a)
    (restarts : ∀ now, a ≠ .restart now) (change : JobChange values s.core a core) :
    Linked { s with
      core := core
      finalizations := s.finalizations ++ finalizes session core a } := by
  have rows := h.sound.rowStep unfinished change
  have hnew : ∀ {f : Finalization}, f ∈ finalizes session core a → f.stage = .due ∧
      ¬ s.core.Finished f.jobId := by
    intro f hf
    obtain ⟨job', -, -, -, heq, hopen⟩ := mem_finalizes change hf
    exact ⟨heq ▸ rfl, hopen unfinished⟩
  have holder : ∀ {f : Finalization}, f ∈ s.finalizations → s.core.Finished f.jobId := by
    intro f hf
    obtain ⟨job, hjob, hterminal, -⟩ := h.ended f hf
    exact ⟨job, hjob, hterminal⟩
  refine ⟨h.sound.step change, ?_, ?_, h.apart, h.unlinked, h.batch, ?_, ?_, ?_, ?_, ?_, h.copies⟩
  · intro ids hids id hid
    have hbefore : ∃ job, s.core.jobs.get id = some job ∧ isRelayJob job = false := by
      rcases expiring_step change hids with hold | ⟨dayStart, rfl⟩
      · exact h.routine ids hold id hid
      · obtain ⟨job, hjob, hexpired⟩ := mem_idsWhere.mp hid
        exact ⟨job, hjob, routine_not_relay (of_decide_eq_true hexpired).2.1⟩
    obtain ⟨job, hjob, hroutine⟩ := hbefore
    obtain ⟨job', hjob', hsame, -⟩ := rows.kept hjob
    exact ⟨job', hjob', (isRelayJob_same hsame).trans hroutine⟩
  · intro itemId item jobId hitem hlink
    obtain ⟨job, hjob, hrelay⟩ := h.job hitem hlink
    obtain ⟨job', hjob', hsame, -⟩ := rows.kept hjob
    exact ⟨job', hjob', (isRelayJob_same hsame).trans hrelay⟩
  · intro f hf
    rcases List.mem_append.mp hf with hold | hthis
    · obtain ⟨job, hjob, hterminal, houtcome⟩ := h.ended f hold
      exact ⟨job, rows.finalRows _ _ hjob hterminal, hterminal, houtcome⟩
    · obtain ⟨job', -, hjob', hterminal, heq, -⟩ := mem_finalizes change hthis
      exact ⟨job', hjob', hterminal, congrArg (·.outcome) heq⟩
  · show ((s.finalizations ++ finalizes session core a).map (·.jobId)).Nodup
    rw [List.map_append]
    refine h.once.append ?_ fun id hold hthis => ?_
    · rcases hfin : finalizes session core a with _ | ⟨f, rest⟩
      · exact List.nodup_nil
      · obtain ⟨job', hsingle, -⟩ := mem_finalizes change (hfin ▸ List.mem_cons_self)
        rw [← hfin, hsingle]
        exact List.nodup_singleton _
    · obtain ⟨f, hf, rfl⟩ := List.mem_map.mp hold
      obtain ⟨f', hf', heq⟩ := List.mem_map.mp hthis
      exact (hnew hf').2 (heq ▸ holder hf)
  · intro itemId item jobId job' hitem hlink hjob'
    obtain ⟨job, hjob, hrelay⟩ := h.job hitem hlink
    obtain ⟨job'', hjob'', -, hfinal⟩ := rows.kept hjob
    obtain rfl := Option.some.inj (hjob'.symm.trans hjob'')
    have hstands := h.stands hitem hlink hjob
    rcases hterminal : job.status.isTerminal
    -- The job was open, so its item is queued: it stays so unless the job is left to be finalized.
    · have hqueued : item.status = .queued := by
        rw [hstands, expected_open hterminal, ite_self]
      rcases hterminal' : job'.status.isTerminal
      · rw [hqueued, expected_open hterminal', ite_self]
      · have hthis : .of session jobId job' ∈ finalizes session core a :=
          finalizes_relay rows change restarts h.routine hjob hrelay hterminal hjob' hterminal'
        rw [hqueued, if_pos ⟨_, List.mem_append_right _ hthis, rfl⟩]
    · obtain rfl := hfinal hterminal
      refine hstands.trans (if_congr ⟨?_, ?_⟩ rfl rfl)
      · exact fun ⟨f, hf, heq⟩ => ⟨f, List.mem_append_left _ hf, heq⟩
      · rintro ⟨f, hf, heq⟩
        refine ⟨f, (List.mem_append.mp hf).resolve_right fun hthis => ?_, heq⟩
        exact (hnew hthis).2 (heq ▸ ⟨job', hjob, hterminal⟩)
  · intro f hf target htarget
    rcases List.mem_append.mp hf with hold | hthis
    · exact h.staged f hold target htarget
    · rw [(hnew hthis).1] at htarget
      cases htarget
  · intro f hf target htarget
    rcases List.mem_append.mp hf with hold | hthis
    · exact h.verdict f hold target htarget
    · rw [(hnew hthis).1] at htarget
      cases htarget

/-- A step of the parties keeps items and jobs in step, as long as it leaves open jobs to those who
    finish them. -/
theorem InStep.job_step (h : InStep s) (unfinished : WritesOpen s.core a)
    (restarts : ∀ now, a ≠ .restart now) (change : JobChange values s.core a core) :
    InStep { s with
      core := core
      finalizations := s.finalizations ++ finalizes session core a } := by
  have hnew : ∀ {f : Finalization}, f ∈ finalizes session core a → f.stage = .due := by
    intro f hf
    obtain ⟨job', -, -, -, heq, -⟩ := mem_finalizes change hf
    exact heq ▸ rfl
  refine ⟨h.linked.job_step unfinished restarts change, fun hbatch => ?_⟩
  obtain ⟨hinhabited, hclosed, hahead⟩ := h.balanced hbatch
  refine ⟨hinhabited, hclosed, fun hopen => (hahead hopen).imp ?_ ?_⟩
  · rintro ⟨r, hr, hqueued, hfree⟩
    refine ⟨r, hr, hqueued, fun f hf => ?_⟩
    rcases List.mem_append.mp hf with hold | hthis
    · exact hfree f hold
    · rw [hnew hthis]
      exact fun heq => (nomatch heq)
  · rintro ⟨f, hf, hverdict⟩
    exact ⟨f, List.mem_append_left _ hf, hverdict⟩

end Jobs

/-! ## Stages of a finalization -/

section Stages

variable {s : BatchState V} {f : Finalization} {next : Option FinalizationStage}

/-- Two finalizations that are under way for the same job are one and the same. -/
theorem Linked.eq_of_jobId (h : Linked s) {f g : Finalization} (hf : f ∈ s.finalizations)
    (hg : g ∈ s.finalizations) (heq : f.jobId = g.jobId) : f = g :=
  List.inj_on_of_nodup_map h.once hf hg heq

/-- A finalization that is over is gone, and no other one is. -/
theorem Linked.mem_erased (h : Linked s) {other : Finalization} :
    other ∈ s.replace f none ↔ other ≠ f ∧ other ∈ s.finalizations := by
  rw [BatchState.replace, Option.map_none, Option.toList_none, List.append_nil]
  exact (List.Nodup.of_map _ h.once).mem_erase_iff

/-- Behind the end of a finalization there still are no two for one job. -/
theorem Linked.once_erased (h : Linked s) : ((s.replace f none).map (·.jobId)).Nodup := by
  rw [BatchState.replace, Option.map_none, Option.toList_none, List.append_nil]
  exact h.once.sublist ((List.erase_sublist).map _)

/-- The end of a finalization leaves those of other jobs in flight as they were. -/
theorem Linked.job_erased (h : Linked s) {jobId : Int} (hne : jobId ≠ f.jobId) :
    (∃ g ∈ s.finalizations, g.jobId = jobId) ↔ ∃ g ∈ s.replace f none, g.jobId = jobId := by
  constructor
  · rintro ⟨g, hg, rfl⟩
    exact ⟨g, h.mem_erased.mpr ⟨fun heq => hne (heq ▸ rfl), hg⟩, rfl⟩
  · rintro ⟨g, hg, rfl⟩
    exact ⟨g, (h.mem_erased.mp hg).2, rfl⟩

/-- A finalization in hand has its item queued. -/
theorem Linked.queued_item (h : Linked s) (mem : f ∈ s.finalizations) {itemId : Int}
    {item : DisconnectBatchItem} (hitem : s.items.get itemId = some item)
    (hlink : item.jobId = some f.jobId) : item.status = .queued := by
  obtain ⟨job, hjob, -⟩ := h.ended f mem
  rw [h.stands hitem hlink hjob, if_pos ⟨f, mem, rfl⟩]

/-- What goes on with a finalization that has its item read. -/
theorem Linked.goesOn (h : Linked s) (mem : f ∈ s.finalizations) {stage : FinalizationStage}
    {copies : RowCache DbSession Int ItemStatus}
    (settled : copies.Settled (· ≠ .queued) s.itemStatus)
    (staged : ∀ target ∈ stage.target, ∃ item, s.items.get target.1 = some item ∧
      item.jobId = some f.jobId ∧ item.batchPk = target.2)
    (verdict : ∀ target ∈ stage.target, ∀ status ∈ stage.verdict,
      (∀ r ∈ itemsOf s.items target.2, r.1 ≠ target.1 → r.2.status ≠ .queued) ∧
        status = outcomeOf (statusesWith s.items target.2 target.1 f.outcome)) :
    Linked { s with copies := copies, finalizations := s.replace f (some stage) } := by
  have hjobs : ((s.replace f (some stage)).map (·.jobId)).Perm (s.finalizations.map (·.jobId)) :=
    map_goOn_perm mem rfl
  refine ⟨h.sound, h.routine, h.job, h.apart, h.unlinked, h.batch, ?_, ?_, ?_, ?_, ?_, settled⟩
  · intro other hother
    rcases mem_of_mem_goOn hother with hold | ⟨stage', -, rfl⟩
    · exact h.ended other hold
    · exact h.ended f mem
  · exact hjobs.nodup_iff.mpr h.once
  · intro itemId item jobId job hitem hlink hjob
    refine (h.stands hitem hlink hjob).trans (if_congr ?_ rfl rfl)
    have hmem := @List.Perm.mem_iff _ jobId _ _ hjobs
    rw [List.mem_map, List.mem_map] at hmem
    exact hmem.symm
  · intro other hother target htarget
    rcases mem_of_mem_goOn hother with hold | ⟨stage', hstage, rfl⟩
    · exact h.staged other hold target htarget
    · obtain rfl := Option.some.inj hstage
      exact staged target htarget
  · intro other hother target htarget status hstatus
    rcases mem_of_mem_goOn hother with hold | ⟨stage', hstage, rfl⟩
    · exact h.verdict other hold target htarget status hstatus
    · obtain rfl := Option.some.inj hstage
      exact verdict target htarget status hstatus

/-- A job that no item waits for needs no finalization. -/
theorem InStep.skip (h : InStep s) (due : f.stage = .due)
    (missing : itemOf s.items f.jobId = none) :
    InStep { s with finalizations := s.replace f none } := by
  have hl := h.linked
  have hold : ∀ {other : Finalization}, other ∈ s.replace f none → other ∈ s.finalizations :=
    fun hmem => (hl.mem_erased.mp hmem).2
  constructor
  · refine ⟨hl.sound, hl.routine, hl.job, hl.apart, hl.unlinked, hl.batch,
      fun other hmem => hl.ended other (hold hmem), hl.once_erased, ?_,
      fun other hmem => hl.staged other (hold hmem), fun other hmem => hl.verdict other (hold hmem),
      hl.copies⟩
    intro itemId item jobId job hitem hlink hjob
    have hne : jobId ≠ f.jobId := fun heq => itemOf_none missing hitem (heq ▸ hlink)
    exact (hl.stands hitem hlink hjob).trans (if_congr (hl.job_erased hne) rfl rfl)
  · intro batchPk batch hbatch
    obtain ⟨hinhabited, hclosed, hahead⟩ := h.balanced hbatch
    refine ⟨hinhabited, hclosed, fun hopen => (hahead hopen).imp ?_ ?_⟩
    · rintro ⟨r, hr, hqueued, hfree⟩
      exact ⟨r, hr, hqueued, fun other hmem => hfree other (hold hmem)⟩
    · rintro ⟨g, hg, hof, hverdict⟩
      refine ⟨g, hl.mem_erased.mpr ⟨?_, hg⟩, hof, hverdict⟩
      rintro rfl
      rw [due] at hof
      cases hof

/-- What a finalization reads, where it reads nothing as queued. -/
theorem Linked.reads_eq (h : Linked s) {itemId batchPk : Int} {status : BatchStatus}
    (closing : closes ((itemsOf s.items batchPk).map (s.reads f itemId)) = some status) :
    (∀ r ∈ itemsOf s.items batchPk, r.1 ≠ itemId → r.2.status ≠ .queued) ∧
      status = outcomeOf (statusesWith s.items batchPk itemId f.outcome) := by
  obtain ⟨hqueued, rfl⟩ := closes_eq_some closing
  have hseen : ∀ r ∈ itemsOf s.items batchPk, r.1 ≠ itemId →
      s.reads f itemId r = r.2.status ∧ r.2.status ≠ .queued := by
    intro r hr hne
    have hread : s.reads f itemId r = s.copies.seen f.session r.1 r.2.status := if_neg hne
    have hfinal : s.copies.seen f.session r.1 r.2.status ≠ .queued := fun heq =>
      hqueued (heq ▸ hread ▸ List.mem_map_of_mem hr)
    have hrow : s.itemStatus r.1 = some r.2.status :=
      Option.map_eq_some_iff.mpr ⟨r.2, (mem_itemsOf.mp hr).1, rfl⟩
    have heq := h.copies.seen_eq hrow hfinal
    exact ⟨hread.trans heq, heq ▸ hfinal⟩
  refine ⟨fun r hr hne => (hseen r hr hne).2, congrArg outcomeOf ?_⟩
  refine List.map_congr_left fun r hr => ?_
  split
  · exact if_pos (by assumption)
  · exact (hseen r hr (by assumption)).1

/-- A finalization in flight has an outcome to write. -/
theorem Linked.outcome_ne (h : Linked s) (mem : f ∈ s.finalizations) : f.outcome ≠ .queued := by
  obtain ⟨job, -, hterminal, houtcome⟩ := h.ended f mem
  exact houtcome ▸ (expected_finished hterminal).2

/-- The load-bearing step: whoever reads the items of a batch for the last time closes it. -/
theorem InStep.select (h : InStep s) (mem : f ∈ s.finalizations) (due : f.stage = .due)
    {itemId : Int} {item : DisconnectBatchItem}
    (found : itemOf s.items f.jobId = some (itemId, item)) (ahead : ReadsAhead s f) :
    InStep { s with
      copies := s.copies.load f.session (itemId :: (itemsOf s.items item.batchPk).map (·.1))
        s.itemStatus
      finalizations := s.replace f (some (.flushed itemId item.batchPk
        (closes ((itemsOf s.items item.batchPk).map (s.reads f itemId))))) } := by
  obtain ⟨hitem, hlink⟩ := itemOf_some found
  refine ⟨h.linked.goesOn mem (h.linked.copies.load _ _) ?_ ?_, fun {batchPk batch} hbatch => ?_⟩
  · rintro target ⟨⟩
    exact ⟨item, hitem, hlink, rfl⟩
  · rintro target ⟨⟩ status hstatus
    exact h.linked.reads_eq hstatus
  have hremains : ∀ {r : Int × DisconnectBatchItem}, s.Remaining r → r.1 ≠ itemId →
      ∀ g ∈ s.replace f (some (.flushed itemId item.batchPk
        (closes ((itemsOf s.items item.batchPk).map (s.reads f itemId))))),
        g.stage.target.map (·.1) ≠ some r.1 := by
    intro r hr hne g hg
    rcases mem_of_mem_goOn hg with hold | ⟨stage, hstage, rfl⟩
    · exact hr.2 g hold
    · obtain rfl := Option.some.inj hstage
      exact fun heq => hne (Option.some.inj heq).symm
  obtain ⟨hinhabited, hclosed, hahead⟩ := h.balanced hbatch
  refine ⟨hinhabited, hclosed, fun hopen => ?_⟩
  rcases hahead hopen with ⟨r, hr, hremaining⟩ | ⟨g, hg, hof, hverdict⟩
  · rcases eq_or_ne r.1 itemId with heq | hne
    · -- The item itself was still to come: now it is another one's turn, or the batch will be closed.
      have hrow := (mem_itemsOf.mp hr).1
      rw [heq, hitem] at hrow
      obtain rfl : batchPk = item.batchPk := by
        rw [show item = r.2 from Option.some.inj hrow]
        exact (mem_itemsOf.mp hr).2.symm
      rcases hcloses : closes ((itemsOf s.items item.batchPk).map (s.reads f itemId)) with _ | status
      · obtain ⟨r', hr', hread⟩ := List.mem_map.mp (closes_eq_none hcloses)
        have hother : r'.1 ≠ itemId := fun heq' => by
          rw [BatchState.reads, if_pos heq'] at hread
          exact h.linked.outcome_ne mem hread
        rw [BatchState.reads, if_neg hother] at hread
        obtain ⟨r'', hr'', hne'', hremaining''⟩ :=
          ahead (itemId, item) found ⟨r', hr', hother, hread⟩
        exact .inl ⟨r'', hr'', hremaining''.1, hcloses ▸ hremains hremaining'' hne''⟩
      · exact .inr ⟨_, mem_goOn_self rfl, rfl, rfl⟩
    · exact .inl ⟨r, hr, hremaining.1, hremains hremaining hne⟩
  · refine .inr ⟨g, mem_goOn_of_ne hg ?_, hof, hverdict⟩
    rintro rfl
    rw [due] at hof
    cases hof

/-- The batch of an item that is on its way is open. -/
theorem InStep.get (h : InStep s) (mem : f ∈ s.finalizations) {itemId batchPk : Int}
    {status : BatchStatus} (stage : f.stage = .flushed itemId batchPk (some status)) :
    InStep { s with finalizations := s.replace f (some
      (if ∃ batch ∈ s.batches.get batchPk, batch.status.isOpen = true then
        .closing itemId batchPk status
      else .flushed itemId batchPk none)) } := by
  obtain ⟨item, hitem, hlink, hof⟩ := h.linked.staged f mem (itemId, batchPk) (stage ▸ rfl)
  have hopen : ∃ batch ∈ s.batches.get batchPk, batch.status.isOpen = true := by
    obtain ⟨batch, hbatch⟩ := h.linked.batch hitem
    rw [hof] at hbatch
    refine ⟨batch, hbatch, Bool.of_not_eq_false fun hclosed => ?_⟩
    refine ((h.balanced hbatch).closed hclosed).1 (itemId, item) (mem_itemsOf.mpr ⟨hitem, hof⟩) ?_
    exact h.linked.queued_item mem hitem hlink
  rw [if_pos hopen]
  refine ⟨h.linked.goesOn mem h.linked.copies ?_ ?_, fun {batchPk' batch} hbatch => ?_⟩
  · rintro target ⟨⟩
    exact ⟨item, hitem, hlink, hof⟩
  · rintro target ⟨⟩ status' ⟨⟩
    exact h.linked.verdict f mem (itemId, batchPk) (stage ▸ rfl) status (stage ▸ rfl)
  obtain ⟨hinhabited, hclosed, hahead⟩ := h.balanced hbatch
  refine ⟨hinhabited, hclosed, fun hopen => (hahead hopen).imp ?_ ?_⟩
  · rintro ⟨r, hr, hqueued, hfree⟩
    refine ⟨r, hr, hqueued, fun g hg => ?_⟩
    rcases mem_of_mem_goOn hg with hold | ⟨stage', hstage', rfl⟩
    · exact hfree g hold
    · obtain rfl := Option.some.inj hstage'
      have hthis := hfree f mem
      rw [stage] at hthis
      exact hthis
  · rintro ⟨g, hg, hof', hverdict⟩
    rcases eq_or_ne g f with rfl | hne
    · rw [stage] at hof'
      exact ⟨_, mem_goOn_self rfl, hof', rfl⟩
    · exact ⟨g, mem_goOn_of_ne hg hne, hof', hverdict⟩

/-- Only the item of the finalization is written. -/
theorem written_item {itemId : Int} {i : Int} {item' : DisconnectBatchItem}
    (hget : (s.items.update itemId f.write).get i = some item') :
    ∃ item, s.items.get i = some item ∧ item'.jobId = item.jobId ∧ item'.batchPk = item.batchPk ∧
      (i ≠ itemId → item' = item) ∧ (i = itemId → item'.status = f.outcome) := by
  rcases eq_or_ne i itemId with heq | hne
  · subst heq
    rw [Table.get_update_self] at hget
    obtain ⟨item, hitem, rfl⟩ := Option.map_eq_some_iff.mp hget
    exact ⟨item, hitem, rfl, rfl, fun hne => absurd rfl hne, fun _ => rfl⟩
  · rw [Table.get_update_ne _ hne] at hget
    exact ⟨item', hget, rfl, rfl, fun _ => rfl, fun heq => absurd heq hne⟩

/-- Writing an item changes that row in its batch, and nothing about the list else. -/
theorem itemsOf_written {itemId batchPk : Int} : itemsOf (s.items.update itemId f.write) batchPk =
    (itemsOf s.items batchPk).map fun r => if r.1 = itemId then (r.1, f.write r.2) else r :=
  itemsOf_update fun _ => rfl

/-- The items of another batch stay as they are. -/
theorem itemsOf_written_other {itemId batchPk : Int} {item : DisconnectBatchItem}
    (hitem : s.items.get itemId = some item) (hne : item.batchPk ≠ batchPk) :
    itemsOf (s.items.update itemId f.write) batchPk = itemsOf s.items batchPk := by
  rw [itemsOf_written]
  refine (List.map_congr_left fun r hr => if_neg fun heq => ?_).trans (List.map_id _)
  obtain ⟨hrow, hof⟩ := mem_itemsOf.mp hr
  rw [heq, hitem] at hrow
  exact hne (Option.some.inj hrow ▸ hof)

/-- The commit of a finalization ends it: item and job stay linked behind it. -/
theorem Linked.commit (h : Linked s) (mem : f ∈ s.finalizations) {itemId batchPk : Int}
    (target : f.stage.target = some (itemId, batchPk)) {batches : Table Int DisconnectBatch}
    (kept : ∀ {pk batch}, s.batches.get pk = some batch → ∃ batch', batches.get pk = some batch') :
    Linked { s with
      items := s.items.update itemId f.write
      batches := batches
      copies := s.copies.write f.session [itemId] fun id =>
        ((s.items.update itemId f.write).get id).map (·.status)
      finalizations := s.replace f none } := by
  obtain ⟨own, hown, hlink, hof⟩ := h.staged f mem (itemId, batchPk) target
  have hqueued := h.queued_item mem hown hlink
  have hold : ∀ {other : Finalization}, other ∈ s.replace f none →
      other ≠ f ∧ other ∈ s.finalizations := h.mem_erased.mp
  -- No other finalization is of the item.
  have hother : ∀ {g : Finalization}, g ∈ s.replace f none → ∀ target' ∈ g.stage.target,
      target'.1 ≠ itemId := by
    intro g hg target' htarget' heq
    obtain ⟨item, hitem, hlink', -⟩ := h.staged g (hold hg).2 target' htarget'
    rw [heq, hown] at hitem
    obtain rfl := Option.some.inj hitem
    exact (hold hg).1 (h.eq_of_jobId (hold hg).2 mem (Option.some.inj (hlink'.symm.trans hlink)))
  refine ⟨h.sound, h.routine, ?_, ?_, ?_, ?_, fun other hmem => h.ended other (hold hmem).2,
    h.once_erased, ?_, ?_, ?_, ?_⟩
  · intro i item' jobId hitem' hlink'
    obtain ⟨item, hitem, hjobId, -⟩ := written_item hitem'
    exact h.job hitem (hjobId ▸ hlink')
  · intro i i' item' item'' jobId hitem' hitem'' hlink' hlink''
    obtain ⟨item₁, hitem₁, hjobId₁, -⟩ := written_item hitem'
    obtain ⟨item₂, hitem₂, hjobId₂, -⟩ := written_item hitem''
    exact h.apart hitem₁ hitem₂ (hjobId₁ ▸ hlink') (hjobId₂ ▸ hlink'')
  · intro i item' hitem' hnone
    obtain ⟨item, hitem, hjobId, -, hsame, -⟩ := written_item hitem'
    rcases eq_or_ne i itemId with heq | hne
    · rw [heq, hown] at hitem
      obtain rfl := Option.some.inj hitem
      rw [hjobId, hlink] at hnone
      cases hnone
    · rw [hsame hne]
      exact h.unlinked hitem (hjobId ▸ hnone)
  · intro i item' hitem'
    obtain ⟨item, hitem, -, hbatchPk, -⟩ := written_item hitem'
    obtain ⟨batch, hbatch⟩ := h.batch hitem
    exact kept (hbatchPk ▸ hbatch)
  · intro i item' jobId job hitem' hlink' hjob
    obtain ⟨item, hitem, hjobId, -, hsame, hwritten⟩ := written_item hitem'
    rcases eq_or_ne i itemId with heq | hne
    · rw [heq, hown] at hitem
      obtain rfl := Option.some.inj hitem
      obtain rfl : jobId = f.jobId := Option.some.inj (hlink'.symm.trans (hjobId.trans hlink))
      obtain ⟨job', hjob', hterminal, houtcome⟩ := h.ended f mem
      obtain rfl := Option.some.inj (hjob.symm.trans hjob')
      rw [hwritten heq, if_neg, houtcome, (expected_finished hterminal).1]
      rintro ⟨g, hg, heq'⟩
      exact (hold hg).1 (h.eq_of_jobId (hold hg).2 mem heq')
    · have hne' : jobId ≠ f.jobId := fun heq => hne (h.apart hitem hown (hjobId ▸ hlink') (heq ▸ hlink))
      rw [hsame hne]
      exact (h.stands hitem (hjobId ▸ hlink') hjob).trans (if_congr (h.job_erased hne') rfl rfl)
  · intro g hg target' htarget'
    obtain ⟨item, hitem, hlink', hof'⟩ := h.staged g (hold hg).2 target' htarget'
    exact ⟨item, (Table.get_update_ne _ (hother hg target' htarget') _).trans hitem, hlink', hof'⟩
  · intro g hg target' htarget' status hstatus
    obtain ⟨hsettled, hstatus'⟩ := h.verdict g (hold hg).2 target' htarget' status hstatus
    have hne : own.batchPk ≠ target'.2 := fun heq =>
      hsettled (itemId, own) (mem_itemsOf.mpr ⟨hown, heq⟩) (hother hg target' htarget').symm hqueued
    rw [statusesWith, itemsOf_written_other hown hne, ← statusesWith]
    exact ⟨hsettled, hstatus'⟩
  · refine (h.copies.step fun i status hstatus hfinal => ?_).write f.session [itemId]
    obtain ⟨item, hitem, rfl⟩ := Option.map_eq_some_iff.mp hstatus
    have hne : i ≠ itemId := by
      rintro rfl
      rw [hown] at hitem
      obtain rfl := Option.some.inj hitem
      exact hfinal hqueued
    exact Option.map_eq_some_iff.mpr ⟨item, (Table.get_update_ne _ hne _).trans hitem, rfl⟩

/-- The commit of a finalization writes the outcome of its job on the item, and closes the batch if
    this was the last one; all stays in step. -/
theorem InStep.commit (h : InStep s) (mem : f ∈ s.finalizations) {itemId batchPk : Int}
    (target : f.stage.target = some (itemId, batchPk)) {batches : Table Int DisconnectBatch}
    (leaves : f.stage.verdict = none ∧ batches = s.batches ∨
      ∃ status now, f.stage.verdict = some status ∧
        batches = s.batches.update batchPk (·.close status now)) :
    InStep { s with
      items := s.items.update itemId f.write
      batches := batches
      copies := s.copies.write f.session [itemId] fun id =>
        ((s.items.update itemId f.write).get id).map (·.status)
      finalizations := s.replace f none } := by
  have hkept : ∀ {pk batch}, s.batches.get pk = some batch → ∃ batch', batches.get pk = some batch' := by
    intro pk batch hbatch
    rcases leaves with ⟨-, rfl⟩ | ⟨status, now, -, rfl⟩
    · exact ⟨batch, hbatch⟩
    · exact ⟨_, (Table.get_modify _ _ _).trans (congrArg _ hbatch)⟩
  refine ⟨h.linked.commit mem target hkept, fun {pk batch'} hbatch' => ?_⟩
  obtain ⟨own, hown, hlink, hof⟩ := h.linked.staged f mem (itemId, batchPk) target
  have hqueued := h.linked.queued_item mem hown hlink
  have hremains : ∀ {r : Int × DisconnectBatchItem}, s.Remaining r → ∀ g ∈ s.replace f none,
      g.stage.target.map (·.1) ≠ some r.1 := fun hr g hg => hr.2 g (h.linked.mem_erased.mp hg).2
  -- The item that is committed may be of this batch or of another one.
  rcases eq_or_ne pk batchPk with rfl | hne
  · have hown' : (itemId, own) ∈ itemsOf s.items pk := mem_itemsOf.mpr ⟨hown, hof⟩
    have hinhabited : itemsOf (s.items.update itemId f.write) pk ≠ [] := by
      rw [itemsOf_written]
      exact fun hnil => List.not_mem_nil (List.map_eq_nil_iff.mp hnil ▸ hown')
    rcases leaves with ⟨hnone, rfl⟩ | ⟨status, now, hverdict, rfl⟩
    · obtain ⟨-, hclosed, hahead⟩ := h.balanced hbatch'
      -- The batch is left open: what was ahead of it stays ahead, this finalization apart.
      refine ⟨hinhabited, fun hclosed' => absurd hqueued ((hclosed hclosed').1 _ hown'), fun hopen => ?_⟩
      refine (hahead hopen).imp ?_ ?_
      · rintro ⟨r, hr, hremaining⟩
        have hother : r.1 ≠ itemId := fun heq =>
          hremaining.2 f mem (target ▸ congrArg some heq.symm)
        refine ⟨r, ?_, hremaining.1, hremains hremaining⟩
        rw [itemsOf_written]
        exact List.mem_map.mpr ⟨r, hr, if_neg hother⟩
      · rintro ⟨g, hg, hof', hverdict⟩
        refine ⟨g, h.linked.mem_erased.mpr ⟨?_, hg⟩, hof', hverdict⟩
        rintro rfl
        rw [hnone] at hverdict
        cases hverdict
    · obtain ⟨hsettled, hstatus⟩ := h.linked.verdict f mem (itemId, pk) target status hverdict
      rw [Table.get_update_self] at hbatch'
      obtain ⟨batch, hbatch, rfl⟩ := Option.map_eq_some_iff.mp hbatch'
      have hstatuses : (itemsOf (s.items.update itemId f.write) pk).map (·.2.status) =
          statusesWith s.items pk itemId f.outcome := by
        rw [itemsOf_written, List.map_map, statusesWith]
        refine List.map_congr_left fun r _ => ?_
        show (if r.1 = itemId then (r.1, f.write r.2) else r).2.status = _
        split <;> rfl
      -- The batch is closed by the status of the items as they are now, this one with its outcome.
      have hclosed : (DisconnectBatch.close status now batch).status.isOpen = false :=
        hstatus ▸ outcomeOf_closed _
      refine ⟨hinhabited, fun _ => ⟨fun r hr => ?_, hstatus.trans (congrArg outcomeOf hstatuses.symm)⟩,
        fun hopen => absurd (hclosed.symm.trans hopen) Bool.noConfusion⟩
      rw [itemsOf_written] at hr
      obtain ⟨r₀, hr₀, rfl⟩ := List.mem_map.mp hr
      split
      · exact h.linked.outcome_ne mem
      · exact hsettled r₀ hr₀ (by assumption)
  · have hbatch : s.batches.get pk = some batch' := by
      rcases leaves with ⟨-, rfl⟩ | ⟨status, now, -, rfl⟩
      · exact hbatch'
      · exact (Table.get_update_ne _ hne _).symm.trans hbatch'
    obtain ⟨hinhabited, hclosed, hahead⟩ := h.balanced hbatch
    -- The items of another batch are not touched.
    have hitems := @itemsOf_written_other V s f _ pk _ hown (fun heq => hne (heq.symm.trans hof))
    refine ⟨hitems ▸ hinhabited, fun hclosed' => hitems ▸ hclosed hclosed', fun hopen => ?_⟩
    refine (hahead hopen).imp ?_ ?_
    · rintro ⟨r, hr, hremaining⟩
      exact ⟨r, hitems ▸ hr, hremaining.1, hremains hremaining⟩
    · rintro ⟨g, hg, hof', hverdict⟩
      refine ⟨g, h.linked.mem_erased.mpr ⟨?_, hg⟩, hof', hverdict⟩
      rintro rfl
      rw [target] at hof'
      exact hne (Option.some.inj hof').symm

end Stages

/-! ## Restarts -/

/-- What is reaped is no job of a batch. -/
theorem InStep.restarted {s : BatchState V} {now : Int} (h : InStep s)
    (finishes : Finishes s (.restart now))
    (change : JobChange values s.core (.restart now) (restart s.core now)) :
    InStep { s with core := restart s.core now, copies := .empty, finalizations := [] } := by
  have hl := h.linked
  have rows := hl.sound.rowStep (show WritesOpen s.core (.restart now) from trivial) change
  have hrest : ∀ {itemId item jobId}, s.items.get itemId = some item → item.jobId = some jobId →
      ¬ s.core.HasStatus .running jobId ∧ ∀ f ∈ s.finalizations, f.jobId ≠ jobId :=
    fun hitem hlink => finishes (_, _) (Table.get_eq_some.mp hitem) _ hlink
  refine ⟨⟨hl.sound.step change, fun _ h => (nomatch h), ?_, hl.apart, hl.unlinked, hl.batch,
    fun _ hf => (nomatch hf), List.nodup_nil, ?_, fun _ hf => (nomatch hf), fun _ hf => (nomatch hf),
    .empty⟩, fun {batchPk batch} hbatch => ?_⟩
  · intro itemId item jobId hitem hlink
    obtain ⟨job, hjob, hrelay⟩ := hl.job hitem hlink
    obtain ⟨job', hjob', hsame, -⟩ := rows.kept hjob
    exact ⟨job', hjob', (isRelayJob_same hsame).trans hrelay⟩
  · intro itemId item jobId job' hitem hlink hjob'
    obtain ⟨job, hjob, -⟩ := hl.job hitem hlink
    obtain ⟨hidle, hnone⟩ := hrest hitem hlink
    rw [restart, Table.get_modify, hjob, Option.map_some,
      Job.reap_of_ne fun hrunning => hidle ⟨job, hjob, hrunning⟩] at hjob'
    obtain rfl := Option.some.inj hjob'
    have hstands := hl.stands hitem hlink hjob
    rw [if_neg fun ⟨f, hf, heq⟩ => hnone f hf heq] at hstands
    exact hstands.trans (if_neg fun ⟨_, hf, _⟩ => (nomatch hf)).symm
  · obtain ⟨hinhabited, hclosed, hahead⟩ := h.balanced hbatch
    refine ⟨hinhabited, hclosed, fun hopen => .inl ?_⟩
    rcases hahead hopen with ⟨r, hr, hremaining⟩ | ⟨f, hf, hof, -⟩
    · exact ⟨r, hr, hremaining.1, fun _ hf => (nomatch hf)⟩
    · obtain ⟨target, htarget, -⟩ := Option.map_eq_some_iff.mp hof
      obtain ⟨item, hitem, hlink, -⟩ := hl.staged f hf target htarget
      exact absurd rfl ((hrest hitem hlink).2 f hf)

/-! ## A new batch -/

section Create

variable {s t : BatchState V} {batchPk : Int}

/-- Whether a batch is balanced depends on its items and on the finalizations in flight only. -/
theorem Balanced.congr {batch : DisconnectBatch} (h : Balanced s batchPk batch)
    (items : itemsOf t.items batchPk = itemsOf s.items batchPk)
    (finalizations : t.finalizations = s.finalizations) : Balanced t batchPk batch := by
  refine ⟨items ▸ h.inhabited, items ▸ h.closed, fun hopen => (h.ahead hopen).imp ?_ ?_⟩
  · rintro ⟨r, hr, hqueued, hfree⟩
    exact ⟨r, items ▸ hr, hqueued, finalizations ▸ hfree⟩
  · rintro ⟨f, hf, hverdict⟩
    exact ⟨f, finalizations ▸ hf, hverdict⟩

/-- A batch that is being made: its items are nobody's yet. -/
structure Growing (s : BatchState V) (batchPk : Int) : Prop where
  linked : Linked s
  found : ∃ batch, s.batches.get batchPk = some batch
  balanced : ∀ {pk batch}, pk ≠ batchPk → s.batches.get pk = some batch → Balanced s pk batch
  fresh : ∀ r ∈ itemsOf s.items batchPk, ∀ jobId ∈ r.2.jobId, ∀ f ∈ s.finalizations,
    f.jobId ≠ jobId

/-- No finalization is of an item of the batch. -/
theorem Growing.untouched (h : Growing s batchPk) {f : Finalization} (hf : f ∈ s.finalizations)
    {target : Int × Int} (htarget : target ∈ f.stage.target) : target.2 ≠ batchPk := by
  rintro rfl
  obtain ⟨item, hitem, hlink, hof⟩ := h.linked.staged f hf target htarget
  exact h.fresh (target.1, item) (mem_itemsOf.mpr ⟨hitem, hof⟩) f.jobId hlink f hf rfl

/-- A job that was not there is not linked, and not on its way. -/
theorem Linked.new_job (h : Linked s) {jobId : Int} (new : s.core.jobs.get jobId = none) :
    (∀ itemId item, s.items.get itemId = some item → item.jobId ≠ some jobId) ∧
      ∀ f ∈ s.finalizations, f.jobId ≠ jobId := by
  constructor
  · intro itemId item hitem hlink
    obtain ⟨job, hjob, -⟩ := h.job hitem hlink
    rw [new] at hjob
    cases hjob
  · rintro f hf rfl
    obtain ⟨job, hjob, -⟩ := h.ended f hf
    rw [new] at hjob
    cases hjob

/-- What is linked to a new item. -/
def NewLink (s : BatchState V) (item : DisconnectBatchItem) : Prop :=
  item.jobId = none ∧ item.status = .failed ∨
    ∃ jobId job, item.jobId = some jobId ∧ item.status = .queued ∧
      s.core.jobs.get jobId = some job ∧ isRelayJob job = true ∧ job.status = .queued ∧
      (∀ itemId other, s.items.get itemId = some other → other.jobId ≠ some jobId) ∧
      ∀ f ∈ s.finalizations, f.jobId ≠ jobId

/-- What a new item with a job says: a queued relay job, that no item and no finalization has had
    before. -/
theorem NewLink.job {item : DisconnectBatchItem} (h : NewLink s item) {jobId : Int}
    (hlink : item.jobId = some jobId) : item.status = .queued ∧
      (∃ job, s.core.jobs.get jobId = some job ∧ isRelayJob job = true ∧ job.status = .queued) ∧
      (∀ itemId other, s.items.get itemId = some other → other.jobId ≠ some jobId) ∧
      ∀ f ∈ s.finalizations, f.jobId ≠ jobId := by
  rcases h with ⟨hnone, -⟩ | ⟨jobId', job, hsome, hqueued, hjob, hrelay, hopen, hrest⟩
  · rw [hlink] at hnone
    cases hnone
  · obtain rfl := Option.some.inj (hlink.symm.trans hsome)
    exact ⟨hqueued, ⟨job, hjob, hrelay, hopen⟩, hrest⟩

/-- A batch that is being made grows by an item. -/
theorem Growing.insert (h : Growing s batchPk) {itemId : Int} {item : DisconnectBatchItem}
    (new : s.items.get itemId = none) (of : item.batchPk = batchPk) (link : NewLink s item) :
    Growing { s with items := s.items.insert itemId item new } batchPk := by
  have hl := h.linked
  have hget : ∀ {i : Int} {item' : DisconnectBatchItem},
      (s.items.insert itemId item new).get i = some item' →
      i ≠ itemId ∧ s.items.get i = some item' ∨ i = itemId ∧ item' = item := by
    intro i item' hitem'
    rcases eq_or_ne i itemId with heq | hne
    · rw [heq, Table.get_insert_self] at hitem'
      exact .inr ⟨heq, (Option.some.inj hitem').symm⟩
    · rw [Table.get_insert_ne _ _ new hne] at hitem'
      exact .inl ⟨hne, hitem'⟩
  have hkept : ∀ {i : Int} {item' : DisconnectBatchItem}, s.items.get i = some item' →
      (s.items.insert itemId item new).get i = some item' := by
    intro i item' hitem'
    refine (Table.get_insert_ne _ _ new ?_).trans hitem'
    rintro rfl
    rw [new] at hitem'
    cases hitem'
  have hother : ∀ {pk : Int}, pk ≠ batchPk →
      itemsOf (s.items.insert itemId item new) pk = itemsOf s.items pk := by
    intro pk hne
    rw [itemsOf_insert, if_neg fun heq => hne (heq.symm.trans of), List.append_nil]
  refine ⟨⟨hl.sound, hl.routine, ?_, ?_, ?_, ?_, hl.ended, hl.once, ?_, ?_, ?_, ?_⟩, h.found,
    fun hne hbatch => (h.balanced hne hbatch).congr (hother hne) rfl, ?_⟩
  · intro i item' jobId hitem' hlink
    rcases hget hitem' with ⟨-, hold⟩ | ⟨-, rfl⟩
    · exact hl.job hold hlink
    · obtain ⟨-, ⟨job, hjob, hrelay, -⟩, -⟩ := link.job hlink
      exact ⟨job, hjob, hrelay⟩
  -- Two items of one job: the job of a new item is linked to no old one.
  · intro i i' item₁ item₂ jobId hitem₁ hitem₂ hlink₁ hlink₂
    rcases hget hitem₁ with ⟨-, hold₁⟩ | ⟨rfl, rfl⟩ <;>
      rcases hget hitem₂ with ⟨-, hold₂⟩ | ⟨rfl, rfl⟩
    · exact hl.apart hold₁ hold₂ hlink₁ hlink₂
    · exact absurd hlink₁ ((link.job hlink₂).2.2.1 _ _ hold₁)
    · exact absurd hlink₂ ((link.job hlink₁).2.2.1 _ _ hold₂)
    · rfl
  · intro i item' hitem' hnone
    rcases hget hitem' with ⟨-, hold⟩ | ⟨-, rfl⟩
    · exact hl.unlinked hold hnone
    · rcases link with ⟨-, hfailed⟩ | ⟨jobId, job, hsome, -⟩
      · exact hfailed
      · rw [hnone] at hsome
        cases hsome
  · intro i item' hitem'
    rcases hget hitem' with ⟨-, hold⟩ | ⟨-, rfl⟩
    · exact hl.batch hold
    · exact of ▸ h.found
  · intro i item' jobId job hitem' hlink hjob
    rcases hget hitem' with ⟨-, hold⟩ | ⟨-, rfl⟩
    · exact hl.stands hold hlink hjob
    · obtain ⟨hqueued, ⟨job', hjob', -, hopen⟩, -, hnone⟩ := link.job hlink
      obtain rfl := Option.some.inj (hjob.symm.trans hjob')
      -- The job of the new item is still queued, and so is the item.
      rw [hqueued, if_neg fun ⟨f, hf, heq⟩ => hnone f hf heq, hopen]
      rfl
  · intro f hf target htarget
    obtain ⟨item', hitem', hrest⟩ := hl.staged f hf target htarget
    exact ⟨item', hkept hitem', hrest⟩
  · intro f hf target htarget status hstatus
    have hne := h.untouched hf htarget
    rw [statusesWith, hother hne, ← statusesWith]
    exact hl.verdict f hf target htarget status hstatus
  · refine hl.copies.step fun i status hstatus _ => ?_
    obtain ⟨item', hitem', rfl⟩ := Option.map_eq_some_iff.mp hstatus
    exact Option.map_eq_some_iff.mpr ⟨item', hkept hitem', rfl⟩
  · intro r hr jobId hjobId f hf
    rw [itemsOf_insert, if_pos of, List.mem_append] at hr
    rcases hr with hold | hnew
    · exact h.fresh r hold jobId hjobId f hf
    · obtain rfl := List.mem_singleton.mp hnew
      exact (link.job hjobId).2.2.2 f hf

/-- A job that is made for an item. -/
theorem Growing.created (h : Growing s batchPk) {jobId : Int} {job : Job V} {core : JobState V}
    (relay : isRelayJob job = true) (change : JobChange values s.core (.create jobId job) core) :
    Growing { s with core := core } batchPk ∧
      ∀ item : DisconnectBatchItem, item.jobId = some jobId → item.status = .queued →
        NewLink { s with core := core } item := by
  have hnew := (created_new change).1
  have hlinked := @Linked.job_step V values (.create jobId job) (.sweep 0) s core h.linked trivial
    (fun _ heq => (nomatch heq)) change
  rw [show finalizes (.sweep 0) core (.create jobId job) = [] from rfl, List.append_nil] at hlinked
  refine ⟨⟨hlinked, h.found, fun hne hbatch => (h.balanced hne hbatch).congr rfl rfl, h.fresh⟩,
    fun item hlink hqueued => ?_⟩
  have hjob : core.jobs.get jobId = some job ∧ job.status = .queued := by
    cases change with
    | created new queued => exact ⟨Table.get_insert_self _ _ new, queued⟩
  exact .inr ⟨jobId, job, hlink, hqueued, hjob.1, relay, hjob.2, h.linked.new_job hnew⟩

/-- Both operations of a batch, disconnecting and reconnecting, make relay jobs. -/
theorem BatchOperation.relay (operation : BatchOperation) :
    operation.jobType = .disconnect ∨ operation.jobType = .reconnect := by
  cases operation with
  | disconnect => exact .inl rfl
  | reconnect => exact .inr rfl

/-- One turn of the loop over the meters adds an item to the batch, with its job if the meter is
    known. -/
theorem Growing.addItem {operation : BatchOperation} {meters : String → Option Int} {new : NewBatch}
    {row : String × Int × Int} (h : Growing s new.batchPk)
    (next : addItem values operation meters new s row = some t) :
    Growing t new.batchPk ∧ t.batches = s.batches ∧ itemsOf t.items new.batchPk ≠ [] := by
  obtain ⟨serial, itemId, jobId⟩ := row
  have hinhabited : ∀ {u : BatchState V} {item : DisconnectBatchItem} (hnew : u.items.get itemId = none),
      item.batchPk = new.batchPk → itemsOf (u.items.insert itemId item hnew) new.batchPk ≠ [] := by
    intro u item hnew hof
    rw [itemsOf_insert, if_pos hof]
    exact List.append_ne_nil_of_right_ne_nil _ (List.cons_ne_nil _ _)
  rcases dite_eq_iff.mp next with ⟨hnew, next⟩ | ⟨_, next⟩
  · rcases hmeter : meters serial with _ | meterId <;> rw [hmeter] at next
    · obtain rfl := Option.some.inj next
      exact ⟨h.insert hnew rfl (.inl ⟨rfl, rfl⟩), rfl, hinhabited hnew rfl⟩
    · obtain ⟨core, hcore, rfl⟩ := Option.map_eq_some_iff.mp next
      obtain ⟨hgrowing, hlink⟩ := h.created (decide_eq_true operation.relay) (jobStep_change hcore)
      exact ⟨hgrowing.insert hnew rfl (hlink _ rfl rfl), rfl, hinhabited hnew rfl⟩
  · cases next

/-- The loop over the serial numbers of a request: the new batch grows, the others stay, and it has
    items in the end. -/
theorem Growing.addItems {operation : BatchOperation} {meters : String → Option Int}
    {new : NewBatch} : ∀ (rows : List (String × Int × Int)) {s t : BatchState V},
      Growing s new.batchPk → exec (Backend.addItem values operation meters new) s rows = some t →
      Growing t new.batchPk ∧ t.batches = s.batches ∧
        (rows ≠ [] ∨ itemsOf s.items new.batchPk ≠ [] → itemsOf t.items new.batchPk ≠ [])
  | [], s, t, h, hexec => by
    obtain rfl := Option.some.inj hexec
    exact ⟨h, rfl, fun hor => hor.resolve_left fun hne => hne rfl⟩
  | row :: rows, s, t, h, hexec => by
    obtain ⟨next, hnext, hexec⟩ := Option.bind_eq_some_iff.mp hexec
    obtain ⟨hgrowing, hbatches, hinhabited⟩ := h.addItem hnext
    obtain ⟨hall, hbatches', hinhabited'⟩ := Growing.addItems rows hgrowing hexec
    exact ⟨hall, hbatches'.trans hbatches, fun _ => hinhabited' (.inr hinhabited)⟩

/-- A batch that has just been inserted has no items yet, and all the others are in step as before.
    -/
theorem InStep.growing (h : InStep s) (new : s.batches.get batchPk = none) (batch : DisconnectBatch) :
    Growing { s with batches := s.batches.insert batchPk batch new } batchPk := by
  have hl := h.linked
  have hempty : ∀ r ∈ itemsOf s.items batchPk, False := by
    intro r hr
    obtain ⟨hrow, rfl⟩ := mem_itemsOf.mp hr
    obtain ⟨batch', hbatch'⟩ := hl.batch hrow
    rw [new] at hbatch'
    cases hbatch'
  refine ⟨{ hl with batch := fun {itemId item} hitem => ?_ }, ⟨batch, Table.get_insert_self _ _ new⟩,
    fun hne hbatch => ?_, fun r hr => (hempty r hr).elim⟩
  · rcases eq_or_ne item.batchPk batchPk with heq | hne
    · exact (hempty (itemId, item) (mem_itemsOf.mpr ⟨hitem, heq⟩)).elim
    · obtain ⟨batch', hbatch'⟩ := hl.batch hitem
      exact ⟨batch', (Table.get_insert_ne _ _ new hne).trans hbatch'⟩
  · rw [Table.get_insert_ne _ _ new hne] at hbatch
    exact (h.balanced hbatch).congr rfl rfl

/-- A batch that is made with a queued item has that item to come. -/
theorem Growing.leftOpen (h : Growing s batchPk) {batch : DisconnectBatch}
    (found : s.batches.get batchPk = some batch) (opened : batch.status.isOpen = true)
    (hcloses : closes ((itemsOf s.items batchPk).map (·.2.status)) = none) : InStep s := by
  refine ⟨h.linked, fun {pk batch'} hbatch' => ?_⟩
  rcases eq_or_ne pk batchPk with rfl | hne
  · obtain rfl := Option.some.inj (found.symm.trans hbatch')
    obtain ⟨r, hr, hqueued⟩ := List.mem_map.mp (closes_eq_none hcloses)
    refine ⟨List.ne_nil_of_mem hr,
      fun hclosed => absurd (hclosed.symm.trans opened) Bool.noConfusion,
      fun _ => .inl ⟨r, hr, hqueued, fun f hf heq => ?_⟩⟩
    obtain ⟨target, htarget, hitem⟩ := Option.map_eq_some_iff.mp heq
    obtain ⟨item, hget, -, hof⟩ := h.linked.staged f hf target htarget
    rw [hitem, (mem_itemsOf.mp hr).1] at hget
    refine h.untouched hf htarget (hof.symm.trans ?_)
    exact Option.some.inj hget ▸ (mem_itemsOf.mp hr).2
  · exact h.balanced hne hbatch'

/-- A batch that is closed as soon as it is made, since all its meters are unknown, is in step. -/
theorem Growing.closed (h : Growing s batchPk) (inhabited : itemsOf s.items batchPk ≠ [])
    {status : BatchStatus} (now : Int)
    (hcloses : closes ((itemsOf s.items batchPk).map (·.2.status)) = some status) :
    InStep { s with batches := s.batches.update batchPk (·.close status now) } := by
  obtain ⟨hqueued, hstatus⟩ := closes_eq_some hcloses
  refine ⟨{ h.linked with batch := fun hitem => ?_ }, fun {pk batch'} hbatch' => ?_⟩
  · obtain ⟨batch', hbatch'⟩ := h.linked.batch hitem
    exact ⟨_, (Table.get_modify _ _ _).trans (congrArg _ hbatch')⟩
  rcases eq_or_ne pk batchPk with rfl | hne
  · rw [Table.get_update_self] at hbatch'
    obtain ⟨batch, -, rfl⟩ := Option.map_eq_some_iff.mp hbatch'
    have hclosed : (DisconnectBatch.close status now batch).status.isOpen = false :=
      hstatus ▸ outcomeOf_closed _
    refine ⟨inhabited, fun _ => ⟨fun r hr heq => ?_, hstatus⟩,
      fun hopen => absurd (hclosed.symm.trans hopen) Bool.noConfusion⟩
    exact hqueued (heq ▸ List.mem_map_of_mem hr)
  · rw [Table.get_update_ne _ hne] at hbatch'
    exact (h.balanced hne hbatch').congr rfl rfl

/-- The session that makes a batch keeps everything in step. -/
theorem InStep.insertBatch {operation : BatchOperation} {request : DisconnectBatchRequest}
    {idempotencyKey : String} {apiKeyId : Int} {meters : String → Option Int} {new : NewBatch}
    (h : InStep s)
    (next : insertBatch values s operation request idempotencyKey apiKeyId meters new = some t) :
    InStep t := by
  rcases dite_eq_iff.mp next with ⟨hnew, next⟩ | ⟨_, next⟩
  · rcases ite_eq_iff.mp next with ⟨hlength, next⟩ | ⟨_, next⟩
    · obtain ⟨u, hexec, rfl⟩ := Option.map_eq_some_iff.mp next
      obtain ⟨hgrowing, hbatches, hinhabited⟩ := Growing.addItems _ (h.growing hnew _) hexec
      have hrows : request.meters.zip new.rows ≠ [] := fun hnil => by
        have hzip := congrArg List.length hnil
        rw [List.length_zip, hlength, min_self] at hzip
        exact request.nonempty (List.length_eq_zero_iff.mp hzip)
      split
      · next status hcloses => exact hgrowing.closed (hinhabited (.inl hrows)) new.now hcloses
      · next hcloses =>
        have hfound := (congrArg (Table.get · new.batchPk) hbatches).trans
          (Table.get_insert_self _ _ hnew)
        exact hgrowing.leftOpen hfound rfl hcloses
    · cases next
  · cases next

/-- The endpoint keeps everything in step: it makes a batch, or answers with an earlier one, or
    refuses. -/
theorem InStep.createBatch {operation : BatchOperation} {request : DisconnectBatchRequest}
    {idempotencyKey : Option String} {apiKeyId : Int} {meters : String → Option Int}
    {new : NewBatch} {answer : Except BillingApiError DisconnectBatchAccepted} (h : InStep s)
    (next : createBatch values s operation request idempotencyKey apiKeyId meters new =
      some (t, answer)) : InStep t := by
  unfold Backend.createBatch at next
  split at next
  · exact (Prod.mk.inj (Option.some.inj next)).1 ▸ h
  · exact (Prod.mk.inj (Option.some.inj next)).1 ▸ h
  split at next
  · exact (Prod.mk.inj (Option.some.inj next)).1 ▸ h
  split at next
  · split at next
    · exact (Prod.mk.inj (Option.some.inj next)).1 ▸ h
    · exact (Prod.mk.inj (Option.some.inj next)).1 ▸ h
  · obtain ⟨u, hinsert, hmap⟩ := Option.bind_eq_some_iff.mp next
    obtain ⟨batch, -, heq⟩ := Option.map_eq_some_iff.mp hmap
    exact (Prod.mk.inj heq).1 ▸ h.insertBatch hinsert

end Create

/-! ## Every run -/

/-- In the empty database every batch is in step with its items, as there is none. -/
theorem InStep.initial : InStep ({ core := { jobs := ⟨[], List.nodup_nil⟩ } } : BatchState V) where
  linked := ⟨.initial _, fun _ h => (nomatch h), fun h => (nomatch h), fun h => (nomatch h),
    fun h => (nomatch h), fun h => (nomatch h), fun _ h => (nomatch h), List.nodup_nil,
    fun h => (nomatch h), fun _ h => (nomatch h), fun _ h => (nomatch h), .empty⟩
  balanced := fun h => (nomatch h)

/-- **The step.**  Every step that finishes what it takes keeps items, batches and jobs in step. -/
theorem InStep.step {s t : BatchState V} {a : BatchAction V} (h : InStep s)
    (finishes : Finishes s a) (next : batchStep values s a = some t) : InStep t := by
  cases a with
  | create operation request idempotencyKey apiKeyId meters new =>
    obtain ⟨⟨u, answer⟩, hcreate, rfl⟩ := Option.map_eq_some_iff.mp next
    exact h.createBatch hcreate
  | job session a =>
    rcases ite_eq_iff.mp next with ⟨htakes, next⟩ | ⟨_, next⟩
    · obtain ⟨core, hcore, rfl⟩ := Option.map_eq_some_iff.mp next
      refine h.job_step finishes ?_ (jobStep_change hcore)
      rintro now rfl
      cases session <;> cases htakes
    · cases next
  | finalizeSelect f =>
    rcases ite_eq_iff.mp next with ⟨⟨hmem, hdue⟩, next⟩ | ⟨_, next⟩
    · rcases hitem : itemOf s.items f.jobId with _ | ⟨itemId, item⟩ <;> rw [hitem] at next
      · obtain rfl := Option.some.inj next
        exact h.skip hdue hitem
      · obtain rfl := Option.some.inj next
        exact h.select hmem hdue hitem finishes
    · cases next
  | finalizeGet f =>
    rw [batchStep] at next
    rcases hstage : f.stage with _ | ⟨itemId, batchPk, _ | status⟩ | ⟨itemId, batchPk, status⟩ <;>
      rw [hstage] at next
    · cases next
    · cases next
    · rcases ite_eq_iff.mp next with ⟨hmem, next⟩ | ⟨_, next⟩
      · obtain rfl := Option.some.inj next
        exact h.get hmem hstage
      · cases next
    · cases next
  | finalizeCommit f now =>
    rcases ite_eq_iff.mp next with ⟨hmem, next⟩ | ⟨_, next⟩
    · rcases hstage : f.stage with _ | ⟨itemId, batchPk, _ | status⟩ | ⟨itemId, batchPk, status⟩ <;>
        rw [hstage] at next
      · cases next
      · obtain rfl := Option.some.inj next
        exact h.commit hmem (congrArg FinalizationStage.target hstage)
          (.inl ⟨congrArg FinalizationStage.verdict hstage, rfl⟩)
      · cases next
      · obtain rfl := Option.some.inj next
        exact h.commit hmem (congrArg FinalizationStage.target hstage)
          (.inr ⟨status, now, congrArg FinalizationStage.verdict hstage, rfl⟩)
    · cases next
  | restart now =>
    obtain rfl := Option.some.inj next
    exact h.restarted finishes (@jobStep_change V values _ _ _ rfl)

/-- Items stand where their jobs do, and a batch is closed exactly when none of its items is queued,
    with the status that tells whether all, none or some of them are done. -/
structure BatchState.Agrees (s : BatchState V) : Prop where
  item : ∀ itemId item jobId, s.items.get itemId = some item → item.jobId = some jobId →
    ∃ job, s.core.jobs.get jobId = some job ∧ (item.status = .done ↔ job.status = .succeeded) ∧
      (item.status = .failed ↔ job.status = .failed)
  closed : ∀ batchPk batch, s.batches.get batchPk = some batch →
    (batch.status.isOpen = false ↔ ∀ r ∈ itemsOf s.items batchPk, r.2.status ≠ .queued)
  outcome : ∀ batchPk batch, s.batches.get batchPk = some batch → batch.status.isOpen = false →
    (batch.status = .completed ↔ ∀ r ∈ itemsOf s.items batchPk, r.2.status = .done) ∧
    (batch.status = .failed ↔ ∀ r ∈ itemsOf s.items batchPk, r.2.status ≠ .done) ∧
    (batch.status = .completedWithErrors ↔ (∃ r ∈ itemsOf s.items batchPk, r.2.status = .done) ∧
      ∃ r ∈ itemsOf s.items batchPk, r.2.status ≠ .done)

/-- What an item says of its job, once nothing is in flight: done if it has succeeded, failed if it
    has failed. -/
theorem expected_iff (status : JobStatus) :
    (expected status = .done ↔ status = .succeeded) ∧ (expected status = .failed ↔ status = .failed) := by
  cases status <;> simp [expected]

/-- In every run of the parties whose steps finish what they begin, the batches agree with their jobs
    while no finalization is in flight. -/
theorem batches_consistent {actions : List (BatchAction V)} {s : BatchState V}
    (run : Run (batchStep values) Finishes { core := { jobs := ⟨[], List.nodup_nil⟩ } } actions s)
    (idle : s.finalizations = []) : s.Agrees := by
  have h : InStep s := run.invariant .initial fun inv cond next => inv.step cond next
  have hsettled : ∀ {batchPk batch}, s.batches.get batchPk = some batch →
      (batch.status.isOpen = false ↔ ∀ r ∈ itemsOf s.items batchPk, r.2.status ≠ .queued) := by
    intro batchPk batch hbatch
    obtain ⟨-, hclosed, hahead⟩ := h.balanced hbatch
    refine ⟨fun hnot => (hclosed hnot).1, fun hall => Bool.eq_false_iff.mpr fun hopen => ?_⟩
    rcases hahead hopen with ⟨r, hr, hqueued, -⟩ | ⟨f, hf, -⟩
    · exact hall r hr hqueued
    · rw [idle] at hf
      cases hf
  refine ⟨fun itemId item jobId hitem hlink => ?_, fun _ _ => hsettled, fun batchPk batch hbatch hnot => ?_⟩
  · obtain ⟨job, hjob, -⟩ := h.linked.job hitem hlink
    have hstands := h.linked.stands hitem hlink hjob
    rw [idle, if_neg fun ⟨_, hf, _⟩ => (nomatch hf)] at hstands
    exact ⟨job, hjob, hstands ▸ expected_iff job.status⟩
  · obtain ⟨hinhabited, hclosed, -⟩ := h.balanced hbatch
    obtain ⟨hnone, hstatus⟩ := hclosed hnot
    have hspec := @outcomeOf_spec ((itemsOf s.items batchPk).map (·.2.status))
      (fun hnil => hinhabited (List.map_eq_nil_iff.mp hnil)) fun hmem => by
        obtain ⟨r, hr, hqueued⟩ := List.mem_map.mp hmem
        exact hnone r hr hqueued
    rw [← hstatus] at hspec
    simpa only [List.mem_map, exists_exists_and_eq_and, forall_exists_index, and_imp,
      forall_apply_eq_imp_iff₂] using hspec

/-! ### A batch of two meters -/

/-- Meters 7 and 8 are known. -/
def knownMeters : String → Option Int
  | "202310000007" => some 7
  | "202310000008" => some 8
  | _ => none

def disconnectBoth (others : List String) : DisconnectBatchRequest where
  meters := "202310000007" :: "202310000008" :: others
  nonempty := List.cons_ne_nil _ _

/-- The request, with items and jobs numbered in order. -/
def createBoth (others : List String) : BatchAction Nat :=
  .create .disconnect (disconnectBoth others) (some "key") 1 knownMeters
    { batchPk := 1
      batchId := "b-1"
      rows := [(1, 1), (2, 2), (3, 3)].take (2 + others.length)
      createdAt := 100
      now := 100 }

/-- A worker takes the job and disconnects the meter. -/
def disconnectMeter (claim : Nat) (id : Int) (ok : Bool) (errorCode : Option String) :
    List (BatchAction Nat) :=
  [.job (.sweep 0) (.ask .worker (fun _ => false) Int.toNat),
    .job (.sweep 0) (.commitClaim ⟨false, [id]⟩ 110),
    .job (.worker ⟨claim, id, false, 110⟩)
      (.work ⟨claim, id, false, 110⟩ (.disconnect "disconnect" ok errorCode none) 120)]

def onItsWay (claim : Nat) (id : Int) (outcome : ItemStatus) (error : Option JobError)
    (stage : FinalizationStage) : Finalization :=
  ⟨.worker ⟨claim, id, false, 110⟩, id, outcome, error, stage⟩

/-- One meter is disconnected, one refuses, and one is not known. -/
theorem batches_consistent_errors : ∃ s : BatchState Nat,
    (s.batches.get 1).map (·.status) = some .completedWithErrors ∧ s.Agrees := by
  have hexec : ((exec (guarded (batchStep plainValues) Finishes)
      { core := { jobs := ⟨[], List.nodup_nil⟩ } }
      (createBoth ["404"] :: disconnectMeter 0 1 true none ++
        [.finalizeSelect (onItsWay 0 1 .done none .due),
          .finalizeCommit (onItsWay 0 1 .done none (.flushed 1 1 none)) 130] ++
        disconnectMeter 1 2 false (some "REFUSED") ++
        [.finalizeSelect (onItsWay 1 2 .failed (some ⟨some "REFUSED", none, none⟩) .due),
          .finalizeGet (onItsWay 1 2 .failed (some ⟨some "REFUSED", none, none⟩)
            (.flushed 2 1 (some .completedWithErrors))),
          .finalizeCommit (onItsWay 1 2 .failed (some ⟨some "REFUSED", none, none⟩)
            (.closing 2 1 .completedWithErrors)) 140])).map
        fun s => (s.finalizations, (s.batches.get 1).map (·.status))) =
      some ([], some .completedWithErrors) := by decide
  obtain ⟨s, hrun, hresult⟩ := Option.map_eq_some_iff.mp hexec
  exact ⟨s, (Prod.mk.inj hresult).2, batches_consistent (Run.of_guarded hrun) (Prod.mk.inj hresult).1⟩

/-- The last two items end at one time: each finalization reads the other's item as queued, since
    neither has committed, and nobody closes the batch. -/
theorem last_items_together :
    ¬ ∀ (actions : List (BatchAction Nat)) (s : BatchState Nat),
      Run (batchStep plainValues) (fun _ _ => True) { core := { jobs := ⟨[], List.nodup_nil⟩ } }
        actions s → s.finalizations = [] → s.Agrees := by
  intro h
  have hexec : ((exec (guarded (batchStep plainValues) fun _ _ => True)
      { core := { jobs := ⟨[], List.nodup_nil⟩ } }
      (createBoth [] :: disconnectMeter 0 1 true none ++ disconnectMeter 1 2 true none ++
        [.finalizeSelect (onItsWay 0 1 .done none .due),
          .finalizeSelect (onItsWay 1 2 .done none .due),
          .finalizeCommit (onItsWay 0 1 .done none (.flushed 1 1 none)) 130,
          .finalizeCommit (onItsWay 1 2 .done none (.flushed 2 1 none)) 130])).map
        fun s => (s.finalizations, (s.batches.get 1).map (·.status),
          (itemsOf s.items 1).map (·.2.status))) =
      some ([], some .queued, [.done, .done]) := by decide
  obtain ⟨s, hrun, hresult⟩ := Option.map_eq_some_iff.mp hexec
  obtain ⟨hidle, hrest⟩ := Prod.mk.inj hresult
  obtain ⟨batch, hbatch, hqueued⟩ := Option.map_eq_some_iff.mp (Prod.mk.inj hrest).1
  have hclosed := ((h _ s (Run.of_guarded hrun) hidle).closed 1 batch hbatch).mpr fun r hr heq => by
    have hstatus : r.2.status ∈ [ItemStatus.done, .done] :=
      (Prod.mk.inj hrest).2 ▸ List.mem_map_of_mem hr
    rw [heq] at hstatus
    exact absurd hstatus (by decide)
  rw [hqueued] at hclosed
  cases hclosed

end RiseSun.Backend
