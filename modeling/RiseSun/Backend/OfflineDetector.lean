/-
  What the detector of meters that went offline notices.

  1. **Notices** — what the rows of the table say of one meter: since when it has not been seen, and
     when this was noticed.  A step adds at most one (`notices_step`).

  2. **One notice a period** (`noticed_once`) — between two notices of a meter it was seen, as long as
     no tick takes longer than the timeout.

  3. **Every period** (`noticed_every_period`) — a tick that commits has left exactly one notice of the
     period of every meter that was offline when it began.  Here a reading must be stored before the
     next tick begins: one that comes later is dated before a notice of the period it has ended.
-/
import RiseSun.Backend.Notifications

namespace RiseSun.Backend

open Machine

variable {V : Type} {timeoutS : Int} {values : Values V} {s t : NotificationState}
  {a : NotificationAction V}

/-! ## Notices -/

/-- What a row says of a meter: since when it has not been seen, and when this was noticed. -/
def NotificationRow.notice (ofMeter : Int) (row : NotificationRow) : Option (Int × Int) :=
  match row.subject with
  | .meterOffline meterId _ lastSeenAt =>
    if meterId = ofMeter then some (lastSeenAt, row.createdAt) else none
  | .scheduledJobFailed _ => none

/-- The notices of a meter, in the order of their commits. -/
def notices (meterId : Int) (rows : List NotificationRow) : List (Int × Int) :=
  rows.filterMap (·.notice meterId)

/-- The query for an earlier notification asks for a notice that is later than the moment the meter
    was last seen. -/
theorem alreadyNotified_iff {meterId lastSeenAt : Int} {rows : List NotificationRow} :
    alreadyNotified meterId lastSeenAt rows = true ↔
      ∃ notice ∈ notices meterId rows, lastSeenAt < notice.2 := by
  simp only [alreadyNotified, notices, List.any_eq_true, List.mem_filterMap, decide_eq_true_eq]
  constructor
  · rintro ⟨⟨id, subject, isRead, createdAt⟩, hmem, hcategory, hmeter, hlater⟩
    cases subject with
    | meterOffline =>
      obtain rfl := Option.some.inj hmeter
      exact ⟨_, ⟨_, hmem, if_pos rfl⟩, hlater⟩
    | scheduledJobFailed => cases hcategory
  · rintro ⟨notice, ⟨⟨id, subject, isRead, createdAt⟩, hmem, hnotice⟩, hlater⟩
    cases subject with
    | meterOffline meterId' serialNumber seen =>
      obtain ⟨hof, hsame⟩ := Option.ite_none_right_eq_some.mp hnotice
      obtain rfl := Option.some.inj hsame
      exact ⟨_, hmem, rfl, congrArg some hof, hlater⟩
    | scheduledJobFailed => cases hnotice

/-- The rows that the detector sees. -/
def NotificationState.seen (s : NotificationState) : List NotificationRow :=
  s.rows ++ s.detector.created

/-- The notices in more rows are those in the first rows and then those in the others. -/
theorem notices_append (meterId : Int) (rows rows' : List NotificationRow) :
    notices meterId (rows ++ rows') = notices meterId rows ++ notices meterId rows' :=
  List.filterMap_append

/-- What is not about meters gives no notice. -/
def Elsewhere (rows : List NotificationRow) : Prop :=
  ∀ row ∈ rows, ∃ failure, row.subject = .scheduledJobFailed failure

/-- Rows about failed schedules hold no notice of any meter. -/
theorem notices_elsewhere {rows : List NotificationRow} (h : Elsewhere rows) (meterId : Int) :
    notices meterId rows = [] := by
  refine List.filterMap_eq_nil_iff.mpr fun row hrow => ?_
  obtain ⟨failure, hsubject⟩ := h row hrow
  simp only [NotificationRow.notice, hsubject]

/-- Marking a notification as read changes none of the notices it is counted among. -/
theorem notices_markRead (meterId id : Int) (rows : List NotificationRow) :
    notices meterId (rows.map fun row => if row.id = id then { row with isRead := true } else row) =
      notices meterId rows := by
  rw [notices, List.filterMap_map]
  refine List.filterMap_congr fun row _ => ?_
  simp only [Function.comp_apply]
  split
  · rfl
  · rfl

/-- A notification is made for the first meter of the loop, if no notice has come since it was seen. -/
theorem notification_eq_some {tick : DetectorTick} {rows : List NotificationRow} {nextId : Int}
    {row : NotificationRow} (h : tick.notification rows nextId = some row) :
    ∃ meterId meter rest seen, tick.rest = (meterId, meter) :: rest ∧ meter.lastSeenAt = some seen ∧
      (∀ notice ∈ notices meterId (rows ++ tick.created), notice.2 ≤ seen) ∧
      row = ⟨nextId, .meterOffline meterId meter.serialNumber seen, false, tick.startedAt⟩ := by
  rw [DetectorTick.notification] at h
  split at h
  · rename_i meterId meter rest hrest
    split at h
    · rename_i seen hseen
      split at h
      · cases h
      · rename_i hnew
        refine ⟨meterId, meter, rest, seen, hrest, hseen, fun notice hnotice => ?_,
          (Option.some.inj h).symm⟩
        by_contra hlater
        exact hnew (alreadyNotified_iff.mpr ⟨notice, hnotice, not_le.mp hlater⟩)
    · cases h
  · cases h

/-- The detector is silent about a meter only if there is a notice since it was last seen. -/
theorem notification_eq_none {tick : DetectorTick} {rows : List NotificationRow} {nextId seen : Int}
    {x : Int × WatchedMeter} {rest : List (Int × WatchedMeter)} (hfirst : tick.rest = x :: rest)
    (hseen : x.2.lastSeenAt = some seen) (h : tick.notification rows nextId = none) :
    ∃ notice ∈ notices x.1 (rows ++ tick.created), seen < notice.2 := by
  rw [DetectorTick.notification, hfirst] at h
  simp only [hseen] at h
  split at h
  · rename_i hnotified
    exact alreadyNotified_iff.mp hnotified
  · cases h

/-- A tick sees what is stored and what it has created itself. -/
theorem seen_looping {tick : DetectorTick} (h : s.detector = .looping tick) :
    s.seen = s.rows ++ tick.created := by
  rw [NotificationState.seen, h, DetectorStage.created]

/-- If it stays silent about a meter, nothing changes about any. -/
theorem notices_asked_none {tick : DetectorTick} (hlooping : s.detector = .looping tick)
    (hrow : tick.notification s.rows s.nextId = none) (id : Int) :
    notices id (s.asked tick).seen = notices id s.seen := by
  simp only [NotificationState.seen, NotificationState.asked, hlooping, DetectorStage.created, hrow,
    Option.toList_none, List.append_nil]

/-- If it notices a meter, that meter has one notice more, and the others have theirs as before. -/
theorem notices_asked_some {tick : DetectorTick} {rowId meterId seen createdAt : Int}
    {serialNumber : String} (hlooping : s.detector = .looping tick)
    (hrow : tick.notification s.rows s.nextId =
      some ⟨rowId, .meterOffline meterId serialNumber seen, false, createdAt⟩) (id : Int) :
    notices id (s.asked tick).seen =
      notices id s.seen ++ if meterId = id then [(seen, createdAt)] else [] := by
  simp only [NotificationState.seen, NotificationState.asked, hlooping, DetectorStage.created, hrow,
    Option.toList_some, ← List.append_assoc, notices_append]
  congr 1
  by_cases hid : meterId = id
  · simp only [notices, NotificationRow.notice, List.filterMap_cons, List.filterMap_nil, if_pos hid]
  · simp only [notices, NotificationRow.notice, List.filterMap_cons, List.filterMap_nil, if_neg hid]

/-- What a step does to the notices that the detector sees. -/
inductive NoticeStep (s t : NotificationState) : NotificationAction V → Prop
  | same {a : NotificationAction V} (same : ∀ meterId, notices meterId t.seen = notices meterId s.seen) :
    NoticeStep s t a
  | noticed {tick : DetectorTick} {meterId : Int} {meter : WatchedMeter}
      {rest : List (Int × WatchedMeter)} {seen : Int} (looping : s.detector = .looping tick)
      (offline : tick.offline = true) (first : tick.rest = (meterId, meter) :: rest)
      (lastSeen : meter.lastSeenAt = some seen)
      (fresh : ∀ notice ∈ notices meterId s.seen, notice.2 ≤ seen)
      (added : ∀ id, notices id t.seen = notices id s.seen ++
        if meterId = id then [(seen, tick.startedAt)] else []) :
    NoticeStep s t .ask
  | rolledBack (gone : t.detector = .idle) (rows : t.rows = s.rows) : NoticeStep s t .giveUp

/-- **One step, one notice.**  Nothing but the loop of a tick adds a notice, and it adds at most
    one; what others flush is about schedules. -/
theorem notices_step (hflushed : Elsewhere s.flushed) (h : Stepped timeoutS values s a t) :
    Elsewhere t.flushed ∧ NoticeStep s t a := by
  have hfilter : ∀ p : NotificationRow → Bool, Elsewhere (s.flushed.filter p) :=
    fun p row hrow => hflushed row (List.mem_of_mem_filter hrow)
  cases h with
  | wait | touch | write => exact ⟨hflushed, .same fun _ => rfl⟩
  | @flush failure createdAt =>
    refine ⟨fun row hrow => ?_, .same fun _ => rfl⟩
    rcases List.mem_append.mp hrow with hold | hnew
    · exact hflushed row hold
    · exact ⟨failure, by rw [List.mem_singleton.mp hnew]⟩
  | store =>
    refine ⟨hfilter _, .same fun meterId => ?_⟩
    simp only [NotificationState.seen, notices_append, notices_elsewhere (hfilter _),
      List.append_nil]
  | rollback => exact ⟨hfilter _, .same fun _ => rfl⟩
  | markRead =>
    refine ⟨hflushed, .same fun meterId => ?_⟩
    simp only [NotificationState.seen, notices_append, notices_markRead]
  | begin hidle =>
    refine ⟨hflushed, .same fun meterId => ?_⟩
    simp only [NotificationState.seen, hidle, DetectorStage.created]
  | select hbegun _ =>
    refine ⟨hflushed, .same fun meterId => ?_⟩
    simp only [NotificationState.seen, hbegun, DetectorStage.created]
  | look hlooping _ _ =>
    refine ⟨hflushed, .same fun meterId => ?_⟩
    simp only [NotificationState.seen, hlooping]
    split
    · rfl
    · rfl
  | @ask tick hlooping hoffline =>
    refine ⟨hflushed, ?_⟩
    rcases hrow : tick.notification s.rows s.nextId with _ | row
    · exact .same (notices_asked_none hlooping hrow)
    · obtain ⟨meterId, meter, rest, seen, hfirst, hlast, hfresh, rfl⟩ := notification_eq_some hrow
      rw [← seen_looping hlooping] at hfresh
      exact .noticed hlooping hoffline hfirst hlast hfresh (notices_asked_some hlooping hrow)
  | commit hlooping _ =>
    refine ⟨hflushed, .same fun meterId => ?_⟩
    simp only [NotificationState.seen, hlooping, DetectorStage.created, List.append_nil]
  | giveUp => exact ⟨hflushed, .rolledBack rfl rfl⟩

/-! ## One notice a period -/

/-- The clock of the ticks only goes on, whatever step is taken. -/
theorem clock_le (h : Stepped timeoutS values s a t) : s.clock ≤ t.clock := by
  cases h with
  | wait later => exact later
  | touch | write | flush | store | rollback | markRead | begin | select | look | ask | commit
  | giveUp => exact le_refl _

/-- When the tick under way began, if one is. -/
def DetectorStage.startedAt : DetectorStage → Option Int
  | .idle => none
  | .begun startedAt => some startedAt
  | .looping tick => some tick.startedAt

/-- A tick looks at no meter later than the timeout after it began. -/
def InTime (timeoutS : Int) (s : NotificationState) : NotificationAction V → Prop
  | .look => ∀ startedAt ∈ s.detector.startedAt, s.clock - startedAt < microseconds timeoutS
  | _ => True

instance : ∀ a : NotificationAction V, Decidable (InTime timeoutS s a)
  | .look => inferInstanceAs (Decidable (∀ startedAt ∈ s.detector.startedAt,
      s.clock - startedAt < microseconds timeoutS))
  | .wait _ | .touch .. | .write _ | .flush .. | .store _ | .rollback _ | .markRead _ | .begin
  | .select _ | .ask | .commit | .giveUp => inferInstanceAs (Decidable True)

/-- What holds of the notices at all times: of each meter they are in order, a sighting between any
    two, and none comes before its timeout. -/
structure Noticed (timeoutS : Int) (s : NotificationState) : Prop where
  flushed : Elsewhere s.flushed
  /-- A meter is seen again before it is noticed again. -/
  ordered : ∀ meterId, (notices meterId s.seen).Pairwise fun first second => first.2 ≤ second.1
  after : ∀ meterId, ∀ notice ∈ notices meterId s.seen,
    notice.1 < notice.2 ∧ notice.1 + microseconds timeoutS ≤ s.clock
  /-- What the loop has found of its first meter. -/
  found : ∀ tick, s.detector = .looping tick → tick.offline = true →
    ∀ meter ∈ tick.rest.head?, ∀ seen ∈ meter.2.lastSeenAt,
      seen < tick.startedAt ∧ seen + microseconds timeoutS ≤ s.clock

/-- Rows that are rolled back were the last ones. -/
theorem notices_rolledBack (gone : t.detector = .idle) (rows : t.rows = s.rows) (meterId : Int) :
    (notices meterId t.seen).Sublist (notices meterId s.seen) := by
  rw [NotificationState.seen, gone, DetectorStage.created, List.append_nil, rows,
    NotificationState.seen, notices_append]
  exact List.sublist_append_left _ _

/-- A meter found offline has not been seen since before the tick began, and the timeout has passed
    since: nothing a step does can change that. -/
theorem Noticed.found_step (h : Noticed timeoutS s) (cond : InTime timeoutS s a)
    (hstep : Stepped timeoutS values s a t) :
    ∀ tick, t.detector = .looping tick → tick.offline = true →
      ∀ meter ∈ tick.rest.head?, ∀ seen ∈ meter.2.lastSeenAt,
        seen < tick.startedAt ∧ seen + microseconds timeoutS ≤ t.clock := by
  intro tick hlooping hoffline meter hmeter seen hseen
  cases hstep with
  | wait later =>
    obtain ⟨hbefore, htimeout⟩ := h.found tick hlooping hoffline meter hmeter seen hseen
    exact ⟨hbefore, htimeout.trans later⟩
  | touch | write | flush | store | rollback | markRead =>
    exact h.found tick hlooping hoffline meter hmeter seen hseen
  | begin | commit | giveUp => cases hlooping
  | select =>
    obtain rfl := DetectorStage.looping.inj hlooping
    cases hoffline
  | ask =>
    obtain rfl := DetectorStage.looping.inj hlooping
    cases hoffline
  | @look tick' meter' rest hbefore hrest hunasked =>
    obtain rfl := DetectorStage.looping.inj hlooping
    split at hoffline
    · exact absurd (hunasked.symm.trans hoffline) Bool.noConfusion
    · rename_i hfound
      simp only [if_neg hfound, hrest, List.head?_cons, Option.mem_some_iff] at hmeter
      subst hmeter
      have hshort := cond tick'.startedAt (by rw [hbefore]; rfl)
      have htimeout := timeout_le_of_offline hseen (Bool.eq_false_iff.mpr hfound)
      simp only [if_neg hfound]
      omega

/-- **The step.**  While ticks look at meters in time, every step keeps the notices in order. -/
theorem Noticed.step (h : Noticed timeoutS s) (cond : InTime timeoutS s a)
    (hstep : Stepped timeoutS values s a t) : Noticed timeoutS t := by
  obtain ⟨hflushed, hnotices⟩ := notices_step h.flushed hstep
  have hclock := clock_le hstep
  have hafter : ∀ {meterId notice}, notice ∈ notices meterId s.seen →
      notice.1 < notice.2 ∧ notice.1 + microseconds timeoutS ≤ t.clock := by
    intro meterId notice hnotice
    obtain ⟨hbefore, htimeout⟩ := h.after meterId notice hnotice
    exact ⟨hbefore, htimeout.trans hclock⟩
  cases hnotices with
  | same same =>
    refine ⟨hflushed, fun meterId => ?_, fun meterId notice hnotice => ?_, h.found_step cond hstep⟩
    · rw [same]
      exact h.ordered meterId
    · rw [same] at hnotice
      exact hafter hnotice
  | @noticed tick meterId meter rest seen hlooping hoffline hfirst hlast hfresh hadded =>
    obtain ⟨hbefore, htimeout⟩ := h.found tick hlooping hoffline (meterId, meter)
      (by rw [hfirst]; rfl) seen hlast
    refine ⟨hflushed, fun id => ?_, fun id notice hnotice => ?_, h.found_step cond hstep⟩
    · rw [hadded]
      split
      · rename_i hid
        subst hid
        refine List.pairwise_append.mpr ⟨h.ordered _, List.pairwise_singleton _ _, ?_⟩
        intro first hmem second hsecond
        rw [List.mem_singleton.mp hsecond]
        exact hfresh first hmem
      · rw [List.append_nil]
        exact h.ordered id
    · rw [hadded, List.mem_append] at hnotice
      rcases hnotice with hold | hnew
      · exact hafter hold
      · split at hnew
        · rw [List.mem_singleton.mp hnew]
          exact ⟨hbefore, htimeout.trans hclock⟩
        · cases hnew
  | rolledBack gone rows =>
    refine ⟨hflushed, fun meterId => ?_, fun meterId notice hnotice => ?_, h.found_step cond hstep⟩
    · exact (h.ordered meterId).sublist (notices_rolledBack gone rows meterId)
    · exact hafter ((notices_rolledBack gone rows meterId).subset hnotice)

/-- Nothing is under way, and nobody has been notified. -/
structure NotificationState.Fresh (s : NotificationState) : Prop where
  rows : s.rows = []
  flushed : s.flushed = []
  detector : s.detector = .idle

/-- At the start there is nothing to see. -/
theorem NotificationState.Fresh.seen (h : s.Fresh) : s.seen = [] := by
  rw [NotificationState.seen, h.rows, h.detector, DetectorStage.created, List.append_nil]

/-- The invariant of the notices holds at the start, as there are none. -/
theorem NotificationState.Fresh.noticed (h : s.Fresh) : Noticed timeoutS s := by
  refine ⟨fun row hrow => ?_, fun meterId => ?_, fun meterId notice hnotice => ?_,
    fun tick hlooping => ?_⟩
  · rw [h.flushed] at hrow
    cases hrow
  · rw [h.seen]
    exact .nil
  · rw [h.seen] at hnotice
    cases hnotice
  · rw [h.detector] at hlooping
    cases hlooping

/-- **One notice a period.**  Of two notices of a meter, it was seen again after the first one and
    before the second; and each comes when the timeout has passed. -/
theorem noticed_once (timeoutS : Int) (values : Values V) (s t : NotificationState)
    (actions : List (NotificationAction V)) (hfresh : s.Fresh)
    (hrun : Run (notificationStep timeoutS values) (InTime timeoutS) s actions t) (meterId : Int) :
    (notices meterId t.rows).Pairwise (fun first second => first.2 ≤ second.1) ∧
      ∀ notice ∈ notices meterId t.rows,
        notice.1 < notice.2 ∧ notice.1 + microseconds timeoutS ≤ t.clock := by
  have h : Noticed timeoutS t := hrun.invariant hfresh.noticed
    fun hs cond hstep => hs.step cond (stepped hstep)
  have hrows : (notices meterId t.rows).Sublist (notices meterId t.seen) := by
    rw [NotificationState.seen, notices_append]
    exact List.sublist_append_left _ _
  exact ⟨(h.ordered meterId).sublist hrows, fun notice hnotice =>
    h.after meterId notice (hrows.subset hnotice)⟩

/-- A meter that was seen at a moment. -/
def seenAt (seen : Int) : WatchedMeter where
  isCallHome := true
  lastSeenAt := some seen
  serialNumber := "202006003607"

def onlyMeter : NotificationState where
  clock := 0
  meters := Table.empty.setItem 7 (seenAt 0)

/-- A tick, all but its commit. -/
def wholeTick (seen : Int) : List (NotificationAction Unit) :=
  [.begin, .select [(7, seenAt seen)], .look, .ask]

/-- The meter is noticed, is seen again, and is noticed again. -/
def twoPeriods : List (NotificationAction Unit) :=
  .wait 20000000 :: wholeTick 0 ++ [.commit, .touch 7 (.loadProfile "1.1.99.1.0.255" 0 none) 20000000,
    .wait 40000000] ++ wholeTick 20000000 ++ [.commit]

/-- A meter goes offline, is seen again, and goes offline once more: two notices, the sighting
    between them. -/
theorem noticed_once_twoPeriods : ∃ t, Run (notificationStep 10 noTexts) (InTime 10) onlyMeter
    twoPeriods t ∧ notices 7 t.rows = [(0, 20000000), (20000000, 40000000)] ∧
    (notices 7 t.rows).Pairwise (fun first second => first.2 ≤ second.1) := by
  have hexec : (exec (guarded (notificationStep 10 noTexts) (InTime 10)) onlyMeter twoPeriods).map
      (fun t => notices 7 t.rows) = some [(0, 20000000), (20000000, 40000000)] := by decide
  obtain ⟨t, hrun, hlast⟩ := Option.map_eq_some_iff.mp hexec
  exact ⟨t, Run.of_guarded hrun, hlast, (noticed_once 10 noTexts onlyMeter t twoPeriods
    ⟨rfl, rfl, rfl⟩ (Run.of_guarded hrun) 7).1⟩

/-! ## Every period -/

/-- No tick that has begun after the moment has noticed the meter, nor is one under way. -/
def Prompt (s : NotificationState) : NotificationAction V → Prop
  | .touch meterId _ now => (∀ notice ∈ notices meterId s.seen, notice.2 ≤ now) ∧
      ∀ startedAt ∈ s.detector.startedAt, startedAt ≤ now
  | _ => True

instance : ∀ a : NotificationAction V, Decidable (Prompt s a)
  | .touch meterId _ now => inferInstanceAs (Decidable ((∀ notice ∈ notices meterId s.seen,
      notice.2 ≤ now) ∧ ∀ startedAt ∈ s.detector.startedAt, startedAt ≤ now))
  | .wait _ | .write _ | .flush .. | .store _ | .rollback _ | .markRead _ | .begin | .select _
  | .look | .ask | .commit | .giveUp => inferInstanceAs (Decidable True)

/-- A notice is of the period that began at `seen`, or older. -/
def UpToDate (seen : Int) (notice : Int × Int) : Prop := notice.2 ≤ seen ∨ notice.1 = seen

/-- A meter that was read since `start` was seen since. -/
def ReadBy (start : Int) (meter : WorkerMeter) : Prop :=
  ∀ read ∈ meter.lastReadAt, read ≤ start ∨ ∃ seen ∈ meter.lastSeenAt, start ≤ seen

/-- A meter that was offline when a tick began and was not seen since is offline at every later
    moment. -/
theorem stillOffline {start now : Int} {meter : WorkerMeter} (htimeout : 0 < timeoutS)
    (hread : ReadBy start meter) (hle : start ≤ now) (h : isOnline timeoutS start meter = false) :
    isOnline timeoutS now meter = false := by
  refine offline_later hle (fun read hmem => ?_) h
  rcases hread read hmem with hbefore | ⟨seen, hseen, hsince⟩
  · exact hbefore
  · have hlong := timeout_le_of_offline hseen h
    simp only [microseconds] at hlong
    omega

/-- What a step makes of the two moments of a meter. -/
theorem moments_step (h : Stepped timeoutS values s a t) {id : Int} {meter' : WatchedMeter}
    (hmeter' : t.meters.get id = some meter') :
    (∃ meter, s.meters.get id = some meter ∧ meter'.lastSeenAt = meter.lastSeenAt ∧
      meter'.lastReadAt = meter.lastReadAt) ∨
    (meter'.lastSeenAt = none ∧ meter'.lastReadAt = none) ∨
    ∃ meter jobEnd now, s.meters.get id = some meter ∧ a = .touch id jobEnd now ∧ now ≤ s.clock ∧
      meter'.lastSeenAt = some now ∧
      (meter'.lastReadAt = some now ∨ meter'.lastReadAt = meter.lastReadAt) := by
  cases h with
  | wait | flush | store | rollback | markRead | begin | select | look | ask | commit | giveUp =>
    exact .inl ⟨meter', hmeter', rfl, rfl⟩
  | @touch meterId jobEnd now past =>
    by_cases hid : id = meterId
    · subst hid
      rw [Table.get_update_self] at hmeter'
      obtain ⟨meter, hmeter, rfl⟩ := Option.map_eq_some_iff.mp hmeter'
      rcases touch_cases values now jobEnd meter.toWorkerMeter with ⟨hseen, hread⟩ | ⟨hseen, hread⟩
      · exact .inr (.inr ⟨meter, jobEnd, now, hmeter, rfl, past, hseen, hread⟩)
      · exact .inl ⟨meter, hmeter, hseen, hread⟩
    · rw [Table.get_update_ne _ hid] at hmeter'
      exact .inl ⟨meter', hmeter', rfl, rfl⟩
  | write leaves =>
    have hrow := List.all_eq_true.mp leaves (id, meter') (Table.get_eq_some.mp hmeter')
    rcases hmeter : s.meters.get id with _ | meter
    · simp only [hmeter, decide_eq_true_eq] at hrow
      exact .inr (.inl hrow)
    · simp only [hmeter, decide_eq_true_eq] at hrow
      exact .inl ⟨meter, rfl, hrow⟩

/-- A loop under way: what has become of the meters it has read, and of those it is done with. -/
structure Covers (timeoutS : Int) (s : NotificationState) (tick : DetectorTick) : Prop where
  keys : (tick.meters.map Prod.fst).Nodup
  rest : tick.rest <:+ tick.meters
  watched : ∀ x ∈ tick.meters, x.2.lastSeenAt.isSome = true
  readBy : ∀ x ∈ tick.meters, ReadBy tick.startedAt x.2.toWorkerMeter
  upToDate : ∀ x ∈ tick.meters, ∀ seen ∈ x.2.lastSeenAt, ∀ notice ∈ notices x.1 s.seen,
    UpToDate seen notice
  since : ∀ x ∈ tick.meters, ∀ seen ∈ x.2.lastSeenAt, ∀ meter, s.meters.get x.1 = some meter →
    ∀ seen' ∈ meter.lastSeenAt, seen' = seen ∨ tick.startedAt ≤ seen'
  done : ∀ x ∈ tick.meters, x ∈ tick.rest ∨ (isOnline timeoutS tick.startedAt x.2.toWorkerMeter = false →
    ∃ notice ∈ notices x.1 s.seen, x.2.lastSeenAt = some notice.1)

/-- What holds at all times: notices in order, readings in the past, every notice of the period
    under way or older, and a loop under way that covers its meters. -/
structure Covered (timeoutS : Int) (s : NotificationState) : Prop where
  noticed : Noticed timeoutS s
  reads : ∀ id meter, s.meters.get id = some meter → ∀ read ∈ meter.lastReadAt, read ≤ s.clock
  upToDate : ∀ id meter, s.meters.get id = some meter → ∀ seen ∈ meter.lastSeenAt,
    ∀ notice ∈ notices id s.seen, UpToDate seen notice
  started : ∀ startedAt ∈ s.detector.startedAt, startedAt ≤ s.clock ∧
    ∀ id meter, s.meters.get id = some meter → ReadBy startedAt meter.toWorkerMeter
  looping : ∀ tick, s.detector = .looping tick → Covers timeoutS s tick

/-- A moment a meter was seen at is the one it had, or this step says so. -/
theorem seen_step (h : Stepped timeoutS values s a t) {id seen : Int} {meter' : WatchedMeter}
    (hmeter' : t.meters.get id = some meter') (hseen : seen ∈ meter'.lastSeenAt) :
    (∃ meter, s.meters.get id = some meter ∧ seen ∈ meter.lastSeenAt) ∨
      ∃ jobEnd, a = .touch id jobEnd seen := by
  rcases moments_step h hmeter' with ⟨meter, hmeter, hsame, _⟩ | ⟨hnone, _⟩ |
    ⟨meter, jobEnd, now, _, ha, _, hnow, _⟩
  · exact .inl ⟨meter, hmeter, hsame ▸ hseen⟩
  · rw [hnone] at hseen
    cases hseen
  · obtain rfl : now = seen := Option.some.inj (hnow.symm.trans hseen)
    exact .inr ⟨jobEnd, ha⟩

/-- A loop goes on covering its meters under any step that leaves the notices alone and moves
    sightings only forward. -/
theorem Covers.carry {tick : DetectorTick} (h : Covers timeoutS s tick)
    (same : ∀ meterId, notices meterId t.seen = notices meterId s.seen)
    (moved : ∀ id meter', t.meters.get id = some meter' → ∀ seen ∈ meter'.lastSeenAt,
      (∃ meter, s.meters.get id = some meter ∧ seen ∈ meter.lastSeenAt) ∨ tick.startedAt ≤ seen) :
    Covers timeoutS t tick where
  keys := h.keys
  rest := h.rest
  watched := h.watched
  readBy := h.readBy
  upToDate x hx seen hseen notice hnotice := by
    rw [same] at hnotice
    exact h.upToDate x hx seen hseen notice hnotice
  since x hx seen hseen meter' hmeter' seen' hseen' := by
    rcases moved x.1 meter' hmeter' seen' hseen' with ⟨meter, hmeter, hold⟩ | hsince
    · exact h.since x hx seen hseen meter hmeter seen' hold
    · exact .inr hsince
  done x hx := by
    rw [same]
    exact h.done x hx

/-- What is true of the first meter that is left, and of those that were done with, is true of all
    that are. -/
theorem Covers.next {tick : DetectorTick} {x : Int × WatchedMeter} {rest : List (Int × WatchedMeter)}
    (h : Covers timeoutS s tick) (hfirst : tick.rest = x :: rest)
    (hdone : isOnline timeoutS tick.startedAt x.2.toWorkerMeter = false →
      ∃ notice ∈ notices x.1 s.seen, x.2.lastSeenAt = some notice.1) :
    ∀ y ∈ tick.meters, y ∈ rest ∨ (isOnline timeoutS tick.startedAt y.2.toWorkerMeter = false →
      ∃ notice ∈ notices y.1 s.seen, y.2.lastSeenAt = some notice.1) := by
  intro y hy
  rcases h.done y hy with hleft | hnoticed
  · rw [hfirst, List.mem_cons] at hleft
    rcases hleft with rfl | hrest
    · exact .inr hdone
    · exact .inl hrest
  · exact .inr hnoticed

/-- The meter that is looked at next is one of those the loop has read. -/
theorem Covers.first_mem {tick : DetectorTick} {x : Int × WatchedMeter}
    {rest : List (Int × WatchedMeter)} (h : Covers timeoutS s tick) (hfirst : tick.rest = x :: rest) :
    x ∈ tick.meters :=
  h.rest.subset (by rw [hfirst]; exact List.mem_cons_self)

/-- The meters behind the one that is looked at next are among those the loop has read, too. -/
theorem Covers.tail {tick : DetectorTick} {x : Int × WatchedMeter} {rest : List (Int × WatchedMeter)}
    (h : Covers timeoutS s tick) (hfirst : tick.rest = x :: rest) : rest <:+ tick.meters :=
  (List.suffix_cons x rest).trans (hfirst ▸ h.rest)

/-- No step stores a reading from the future. -/
theorem Covered.reads_step (h : Covered timeoutS s) (hstep : Stepped timeoutS values s a t) :
    ∀ id meter, t.meters.get id = some meter → ∀ read ∈ meter.lastReadAt, read ≤ t.clock := by
  intro id meter' hmeter' read hread
  refine le_trans ?_ (clock_le hstep)
  rcases moments_step hstep hmeter' with ⟨meter, hmeter, _, hsame⟩ | ⟨_, hnone⟩ |
    ⟨meter, _, now, hmeter, _, hpast, _, hnow | hsame⟩
  · exact h.reads id meter hmeter read (hsame ▸ hread)
  · rw [hnone] at hread
    cases hread
  · obtain rfl : now = read := Option.some.inj (hnow.symm.trans hread)
    exact hpast
  · exact h.reads id meter hmeter read (hsame ▸ hread)

/-- As readings are stored promptly, a new sighting is later than all notices, and a new notice is
    of the period under way. -/
theorem Covered.upToDate_step (h : Covered timeoutS s) (cond : Prompt s a)
    (hstep : Stepped timeoutS values s a t) :
    ∀ id meter, t.meters.get id = some meter → ∀ seen ∈ meter.lastSeenAt,
      ∀ notice ∈ notices id t.seen, UpToDate seen notice := by
  intro id meter' hmeter' seen hseen notice hnotice
  have hnotices := (notices_step h.noticed.flushed hstep).2
  have hold : notice ∈ notices id s.seen → UpToDate seen notice := by
    intro hmem
    rcases seen_step hstep hmeter' hseen with ⟨meter, hmeter, hkept⟩ | ⟨jobEnd, rfl⟩
    · exact h.upToDate id meter hmeter seen hkept notice hmem
    · exact .inl (cond.1 notice hmem)
  cases hnotices with
  | same same =>
    rw [same] at hnotice
    exact hold hnotice
  | rolledBack gone rows => exact hold ((notices_rolledBack gone rows id).subset hnotice)
  | @noticed tick meterId meter rest lastSeen hlooping hoffline hfirst hlast hfresh hadded =>
    rw [hadded, List.mem_append] at hnotice
    rcases hnotice with hmem | hnew
    · exact hold hmem
    · split at hnew
      · rename_i hid
        subst hid
        rw [List.mem_singleton.mp hnew]
        have hcovers := h.looping tick hlooping
        have hx := hcovers.first_mem hfirst
        rcases seen_step hstep hmeter' hseen with ⟨current, hcurrent, hkept⟩ | ⟨_, ha⟩
        · rcases hcovers.since _ hx lastSeen hlast current hcurrent seen hkept with rfl | hsince
          · exact .inr rfl
          · exact .inl hsince
        · cases ha
      · cases hnew

/-- A tick under way has been so before, or begins with this step. -/
theorem startedAt_step (hstep : Stepped timeoutS values s a t) {startedAt : Int}
    (h : startedAt ∈ t.detector.startedAt) : startedAt ∈ s.detector.startedAt ∨ a = .begin := by
  cases hstep with
  | wait | touch | write | flush | store | rollback | markRead => exact .inl h
  | begin => exact .inr rfl
  | select begun => exact .inl (by rw [begun]; exact h)
  | look looping =>
    rw [looping]
    refine .inl ?_
    split at h
    · exact h
    · exact h
  | ask looping => exact .inl (by rw [looping]; exact h)
  | commit | giveUp => cases h

/-- A tick that begins has every reading of before it in its sightings, as readings are stored
    before the next tick. -/
theorem Covered.started_step (h : Covered timeoutS s) (cond : Prompt s a)
    (hstep : Stepped timeoutS values s a t) :
    ∀ startedAt ∈ t.detector.startedAt, startedAt ≤ t.clock ∧
      ∀ id meter, t.meters.get id = some meter → ReadBy startedAt meter.toWorkerMeter := by
  intro startedAt hstarted
  rcases startedAt_step hstep hstarted with hold | rfl
  · obtain ⟨hpast, hreads⟩ := h.started startedAt hold
    refine ⟨hpast.trans (clock_le hstep), fun id meter' hmeter' read hread => ?_⟩
    rcases moments_step hstep hmeter' with ⟨meter, hmeter, hseen, hsame⟩ | ⟨_, hnone⟩ |
      ⟨_, _, now, _, rfl, _, hseen, _⟩
    · rw [hseen]
      exact hreads id meter hmeter read (hsame ▸ hread)
    · rw [hnone] at hread
      cases hread
    · exact .inr ⟨now, hseen, cond.2 startedAt hold⟩
  · cases hstep
    obtain rfl := Option.some.inj hstarted
    exact ⟨le_refl _, fun id meter hmeter read hread => .inl (h.reads id meter hmeter read hread)⟩

/-- The loop looks at its next meter: online, it is done with; offline, it is asked about next. -/
theorem Covered.look (h : Covered timeoutS s) (htimeout : 0 < timeoutS) {tick : DetectorTick}
    {x : Int × WatchedMeter} {rest : List (Int × WatchedMeter)}
    (hlooping : s.detector = .looping tick) (hfirst : tick.rest = x :: rest)
    (hsame : ∀ meterId, notices meterId t.seen = notices meterId s.seen)
    (hmeters : t.meters = s.meters) :
    Covers timeoutS t (if isOnline timeoutS s.clock x.2.toWorkerMeter then { tick with rest := rest }
      else { tick with offline := true }) := by
  have hcovers := h.looping tick hlooping
  have hstarted := (h.started tick.startedAt (by rw [hlooping]; rfl)).1
  have hcarried : Covers timeoutS t tick := hcovers.carry hsame fun id meter hmeter seen hseen =>
    .inl ⟨meter, hmeters ▸ hmeter, hseen⟩
  split
  · rename_i hnow
    refine ⟨hcarried.keys, hcarried.tail hfirst, hcarried.watched, hcarried.readBy,
      hcarried.upToDate, hcarried.since, hcarried.next hfirst fun hoffline => ?_⟩
    -- A meter that was offline when the tick began is so when it is looked at.
    rw [stillOffline htimeout (hcovers.readBy x (hcovers.first_mem hfirst)) hstarted hoffline] at hnow
    cases hnow
  · exact ⟨hcarried.keys, hcarried.rest, hcarried.watched, hcarried.readBy, hcarried.upToDate,
      hcarried.since, hcarried.done⟩

/-- If asking for a meter writes nothing, there is a notice of its period already. -/
theorem Covered.ask_noticed (h : Covered timeoutS s) {tick : DetectorTick} {x : Int × WatchedMeter}
    {rest : List (Int × WatchedMeter)} (hlooping : s.detector = .looping tick)
    (hfirst : tick.rest = x :: rest) (hrow : tick.notification s.rows s.nextId = none) :
    ∃ notice ∈ notices x.1 s.seen, x.2.lastSeenAt = some notice.1 := by
  have hcovers := h.looping tick hlooping
  have hx := hcovers.first_mem hfirst
  obtain ⟨seen, hlast⟩ := Option.isSome_iff_exists.mp (hcovers.watched x hx)
  obtain ⟨notice, hnotice, hlater⟩ := notification_eq_none hfirst hlast hrow
  rw [← seen_looping hlooping] at hnotice
  rcases hcovers.upToDate x hx seen hlast notice hnotice with hold | rfl
  · exact absurd hlater (not_lt.mpr hold)
  · exact ⟨notice, hnotice, hlast⟩

/-- If there is none, asking for the meter writes a notice of its period, and the tick covers the
    rest. -/
theorem Covered.ask (h : Covered timeoutS s) {tick tick' : DetectorTick}
    (hlooping : s.detector = .looping tick)
    (hnext : (s.asked tick).detector = .looping tick') : Covers timeoutS (s.asked tick) tick' := by
  have hcovers := h.looping tick hlooping
  have hkept : ∀ id meter, (s.asked tick).meters.get id = some meter → ∀ seen ∈ meter.lastSeenAt,
      (∃ meter, s.meters.get id = some meter ∧ seen ∈ meter.lastSeenAt) ∨ tick.startedAt ≤ seen :=
    fun id meter hmeter seen hmem => .inl ⟨meter, hmeter, hmem⟩
  obtain rfl := DetectorStage.looping.inj hnext
  rcases hrow : tick.notification s.rows s.nextId with _ | row
  · have hcarried := hcovers.carry (notices_asked_none hlooping hrow) hkept
    rcases hrest : tick.rest with _ | ⟨x, rest⟩
    · refine ⟨hcarried.keys, List.nil_suffix, hcarried.watched, hcarried.readBy, hcarried.upToDate,
        hcarried.since, fun y hy => ?_⟩
      exact (hcarried.done y hy).imp (fun hmem => by rwa [hrest] at hmem) id
    · refine ⟨hcarried.keys, hcarried.tail hrest, hcarried.watched, hcarried.readBy,
        hcarried.upToDate, hcarried.since, hcarried.next hrest fun _ => ?_⟩
      rw [notices_asked_none hlooping hrow]
      exact h.ask_noticed hlooping hrest hrow
  · obtain ⟨meterId, meter, rest, seen, hrest, hlast, _, rfl⟩ := notification_eq_some hrow
    have hadded := notices_asked_some hlooping hrow
    have hx := hcovers.first_mem hrest
    have hmono : ∀ {id notice}, notice ∈ notices id s.seen → notice ∈ notices id (s.asked tick).seen := by
      intro id notice hnotice
      rw [hadded]
      exact List.mem_append_left _ hnotice
    refine ⟨hcovers.keys, ?_, hcovers.watched, hcovers.readBy, fun y hy seen' hseen' notice hnotice => ?_,
      hcovers.since, fun y hy => ?_⟩
    · rw [hrest]
      exact hcovers.tail hrest
    · rw [hadded, List.mem_append] at hnotice
      rcases hnotice with hold | hnew
      · exact hcovers.upToDate y hy seen' hseen' notice hold
      · split at hnew
        · rename_i hid
          obtain rfl : (meterId, meter) = y := List.inj_on_of_nodup_map hcovers.keys hx hy hid
          rw [List.mem_singleton.mp hnew]
          exact .inr (Option.some.inj (hlast.symm.trans hseen'))
        · cases hnew
    · rcases hcovers.done y hy with hleft | hdone
      · rw [hrest, List.mem_cons] at hleft
        rcases hleft with rfl | hleft
        · refine .inr fun _ => ⟨(seen, tick.startedAt), ?_, hlast⟩
          rw [hadded, if_pos rfl]
          exact List.mem_append_right _ (List.mem_singleton.mpr rfl)
        · rw [hrest]
          exact .inl hleft
      · refine .inr fun hoffline => ?_
        obtain ⟨notice, hnotice, hlast⟩ := hdone hoffline
        exact ⟨notice, hmono hnotice, hlast⟩

/-- **The loop.**  Whatever happens beside it, a loop under way covers the meters it has read. -/
theorem Covered.looping_step (h : Covered timeoutS s) (htimeout : 0 < timeoutS) (cond : Prompt s a)
    (hstep : Stepped timeoutS values s a t) :
    ∀ tick, t.detector = .looping tick → Covers timeoutS t tick := by
  intro tick hlooping
  have hmoved : ∀ {startedAt}, startedAt ∈ s.detector.startedAt → ∀ id meter',
      t.meters.get id = some meter' → ∀ seen ∈ meter'.lastSeenAt,
        (∃ meter, s.meters.get id = some meter ∧ seen ∈ meter.lastSeenAt) ∨ startedAt ≤ seen := by
    intro startedAt hstarted id meter' hmeter' seen hseen
    rcases seen_step hstep hmeter' hseen with hold | ⟨jobEnd, rfl⟩
    · exact .inl hold
    · exact .inr (cond.2 startedAt hstarted)
  have hnotices := (notices_step h.noticed.flushed hstep).2
  cases hstep with
  | wait | touch | write | flush | store | rollback | markRead =>
    obtain ⟨same⟩ := hnotices
    exact (h.looping tick hlooping).carry same (hmoved (by rw [hlooping]; rfl))
  | begin | commit | giveUp => cases hlooping
  | @select order startedAt hbegun hperm =>
    obtain ⟨same⟩ := hnotices
    obtain rfl := DetectorStage.looping.inj hlooping
    have hrow : ∀ x ∈ order, s.meters.get x.1 = some x.2 ∧ x.2.lastSeenAt.isSome = true := by
      intro x hx
      obtain ⟨hmem, hwatched⟩ := List.mem_filter.mp (hperm.mem_iff.mp hx)
      simp only [decide_eq_true_eq] at hwatched
      exact ⟨Table.get_eq_some.mpr hmem, hwatched.2⟩
    refine ⟨?_, List.suffix_refl _, fun x hx => (hrow x hx).2, fun x hx => ?_,
      fun x hx seen hseen notice hnotice => ?_, fun x hx seen hseen meter hmeter seen' hseen' => ?_,
      fun x hx => .inl hx⟩
    · exact ((hperm.map Prod.fst).nodup_iff).mpr
        (s.meters.keys.sublist (List.filter_sublist.map Prod.fst))
    · exact (h.started startedAt (by rw [hbegun]; rfl)).2 x.1 x.2 (hrow x hx).1
    · rw [same] at hnotice
      exact h.upToDate x.1 x.2 (hrow x hx).1 seen hseen notice hnotice
    · obtain rfl := Option.some.inj (hmeter.symm.trans (hrow x hx).1)
      exact .inl (Option.some.inj (hseen'.symm.trans hseen))
  | @look tick' x rest hbefore hfirst _ =>
    obtain ⟨same⟩ := hnotices
    obtain rfl := DetectorStage.looping.inj hlooping
    exact h.look htimeout hbefore hfirst same rfl
  | ask hbefore _ => exact h.ask hbefore hlooping

/-- **The step.**  In time and promptly, every step keeps all of this. -/
theorem Covered.step (h : Covered timeoutS s) (htimeout : 0 < timeoutS)
    (cond : InTime timeoutS s a ∧ Prompt s a) (hstep : Stepped timeoutS values s a t) :
    Covered timeoutS t where
  noticed := h.noticed.step cond.1 hstep
  reads := h.reads_step hstep
  upToDate := h.upToDate_step cond.2 hstep
  started := h.started_step cond.2 hstep
  looping := h.looping_step htimeout cond.2 hstep

/-- It holds at the start, if no meter has a reading from the future. -/
theorem NotificationState.Fresh.covered (h : s.Fresh)
    (hreads : ∀ id meter, s.meters.get id = some meter → ∀ read ∈ meter.lastReadAt, read ≤ s.clock) :
    Covered timeoutS s := by
  refine ⟨h.noticed, hreads, fun id meter _ seen _ notice hnotice => ?_, fun startedAt hstarted => ?_,
    fun tick hlooping => ?_⟩
  · rw [h.seen] at hnotice
    cases hnotice
  · rw [h.detector] at hstarted
    cases hstarted
  · rw [h.detector] at hlooping
    cases hlooping

/-- Each notice of a meter is of another period. -/
theorem Noticed.nodup (h : Noticed timeoutS s) (meterId : Int) :
    ((notices meterId s.seen).map Prod.fst).Nodup := by
  refine List.pairwise_map.mpr ((h.ordered meterId).imp_of_mem ?_)
  intro first second hfirst _ hle
  exact ((h.after meterId first hfirst).1.trans_le hle).ne

/-- **Every period.**  A tick that commits has left exactly one notice of the period of every meter it
    has read that was offline when it began. -/
theorem noticed_every_period (timeoutS : Int) (htimeout : 0 < timeoutS) (values : Values V)
    (s t u : NotificationState) (actions : List (NotificationAction V)) (hfresh : s.Fresh)
    (hreads : ∀ id meter, s.meters.get id = some meter → ∀ read ∈ meter.lastReadAt, read ≤ s.clock)
    (hrun : Run (notificationStep timeoutS values) (fun s a => InTime timeoutS s a ∧ Prompt s a)
      s actions t)
    (tick : DetectorTick) (hlooping : t.detector = .looping tick)
    (hcommit : notificationStep timeoutS values t .commit = some u)
    (meterId : Int) (meter : WatchedMeter) (hread : (meterId, meter) ∈ tick.meters)
    (hoffline : isOnline timeoutS tick.startedAt meter.toWorkerMeter = false) :
    ∃ seen, meter.lastSeenAt = some seen ∧
      ((notices meterId u.rows).map Prod.fst).count seen = 1 := by
  have h : Covered timeoutS t := hrun.invariant (hfresh.covered hreads)
    fun hs cond hstep => hs.step htimeout cond (stepped hstep)
  cases stepped hcommit with
  | commit hlooping' hover =>
    obtain rfl := DetectorStage.looping.inj (hlooping.symm.trans hlooping')
    obtain ⟨notice, hnotice, hlast⟩ :=
      ((h.looping tick hlooping).done _ hread).resolve_left
        (by rw [hover]; exact List.not_mem_nil) hoffline
    refine ⟨notice.1, hlast, ?_⟩
    rw [← seen_looping hlooping]
    exact List.count_eq_one_of_mem (h.noticed.nodup meterId) (List.mem_map_of_mem hnotice)

def secondTick : DetectorTick where
  startedAt := 40000000
  meters := [(7, seenAt 20000000)]
  rest := []
  created := [⟨2, .meterOffline 7 "202006003607" 20000000, false, 40000000⟩]

/-- The tick of the second period commits, and leaves one notice of it. -/
theorem noticed_every_period_second : ∃ t u, Run (notificationStep 10 noTexts)
    (fun s a => InTime 10 s a ∧ Prompt s a) onlyMeter twoPeriods.dropLast t ∧
    notificationStep 10 noTexts t .commit = some u ∧
    ∃ seen, (seenAt 20000000).lastSeenAt = some seen ∧
      ((notices 7 u.rows).map Prod.fst).count seen = 1 := by
  have hexec : (exec (guarded (notificationStep 10 noTexts) fun s a => InTime 10 s a ∧ Prompt s a)
      onlyMeter twoPeriods.dropLast).map (·.detector) = some (.looping secondTick) := by decide
  obtain ⟨t, hrun, hlooping⟩ := Option.map_eq_some_iff.mp hexec
  have hcommit : notificationStep 10 noTexts t .commit =
      some { t with rows := t.rows ++ secondTick.created, detector := .idle } := by
    simp only [notificationStep, hlooping]
    rfl
  have hreads : ∀ r ∈ onlyMeter.meters.rows, r.2.lastReadAt = none := by decide
  refine ⟨t, _, Run.of_guarded hrun, hcommit, noticed_every_period 10 (by decide) noTexts onlyMeter t _
    _ ⟨rfl, rfl, rfl⟩ (fun id meter hmeter read hread => ?_) (Run.of_guarded hrun) secondTick hlooping
    hcommit 7 _ (List.mem_singleton.mpr rfl) (by decide)⟩
  rw [hreads _ (Table.get_eq_some.mp hmeter)] at hread
  cases hread

/-- The reading was before the tick, and is stored behind it: the period it begins is not noticed. -/
example : (exec (notificationStep 10 noTexts) onlyMeter (.wait 20000000 :: wholeTick 0 ++
    [.commit, .touch 7 (.loadProfile "1.1.99.1.0.255" 0 none) 19999999, .wait 40000000] ++
    wholeTick 19999999 ++ [.commit])).map (fun t => notices 7 t.rows) =
      some [(0, 20000000)] := by decide

end RiseSun.Backend
