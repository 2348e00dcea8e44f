/-
  One scheduled reading of a register a day.

  1. **Condition** (`OnTime`) — nobody writes a finished job; the profile's OBIS codes are distinct;
     and when a tick makes its jobs, no scheduled reading of theirs has a later day than the tick's
     `now`.  It can have one only if midnight passed after the tick looked at its clock.

  2. **Invariant** (`OnePerDay`) — an unfinished scheduled job is the only one of its meter and OBIS
     code, and all scheduled readings of these are of earlier days than the moment it was decided on.
     What a tick has found of its meters stays true until it commits (`TickSound`), since only a tick
     makes such jobs.

  3. **Every run** (`scheduled_once`).
-/
import RiseSun.Backend.Scheduler

namespace RiseSun.Backend

open Machine

variable {V : Type} {values : Values V} {s t : JobState V}

/-! ## Scheduled jobs and readings -/

/-- The row is of a scheduled job. -/
def JobState.scheduled (s : JobState V) (id : Int) : Bool :=
  match s.jobs.get id with
  | some job => job.scheduledJobRunId.isSome
  | none => false

/-- A scheduled job that is not finished. -/
structure OpenScheduled (s : JobState V) (id : Int) (job : Job V) : Prop where
  row : s.jobs.get id = some job
  scheduled : job.scheduledJobRunId.isSome = true
  unfinished : job.status.isTerminal = false

def scheduledReadings (s : JobState V) : List (MeterReading V) :=
  (s.readings.filter fun r => s.scheduled r.1).map (·.2)

/-- What two scheduled readings must not share. -/
def MeterReading.slot (r : MeterReading V) : Int × String × Int :=
  (r.meterId, r.obisCode, bishkekDay r.readAt)

def MeterReading.Of (r : MeterReading V) (meterId : Int) (obis : Option String) : Prop :=
  r.meterId = meterId ∧ some r.obisCode = obis

instance (r : MeterReading V) (meterId : Int) (obis : Option String) :
    Decidable (r.Of meterId obis) := inferInstanceAs (Decidable (_ ∧ _))

/-- Whether a job is scheduled is read off its row. -/
theorem scheduled_found {id : Int} {job : Job V} (hjob : s.jobs.get id = some job) :
    s.scheduled id = job.scheduledJobRunId.isSome := by
  rw [JobState.scheduled, hjob]

/-- The scheduled readings are those stored for a scheduled job. -/
theorem mem_scheduledReadings {r : MeterReading V} :
    r ∈ scheduledReadings s ↔ ∃ id, (id, r) ∈ s.readings ∧ s.scheduled id = true := by
  rw [scheduledReadings, List.mem_map]
  constructor
  · rintro ⟨⟨id, r'⟩, hmem, rfl⟩
    rw [List.mem_filter] at hmem
    exact ⟨id, hmem⟩
  · rintro ⟨id, hmem, hscheduled⟩
    exact ⟨(id, r), List.mem_filter.mpr ⟨hmem, hscheduled⟩, rfl⟩

/-- A row that is there stays scheduled or not. -/
theorem RowStep.scheduled {a : JobAction V} (h : RowStep s t a) {id : Int} (hrow : s.HasRow id) :
    t.scheduled id = s.scheduled id := by
  obtain ⟨job, hjob⟩ := hrow
  obtain ⟨job', hjob', hfollows⟩ := h.kept hjob
  rw [scheduled_found hjob, scheduled_found hjob', hfollows.1.scheduledJobRunId]

/-- A scheduled job that is open was there and open, or was made by this step. -/
theorem RowStep.openScheduled {a : JobAction V} (h : RowStep s t a) {id : Int} {job' : Job V}
    (hopen : OpenScheduled t id job') :
    (∃ job, OpenScheduled s id job ∧ job.Same job') ∨ a = .create id job' := by
  rcases hget : s.jobs.get id with _ | job
  · exact .inr (h.born hopen.row hget)
  · obtain ⟨job'', hjob'', hsame, hfinal⟩ := h.kept hget
    obtain rfl := Option.some.inj (hopen.row.symm.trans hjob'')
    refine .inl ⟨job, ⟨hget, ?_, ?_⟩, hsame⟩
    · rw [← hsame.scheduledJobRunId]
      exact hopen.scheduled
    · rcases hterminal : job.status.isTerminal
      · rfl
      · rw [hfinal hterminal] at hopen
        exact absurd (hterminal.symm.trans hopen.unfinished) Bool.noConfusion

/-! ## Condition -/

/-- The pairs of a tick have no scheduled reading of a day after its `now`. -/
def BeforeMidnight (s : JobState V) : Option Tick → Prop
  | some ⟨_, now, .reading _ _ pairs⟩ => ∀ pair ∈ pairs, ∀ r ∈ scheduledReadings s,
      r.Of pair.1 pair.2.obis → bishkekDay r.readAt ≤ bishkekDay now
  | _ => True

/-- What is taken for granted of profiles. -/
def DistinctCodes (s : SchedulerState V) : SchedulerAction V → Prop
  | .resolve profiles => ∀ tick ∈ s.tick,
      ((resolvePayloads tick.scheduledJob profiles).map (·.obis)).Nodup
  | _ => True

/-- The condition on a step. -/
def OnTime (s : SchedulerState V) : SchedulerAction V → Prop
  | .job a _ => WritesOpen s.core a
  | .resolve profiles => DistinctCodes s (.resolve profiles)
  | .commit .. => BeforeMidnight s.core s.tick
  | _ => True

instance (s : JobState V) : ∀ tick, Decidable (BeforeMidnight s tick)
  | some ⟨_, now, .reading _ _ pairs⟩ => inferInstanceAs (Decidable (∀ pair ∈ pairs,
      ∀ r ∈ scheduledReadings s, r.Of pair.1 pair.2.obis → bishkekDay r.readAt ≤ bishkekDay now))
  | none | some ⟨_, _, .selected _⟩ | some ⟨_, _, .free _⟩ => inferInstanceAs (Decidable True)

instance (s : SchedulerState V) : ∀ a, Decidable (DistinctCodes s a)
  | .resolve profiles => inferInstanceAs (Decidable (∀ tick ∈ s.tick,
      ((resolvePayloads tick.scheduledJob profiles).map (·.obis)).Nodup))
  | .job .. | .trigger .. | .outstanding | .alreadyRead | .commit .. | .giveUp =>
    inferInstanceAs (Decidable True)

instance (s : SchedulerState V) : ∀ a, Decidable (OnTime s a)
  | .job a _ => inferInstanceAs (Decidable (WritesOpen s.core a))
  | .resolve profiles => inferInstanceAs (Decidable (DistinctCodes s (.resolve profiles)))
  | .commit .. => inferInstanceAs (Decidable (BeforeMidnight s.core s.tick))
  | .trigger .. | .outstanding | .alreadyRead | .giveUp => inferInstanceAs (Decidable True)

/-! ## Invariant -/

/-- Of each meter and register there is one open scheduled job at most, decided on a later day than
    its readings; and no two scheduled readings are of one day. -/
structure OnePerDay (s : JobState V) (clock : Int) (decided : Int → Int) : Prop where
  sound : Sound s
  past : ∀ {id job}, s.jobs.get id = some job → job.scheduledJobRunId.isSome = true →
    decided id ≤ clock
  since : ∀ h ∈ s.holds, ∀ {job}, s.jobs.get h.jobId = some job →
    job.scheduledJobRunId.isSome = true → decided h.jobId ≤ h.since
  typed : ∀ {id job}, s.jobs.get id = some job → job.scheduledJobRunId.isSome = true →
    job.jobType = .readCurrent
  outstanding : ∀ {id id' job job'}, OpenScheduled s id job → OpenScheduled s id' job' →
    job.meterId = job'.meterId → job.payload.obis = job'.payload.obis → id = id'
  before : ∀ {id job}, OpenScheduled s id job → ∀ r ∈ scheduledReadings s,
    r.Of job.meterId job.payload.obis → bishkekDay r.readAt < bishkekDay (decided id)
  days : ((scheduledReadings s).map (·.slot)).Nodup

/-- No scheduled job of the meters is open. -/
def NoneOpen (s : JobState V) (meters : List Int) : Prop :=
  ∀ {id job}, OpenScheduled s id job → job.meterId ∉ meters

/-- A pair that the tick has found unread. -/
def Unread (s : JobState V) (now : Int) (pair : Int × Payload) : Prop :=
  ∀ r ∈ scheduledReadings s, r.Of pair.1 pair.2.obis → bishkekDay r.readAt ≠ bishkekDay now

/-- What a tick has looked up so far still holds: its meters have no open scheduled job, and the
    pairs it has put together are unread today. -/
def TickStage.Sound (s : JobState V) (now : Int) : TickStage → Prop
  | .selected meters => meters.Nodup
  | .free meters => meters.Nodup ∧ NoneOpen s meters
  | .reading meters payloads pairs => meters.Nodup ∧ NoneOpen s meters ∧
      (payloads.map (·.obis)).Nodup ∧
      (pairs.map fun pair => (pair.1, pair.2.obis)).Nodup ∧
      ∀ pair ∈ pairs, pair.1 ∈ meters ∧ pair.2.obis ∉ payloads.map (·.obis) ∧ Unread s now pair

/-- A tick began no later than now, and what it has looked up still holds. -/
def TickSound (s : JobState V) (clock : Int) (tick : Tick) : Prop :=
  tick.now ≤ clock ∧ tick.stage.Sound s tick.now

/-! ## Steps of the parties -/

/-- The readings there were stay scheduled or not. -/
theorem RowStep.filter_scheduled {a : JobAction V} (rows : RowStep s t a) (sound : Sound s) :
    (s.readings.filter fun r => t.scheduled r.1) = s.readings.filter fun r => s.scheduled r.1 :=
  List.filter_congr fun r hr => rows.scheduled (sound.readings r hr)

/-- The scheduled readings a step of the parties adds. -/
theorem scheduledReadings_cases {a : JobAction V} (sound : Sound s) (rows : RowStep s t a)
    (change : JobChange values s a t) :
    scheduledReadings t = scheduledReadings s ∨
      ∃ hold job outcome obis readAt now, hold ∈ s.holds ∧ s.jobs.get hold.jobId = some job ∧
        job.scheduledJobRunId.isSome = true ∧
        (a = .work hold (.readCurrent outcome obis readAt) now ∨
          a = .reportCommit hold (.readCurrent outcome obis readAt) now) ∧
        (job.jobType = .readCurrent ∧ job.payload.obis = some obis ∨
          job.jobType = .readRelayState ∧ obis = relayStateObis) ∧
        t.Finished hold.jobId ∧ scheduledReadings t =
          scheduledReadings s ++ [⟨job.meterId, obis, outcome.value, readAt⟩] := by
  have hstable := rows.filter_scheduled sound
  rcases stored_cases change with hsame | ⟨hold, job, outcome, obis, readAt, now, hmem, hget, haction,
    hstored, hobis, hfinished⟩
  · left
    rw [scheduledReadings, hsame, hstable, scheduledReadings]
  · have hscheduled := (rows.scheduled ⟨job, hget⟩).trans (scheduled_found hget)
    rw [scheduledReadings, hstored, List.filter_append, hstable, List.map_append, ← scheduledReadings]
    rcases hrun : job.scheduledJobRunId.isSome <;> rw [hrun] at hscheduled
    · left
      rw [List.filter_singleton, hscheduled]
      exact List.append_nil _
    · right
      refine ⟨hold, job, outcome, obis, readAt, now, hmem, hget, hrun, haction, hobis, hfinished, ?_⟩
      rw [List.filter_singleton, hscheduled]
      rfl

/-- A step of the parties makes no scheduled job. -/
theorem openScheduled_before {a : JobAction V} (rows : RowStep s t a) (byHand : madeByHand a = true)
    {id : Int} {job' : Job V} (hopen : OpenScheduled t id job') :
    ∃ job, OpenScheduled s id job ∧ job.Same job' := by
  rcases rows.openScheduled hopen with h | rfl
  · exact h
  · have hscheduled := hopen.scheduled
    rw [madeByHand, Option.isNone_iff_eq_none] at byHand
    rw [byHand] at hscheduled
    cases hscheduled

/-- A step that is made by hand makes no job scheduled that was not so before. -/
theorem scheduled_before {a : JobAction V} (rows : RowStep s t a) (byHand : madeByHand a = true)
    {id : Int} {job' : Job V} (hget : t.jobs.get id = some job')
    (hscheduled : job'.scheduledJobRunId.isSome = true) :
    ∃ job, s.jobs.get id = some job ∧ job.scheduledJobRunId.isSome = true ∧ job.Same job' := by
  rcases hbefore : s.jobs.get id with _ | job
  · obtain rfl := rows.born hget hbefore
    rw [madeByHand, Option.isNone_iff_eq_none] at byHand
    rw [byHand] at hscheduled
    cases hscheduled
  · obtain ⟨job'', hjob'', hsame, -⟩ := rows.kept hbefore
    obtain rfl := Option.some.inj (hget.symm.trans hjob'')
    exact ⟨job, rfl, hsame.scheduledJobRunId ▸ hscheduled, hsame⟩

variable {clock time : Int} {decided : Int → Int}

/-- What the new reading of a step is of: an open job that was decided on before it. -/
theorem OnePerDay.new_reading {a : JobAction V} (h : OnePerDay s clock decided)
    (unfinished : WritesOpen s a) (timed : timely time a = true) {hold : Hold} {job : Job V}
    {outcome : ReadResult V} {obis : String} {readAt now : Int} (hmem : hold ∈ s.holds)
    (hget : s.jobs.get hold.jobId = some job) (hscheduled : job.scheduledJobRunId.isSome = true)
    (haction : a = .work hold (.readCurrent outcome obis readAt) now ∨
      a = .reportCommit hold (.readCurrent outcome obis readAt) now)
    (hobis : job.jobType = .readCurrent ∧ job.payload.obis = some obis ∨
      job.jobType = .readRelayState ∧ obis = relayStateObis) :
    OpenScheduled s hold.jobId job ∧ some obis = job.payload.obis ∧
      bishkekDay (decided hold.jobId) ≤ bishkekDay readAt := by
  have hopen : ¬ s.Finished hold.jobId := by
    rcases haction with rfl | rfl
    · exact unfinished
    · exact unfinished
  have hsince : hold.since ≤ readAt := by
    rcases haction with rfl | rfl
    · exact (of_decide_eq_true timed).1
    · exact (of_decide_eq_true timed).1
  refine ⟨⟨hget, hscheduled, ?_⟩, ?_, bishkekDay_mono ((h.since hold hmem hget hscheduled).trans hsince)⟩
  · exact Bool.eq_false_iff.mpr fun hterminal => hopen ⟨job, hget, hterminal⟩
  · rcases hobis with ⟨-, hpayload⟩ | ⟨htype, -⟩
    · exact hpayload.symm
    · rw [h.typed hget hscheduled] at htype
      cases htype

/-- A step of the jobs that is made in time and writes no finished row keeps the invariant. -/
theorem OnePerDay.step {a : JobAction V} (h : OnePerDay s clock decided) (hclock : clock ≤ time)
    (unfinished : WritesOpen s a) (timed : timely time a = true) (byHand : madeByHand a = true)
    (change : JobChange values s a t) : OnePerDay t time decided := by
  have rows := h.sound.rowStep unfinished change
  have hnew := scheduledReadings_cases h.sound rows change
  refine ⟨h.sound.step change, ?_, ?_, ?_, ?_, ?_, ?_⟩
  · intro id job' hget hscheduled
    obtain ⟨job, hjob, hbefore, -⟩ := scheduled_before rows byHand hget hscheduled
    exact (h.past hjob hbefore).trans hclock
  · intro hold hhold job' hget hscheduled
    obtain ⟨job, hjob, hbefore, -⟩ := scheduled_before rows byHand hget hscheduled
    rcases holds_step change hhold with hold' | ⟨claiming, now, rfl, -, -, hsince⟩
    · exact h.since hold hold' hjob hbefore
    · rw [hsince, of_decide_eq_true timed]
      exact (h.past hjob hbefore).trans hclock
  · intro id job' hget hscheduled
    obtain ⟨job, hjob, hbefore, hsame⟩ := scheduled_before rows byHand hget hscheduled
    exact hsame.jobType.trans (h.typed hjob hbefore)
  · intro id id' job₁ job₂ hopen₁ hopen₂ hmeter hobis
    obtain ⟨job, hjob, hsame⟩ := openScheduled_before rows byHand hopen₁
    obtain ⟨job', hjob', hsame'⟩ := openScheduled_before rows byHand hopen₂
    refine h.outstanding hjob hjob' ?_ ?_
    · rw [← hsame.meterId, ← hsame'.meterId, hmeter]
    · rw [← hsame.payload, ← hsame'.payload, hobis]
  · intro id job' hopen r hr hof
    obtain ⟨job, hjob, hsame⟩ := openScheduled_before rows byHand hopen
    rw [hsame.meterId, hsame.payload] at hof
    rcases hnew with hsame | ⟨hold, job₁, outcome, obis, readAt, now, hmem, hget, hscheduled, haction,
      hobis, hfinished, hstored⟩
    · exact h.before hjob r (hsame ▸ hr) hof
    · rw [hstored, List.mem_append, List.mem_singleton] at hr
      rcases hr with hold' | rfl
      · exact h.before hjob r hold' hof
      -- The job of the new reading would be the only open one of its register, but it is finished.
      · obtain ⟨hopen₁, hpayload, -⟩ :=
          h.new_reading unfinished timed hmem hget hscheduled haction hobis
        obtain rfl := h.outstanding hjob hopen₁ hof.1.symm (hof.2.symm.trans hpayload)
        obtain ⟨job₂, hjob₂, hterminal⟩ := hfinished
        rw [Option.mem_def, hopen.row] at hjob₂
        obtain rfl := Option.some.inj hjob₂
        exact absurd (hterminal.symm.trans hopen.unfinished) Bool.noConfusion
  · rcases hnew with hsame | ⟨hold, job₁, outcome, obis, readAt, now, hmem, hget, hscheduled, haction,
      hobis, hfinished, hstored⟩
    · exact hsame ▸ h.days
    · obtain ⟨hopen₁, hpayload, hday⟩ :=
        h.new_reading unfinished timed hmem hget hscheduled haction hobis
      rw [hstored, List.map_append]
      refine h.days.append (List.nodup_singleton _) fun slot hold' hthis => ?_
      obtain ⟨r, hr, rfl⟩ := List.mem_map.mp hold'
      have hslot := List.mem_singleton.mp hthis
      have hof : r.Of job₁.meterId job₁.payload.obis :=
        ⟨congrArg (·.1) hslot, (congrArg (fun slot => some slot.2.1) hslot).trans hpayload⟩
      have hearlier := h.before hopen₁ r hr hof
      have hsameDay : bishkekDay r.readAt = bishkekDay readAt := congrArg (·.2.2) hslot
      omega

/-- As time goes on, the invariant stays true. -/
theorem OnePerDay.later (h : OnePerDay s clock decided) (hclock : clock ≤ time) :
    OnePerDay s time decided :=
  { h with past := fun hget hscheduled => (h.past hget hscheduled).trans hclock }

/-- What the tick has found stays true while the parties work. -/
theorem TickSound.step {a : JobAction V} (h : OnePerDay s clock decided) {tick : Tick}
    (htick : TickSound s clock tick) (hclock : clock ≤ time) (unfinished : WritesOpen s a)
    (timed : timely time a = true) (byHand : madeByHand a = true)
    (change : JobChange values s a t) : TickSound t time tick := by
  have rows := h.sound.rowStep unfinished change
  have hnone : ∀ {meters : List Int}, NoneOpen s meters → NoneOpen t meters := by
    intro meters hnone id job' hopen
    obtain ⟨job, hjob, hsame⟩ := openScheduled_before rows byHand hopen
    rw [hsame.meterId]
    exact hnone hjob
  refine ⟨htick.1.trans hclock, ?_⟩
  have hstage := htick.2
  rcases hcase : tick.stage with meters | meters | ⟨meters, payloads, pairs⟩ <;> rw [hcase] at hstage
  · exact hstage
  · exact ⟨hstage.1, hnone hstage.2⟩
  · obtain ⟨hnodup, hnoneOpen, hpayloads, hpairs, hfound⟩ := hstage
    refine ⟨hnodup, hnone hnoneOpen, hpayloads, hpairs, fun pair hpair => ?_⟩
    obtain ⟨hmeter, hobis, hunread⟩ := hfound pair hpair
    refine ⟨hmeter, hobis, fun r hr hof => ?_⟩
    rcases scheduledReadings_cases h.sound rows change with hsame | ⟨hold, job₁, outcome, obis, readAt,
      now, hmem, hget, hscheduled, haction, hobis', hfinished, hstored⟩
    · exact hunread r (hsame ▸ hr) hof
    · rw [hstored, List.mem_append, List.mem_singleton] at hr
      rcases hr with hold' | rfl
      · exact hunread r hold' hof
      -- No open scheduled job is of this meter, so none of its readings is new.
      · obtain ⟨hopen₁, -, -⟩ :=
          h.new_reading unfinished timed hmem hget hscheduled haction hobis'
        have hmeter₁ : job₁.meterId ∈ meters := (show job₁.meterId = pair.1 from hof.1) ▸ hmeter
        exact absurd hmeter₁ (hnoneOpen hopen₁)

/-! ## Queries of the tick -/

/-- The meters without an outstanding job have no open scheduled one. -/
theorem NoneOpen.of_outstanding (h : OnePerDay s clock decided) (meters : List Int) :
    NoneOpen s (meters.filter fun m => m ∉ outstandingJobMeterIds s meters) := by
  intro id job hopen hmem
  obtain ⟨hmeter, hfree⟩ := List.mem_filter.mp hmem
  refine of_decide_eq_true hfree (List.mem_map.mpr ⟨(id, job), ?_, rfl⟩)
  refine List.mem_filter.mpr ⟨Table.get_eq_some.mp hopen.row, decide_eq_true ⟨hmeter, ?_, ?_⟩⟩
  · exact h.typed hopen.row hopen.scheduled
  · have hunfinished := hopen.unfinished
    rcases hstatus : job.status <;> rw [hstatus] at hunfinished
    · exact .inl rfl
    · exact .inr rfl
    · cases hunfinished
    · cases hunfinished

/-- A meter that is not among those already read today has no reading of today. -/
theorem Unread.of_alreadyRead {meters : List Int} {payload : Payload} {now m : Int}
    (hmem : m ∈ meters) (hfree : m ∉ alreadyReadTodayMeterIds s meters payload.obis now) :
    Unread s now (m, payload) := by
  rintro r hr ⟨hmeter, hobis⟩ hday
  obtain ⟨id, hread, -⟩ := mem_scheduledReadings.mp hr
  refine hfree (List.mem_map.mpr ⟨(id, r), List.mem_filter.mpr ⟨hread, ?_⟩, hmeter⟩)
  exact decide_eq_true ⟨hmeter ▸ hmem, hobis, mem_dayBounds.mpr hday⟩

/-- A tick that has looked up who has been read today, for one payload more, is still right about
    the rest. -/
theorem TickStage.Sound.alreadyRead {meters : List Int} {payload : Payload}
    {payloads : List Payload} {pairs : List (Int × Payload)} {now : Int}
    (h : TickStage.Sound s now (.reading meters (payload :: payloads) pairs)) :
    TickStage.Sound s now (.reading meters payloads (pairs ++
      (meters.filter fun m =>
        m ∉ alreadyReadTodayMeterIds s meters payload.obis now).map (·, payload))) := by
  obtain ⟨hnodup, hnone, hpayloads, hpairs, hfound⟩ := h
  rw [List.map_cons, List.nodup_cons] at hpayloads
  refine ⟨hnodup, hnone, hpayloads.2, ?_, fun pair hpair => ?_⟩
  · rw [List.map_append, List.map_map]
    refine hpairs.append ((hnodup.filter _).map fun m m' heq => congrArg Prod.fst heq) ?_
    intro key hold hnew
    obtain ⟨pair, hpair, rfl⟩ := List.mem_map.mp hold
    obtain ⟨m, -, heq⟩ := List.mem_map.mp hnew
    refine (hfound pair hpair).2.1 (List.mem_map.mpr ⟨payload, List.mem_cons_self, ?_⟩)
    exact congrArg Prod.snd heq
  · rcases List.mem_append.mp hpair with hold | hnew
    · obtain ⟨hmeter, hobis, hunread⟩ := hfound pair hold
      exact ⟨hmeter, fun hmem => hobis (List.mem_cons_of_mem _ hmem), hunread⟩
    · obtain ⟨m, hm, rfl⟩ := List.mem_map.mp hnew
      obtain ⟨hmeter, hfree⟩ := List.mem_filter.mp hm
      exact ⟨hmeter, hpayloads.1, .of_alreadyRead hmeter (of_decide_eq_true hfree)⟩

/-! ## Commit of the tick -/

/-- No scheduled job of the pair is open, and its scheduled readings are of earlier days. -/
structure Free (s : JobState V) (now : Int) (pair : Int × Payload) : Prop where
  noneOpen : ∀ {id job}, OpenScheduled s id job → job.meterId = pair.1 →
    job.payload.obis ≠ pair.2.obis
  earlier : ∀ r ∈ scheduledReadings s, r.Of pair.1 pair.2.obis →
    bishkekDay r.readAt < bishkekDay now

section Create

variable {id runId createdAt now : Int} {pair : Int × Payload}

/-- Creating a job adds no reading, and so no scheduled one. -/
theorem created_readings (sound : Sound s) {job : Job V}
    (change : JobChange values s (.create id job) t) :
    scheduledReadings t = scheduledReadings s := by
  have rows := sound.rowStep (show WritesOpen s (.create id job) from trivial) change
  rw [scheduledReadings, (created_new change).2.1, rows.filter_scheduled sound, scheduledReadings]

/-- After the creation of a job, an open scheduled job is an old one or the new one. -/
theorem created_open {job : Job V} (change : JobChange values s (.create id job) t)
    {id' : Int} {job' : Job V} (hopen : OpenScheduled t id' job') :
    id' ≠ id ∧ OpenScheduled s id' job' ∨ id' = id ∧ job' = job :=
  (created_row change hopen.row).imp
    (fun ⟨hne, hget⟩ => ⟨hne, hget, hopen.scheduled, hopen.unfinished⟩) fun heq => heq

/-- The tick makes one job for a pair that it has found free and unread, and the invariant stays. -/
theorem OnePerDay.create (h : OnePerDay s clock decided) (hnow : now ≤ clock) (free : Free s now pair)
    (change : JobChange values s (.create id (scheduledReading runId createdAt pair)) t) :
    OnePerDay t clock (Function.update decided id now) := by
  have hreadings := created_readings h.sound change
  refine ⟨h.sound.step change, ?_, ?_, ?_, ?_, ?_, hreadings ▸ h.days⟩
  · intro id' job' hget hscheduled
    rcases created_row change hget with ⟨hne, hold⟩ | ⟨rfl, rfl⟩
    · rw [Function.update_of_ne hne]
      exact h.past hold hscheduled
    · rwa [Function.update_self]
  · intro hold hhold job' hget hscheduled
    obtain ⟨hnew, -, hholds⟩ := created_new change
    rw [hholds] at hhold
    obtain ⟨job, hjob⟩ := h.sound.holds hold hhold
    rcases created_row change hget with ⟨hne, hrow⟩ | ⟨heq, -⟩
    · rw [Function.update_of_ne hne]
      exact h.since hold hhold hrow hscheduled
    · rw [heq, hnew] at hjob
      cases hjob
  · intro id' job' hget hscheduled
    rcases created_row change hget with ⟨hne, hold⟩ | ⟨rfl, rfl⟩
    · exact h.typed hold hscheduled
    · rfl
  -- two open jobs for one meter and register: neither is the new one, or both are
  · intro id₁ id₂ job₁ job₂ hopen₁ hopen₂ hmeter hobis
    rcases created_open change hopen₁ with ⟨-, hold₁⟩ | ⟨rfl, rfl⟩ <;>
      rcases created_open change hopen₂ with ⟨-, hold₂⟩ | ⟨rfl, rfl⟩
    · exact h.outstanding hold₁ hold₂ hmeter hobis
    · exact absurd hobis (free.noneOpen hold₁ hmeter)
    · exact absurd hobis.symm (free.noneOpen hold₂ hmeter.symm)
    · rfl
  · intro id' job' hopen r hr hof
    rw [hreadings] at hr
    rcases created_open change hopen with ⟨hne, hold⟩ | ⟨rfl, rfl⟩
    · rw [Function.update_of_ne hne]
      exact h.before hold r hr hof
    · rw [Function.update_self]
      exact free.earlier r hr hof

/-- Pairs with another meter or OBIS code stay free. -/
theorem Free.create {other : Int × Payload} (h : Free s now other) (sound : Sound s)
    (hne : (other.1, other.2.obis) ≠ (pair.1, pair.2.obis))
    (change : JobChange values s (.create id (scheduledReading runId createdAt pair)) t) :
    Free t now other where
  noneOpen := fun hopen hmeter hobis => by
    rcases created_open change hopen with ⟨-, hold⟩ | ⟨rfl, rfl⟩
    · exact h.noneOpen hold hmeter hobis
    · exact hne (Prod.ext hmeter.symm hobis.symm)
  earlier := created_readings sound change ▸ h.earlier

end Create

/-- The tick makes the jobs of all its pairs: induction on the pairs. -/
theorem OnePerDay.createAll {runId createdAt now : Int} (hnow : now ≤ clock) :
    ∀ (ids : List Int) (pairs : List (Int × Payload)) {s t : JobState V} {decided : Int → Int},
      OnePerDay s clock decided → ids.length = pairs.length →
      (pairs.map fun pair => (pair.1, pair.2.obis)).Nodup → (∀ pair ∈ pairs, Free s now pair) →
      exec (jobStep values) s (createAll runId createdAt ids pairs) = some t →
      OnePerDay t clock fun id => if id ∈ ids then now else decided id
  | [], [], s, t, decided, h, _, _, _, hexec => by
    obtain rfl := Option.some.inj hexec
    exact h
  | id :: ids, pair :: pairs, s, t, decided, h, hlength, hpairs, hfree, hexec => by
    obtain ⟨next, hnext, hexec⟩ := Option.bind_eq_some_iff.mp hexec
    rw [List.map_cons, List.nodup_cons] at hpairs
    have hchange := jobStep_change hnext
    have hrest := OnePerDay.createAll hnow ids pairs
      (h.create hnow (hfree pair List.mem_cons_self) hchange) (Nat.succ.inj hlength) hpairs.2
      (fun other hother => (hfree other (List.mem_cons_of_mem _ hother)).create h.sound
        (fun heq => hpairs.1 (heq ▸ List.mem_map_of_mem hother)) hchange) hexec
    refine Eq.mp (congrArg (OnePerDay t clock) (funext fun id' => ?_)) hrest
    rcases eq_or_ne id' id with rfl | hne
    · rw [Function.update_self, if_pos List.mem_cons_self, ite_self]
    · rw [Function.update_of_ne hne]
      exact if_congr (List.mem_cons.trans (or_iff_right hne)).symm rfl rfl

/-! ## Every run -/

structure OncePerDay (s : SchedulerState V) : Prop where
  core : OnePerDay s.core s.clock s.decided
  tick : ∀ tick ∈ s.tick, TickSound s.core s.clock tick

/-- The empty database satisfies the invariant, as it has no jobs and no readings. -/
theorem OncePerDay.initial :
    OncePerDay ({ core := { jobs := ⟨[], List.nodup_nil⟩ } } : SchedulerState V) where
  core := ⟨.initial _, fun h => (nomatch h), fun _ h => (nomatch h), fun h => (nomatch h),
    fun h => (nomatch h.row), fun h => (nomatch h.row), List.nodup_nil⟩
  tick := fun _ h => (nomatch h)

/-- A tick that is still under way when it commits leaves what it found. -/
theorem Free.of_tick {s : JobState V} {now : Int} {meters : List Int} {payloads : List Payload}
    {pairs : List (Int × Payload)} (h : TickStage.Sound s now (.reading meters payloads pairs))
    (onTime : ∀ pair ∈ pairs, ∀ r ∈ scheduledReadings s, r.Of pair.1 pair.2.obis →
      bishkekDay r.readAt ≤ bishkekDay now) :
    ∀ pair ∈ pairs, Free s now pair := by
  intro pair hpair
  obtain ⟨-, hnone, -, -, hfound⟩ := h
  obtain ⟨hmeter, -, hunread⟩ := hfound pair hpair
  refine ⟨fun hopen heq _ => hnone hopen (heq ▸ hmeter), fun r hr hof => ?_⟩
  exact lt_of_le_of_ne (onTime pair hpair r hr hof) (hunread r hr hof)

/-- Every step that meets the condition keeps the invariant, that of a tick included. -/
theorem OncePerDay.step {s t : SchedulerState V} {a : SchedulerAction V} (h : OncePerDay s)
    (onTime : OnTime s a) (next : schedulerStep values s a = some t) : OncePerDay t := by
  cases a with
  | job a time =>
    rcases ite_eq_iff.mp next with ⟨⟨hclock, htimely, hhand⟩, next⟩ | ⟨_, next⟩
    · obtain ⟨core, hcore, rfl⟩ := Option.map_eq_some_iff.mp next
      have hchange := jobStep_change hcore
      refine ⟨h.core.step hclock onTime htimely hhand hchange, fun tick htick => ?_⟩
      dsimp only at htick
      split at htick
      · cases htick
      · exact (h.tick tick htick).step h.core hclock onTime htimely hhand hchange
    · cases next
  | trigger scheduledJob now meters =>
    rcases ite_eq_iff.mp next with ⟨⟨hclock, hnone⟩, next⟩ | ⟨_, next⟩
    · obtain rfl := Option.some.inj next
      refine ⟨h.core.later hclock, fun tick htick => ?_⟩
      obtain rfl := Option.some.inj htick
      exact ⟨le_rfl, meters.keys.sublist (List.Sublist.map _ List.filter_sublist)⟩
    · cases next
  | outstanding =>
    rw [schedulerStep] at next
    rcases htick : s.tick with _ | ⟨scheduledJob, now, meters | _ | _⟩ <;> rw [htick] at next
    · cases next
    · obtain rfl := Option.some.inj next
      obtain ⟨hnow, hnodup⟩ := h.tick _ htick
      refine ⟨h.core, fun tick htick' => ?_⟩
      obtain rfl := Option.some.inj htick'
      exact ⟨hnow, List.Nodup.filter _ hnodup, NoneOpen.of_outstanding h.core meters⟩
    · cases next
    · cases next
  | resolve profiles =>
    rw [schedulerStep] at next
    rcases htick : s.tick with _ | ⟨scheduledJob, now, _ | meters | _⟩ <;> rw [htick] at next
    · cases next
    · cases next
    · obtain rfl := Option.some.inj next
      obtain ⟨hnow, hnodup, hnone⟩ := h.tick _ htick
      -- the condition: no two payloads of a tick are for one register
      have hdistinct : ((resolvePayloads scheduledJob profiles).map (·.obis)).Nodup := onTime _ htick
      refine ⟨h.core, fun tick htick' => ?_⟩
      dsimp only at htick'
      split at htick'
      · cases htick'
      · obtain rfl := Option.some.inj htick'
        exact ⟨hnow, hnodup, hnone, hdistinct, List.nodup_nil, fun _ hmem => (nomatch hmem)⟩
    · cases next
  | alreadyRead =>
    rw [schedulerStep] at next
    rcases htick : s.tick with _ | ⟨scheduledJob, now, _ | _ | ⟨meters, _ | ⟨payload, payloads⟩, pairs⟩⟩ <;>
      rw [htick] at next
    · cases next
    · cases next
    · cases next
    · cases next
    · obtain rfl := Option.some.inj next
      obtain ⟨hnow, hstage⟩ := h.tick _ htick
      refine ⟨h.core, fun tick htick' => ?_⟩
      obtain rfl := Option.some.inj htick'
      exact ⟨hnow, hstage.alreadyRead⟩
  | commit ids runId createdAt time =>
    rw [schedulerStep] at next
    rw [OnTime] at onTime
    rcases htick : s.tick with _ | ⟨scheduledJob, now, _ | _ | ⟨meters, _ | ⟨payload, payloads⟩, pairs⟩⟩ <;>
      rw [htick] at next onTime
    · cases next
    · cases next
    · cases next
    · rcases ite_eq_iff.mp next with ⟨⟨hclock, hlength⟩, next⟩ | ⟨_, next⟩
      · obtain ⟨core, hcore, rfl⟩ := Option.map_eq_some_iff.mp next
        obtain ⟨hnow, hstage⟩ := h.tick _ htick
        refine ⟨?_, fun _ htick' => (nomatch htick')⟩
        -- all children are created at once, and each pair is free when its turn comes
        exact OnePerDay.createAll (hnow.trans hclock) ids pairs (h.core.later hclock) hlength
          hstage.2.2.2.1 (.of_tick hstage onTime) hcore
      · cases next
    · cases next
  | giveUp =>
    obtain rfl := Option.some.inj next
    exact ⟨h.core, fun _ htick => (nomatch htick)⟩

/-- In every run in which no finished row is written and no tick makes a job for a register that
    was read on a later day than the tick looked at, the scheduler makes no job for a register that
    has an unfinished one, and a register has one scheduled reading a day. -/
theorem scheduled_once {actions : List (SchedulerAction V)} {s : SchedulerState V}
    (run : Run (schedulerStep values) OnTime { core := { jobs := ⟨[], List.nodup_nil⟩ } } actions s) :
    (∀ id id' job job', OpenScheduled s.core id job → OpenScheduled s.core id' job' →
      job.meterId = job'.meterId → job.payload.obis = job'.payload.obis → id = id') ∧
    ((scheduledReadings s.core).map (·.slot)).Nodup := by
  have h : OncePerDay s := run.invariant .initial fun inv cond next => inv.step cond next
  exact ⟨fun _ _ _ _ => h.core.outstanding, h.core.days⟩

/-! ### Midnight while a tick decides -/

/-- The energy register of meter 7. -/
def dailyEnergy : ScheduledJob where
  meterIds := [7]
  obis := some "1.1.1.8.0.ff"

def meterSeven : Table Int Bool where
  rows := [(7, true)]
  keys := List.nodup_singleton _

/-- A tick up to its commit. -/
def askForEnergy (now : Int) : List (SchedulerAction Nat) :=
  [.trigger dailyEnergy now meterSeven, .outstanding, .resolve fun _ => none, .alreadyRead]

/-- A worker reads the register for the job. -/
def readEnergy (id : Int) (claim : Nat) (time : Int) : List (SchedulerAction Nat) :=
  [.job (.ask .worker (fun _ => true) Int.toNat) time,
    .job (.askAgain .worker (fun _ => true) Int.toNat) time,
    .job (.commitClaim ⟨false, [id]⟩ time) time,
    .job (.work ⟨claim, id, false, time⟩
      (.readCurrent ⟨true, 5, none, none, false⟩ "1.1.1.8.0.ff" time) time) time]

/-- One tick makes a job, the job is done, and there is its one reading of the day. -/
theorem scheduled_once_one_day : ∃ s : SchedulerState Nat,
    (scheduledReadings s.core).length = 1 ∧
    (∀ id id' job job', OpenScheduled s.core id job → OpenScheduled s.core id' job' →
      job.meterId = job'.meterId → job.payload.obis = job'.payload.obis → id = id') ∧
    ((scheduledReadings s.core).map (·.slot)).Nodup := by
  have hexec : ((exec (guarded (schedulerStep plainValues) OnTime)
      { core := { jobs := ⟨[], List.nodup_nil⟩ } }
      (askForEnergy 50000 ++ [.commit [1] 1 50001 50001] ++ readEnergy 1 0 50010)).map
        fun s => (scheduledReadings s.core).length) = some 1 := by decide
  obtain ⟨s, hrun, hlength⟩ := Option.map_eq_some_iff.mp hexec
  exact ⟨s, hlength, scheduled_once (Run.of_guarded hrun)⟩

/-- The first tick's job is read just after midnight.  The second tick looked at its clock before it
    and asks for the readings of the day that is over. -/
theorem tick_over_midnight :
    ¬ ∀ (actions : List (SchedulerAction Nat)) (s : SchedulerState Nat),
      Run (schedulerStep plainValues) DistinctCodes { core := { jobs := ⟨[], List.nodup_nil⟩ } }
        actions s → s.core.finalized.Nodup →
      (∀ id id' job job', OpenScheduled s.core id job → OpenScheduled s.core id' job' →
        job.meterId = job'.meterId → job.payload.obis = job'.payload.obis → id = id') ∧
      ((scheduledReadings s.core).map (·.slot)).Nodup := by
  intro h
  have hexec : ((exec (guarded (schedulerStep plainValues) DistinctCodes)
      { core := { jobs := ⟨[], List.nodup_nil⟩ } }
      (askForEnergy 64000 ++ [.commit [1] 1 64001 64001] ++
        [.trigger dailyEnergy 64799 meterSeven] ++ readEnergy 1 0 64800 ++
        [.outstanding, .resolve fun _ => none, .alreadyRead, .commit [2] 2 64802 64802] ++
        readEnergy 2 1 64810)).map
        fun s => (s.core.finalized, (scheduledReadings s.core).map (·.slot))) =
      some ([1, 2], [(7, "1.1.1.8.0.ff", 1), (7, "1.1.1.8.0.ff", 1)]) := by decide
  obtain ⟨s, hrun, hresult⟩ := Option.map_eq_some_iff.mp hexec
  have hslots := h _ s (Run.of_guarded hrun)
  rw [(Prod.mk.inj hresult).1, (Prod.mk.inj hresult).2] at hslots
  exact absurd (hslots (by decide)).2 (by decide)

end RiseSun.Backend
