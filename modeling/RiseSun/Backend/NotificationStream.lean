/-
  The stream of notifications (`api/notifications.py`), beside all that stores them.

  1. **Streams** — a client gets what is stored with a higher number than the last one it was sent.  A
     number is given when a row is flushed, so rows come into the table in another order than that of
     their numbers.

  2. **Numbers** — no two rows have the same number, stored or not.

  3. **Delivery** (`stream_delivers`) — once a stream has asked again, a row that was stored is sent if
     and only if it had been sent already or its number is above all that was fetched by then.  A row
     that is stored late is skipped for good.
-/
import RiseSun.Lib.Follower
import RiseSun.Backend.Notifications

namespace RiseSun.Backend

open Machine

variable {V : Type} {timeoutS : Int} {values : Values V}

/-! ## Streams -/

/-- One client's stream: what it follows, and how far it has come. -/
structure NotificationStream where
  follower : Follower Int NotificationRow
  closed : Bool := false

/-- The notifications with the streams that read them. -/
structure FeedState where
  base : NotificationState
  streams : List NotificationStream := []

/-- The steps of the writers and of the streams. -/
inductive FeedAction (V : Type)
  | backend (a : NotificationAction V)
  /-- The client is accepted, and the newest number is asked for. -/
  | accept
  /-- The next query of a stream. -/
  | poll (j : Nat)
  | send (j : Nat)
  | leave (j : Nat)

/-- `newest or 0`. -/
def newestId (rows : List NotificationRow) : Int := (rows.map (·.id)).max?.getD 0

/-- The stream `j` is replaced. -/
def FeedState.setStream (s : FeedState) (j : Nat) (stream : NotificationStream) : FeedState :=
  { s with streams := s.streams.set j stream }

/-- A step on the stream `j`, which is there and meets the guard. -/
def FeedState.onStream (s : FeedState) (j : Nat) (guard : NotificationStream → Bool)
    (f : NotificationStream → NotificationStream) : Option FeedState :=
  match s.streams[j]? with
  | some stream => if guard stream then some (s.setStream j (f stream)) else none
  | none => none

/-- One step of the feed; `none` says that it cannot be taken. -/
def feedStep (timeoutS : Int) (values : Values V) (s : FeedState) : FeedAction V → Option FeedState
  | .backend a => (notificationStep timeoutS values s.base a).map fun base => { s with base := base }
  | .accept => some { s with
      streams := s.streams ++ [{ follower := { cursor := newestId s.base.rows } }] }
  | .poll j => s.onStream j (fun stream => !stream.closed && stream.follower.batch.isEmpty)
      fun stream => { stream with follower := stream.follower.fetch (·.id) s.base.rows }
  | .send j => s.onStream j (fun stream => !stream.closed && !stream.follower.batch.isEmpty)
      fun stream => { stream with follower := stream.follower.send (·.id) }
  | .leave j => s.onStream j (fun stream => !stream.closed) fun stream => { stream with closed := true }

/-! ## Numbers -/

section Numbers

variable {s t : NotificationState} {a : NotificationAction V}

/-- The numbers given to rows that are there, stored or flushed. -/
def NotificationState.numbers (s : NotificationState) : List Int :=
  (s.rows ++ s.detector.created ++ s.flushed).map (·.id)

/-- Every number is given once, and the numbers to come are higher. -/
structure Numbered (s : NotificationState) : Prop where
  nodup : s.numbers.Nodup
  below : ∀ id ∈ s.numbers, id < s.nextId

/-- Fewer numbers, with the same number to come, are still each given once. -/
theorem Numbered.sublist (h : Numbered s) (hsub : t.numbers.Subperm s.numbers)
    (hnext : t.nextId = s.nextId) : Numbered t where
  nodup := by
    obtain ⟨ids, hperm, hids⟩ := hsub
    exact hperm.nodup_iff.mp (h.nodup.sublist hids)
  below id hid := by
    rw [hnext]
    exact h.below id (hsub.subset hid)

/-- A row that is flushed takes the next number, which no other row has. -/
theorem Numbered.add (h : Numbered s) (hperm : t.numbers.Perm (s.nextId :: s.numbers))
    (hnext : t.nextId = s.nextId + 1) : Numbered t where
  nodup := by
    rw [hperm.nodup_iff, List.nodup_cons]
    exact ⟨fun hmem => lt_irrefl _ (h.below _ hmem), h.nodup⟩
  below id hid := by
    rw [hnext]
    rcases List.mem_cons.mp (hperm.mem_iff.mp hid) with rfl | hold
    · exact Int.lt_succ _
    · exact (h.below id hold).trans (Int.lt_succ _)

/-- Marking a notification as read leaves the numbers as they are. -/
theorem markRead_ids (id : Int) (rows : List NotificationRow) :
    (rows.map fun row => if row.id = id then { row with isRead := true } else row).map (·.id) =
      rows.map (·.id) := by
  rw [List.map_map]
  refine List.map_congr_left fun row _ => ?_
  simp only [Function.comp_apply]
  split
  · rfl
  · rfl

/-- The notification a tick writes has the next number. -/
theorem notification_id {tick : DetectorTick} {rows : List NotificationRow} {nextId : Int}
    {row : NotificationRow} (h : tick.notification rows nextId = some row) : row.id = nextId := by
  rw [DetectorTick.notification] at h
  split at h
  · split at h
    · split at h
      · cases h
      · rw [← Option.some.inj h]
    · cases h
  · cases h

/-- Every step gives a new number or none: no number is ever given twice. -/
theorem Numbered.step (h : Numbered s) (hstep : Stepped timeoutS values s a t) : Numbered t := by
  cases hstep with
  | wait | touch | write => exact h.sublist (List.Subperm.refl _) rfl
  | flush =>
    refine h.add ?_ rfl
    simp only [NotificationState.numbers, List.map_append, List.map_singleton, ← List.append_assoc]
    exact List.perm_append_singleton _ _
  | @store id =>
    refine h.sublist (List.Perm.subperm (List.Perm.map _ ?_)) rfl
    have hsplit := List.filter_append_perm (fun row : NotificationRow => decide (row.id = id)) s.flushed
    simp only [← decide_not] at hsplit
    simp only [List.append_assoc]
    refine List.Perm.append_left _ (List.Perm.trans ?_ (hsplit.append_left _))
    exact List.perm_append_comm_assoc _ _ _
  | rollback =>
    refine h.sublist (List.Sublist.subperm (List.Sublist.map _ ?_)) rfl
    exact (List.Sublist.refl _).append List.filter_sublist
  | markRead =>
    refine h.sublist ?_ rfl
    simp only [NotificationState.numbers, List.map_append, markRead_ids]
    exact List.Subperm.refl _
  | begin hidle =>
    refine h.sublist ?_ rfl
    simp only [NotificationState.numbers, hidle, DetectorStage.created]
    exact List.Subperm.refl _
  | select hbegun _ =>
    refine h.sublist ?_ rfl
    simp only [NotificationState.numbers, hbegun, DetectorStage.created]
    exact List.Subperm.refl _
  | look hlooping _ _ =>
    refine h.sublist ?_ rfl
    simp only [NotificationState.numbers, hlooping]
    split
    · exact List.Subperm.refl _
    · exact List.Subperm.refl _
  | @ask tick hlooping _ =>
    rcases hrow : tick.notification s.rows s.nextId with _ | row
    · refine h.sublist ?_ ?_
      · simp only [NotificationState.numbers, NotificationState.asked, hlooping, DetectorStage.created,
          hrow, Option.toList_none, List.append_nil]
        exact List.Subperm.refl _
      · simp only [NotificationState.asked, hrow, Option.toList_none, List.length_nil, Nat.cast_zero,
          add_zero]
    · refine h.add ?_ ?_
      · simp only [NotificationState.numbers, NotificationState.asked, hlooping, DetectorStage.created,
          hrow, Option.toList_some, List.map_append, List.map_cons, List.append_assoc,
          List.singleton_append, notification_id hrow]
        rw [← List.append_assoc, ← List.append_assoc]
        exact List.perm_middle
      · simp only [NotificationState.asked, hrow, Option.toList_some, List.length_singleton,
          Nat.cast_one]
  | commit hlooping _ =>
    refine h.sublist ?_ rfl
    simp only [NotificationState.numbers, hlooping, DetectorStage.created, List.append_nil]
    exact List.Subperm.refl _
  | giveUp =>
    refine h.sublist (List.Sublist.subperm (List.Sublist.map _ ?_)) rfl
    simp only [DetectorStage.created, List.append_nil]
    exact (List.sublist_append_left _ _).append (List.Sublist.refl _)

end Numbers

/-! ## Delivery -/

section Delivery

variable {s t : FeedState} {a : FeedAction V}

/-- The same notification, but for the mark. -/
def NotificationRow.Same (row row' : NotificationRow) : Prop :=
  row'.id = row.id ∧ row'.subject = row.subject ∧ row'.createdAt = row.createdAt

/-- What is stored stays, with its number and what it says. -/
theorem rows_step {s t : NotificationState} {a : NotificationAction V}
    (h : Stepped timeoutS values s a t) : ∀ row ∈ s.rows, ∃ row' ∈ t.rows, row.Same row' := by
  have hstays : ∀ {rows : List NotificationRow}, (∀ row ∈ s.rows, row ∈ rows) →
      ∀ row ∈ s.rows, ∃ row' ∈ rows, row.Same row' :=
    fun hsub row hrow => ⟨row, hsub row hrow, rfl, rfl, rfl⟩
  cases h with
  | wait | touch | write | flush | rollback | begin | select | look | ask | giveUp =>
    exact hstays fun _ hrow => hrow
  | store | commit => exact hstays fun _ hrow => List.mem_append_left _ hrow
  | @markRead id =>
    intro row hrow
    refine ⟨_, List.mem_map_of_mem hrow, ?_⟩
    split
    · exact ⟨rfl, rfl, rfl⟩
    · exact ⟨rfl, rfl, rfl⟩

structure FeedSound (s : FeedState) : Prop where
  numbered : Numbered s.base
  inOrder : ∀ stream ∈ s.streams, stream.follower.InOrder (·.id)
  stored : ∀ stream ∈ s.streams, ∀ row ∈ stream.follower.fetched, ∃ row' ∈ s.base.rows, row.Same row'

/-- What a step does to the streams that are there: nothing, one of them, or a new one. -/
inductive FeedStepped (timeoutS : Int) (values : Values V) (s : FeedState) :
    FeedAction V → FeedState → Prop
  | backend {a : NotificationAction V} {base : NotificationState}
      (step : Stepped timeoutS values s.base a base) :
    FeedStepped timeoutS values s (.backend a) { s with base := base }
  | accept : FeedStepped timeoutS values s .accept { s with
      streams := s.streams ++ [{ follower := { cursor := newestId s.base.rows } }] }
  | poll {j : Nat} {stream : NotificationStream} (found : s.streams[j]? = some stream)
      (passed : stream.follower.batch = []) :
    FeedStepped timeoutS values s (.poll j)
      (s.setStream j { stream with follower := stream.follower.fetch (·.id) s.base.rows })
  | send {j : Nat} {stream : NotificationStream} (found : s.streams[j]? = some stream) :
    FeedStepped timeoutS values s (.send j)
      (s.setStream j { stream with follower := stream.follower.send (·.id) })
  | leave {j : Nat} {stream : NotificationStream} (found : s.streams[j]? = some stream) :
    FeedStepped timeoutS values s (.leave j) (s.setStream j { stream with closed := true })

/-- A step on a stream finds that stream, with its guard met, and changes no other. -/
theorem onStream_eq_some {j : Nat} {guard : NotificationStream → Bool}
    {f : NotificationStream → NotificationStream} (h : s.onStream j guard f = some t) :
    ∃ stream, s.streams[j]? = some stream ∧ guard stream = true ∧
      t = s.setStream j (f stream) := by
  rw [FeedState.onStream] at h
  split at h
  · rename_i stream hfound
    obtain ⟨hguard, h⟩ := Option.ite_none_right_eq_some.mp h
    exact ⟨stream, hfound, hguard, (Option.some.inj h).symm⟩
  · cases h

/-- Every step of the feed is one of the cases listed above. -/
theorem feedStepped (h : feedStep timeoutS values s a = some t) :
    FeedStepped timeoutS values s a t := by
  cases a with
  | backend a =>
    obtain ⟨base, hbase, rfl⟩ := Option.map_eq_some_iff.mp h
    exact .backend (stepped hbase)
  | accept =>
    cases h
    exact .accept
  | poll j =>
    obtain ⟨stream, hfound, hguard, rfl⟩ := onStream_eq_some h
    simp only [Bool.and_eq_true, List.isEmpty_iff] at hguard
    exact .poll hfound hguard.2
  | send j =>
    obtain ⟨stream, hfound, _, rfl⟩ := onStream_eq_some h
    exact .send hfound
  | leave j =>
    obtain ⟨stream, hfound, _, rfl⟩ := onStream_eq_some h
    exact .leave hfound

/-- After a change of one stream, every stream is an old one or the changed one. -/
theorem mem_setStream {j : Nat} {stream stream' : NotificationStream}
    (h : stream' ∈ (s.setStream j stream).streams) : stream' ∈ s.streams ∨ stream' = stream :=
  List.mem_or_eq_of_mem_set h

/-- A stream may be changed to one that is in order and has fetched only what is stored. -/
theorem FeedSound.setStream (h : FeedSound s) {j : Nat} {stream : NotificationStream}
    (hinOrder : stream.follower.InOrder (·.id))
    (hstored : ∀ row ∈ stream.follower.fetched, ∃ row' ∈ s.base.rows, row.Same row') :
    FeedSound (s.setStream j stream) where
  numbered := h.numbered
  inOrder stream' hstream' := by
    rcases mem_setStream hstream' with hold | rfl
    · exact h.inOrder stream' hold
    · exact hinOrder
  stored stream' hstream' := by
    rcases mem_setStream hstream' with hold | rfl
    · exact h.stored stream' hold
    · exact hstored

/-- Rows that say the same as a third one say the same. -/
theorem NotificationRow.Same.trans {row row' row'' : NotificationRow} (h : row.Same row')
    (h' : row'.Same row'') : row.Same row'' :=
  ⟨h'.1.trans h.1, h'.2.1.trans h.2.1, h'.2.2.trans h.2.2⟩

/-- Every step keeps the feed in order, those of the writers and those of the streams. -/
theorem FeedSound.step (h : FeedSound s) (hstep : FeedStepped timeoutS values s a t) :
    FeedSound t := by
  cases hstep with
  | backend hbase =>
    refine ⟨h.numbered.step hbase, h.inOrder, fun stream hstream row hrow => ?_⟩
    obtain ⟨row', hrow', hsame⟩ := h.stored stream hstream row hrow
    obtain ⟨row'', hrow'', hsame'⟩ := rows_step hbase row' hrow'
    exact ⟨row'', hrow'', hsame.trans hsame'⟩
  | accept =>
    refine ⟨h.numbered, fun stream hstream => ?_, fun stream hstream row hrow => ?_⟩
    · rcases List.mem_append.mp hstream with hold | hnew
      · exact h.inOrder stream hold
      · rw [List.mem_singleton.mp hnew]
        exact Follower.inOrder_start _
    · rcases List.mem_append.mp hstream with hold | hnew
      · exact h.stored stream hold row hrow
      · rw [List.mem_singleton.mp hnew] at hrow
        cases hrow
  | @poll j stream hfound hpassed =>
    have hmem := List.mem_of_getElem? hfound
    have hkeys : (s.base.rows.map (·.id)).Nodup := by
      have hall := h.numbered.nodup
      rw [NotificationState.numbers, List.append_assoc, List.map_append] at hall
      exact hall.of_append_left
    refine h.setStream ((h.inOrder stream hmem).fetch hpassed hkeys) fun row hrow => ?_
    rcases List.mem_append.mp hrow with hsent | hnew
    · exact h.stored stream hmem row (List.mem_append_left _ hsent)
    · exact ⟨row, (Follower.mem_news.mp hnew).1, rfl, rfl, rfl⟩
  | @send j stream hfound =>
    have hmem := List.mem_of_getElem? hfound
    refine h.setStream (h.inOrder stream hmem).send fun row hrow => ?_
    rw [Follower.fetched_send] at hrow
    exact h.stored stream hmem row hrow
  | @leave j stream hfound =>
    have hmem := List.mem_of_getElem? hfound
    exact h.setStream (h.inOrder stream hmem) (h.stored stream hmem)

/-- Every stream is there, and has come further. -/
def Advanced (s t : FeedState) : Prop :=
  ∀ (j : Nat) (f : NotificationStream), s.streams[j]? = some f → ∃ g : NotificationStream,
    t.streams[j]? = some g ∧
      Follower.Advances (·.id) s.base.rows f.follower t.base.rows g.follower

/-- Where nothing has changed, every stream is as far as it was. -/
theorem Advanced.refl (s : FeedState) : Advanced s s := fun _ f hf => ⟨f, hf, .refl _ _⟩

/-- Streams that have come further twice have come further. -/
theorem Advanced.trans {u : FeedState} (h : Advanced s t) (h' : Advanced t u) : Advanced s u := by
  intro j f hf
  obtain ⟨g, hg, hadvances⟩ := h j f hf
  obtain ⟨e, he, hadvances'⟩ := h' j g hg
  exact ⟨e, he, hadvances.trans hadvances'⟩

/-- If one stream has come further and the others are as they were, all have. -/
theorem advanced_setStream {j : Nat} {f g : NotificationStream} (hfound : s.streams[j]? = some f)
    (h : Follower.Advances (·.id) s.base.rows f.follower s.base.rows g.follower) :
    Advanced s (s.setStream j g) := by
  intro j' f' hf'
  rcases eq_or_ne j j' with rfl | hne
  · obtain rfl := Option.some.inj (hfound.symm.trans hf')
    exact ⟨g, List.getElem?_set_self (List.getElem?_eq_some_iff.mp hfound).1, h⟩
  · exact ⟨f', by rw [FeedState.setStream, List.getElem?_set_ne hne, hf'], .refl _ _⟩

/-- Every step brings the streams further or leaves them where they are. -/
theorem advanced_step (h : FeedSound s) (hstep : FeedStepped timeoutS values s a t) :
    Advanced s t := by
  cases hstep with
  | backend hbase =>
    refine fun j f hf => ⟨f, hf, Follower.advances_store fun id hid => ?_⟩
    obtain ⟨row, hrow, rfl⟩ := List.mem_map.mp hid
    obtain ⟨row', hrow', hsame⟩ := rows_step hbase row hrow
    exact List.mem_map.mpr ⟨row', hrow', hsame.1⟩
  | accept =>
    refine fun j f hf => ⟨f, ?_, .refl _ _⟩
    rw [List.getElem?_append_left (List.getElem?_eq_some_iff.mp hf).1, hf]
  | poll hfound hpassed => exact advanced_setStream hfound (Follower.advances_fetch hpassed)
  | @send j stream hfound =>
    exact advanced_setStream hfound (h.inOrder stream (List.mem_of_getElem? hfound)).advances_send
  | leave hfound => exact advanced_setStream hfound (.refl _ _)

/-- Nobody is connected. -/
structure FeedState.Fresh (s : FeedState) : Prop where
  numbered : Numbered s.base
  streams : s.streams = []

/-- A feed that has no streams yet is in order. -/
theorem FeedState.Fresh.sound (h : s.Fresh) : FeedSound s := by
  refine ⟨h.numbered, fun stream hstream => ?_, fun stream hstream => ?_⟩
  · rw [h.streams] at hstream
    cases hstream
  · rw [h.streams] at hstream
    cases hstream

/-- Since its query a stream has seen all that was stored before. -/
theorem polled {actions : List (FeedAction V)} {j : Nat} {f g : NotificationStream} (hs : FeedSound s)
    (hrun : Run (feedStep timeoutS values) (fun _ _ => True) s actions t)
    (hopen : s.streams[j]? = some f) (hpoll : FeedAction.poll j ∈ actions)
    (hg : t.streams[j]? = some g) : ∀ row ∈ s.base.rows, row.id ≤ g.follower.horizon (·.id) := by
  refine fun row hrow => hrun.established (I := fun t => FeedSound t ∧ Advanced s t)
    (J := fun t => ∀ g, t.streams[j]? = some g → row.id ≤ g.follower.horizon (·.id))
    hpoll ⟨hs, .refl s⟩ (fun h _ hstep => ?_) (fun h _ hstep g hg => ?_)
    (fun h hseen _ hstep g hg => ?_) g hg
  · exact ⟨h.1.step (feedStepped hstep), h.2.trans (advanced_step h.1 (feedStepped hstep))⟩
  · obtain ⟨stream, hfound, hadvances⟩ := h.2 j f hopen
    cases feedStepped hstep with
    | @poll _ stream' hfound' hpassed =>
      obtain rfl := Option.some.inj (hfound.symm.trans hfound')
      rw [FeedState.setStream, List.getElem?_set_self (List.getElem?_eq_some_iff.mp hfound).1] at hg
      obtain ⟨row', hrow', hid⟩ := List.mem_map.mp (hadvances.keys row.id (List.mem_map_of_mem hrow))
      rw [← Option.some.inj hg, ← hid]
      exact Follower.le_horizon_fetch hrow'
  · obtain ⟨stream, hfound, _⟩ := h.2 j f hopen
    obtain ⟨stream', hfound', hadvances⟩ := advanced_step h.1 (feedStepped hstep) j stream hfound
    obtain rfl := Option.some.inj (hfound'.symm.trans hg)
    exact (hseen stream hfound).trans hadvances.horizon

/-- **Delivery.**  What a stream has fetched goes up by number and is what is stored; and of the rows
    stored at some moment, a stream that has asked since has fetched those it had by then, and those
    above all of them. -/
theorem stream_delivers (timeoutS : Int) (values : Values V) (start s t : FeedState)
    (before actions : List (FeedAction V)) (hstart : start.Fresh)
    (hbefore : Run (feedStep timeoutS values) (fun _ _ => True) start before s)
    (hrun : Run (feedStep timeoutS values) (fun _ _ => True) s actions t) (j : Nat)
    (f : NotificationStream) (hopen : s.streams[j]? = some f) (hpoll : FeedAction.poll j ∈ actions) :
    ∃ g, t.streams[j]? = some g ∧ (g.follower.fetched.map (·.id)).Pairwise (· < ·) ∧
      (∀ row ∈ g.follower.fetched, ∃ row' ∈ t.base.rows, row.Same row') ∧
      ∀ row ∈ s.base.rows, row.id ∈ g.follower.fetched.map (·.id) ↔
        row.id ∈ f.follower.fetched.map (·.id) ∨ f.follower.horizon (·.id) < row.id := by
  have hkeep : ∀ {s a t}, FeedSound s → True → feedStep timeoutS values s a = some t → FeedSound t :=
    fun h _ hstep => h.step (feedStepped hstep)
  have hs : FeedSound s := hbefore.invariant hstart.sound hkeep
  have hsound : FeedSound t := hrun.invariant hs hkeep
  have hadvanced : Advanced s t := hrun.related Advanced.refl Advanced.trans hs hkeep
    fun h _ hstep => advanced_step h (feedStepped hstep)
  obtain ⟨g, hg, hadvances⟩ := hadvanced j f hopen
  have hmem := List.mem_of_getElem? hg
  refine ⟨g, hg, (hsound.inOrder g hmem).increasing, hsound.stored g hmem, fun row hrow => ?_⟩
  have hseen := polled hs hrun hopen hpoll hg row hrow
  rw [hadvances.between row.id (List.mem_map_of_mem hrow)]
  exact or_congr_right ⟨fun h => h.1, fun h => ⟨h, hseen⟩⟩

def failedRow (id : Int) : NotificationRow where
  id := id
  subject := .scheduledJobFailed ⟨"Расписание «Smoke test»: 1 из 1 задач завершились с ошибкой", 5, 9, 0, 1⟩
  createdAt := 0

def nobody : FeedState where
  base := { clock := 0, meters := .empty }

/-- The row with the smaller number was stored last. -/
def storedLate : FeedState where
  base := { clock := 0, meters := .empty, rows := [failedRow 2, failedRow 1], nextId := 3 }
  streams := [{ follower := { cursor := 2, sent := [failedRow 2] } }]

/-- Two workers flush, the second one commits first, and the stream asks in between. -/
def overtaken : List (FeedAction Unit) :=
  [.accept, .backend (.flush ⟨"Расписание «Smoke test»: 1 из 1 задач завершились с ошибкой", 5, 9, 0, 1⟩ 0),
    .backend (.flush ⟨"Расписание «Smoke test»: 1 из 1 задач завершились с ошибкой", 5, 9, 0, 1⟩ 0),
    .backend (.store 2), .poll 0, .send 0, .backend (.store 1)]

/-- A row that is stored after the stream has gone past its number is never sent. -/
theorem stream_delivers_overtaken :
    Run (feedStep 10 noTexts) (fun _ _ => True) nobody overtaken storedLate ∧
    Run (feedStep 10 noTexts) (fun _ _ => True) storedLate [.poll 0] storedLate ∧
    failedRow 1 ∈ storedLate.base.rows ∧ ∃ g, storedLate.streams[0]? = some g ∧
      (failedRow 1).id ∉ g.follower.fetched.map (·.id) := by
  have hbefore : Run (feedStep 10 noTexts) (fun _ _ => True) nobody overtaken storedLate :=
    .of_guarded rfl
  have hrun : Run (feedStep 10 noTexts) (fun _ _ => True) storedLate [.poll 0] storedLate :=
    .of_guarded rfl
  have hlate : failedRow 1 ∈ storedLate.base.rows := by decide
  refine ⟨hbefore, hrun, hlate, ?_⟩
  obtain ⟨g, hg, _, _, hdelivers⟩ := stream_delivers 10 noTexts nobody storedLate storedLate overtaken
    [.poll 0] ⟨⟨.nil, fun id hid => (by cases hid)⟩, rfl⟩ hbefore hrun 0 _ rfl List.mem_cons_self
  refine ⟨g, hg, fun hmem => ?_⟩
  have hno : ¬((failedRow 1).id ∈ [(failedRow 2).id] ∨ (2 : Int) < (failedRow 1).id) := by decide
  exact hno ((hdelivers _ hlate).mp hmem)

end Delivery

end RiseSun.Backend
