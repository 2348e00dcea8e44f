/-
  The discovery of meters, tick after tick (`services/meter_discovery.py`).

  1. **Sessions** — a session is all or nothing (`commitsLast_discover`), so what it leaves is what there
     was or what it leaves by itself (`discoveredIn`).

  2. **Ticks** — a tick visits the approved Gateways one after the other.  One that cannot be reached is
     passed over; a session that is refused ends the tick.

  3. **The catch-all schedules** — the schedule with the most meters is looked for anew for every meter.
     One that has grown has more meters than any other of its type, so it is the one that grows
     (`Extends.add`).

  4. **`discovery_extends`** — whatever is refused, the directory only grows: by meters an approved
     Gateway has seen, with serial numbers of digits that were not there, each of them in a schedule of
     either type; and of each type one schedule grows, the same one throughout.
-/
import RiseSun.Backend.MeterDirectory

namespace RiseSun.Backend

/-! ## Sessions -/

/-- The schedules behind one round of `_add_to_catchall_schedules`. -/
def addedToBiggest (order : List (Int × Schedule) → List (Int × Schedule)) (jobType : JobType)
    (meterId : Int) (schedules : Table Int Schedule) : Table Int Schedule :=
  match biggestSchedule order jobType schedules with
  | none => schedules
  | some (scheduleId, biggest) =>
    if meterId ∈ biggest.meterIds then schedules
    else schedules.update scheduleId fun schedule =>
      { schedule with meterIds := biggest.meterIds ++ [meterId] }

def addedToCatchalls (given : Given) (k : Nat) : List String → Table Int Schedule → Table Int Schedule
  | [], schedules => schedules
  | _ :: rest, schedules => addedToCatchalls given (k + 1) rest
      (addedToBiggest (given.order (2 * k + 1)) .readRatedCurrent (given.id k)
        (addedToBiggest (given.order (2 * k)) .readCurrent (given.id k) schedules))

def withDiscovered (fernet : Fernet) (gatewayId : Int) (given : Given) (k : Nat) :
    List String → DirectoryDb → DirectoryDb
  | [], db => db
  | serial :: rest, db => withDiscovered fernet gatewayId given (k + 1) rest
      (db.addMeter (given.id k) (discoveredRow fernet gatewayId (given.nonce k) serial))

/-- The directory behind a session that is not refused. -/
def discoveredIn (fernet : Fernet) (gatewayId : Int) (seen : List String) (given : Given)
    (db : DirectoryDb) : DirectoryDb :=
  let serials := newSerials db seen
  let db' := withDiscovered fernet gatewayId given 0 serials db
  { db' with schedules := addedToCatchalls given 0 serials db'.schedules }

section Sessions

variable {fernet : Fernet} {gatewayId : Int} {given : Given}

/-- By itself, one round of the loop leaves the schedules that `addedToBiggest` computes. -/
theorem alone_addToBiggest (order : List (Int × Schedule) → List (Int × Schedule)) (jobType : JobType)
    (meterId : Int) (db : DirectoryDb) : (addToBiggest order jobType meterId).alone db =
      (.ok (), { db with schedules := addedToBiggest order jobType meterId db.schedules }) := by
  show Program.alone (match biggestSchedule order jobType db.schedules with
    | none => _ | some (scheduleId, biggest) => _) db = _
  rw [addedToBiggest]
  split
  · rfl
  · split
    · rfl
    · rfl

/-- And the loop over the new meters leaves what is computed meter by meter. -/
theorem alone_addToCatchallSchedules (serials : List String) : ∀ (k : Nat) (db : DirectoryDb),
    (addToCatchallSchedules given k serials).alone db =
      (.ok (), { db with schedules := addedToCatchalls given k serials db.schedules }) := by
  induction serials with
  | nil => exact fun _ _ => rfl
  | cons serial rest ih =>
    intro k db
    rw [addToCatchallSchedules, Program.alone_bind, alone_addToBiggest]
    dsimp only
    rw [Program.alone_bind, alone_addToBiggest]
    dsimp only
    rw [ih]
    rfl

/-- The new meters are added one after the other, under the keys they are given. -/
theorem alone_addDiscovered (serials : List String) : ∀ (k : Nat) (db : DirectoryDb),
    (addDiscovered fernet gatewayId given k serials).alone db =
      (.ok (), withDiscovered fernet gatewayId given k serials db) := by
  induction serials with
  | nil => exact fun _ _ => rfl
  | cons serial rest ih =>
    intro k db
    exact ih (k + 1) _

/-- By itself, the session for a report always comes to its end: nothing in it raises. -/
theorem alone_discover (seen : List String) (db : DirectoryDb) :
    (discover fernet gatewayId seen given).alone db =
      (.ok (), discoveredIn fernet gatewayId seen given db) := by
  rw [discover, Program.alone_bind, Program.query, discoveredIn]
  dsimp only [Program.alone, Program.ofExcept]
  rcases newSerials db seen with _ | ⟨serial, rest⟩
  · rfl
  · dsimp only
    rw [Program.alone_bind, alone_addDiscovered]
    dsimp only
    rw [Program.alone_bind]
    show Program.alone (addToCatchallSchedules given 0 _ >>= fun _ => Program.commit) _ = _
    rw [Program.alone_bind, alone_addToCatchallSchedules]
    rfl

/-- A round of the loop over the schedules commits nothing. -/
theorem uncommitted_addToBiggest (order : List (Int × Schedule) → List (Int × Schedule))
    (jobType : JobType) (meterId : Int) : (addToBiggest order jobType meterId).Uncommitted := by
  refine ⟨rfl, fun _ => rfl, fun db => ?_⟩
  show Program.Uncommitted (match biggestSchedule order jobType db.schedules with
    | none => _ | some (scheduleId, biggest) => _)
  split
  · trivial
  · split
    · trivial
    · trivial

/-- The loop over the new meters commits nothing, so none of its changes is seen by itself. -/
theorem uncommitted_addToCatchallSchedules (serials : List String) : ∀ k,
    (addToCatchallSchedules given k serials).Uncommitted := by
  induction serials with
  | nil => exact fun _ => trivial
  | cons serial rest ih =>
    exact fun k => .bind (uncommitted_addToBiggest _ _ _) fun _ =>
      .bind (uncommitted_addToBiggest _ _ _) fun _ => ih (k + 1)

/-- Adding the new meters to the session commits nothing yet. -/
theorem uncommitted_addDiscovered (serials : List String) : ∀ k,
    (addDiscovered fernet gatewayId given k serials).Uncommitted := by
  induction serials with
  | nil => exact fun _ => trivial
  | cons serial rest ih => exact fun k => ih (k + 1)

/-- The one commit of the session is its last statement, and a session without new meters has none:
    it is all or nothing. -/
theorem commitsLast_discover (seen : List String) :
    (discover fernet gatewayId seen given).CommitsLast false := by
  refine ⟨fun _ => rfl, fun db => ?_⟩
  dsimp only [Program.bind, Program.ofExcept, Bool.false_eq_true, if_false]
  rcases newSerials db seen with _ | ⟨serial, rest⟩
  · rfl
  · refine .bind (uncommitted_addDiscovered _ 0) (fun dirty _ => ?_) false
    refine .bind Program.uncommitted_flush (fun dirty _ => ?_) dirty
    refine .bind (uncommitted_addToCatchallSchedules _ 0) (fun dirty _ => ?_) dirty
    exact ⟨fun _ => rfl, fun _ => ⟨(), rfl⟩⟩

/-- A session that fails, wherever it does, leaves the directory as it was. -/
theorem discover_stored (seen : List String) (given : Given)
    (D : Database DirectoryError DirectoryDb) (db : DirectoryDb) :
    (∃ e, ((discover fernet gatewayId seen given).run D { stored := db }).1 = .error e ∧
      ((discover fernet gatewayId seen given).run D { stored := db }).2.stored = db) ∨
    ((discover fernet gatewayId seen given).run D { stored := db }).1 = .ok () ∧
      ((discover fernet gatewayId seen given).run D { stored := db }).2.stored =
        discoveredIn fernet gatewayId seen given db := by
  have hlast : (discover fernet gatewayId seen given).CommitsLast false := commitsLast_discover seen
  rcases hlast.run_cases (D := D) (u := { stored := db }) rfl fun _ => rfl with
    hfailed | ⟨⟨⟩, hdone, halone⟩
  · exact .inl hfailed
  · rw [alone_discover] at halone
    exact .inr ⟨hdone, (Prod.mk.inj halone).2.symm⟩

end Sessions

/-! ## Ticks -/

/-- What a tick meets at a Gateway: what has called home there, if it answers, and the session. -/
structure GatewayVisit where
  seen : Option (List String)
  given : Given
  database : Database DirectoryError DirectoryDb

structure DiscoveryTick where
  /-- The order in which the query returns the Gateways; it may fail. -/
  order : Option (List (Int × GatewayRow) → List (Int × GatewayRow))
  perm : ∀ f ∈ order, ∀ rows, (f rows).Perm rows
  visits : Int → GatewayVisit

/-- The loop of `_run_once` over the Gateways. -/
def visitGateways (fernet : Fernet) (visits : Int → GatewayVisit) :
    List (Int × GatewayRow) → DirectoryDb → DirectoryDb
  | [], db => db
  | (gatewayId, _) :: rest, db =>
    match (visits gatewayId).seen with
    | none | some [] => visitGateways fernet visits rest db
    | some seen =>
      match (discover fernet gatewayId seen (visits gatewayId).given).run (visits gatewayId).database
        { stored := db } with
      | (.ok _, session) => visitGateways fernet visits rest session.stored
      | (.error _, session) => session.stored

/-- `_run_once`. -/
def runDiscoveryOnce (fernet : Fernet) (tick : DiscoveryTick) (db : DirectoryDb) : DirectoryDb :=
  match tick.order with
  | none => db
  | some order =>
    visitGateways fernet tick.visits (order (db.gateways.rows.filter (·.2.status = .approved))) db

def meterDiscoveryLoop (fernet : Fernet) (ticks : List DiscoveryTick) (db : DirectoryDb) :
    DirectoryDb :=
  ticks.foldl (fun db tick => runDiscoveryOnce fernet tick db) db

/-! ## The catch-all schedules -/

/-- A schedule behind the ticks: the one `chosen` for its type has the `ids` behind its own. -/
def extended (chosen : JobType → Int) (ids : JobType → List Int) (id : Int) (schedule : Schedule) :
    Schedule :=
  if id = chosen schedule.jobType then
    { schedule with meterIds := schedule.meterIds ++ ids schedule.jobType }
  else schedule

/-- Of each type one schedule has grown, if any: one that had the most meters, by others than it had. -/
structure Extends (s t : Table Int Schedule) (chosen : JobType → Int) (ids : JobType → List Int) :
    Prop where
  rows : t = s.modify (extended chosen ids)
  biggest : ∀ j, ids j ≠ [] → ∃ schedule, (chosen j, schedule) ∈ s.rows ∧ schedule.jobType = j ∧
    ∀ r ∈ s.rows, r.2.jobType = j → r.2.meterIds.length ≤ schedule.meterIds.length
  others : ∀ j, (ids j).Nodup ∧ ∀ schedule, (chosen j, schedule) ∈ s.rows → schedule.jobType = j →
    ∀ id ∈ ids j, id ∉ schedule.meterIds

section Schedules

variable {s t : Table Int Schedule} {chosen : JobType → Int} {ids : JobType → List Int}
  {order : List (Int × Schedule) → List (Int × Schedule)} {j : JobType} {meterId : Int}

/-- A schedule that grows by a meter keeps its type. -/
@[simp] theorem extended_jobType (id : Int) (schedule : Schedule) :
    (extended chosen ids id schedule).jobType = schedule.jobType := by
  rw [extended]
  split <;> rfl

/-- The list of a schedule behind the ticks: its own, and the new ids if it is the one chosen. -/
theorem extended_meterIds (id : Int) (schedule : Schedule) :
    (extended chosen ids id schedule).meterIds = schedule.meterIds ++
      if id = chosen schedule.jobType then ids schedule.jobType else [] := by
  rw [extended]
  split
  · rfl
  · exact (List.append_nil _).symm

/-- Where the list is overwritten it does not matter whether the schedule had grown. -/
theorem extended_setMeterIds (id : Int) (schedule : Schedule) (meterIds : List Int) :
    { extended chosen ids id schedule with meterIds := meterIds } =
      { schedule with meterIds := meterIds } := by
  rw [extended]
  split <;> rfl

/-- A schedule that a meter is added to has grown by that meter at the end of its list. -/
theorem extended_grown (id : Int) (schedule : Schedule) (meterId : Int) :
    extended (Function.update chosen schedule.jobType id)
        (Function.update ids schedule.jobType (ids schedule.jobType ++ [meterId])) id schedule =
      { schedule with meterIds := schedule.meterIds ++ ids schedule.jobType ++ [meterId] } := by
  rw [extended, Function.update_self, Function.update_self, if_pos rfl, List.append_assoc]

/-- The others, if no other of its type has grown. -/
theorem extended_others {id k : Int} (hchosen : ids j = [] ∨ id = chosen j) (hk : k ≠ id)
    (schedule : Schedule) (meterId : Int) :
    extended (Function.update chosen j id) (Function.update ids j (ids j ++ [meterId])) k schedule =
      extended chosen ids k schedule := by
  rcases Classical.em (schedule.jobType = j) with rfl | hj
  · rw [extended, extended, Function.update_self, if_neg hk]
    split
    · rename_i hold
      rw [hchosen.resolve_right fun hid => hk (hold.trans hid.symm), List.append_nil]
    · rfl
  · rw [extended, extended, Function.update_of_ne hj, Function.update_of_ne hj]

/-- The biggest schedule is one of its type, and none of its type has more meters. -/
theorem biggestSchedule_spec (hperm : ∀ rows, (order rows).Perm rows) {id : Int} {biggest : Schedule}
    (h : biggestSchedule order j t = some (id, biggest)) : (id, biggest) ∈ t.rows ∧
      biggest.jobType = j ∧
      ∀ r ∈ t.rows, r.2.jobType = j → r.2.meterIds.length ≤ biggest.meterIds.length := by
  have hmem := List.mem_filter.mp ((hperm _).mem_iff.mp (List.argmax_mem h))
  refine ⟨hmem.1, of_decide_eq_true hmem.2, fun r hr hj => ?_⟩
  exact List.le_of_mem_argmax (f := fun q : Int × Schedule => q.2.meterIds.length)
    ((hperm _).mem_iff.mpr (List.mem_filter.mpr ⟨hr, decide_eq_true hj⟩)) h

/-- There is a biggest schedule as soon as there is one of the type. -/
theorem biggestSchedule_isSome (hperm : ∀ rows, (order rows).Perm rows) {r : Int × Schedule}
    (hr : r ∈ t.rows) (hj : r.2.jobType = j) : biggestSchedule order j t ≠ none := by
  intro hnone
  rw [biggestSchedule, List.argmax_eq_none] at hnone
  have hmem : r ∈ t.rows.filter fun q => q.2.jobType = j :=
    List.mem_filter.mpr ⟨hr, decide_eq_true hj⟩
  rw [← (hperm _).mem_iff, hnone] at hmem
  cases hmem

/-- Before any tick no schedule has grown. -/
theorem Extends.refl (s : Table Int Schedule) : Extends s s (fun _ => 0) fun _ => [] where
  rows := by
    refine (Table.modify_eq_self fun r _ => ?_).symm
    rw [extended]
    split
    · rw [List.append_nil]
    · rfl
  biggest _ h := absurd rfl h
  others _ := ⟨List.nodup_nil, fun _ _ _ _ h => absurd h List.not_mem_nil⟩

/-- A schedule that has grown is the biggest of its type by itself. -/
theorem Extends.biggest_chosen (h : Extends s t chosen ids) {id : Int} {schedule : Schedule}
    (hschedule : (id, schedule) ∈ s.rows)
    (hmax : ∀ r ∈ t.rows, r.2.jobType = schedule.jobType →
      r.2.meterIds.length ≤ (extended chosen ids id schedule).meterIds.length) :
    ids schedule.jobType = [] ∨ id = chosen schedule.jobType := by
  refine Classical.byContradiction fun hne => ?_
  obtain ⟨hgrown, hother⟩ := not_or.mp hne
  obtain ⟨old, hold, hj, hold_max⟩ := h.biggest _ hgrown
  have hle := hmax (_, extended chosen ids _ old) (h.rows ▸ Table.mem_modify.mpr ⟨old, hold, rfl⟩)
    ((extended_jobType _ _).trans hj)
  rw [extended_meterIds, extended_meterIds, hj, if_pos rfl, if_neg hother, List.append_nil,
    List.length_append] at hle
  have hsmall : schedule.meterIds.length ≤ old.meterIds.length := hold_max _ hschedule rfl
  have hpos := List.length_pos_iff.mpr hgrown
  omega

/-- **The step.**  The schedule that grows is the one that has grown. -/
theorem Extends.add (h : Extends s t chosen ids) (hperm : ∀ rows, (order rows).Perm rows)
    (j : JobType) (meterId : Int) : ∃ chosen' ids',
      Extends s (addedToBiggest order j meterId t) chosen' ids' ∧
      ∀ i, ∀ id ∈ ids' i, id ∈ ids i ∨ i = j ∧ id = meterId := by
  rw [addedToBiggest]
  rcases hbiggest : biggestSchedule order j t with _ | ⟨id, biggest⟩
  · exact ⟨chosen, ids, h, fun i id hid => .inl hid⟩
  dsimp only
  split
  · exact ⟨chosen, ids, h, fun i id hid => .inl hid⟩
  rename_i hnew
  obtain ⟨hmem, rfl, hmax⟩ := biggestSchedule_spec hperm hbiggest
  obtain ⟨schedule, hschedule, rfl⟩ := Table.mem_modify.mp (h.rows ▸ hmem)
  rw [extended_jobType] at hmax ⊢
  have hchosen := h.biggest_chosen hschedule hmax
  have hids : (extended chosen ids id schedule).meterIds =
      schedule.meterIds ++ ids schedule.jobType := by
    rw [extended_meterIds]
    rcases hchosen with hnil | hid
    · rw [hnil, ite_self]
    · rw [if_pos hid]
  rw [hids] at hmax hnew ⊢
  refine ⟨Function.update chosen schedule.jobType id,
    Function.update ids schedule.jobType (ids schedule.jobType ++ [meterId]), ⟨?_, ?_, ?_⟩, ?_⟩
  · rw [h.rows, Table.update, Table.modify_modify]
    refine Table.modify_congr fun r hr => ?_
    obtain ⟨k, row⟩ := r
    dsimp only
    rcases Classical.em (k = id) with rfl | hk
    · obtain rfl := s.eq_of_mem hr hschedule
      rw [if_pos rfl, extended_setMeterIds, extended_grown]
    · rw [if_neg hk, extended_others hchosen hk]
  · intro i hi
    rcases Classical.em (i = schedule.jobType) with rfl | hne
    · refine ⟨schedule, by rwa [Function.update_self], rfl, fun r hr hj => ?_⟩
      rcases Classical.em (ids schedule.jobType = []) with hnil | hgrown
      · have hle := hmax (r.1, extended chosen ids r.1 r.2)
          (h.rows ▸ Table.mem_modify.mpr ⟨r.2, hr, rfl⟩) ((extended_jobType _ _).trans hj)
        rw [hnil, List.append_nil, extended_meterIds, List.length_append] at hle
        omega
      · obtain ⟨old, hold, -, hold_max⟩ := h.biggest _ hgrown
        rw [← hchosen.resolve_left hgrown] at hold
        obtain rfl := s.eq_of_mem hold hschedule
        exact hold_max r hr hj
    · rw [Function.update_of_ne hne] at hi ⊢
      exact h.biggest i hi
  · intro i
    rcases Classical.em (i = schedule.jobType) with rfl | hne
    · rw [Function.update_self, Function.update_self]
      obtain ⟨hnodup, hothers⟩ := h.others schedule.jobType
      refine ⟨List.Nodup.append hnodup (List.nodup_singleton _) fun id' hold hid' => ?_,
        fun row hrow _ id' hid' => ?_⟩
      · rw [List.mem_singleton.mp hid'] at hold
        exact hnew (List.mem_append_right _ hold)
      · obtain rfl := s.eq_of_mem hrow hschedule
        rcases List.mem_append.mp hid' with hold | hid'
        · have hid := hchosen.resolve_left (List.ne_nil_of_mem hold)
          exact hothers row (hid ▸ hrow) rfl id' hold
        · rw [List.mem_singleton.mp hid']
          exact fun hmem => hnew (List.mem_append_left _ hmem)
    · rw [Function.update_of_ne hne, Function.update_of_ne hne]
      exact h.others i
  · intro i id' hid'
    rcases Classical.em (i = schedule.jobType) with rfl | hne
    · rw [Function.update_self] at hid'
      exact (List.mem_append.mp hid').imp_right fun hid' => ⟨rfl, List.mem_singleton.mp hid'⟩
    · rw [Function.update_of_ne hne] at hid'
      exact .inl hid'

/-- A schedule of the type has the meter. -/
def Lists (t : Table Int Schedule) (j : JobType) (meterId : Int) : Prop :=
  ∃ r ∈ t.rows, r.2.jobType = j ∧ meterId ∈ r.2.meterIds

/-- Behind a round a schedule of the type lists the meter: it had it, or gets it. -/
theorem lists_addedToBiggest (hperm : ∀ rows, (order rows).Perm rows) (j : JobType) (meterId : Int)
    {r : Int × Schedule} (hr : r ∈ t.rows) (hj : r.2.jobType = j) :
    Lists (addedToBiggest order j meterId t) j meterId := by
  rw [addedToBiggest]
  rcases hbiggest : biggestSchedule order j t with _ | ⟨id, biggest⟩
  · exact absurd hbiggest (biggestSchedule_isSome hperm hr hj)
  obtain ⟨hmem, htype, -⟩ := biggestSchedule_spec hperm hbiggest
  dsimp only
  split
  · rename_i hlisted
    exact ⟨_, hmem, htype, hlisted⟩
  · refine ⟨_, Table.mem_modify.mpr ⟨biggest, hmem, if_pos rfl⟩, htype, ?_⟩
    exact List.mem_append_right _ (List.mem_singleton.mpr rfl)

/-- No schedule loses a meter, or becomes one of another type. -/
theorem addedToBiggest_keeps (hperm : ∀ rows, (order rows).Perm rows) (j : JobType) (meterId : Int)
    {id : Int} {schedule : Schedule} (h : (id, schedule) ∈ t.rows) :
    ∃ schedule', (id, schedule') ∈ (addedToBiggest order j meterId t).rows ∧
      schedule'.jobType = schedule.jobType ∧ schedule.meterIds ⊆ schedule'.meterIds := by
  rw [addedToBiggest]
  rcases hbiggest : biggestSchedule order j t with _ | ⟨k, biggest⟩
  · exact ⟨schedule, h, rfl, fun _ hid => hid⟩
  dsimp only
  split
  · exact ⟨schedule, h, rfl, fun _ hid => hid⟩
  refine ⟨_, Table.mem_modify.mpr ⟨schedule, h, rfl⟩, ?_⟩
  split
  · rename_i hid
    obtain rfl := t.eq_of_mem (hid ▸ h) (biggestSchedule_spec hperm hbiggest).1
    exact ⟨rfl, List.subset_append_left _ _⟩
  · exact ⟨rfl, fun _ hid => hid⟩

end Schedules

section CatchAll

variable {fernet : Fernet} {gatewayId : Int} {given : Given}

/-- The types of `_add_to_catchall_schedules`. -/
def catchallTypes : List JobType := [.readCurrent, .readRatedCurrent]

/-- The keys of the new meters from the `k`-th on. -/
def givenKeys (given : Given) (k : Nat) : List String → List Int
  | [] => []
  | _ :: rest => given.id k :: givenKeys given (k + 1) rest

/-- The loop takes no meter from any schedule. -/
theorem addedToCatchalls_keeps (serials : List String) : ∀ (k : Nat) (t : Table Int Schedule)
    {id : Int} {schedule : Schedule}, (id, schedule) ∈ t.rows →
    ∃ schedule', (id, schedule') ∈ (addedToCatchalls given k serials t).rows ∧
      schedule'.jobType = schedule.jobType ∧ schedule.meterIds ⊆ schedule'.meterIds := by
  induction serials with
  | nil => exact fun _ _ _ schedule h => ⟨schedule, h, rfl, fun _ hid => hid⟩
  | cons serial rest ih =>
    intro k t id schedule h
    obtain ⟨_, h₁, htype₁, hids₁⟩ :=
      addedToBiggest_keeps (given.perm (2 * k)) .readCurrent (given.id k) h
    obtain ⟨_, h₂, htype₂, hids₂⟩ :=
      addedToBiggest_keeps (given.perm (2 * k + 1)) .readRatedCurrent (given.id k) h₁
    obtain ⟨schedule', h₃, htype₃, hids₃⟩ := ih (k + 1) _ h₂
    exact ⟨schedule', h₃, htype₃.trans (htype₂.trans htype₁),
      fun _ hid => hids₃ (hids₂ (hids₁ hid))⟩

/-- So a meter that is listed stays listed. -/
theorem Lists.addedToCatchalls {t : Table Int Schedule} {j : JobType} {meterId : Int}
    (h : Lists t j meterId) (k : Nat) (serials : List String) :
    Lists (addedToCatchalls given k serials t) j meterId := by
  obtain ⟨⟨id, schedule⟩, hmem, hj, hlisted⟩ := h
  obtain ⟨schedule', hmem', hj', hids⟩ := addedToCatchalls_keeps serials k t hmem
  exact ⟨_, hmem', hj'.trans hj, hids hlisted⟩

/-- Behind the loop every new meter is in a schedule of either type, if there is one of the type at
    all. -/
theorem lists_addedToCatchalls {j : JobType} (hj : j ∈ catchallTypes) (serials : List String) :
    ∀ (k : Nat) (t : Table Int Schedule), (∃ r ∈ t.rows, r.2.jobType = j) →
      ∀ meterId ∈ givenKeys given k serials,
        Lists (addedToCatchalls given k serials t) j meterId := by
  induction serials with
  | nil => exact fun _ _ _ _ h => absurd h List.not_mem_nil
  | cons serial rest ih =>
    rintro k t ⟨⟨id, schedule⟩, hr, hschedule⟩ meterId hmeterId
    obtain ⟨s₁, h₁, htype₁, -⟩ :=
      addedToBiggest_keeps (given.perm (2 * k)) .readCurrent (given.id k) hr
    obtain ⟨s₂, h₂, htype₂, -⟩ :=
      addedToBiggest_keeps (given.perm (2 * k + 1)) .readRatedCurrent (given.id k) h₁
    rcases List.mem_cons.mp hmeterId with rfl | hlater
    · refine Lists.addedToCatchalls ?_ (k + 1) rest
      rcases List.mem_cons.mp hj with rfl | hj
      · obtain ⟨⟨id', q⟩, hq, hjq, hlisted⟩ :=
          lists_addedToBiggest (given.perm (2 * k)) .readCurrent (given.id k) hr hschedule
        obtain ⟨q', hq', hjq', hids⟩ :=
          addedToBiggest_keeps (given.perm (2 * k + 1)) .readRatedCurrent (given.id k) hq
        exact ⟨_, hq', hjq'.trans hjq, hids hlisted⟩
      · obtain rfl := List.mem_singleton.mp hj
        exact lists_addedToBiggest (given.perm _) _ _ h₁ (htype₁.trans hschedule)
    · exact ih (k + 1) _ ⟨_, h₂, htype₂.trans (htype₁.trans hschedule)⟩ meterId hlater

/-- The round over all the new meters lets schedules grow by these meters only. -/
theorem Extends.addAll {s : Table Int Schedule} (given : Given) (serials : List String) : ∀ (k : Nat)
    {t : Table Int Schedule} {chosen : JobType → Int} {ids : JobType → List Int},
    Extends s t chosen ids → ∃ chosen' ids',
      Extends s (addedToCatchalls given k serials t) chosen' ids' ∧
      ∀ i, ∀ id ∈ ids' i, id ∈ ids i ∨ i ∈ catchallTypes ∧ id ∈ givenKeys given k serials := by
  induction serials with
  | nil => exact fun _ _ chosen ids h => ⟨chosen, ids, h, fun _ _ hid => .inl hid⟩
  | cons serial rest ih =>
    intro k t chosen ids h
    obtain ⟨chosen₁, ids₁, h₁, hids₁⟩ := h.add (given.perm (2 * k)) .readCurrent (given.id k)
    obtain ⟨chosen₂, ids₂, h₂, hids₂⟩ :=
      h₁.add (given.perm (2 * k + 1)) .readRatedCurrent (given.id k)
    obtain ⟨chosen', ids', h₃, hids₃⟩ := ih (k + 1) h₂
    refine ⟨chosen', ids', h₃, fun i id hid => ?_⟩
    rcases hids₃ i id hid with hid | ⟨hi, hid⟩
    · rcases hids₂ i id hid with hid | ⟨rfl, rfl⟩
      · rcases hids₁ i id hid with hid | ⟨rfl, rfl⟩
        · exact .inl hid
        · exact .inr ⟨by simp [catchallTypes], List.mem_cons_self⟩
      · exact .inr ⟨by simp [catchallTypes], List.mem_cons_self⟩
    · exact .inr ⟨hi, List.mem_cons_of_mem _ hid⟩

/-! ## The directory -/

/-- Adding a meter appends its row, unless the key is taken. -/
theorem DirectoryDb.addMeter_rows (id : Int) (row : DirectoryRow) (db : DirectoryDb) :
    ∃ added, (db.addMeter id row).meters.rows = db.meters.rows ++ added ∧
      (∀ r ∈ added, r = (id, row)) ∧ id ∈ (db.addMeter id row).meters.rows.map Prod.fst := by
  rw [addMeter]
  split
  · exact ⟨[(id, row)], rfl, fun r hr => List.mem_singleton.mp hr,
      List.mem_map.mpr ⟨(id, row), List.mem_append_right _ (List.mem_singleton.mpr rfl), rfl⟩⟩
  · rename_i htaken
    exact ⟨[], (List.append_nil _).symm, fun _ h => absurd h List.not_mem_nil,
      Classical.byContradiction fun hfree => htaken (Table.get_eq_none.mpr hfree)⟩

/-- Adding a meter touches no other table than that of the meters. -/
theorem DirectoryDb.addMeter_rest (id : Int) (row : DirectoryRow) (db : DirectoryDb) :
    (db.addMeter id row).gateways = db.gateways ∧ (db.addMeter id row).schedules = db.schedules ∧
      (db.addMeter id row).auditLog = db.auditLog := by
  rw [addMeter]
  split
  · exact ⟨rfl, rfl, rfl⟩
  · exact ⟨rfl, rfl, rfl⟩

/-- The loop over new serial numbers appends a row for each, auto-activated, under the keys it is
    given. -/
theorem withDiscovered_rows (fernet : Fernet) (gatewayId : Int) (given : Given)
    (serials : List String) : ∀ (k : Nat) (db : DirectoryDb),
    ∃ added, (withDiscovered fernet gatewayId given k serials db).meters.rows =
        db.meters.rows ++ added ∧
      (∀ r ∈ added, r.1 ∈ givenKeys given k serials ∧
        ∃ serial ∈ serials, ∃ nonce, r.2 = discoveredRow fernet gatewayId nonce serial) ∧
      ∀ id ∈ givenKeys given k serials,
        id ∈ (withDiscovered fernet gatewayId given k serials db).meters.rows.map Prod.fst := by
  induction serials with
  | nil =>
    exact fun _ db => ⟨[], (List.append_nil _).symm, fun _ h => absurd h List.not_mem_nil,
      fun _ h => absurd h List.not_mem_nil⟩
  | cons serial rest ih =>
    intro k db
    obtain ⟨first, hfirst, hrow, hkey⟩ := db.addMeter_rows (given.id k)
      (discoveredRow fernet gatewayId (given.nonce k) serial)
    obtain ⟨later, hlater, hrows, hkeys⟩ := ih (k + 1) (db.addMeter (given.id k)
      (discoveredRow fernet gatewayId (given.nonce k) serial))
    refine ⟨first ++ later, ?_, fun r hr => ?_, fun id hid => ?_⟩
    · rw [withDiscovered, hlater, hfirst, List.append_assoc]
    · rcases List.mem_append.mp hr with hr | hr
      · rw [hrow r hr]
        exact ⟨List.mem_cons_self, serial, List.mem_cons_self, _, rfl⟩
      · obtain ⟨hkey, serial', hserial, hr⟩ := hrows r hr
        exact ⟨List.mem_cons_of_mem _ hkey, serial', List.mem_cons_of_mem _ hserial, hr⟩
    · rcases List.mem_cons.mp hid with rfl | hid
      · rw [withDiscovered, hlater, List.map_append]
        exact List.mem_append_left _ hkey
      · exact hkeys id hid

/-- The loop over new serial numbers touches no other table than that of the meters. -/
theorem withDiscovered_rest (fernet : Fernet) (gatewayId : Int) (given : Given)
    (serials : List String) : ∀ (k : Nat) (db : DirectoryDb),
    (withDiscovered fernet gatewayId given k serials db).gateways = db.gateways ∧
      (withDiscovered fernet gatewayId given k serials db).schedules = db.schedules ∧
      (withDiscovered fernet gatewayId given k serials db).auditLog = db.auditLog := by
  induction serials with
  | nil => exact fun _ _ => ⟨rfl, rfl, rfl⟩
  | cons serial rest ih =>
    intro k db
    have hrest := db.addMeter_rest (given.id k)
      (discoveredRow fernet gatewayId (given.nonce k) serial)
    obtain ⟨hgateways, hschedules, haudit⟩ := ih (k + 1) (db.addMeter (given.id k)
      (discoveredRow fernet gatewayId (given.nonce k) serial))
    exact ⟨hgateways.trans hrest.1, hschedules.trans hrest.2.1, haudit.trans hrest.2.2⟩

/-- A meter that was discovered behind `s`, and is polled in `t` as far as there are schedules. -/
structure DiscoveredMeter (fernet : Fernet) (s t : DirectoryDb) (id : Int) (row : DirectoryRow) :
    Prop where
  row : ∃ gatewayId gateway nonce serial, (gatewayId, gateway) ∈ s.gateways.rows ∧
    gateway.status = .approved ∧ row = discoveredRow fernet gatewayId nonce serial ∧
    PyText.isDigit serial = true ∧ serial ∉ s.meters.rows.map (·.2.serialNumber)
  listed : ∀ j ∈ catchallTypes, (∃ r ∈ s.schedules.rows, r.2.jobType = j) → Lists t.schedules j id

/-- What discoveries make of the directory `s`. -/
structure Discovered (fernet : Fernet) (s t : DirectoryDb) : Prop where
  meters : ∃ added, t.meters.rows = s.meters.rows ++ added ∧
    ∀ r ∈ added, DiscoveredMeter fernet s t r.1 r.2
  schedules : ∃ chosen ids, Extends s.schedules t.schedules chosen ids ∧
    ∀ j, ∀ id ∈ ids j, j ∈ catchallTypes ∧ id ∈ t.meters.rows.map Prod.fst
  gateways : t.gateways = s.gateways
  auditLog : t.auditLog = s.auditLog

/-- Before any tick no meter has been discovered. -/
theorem Discovered.refl (s : DirectoryDb) : Discovered fernet s s where
  meters := ⟨[], (List.append_nil _).symm, fun _ h => absurd h List.not_mem_nil⟩
  schedules := ⟨fun _ => 0, fun _ => [], .refl _, fun _ _ h => absurd h List.not_mem_nil⟩
  gateways := rfl
  auditLog := rfl

variable {s t : DirectoryDb}

/-- A serial number that makes a meter has digits only, and no meter of the directory has it. -/
theorem mem_newSerials {seen : List String} {serial : String} (h : serial ∈ newSerials t seen) :
    PyText.isDigit serial = true ∧ serial ∉ t.meters.rows.map (·.2.serialNumber) := by
  obtain ⟨hnew, hdigits⟩ := List.mem_filter.mp h
  exact ⟨hdigits, of_decide_eq_true (List.mem_filter.mp hnew).2⟩

/-- **A session.**  What a report brings extends the directory as it should, whoever extended it
    before. -/
theorem Discovered.session (h : Discovered fernet s t) {gateway : GatewayRow}
    (hgateway : (gatewayId, gateway) ∈ s.gateways.rows) (happroved : gateway.status = .approved)
    (seen : List String) (given : Given) :
    Discovered fernet s (discoveredIn fernet gatewayId seen given t) := by
  obtain ⟨added, hadded, hmeters⟩ := h.meters
  obtain ⟨chosen, ids, hextends, hids⟩ := h.schedules
  obtain ⟨later, hlater, hrows, hkeys⟩ :=
    withDiscovered_rows fernet gatewayId given (newSerials t seen) 0 t
  obtain ⟨hgateways, hschedules, haudit⟩ :=
    withDiscovered_rest fernet gatewayId given (newSerials t seen) 0 t
  refine ⟨⟨added ++ later, ?_, fun r hr => ?_⟩, ?_, hgateways.trans h.gateways,
    haudit.trans h.auditLog⟩
  · exact hlater.trans (by rw [hadded, List.append_assoc])
  · rw [discoveredIn, hschedules]
    rcases List.mem_append.mp hr with hold | hnew
    · exact ⟨(hmeters r hold).row, fun j hj hs =>
        ((hmeters r hold).listed j hj hs).addedToCatchalls 0 _⟩
    · obtain ⟨hkey, serial, hserial, nonce, hrow⟩ := hrows r hnew
      obtain ⟨hdigits, hfresh⟩ := mem_newSerials hserial
      rw [hadded, List.map_append] at hfresh
      refine ⟨⟨gatewayId, gateway, nonce, serial, hgateway, happroved, hrow, hdigits,
        fun hmem => hfresh (List.mem_append_left _ hmem)⟩, fun j hj hs => ?_⟩
      obtain ⟨⟨id, schedule⟩, hmem, htype⟩ := hs
      refine lists_addedToCatchalls hj _ 0 _ ⟨(id, extended chosen ids id schedule), ?_, ?_⟩ _ hkey
      · exact hextends.rows ▸ Table.mem_modify.mpr ⟨schedule, hmem, rfl⟩
      · exact (extended_jobType _ _).trans htype
  · obtain ⟨chosen', ids', hextends', hids'⟩ :=
      hextends.addAll given (newSerials t seen) 0
    refine ⟨chosen', ids', ?_, fun j id hid => ?_⟩
    · rw [discoveredIn, hschedules]
      exact hextends'
    · rcases hids' j id hid with hold | ⟨hj, hkey⟩
      · obtain ⟨hj, hmem⟩ := hids j id hold
        refine ⟨hj, ?_⟩
        rw [discoveredIn, hlater, List.map_append]
        exact List.mem_append_left _ hmem
      · exact ⟨hj, hkeys id hkey⟩

/-- **A tick's loop.**  Gateway after Gateway the directory is extended; one that cannot be reached
    is passed over, and a failing session ends the loop with nothing of its own. -/
theorem Discovered.gateway (h : Discovered fernet s t) (visits : Int → GatewayVisit)
    {rows : List (Int × GatewayRow)}
    (hrows : ∀ r ∈ rows, r ∈ s.gateways.rows ∧ r.2.status = .approved) :
    Discovered fernet s (visitGateways fernet visits rows t) := by
  induction rows generalizing t with
  | nil => exact h
  | cons r rest ih =>
    obtain ⟨gatewayId, gateway⟩ := r
    have hrest := fun r hr => hrows r (List.mem_cons_of_mem _ hr)
    obtain ⟨hgateway, happroved⟩ := hrows _ List.mem_cons_self
    rw [visitGateways]
    split
    · exact ih h hrest
    · exact ih h hrest
    · rename_i seen _ _
      have hstored : Discovered fernet s ((discover fernet gatewayId seen
          (visits gatewayId).given).run (visits gatewayId).database { stored := t }).2.stored := by
        rcases discover_stored seen (visits gatewayId).given (visits gatewayId).database t with
          ⟨e, -, hstored⟩ | ⟨-, hstored⟩
        · rw [hstored]
          exact h
        · rw [hstored]
          exact h.session hgateway happroved seen _
      split
      · rename_i hrun
        rw [hrun] at hstored
        exact ih hstored hrest
      · rename_i hrun
        rw [hrun] at hstored
        exact hstored

/-- A tick visits approved Gateways only, in whatever order the query returns them. -/
theorem Discovered.tick (h : Discovered fernet s t) (tick : DiscoveryTick) :
    Discovered fernet s (runDiscoveryOnce fernet tick t) := by
  rw [runDiscoveryOnce]
  rcases horder : tick.order with _ | order
  · exact h
  · refine h.gateway tick.visits fun r hr => ?_
    have hmem := List.mem_filter.mp ((tick.perm order horder _).mem_iff.mp hr)
    rw [h.gateways] at hmem
    exact ⟨hmem.1, of_decide_eq_true hmem.2⟩

/-- **The run.**  Tick after tick, from a directory that discoveries have extended already. -/
theorem Discovered.loop (ticks : List DiscoveryTick) : ∀ t, Discovered fernet s t →
    Discovered fernet s (meterDiscoveryLoop fernet ticks t) := by
  induction ticks with
  | nil => exact fun t h => h
  | cons tick rest ih => exact fun t h => ih _ (h.tick tick)

/-- **The directory only grows.**  Whatever is refused and whichever Gateways are there, the meters of
    before stay as they are; the new ones were seen by an approved Gateway, under numbers that were not
    there, and are in a schedule of either type; of each type at most one schedule has grown.  A session
    that does not come to its end leaves nothing behind, neither meters nor entries of schedules. -/
theorem discovery_extends (fernet : Fernet) (ticks : List DiscoveryTick) (s : DirectoryDb) :
    Discovered fernet s (meterDiscoveryLoop fernet ticks s) ∧
    ∀ (gatewayId : Int) (seen : List String) (given : Given)
      (D : Database DirectoryError DirectoryDb) (db : DirectoryDb),
      ((discover fernet gatewayId seen given).run D { stored := db }).1 = .ok () ∨
        ((discover fernet gatewayId seen given).run D { stored := db }).2.stored = db :=
  ⟨Discovered.loop ticks s (.refl s), fun _ seen given D db =>
    (discover_stored seen given D db).elim (fun ⟨_, _, h⟩ => .inr h) fun h => .inl h.1⟩

/-- Two meters call home at the first Gateway; the second one does not answer. -/
def twoCallHome : DiscoveryTick where
  order := some fun rows => rows.reverse
  perm := by
    rintro f ⟨rfl⟩ rows
    exact rows.reverse_perm
  visits gatewayId := ⟨if gatewayId = 1 then some ["202006003607", "2020O6003608"] else none,
    keysFrom 2, neverRefuses⟩

def smokeTest : Schedule := { meterIds := [1], jobType := .readCurrent }

def everyMeter : Schedule := { meterIds := [1, 7], jobType := .readCurrent }

example : (meterDiscoveryLoop markingFernet [twoCallHome, twoCallHome] {
      meters := Table.empty.setItem 1 installedRow
      gateways := (Table.empty.setItem 1 ⟨"one", .approved⟩).setItem 2 ⟨"two", .approved⟩
      schedules := (Table.empty.setItem 1 smokeTest).setItem 2 everyMeter }).schedules.rows.map
        (fun r => (r.1, r.2.meterIds)) = [(1, [1]), (2, [1, 7, 2])] := by decide

end CatchAll

end RiseSun.Backend
