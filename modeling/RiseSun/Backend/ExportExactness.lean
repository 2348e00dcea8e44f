/-
  What the export writes outside, and what it records of it.

  `alreadyExportedToday` keeps a meter from being sent twice on a day, as far as it sees what has been
  sent: an item is seen when its execution has ended, and only if its run has started on the day.

  1. **Conditions** (`Careful`) — executions do not overlap on a meter; no row that is read was sent
     by a run that started before the day; an answer to an external commit is not lost, and neither is
     an execution that has one behind it; two meters do not share a UUID.

  2. **Accounts** — the meters of a run's transactions are those of its items that are ok, whether
     they are committed or still its own.

  3. **Sendings** (`Sendings`) — a transaction holds the values of a stored row.  A meter that has
     passed the check is in one execution's hand, and whatever was sent of it was sent before the day.

  4. **Changes** (`ExportChange`) — what a step can do, once for both invariants.
-/
import RiseSun.Backend.EudbExport

namespace RiseSun.Backend

open Machine

variable {V F : Type} {C : ExportConfig V F} {s s' : ExportState V F}

/-! ## The meter in hand -/

/-- A meter that has passed the check, the day of its execution, and the row that was read of it. -/
structure Hand (V : Type) where
  meterId : Int
  dayStartUtc : Int
  latest : Option (Int × List V)

/-- The meter an execution has in hand, from the check to its item. -/
def ExportExecution.hand : ExportExecution V → Option (Hand V)
  | ⟨day, _, (meterId, _) :: _, .due, _⟩ => some ⟨meterId, day, none⟩
  | ⟨day, _, (meterId, _) :: _, .latest timestamp values, _⟩ =>
    some ⟨meterId, day, some (timestamp, values)⟩
  | _ => none

def ExportPhase.hand : ExportPhase V → Option (Hand V)
  | .exporting e => e.hand
  | _ => none

/-- The execution has the meter in hand, or has sent its row and not committed the item. -/
def ExportExecution.Holds (e : ExportExecution V) (meterId : Int) : Prop :=
  e.hand.map (·.meterId) = some meterId ∨ ∃ item ∈ e.items, item.meterId = meterId ∧ item.ok = true

/-! ## Conditions -/

/-- The meter and the date of a transaction. -/
def ExternalTransaction.sending (tr : ExternalTransaction F) : Int × Int := (tr.meterId, tr.mpgDate)

/-- The execution of a run. -/
def ExportState.execution (s : ExportState V F) (runId : Int) : Option (ExportExecution V) :=
  match s.runs.get runId with
  | some ⟨_, .exporting e⟩ => some e
  | _ => none

/-- When a run started. -/
def ExportState.startedAt (s : ExportState V F) (runId : Int) : Option Int :=
  (s.runs.get runId).map (·.row.startedAt)

/-- A meter that passes the check is held by no other execution. -/
def Alone (s : ExportState V F) (runId : Int) (e : ExportExecution V) : Prop :=
  ∀ m ∈ e.remaining.head?, alreadyExportedToday s e.items m.1 e.dayStartUtc = false →
    ∀ r ∈ s.runs.rows, r.1 ≠ runId → ∀ other ∈ s.execution r.1, ¬ other.Holds m.1

/-- The newest row of the meter in hand was not sent by a run that started before the day. -/
def RowOfTheDay (C : ExportConfig V F) (s : ExportState V F) (e : ExportExecution V) : Prop :=
  ∀ m ∈ e.remaining.head?, ∀ row ∈ (profileToSend s m.1).toOption, ∀ tr ∈ s.transactions,
    tr.sending = (m.1, C.wallClock row.1) →
      ∀ startedAt ∈ s.startedAt tr.runId, e.dayStartUtc ≤ startedAt

def OwnUuid (s : ExportState V F) (lookup : UuidLookup) (e : ExportExecution V) : Prop :=
  ∀ m ∈ e.remaining.head?, ∀ tr ∈ s.transactions, lookup = .found tr.refMeter → tr.meterId = m.1

def CommitOutcome.answered : CommitOutcome → Bool
  | .committed | .rolledBack _ => true
  | .unanswered _ => false

/-- The condition on a step. -/
def Careful (C : ExportConfig V F) (s : ExportState V F) : ExportAction V → Prop
  | .checkMeter runId => ∀ e ∈ s.execution runId, Alone s runId e
  | .readLatest runId => ∀ e ∈ s.execution runId, RowOfTheDay C s e
  | .exportMeter runId lookup outcome =>
    outcome.answered = true ∧ ∀ e ∈ s.execution runId, OwnUuid s lookup e
  | .abandon runId => ∀ e ∈ s.execution runId, ∀ item ∈ e.items, item.ok = false
  | _ => True

instance (e : ExportExecution V) (meterId : Int) : Decidable (e.Holds meterId) :=
  inferInstanceAs (Decidable (_ ∨ _))

instance (s : ExportState V F) (runId : Int) (e : ExportExecution V) : Decidable (Alone s runId e) :=
  inferInstanceAs (Decidable (∀ m ∈ e.remaining.head?,
    alreadyExportedToday s e.items m.1 e.dayStartUtc = false →
      ∀ r ∈ s.runs.rows, r.1 ≠ runId → ∀ other ∈ s.execution r.1, ¬ other.Holds m.1))

instance (C : ExportConfig V F) (s : ExportState V F) (e : ExportExecution V) :
    Decidable (RowOfTheDay C s e) :=
  inferInstanceAs (Decidable (∀ m ∈ e.remaining.head?, ∀ row ∈ (profileToSend s m.1).toOption,
    ∀ tr ∈ s.transactions, tr.sending = (m.1, C.wallClock row.1) →
      ∀ startedAt ∈ s.startedAt tr.runId, e.dayStartUtc ≤ startedAt))

instance (s : ExportState V F) (lookup : UuidLookup) (e : ExportExecution V) :
    Decidable (OwnUuid s lookup e) :=
  inferInstanceAs (Decidable (∀ m ∈ e.remaining.head?, ∀ tr ∈ s.transactions,
    lookup = .found tr.refMeter → tr.meterId = m.1))

instance (C : ExportConfig V F) (s : ExportState V F) : ∀ a, Decidable (Careful C s a)
  | .checkMeter runId => inferInstanceAs (Decidable (∀ e ∈ s.execution runId, Alone s runId e))
  | .readLatest runId => inferInstanceAs (Decidable (∀ e ∈ s.execution runId, RowOfTheDay C s e))
  | .exportMeter runId lookup outcome => inferInstanceAs
      (Decidable (outcome.answered = true ∧ ∀ e ∈ s.execution runId, OwnUuid s lookup e))
  | .abandon runId => inferInstanceAs
      (Decidable (∀ e ∈ s.execution runId, ∀ item ∈ e.items, item.ok = false))
  | .meters _ | .store _ | .check _ | .create .. | .begin .. | .finish .. =>
    inferInstanceAs (Decidable True)

/-! ## Accounts -/

/-- The transactions are those of the items that are ok. -/
def Matching (written : List (ExternalTransaction F)) (items : List EudbExportItem) : Prop :=
  written.map (·.meterId) = (items.filter (·.ok)).map (·.meterId)

/-- The meters an execution has an item for, and those it has yet to come to. -/
def ExportExecution.meters (e : ExportExecution V) : List Int :=
  e.items.map (·.meterId) ++ e.remaining.map (·.1)

/-- What is written and recorded of a run that is not there or is in one phase. -/
def Accounted (runId : Int) (written : List (ExternalTransaction F))
    (recorded : List EudbExportItem) : Option (ExportPhase V) → Prop
  | none | some .created => written = [] ∧ recorded = []
  | some (.exporting e) => recorded = [] ∧ Matching written e.items ∧ e.meters.Nodup ∧
      ∀ item ∈ e.items, item.runId = runId
  | some .ended => Matching written recorded ∧ (recorded.map (·.meterId)).Nodup

/-- A run that has one item for each meter reports success for a meter exactly if it has written its
    transaction. -/
theorem Matching.ok_iff {written : List (ExternalTransaction F)} {items : List EudbExportItem}
    (h : Matching written items) (hnodup : (items.map (·.meterId)).Nodup) {item : EudbExportItem}
    (hitem : item ∈ items) : item.ok = true ↔ ∃ tr ∈ written, tr.meterId = item.meterId := by
  have hmem : item.meterId ∈ written.map (·.meterId) ↔
      ∃ tr ∈ written, tr.meterId = item.meterId := List.mem_map
  rw [← hmem, h, List.mem_map]
  constructor
  · intro hok
    exact ⟨item, List.mem_filter.mpr ⟨hitem, hok⟩, rfl⟩
  · rintro ⟨other, hother, hmeter⟩
    rw [List.mem_filter] at hother
    rw [← List.inj_on_of_nodup_map hnodup hother.1 hitem hmeter]
    exact hother.2

/-- Every transaction that was written has its item, and the item says so. -/
theorem Matching.recorded {written : List (ExternalTransaction F)} {items : List EudbExportItem}
    (h : Matching written items) {tr : ExternalTransaction F} (htr : tr ∈ written) :
    ∃ item ∈ items, item.meterId = tr.meterId ∧ item.ok = true := by
  have hmem : tr.meterId ∈ (items.filter (·.ok)).map (·.meterId) := by
    rw [← h]
    exact List.mem_map_of_mem htr
  obtain ⟨item, hitem, hmeter⟩ := List.mem_map.mp hmem
  rw [List.mem_filter] at hitem
  exact ⟨item, hitem.1, hmeter, hitem.2⟩

section Record

variable {runId : Int} {written : List (ExternalTransaction F)} {recorded : List EudbExportItem}
  {e : ExportExecution V} {meterId : Int} {serial : String} {rest : List (Int × String)}
  {result : Bool × Nat × Option String}

/-- Recording the result of a meter takes it off the rest, so the meters of a run stay the same. -/
theorem record_meters (hrest : e.remaining = (meterId, serial) :: rest) :
    (e.record runId meterId rest result).meters = e.meters := by
  rw [ExportExecution.meters, ExportExecution.meters, hrest, ExportExecution.record,
    List.map_append, List.append_assoc]
  rfl

/-- The items of a run are all of this run. -/
theorem record_runId (h : ∀ item ∈ e.items, item.runId = runId) :
    ∀ item ∈ (e.record runId meterId rest result).items, item.runId = runId := by
  intro item hitem
  rcases List.mem_append.mp hitem with hold | hnew
  · exact h item hold
  · rw [List.mem_singleton.mp hnew]

/-- A meter leaves the list with an item that is not ok. -/
theorem Accounted.record_failed (h : Accounted runId written recorded (some (.exporting e)))
    (hrest : e.remaining = (meterId, serial) :: rest) (hok : result.1 = false) :
    Accounted runId written recorded (some (.exporting (e.record runId meterId rest result))) := by
  obtain ⟨hrecorded, hmatch, hall, hrun⟩ := h
  refine ⟨hrecorded, ?_, (record_meters hrest).symm ▸ hall, record_runId hrun⟩
  rw [Matching, hmatch, ExportExecution.record, List.filter_append]
  simp [hok]

/-- Or with a transaction, and an item that is ok. -/
theorem Accounted.record_ok (h : Accounted runId written recorded (some (.exporting e)))
    (hrest : e.remaining = (meterId, serial) :: rest) (hok : result.1 = true)
    {tr : ExternalTransaction F} (htr : tr.meterId = meterId) :
    Accounted runId (written ++ [tr]) recorded
      (some (.exporting (e.record runId meterId rest result))) := by
  obtain ⟨hrecorded, hmatch, hall, hrun⟩ := h
  refine ⟨hrecorded, ?_, (record_meters hrest).symm ▸ hall, record_runId hrun⟩
  rw [Matching, List.map_append, hmatch, ExportExecution.record, List.filter_append]
  simp [hok, htr]

/-- A meter that has been exported on the day is passed over. -/
theorem Accounted.skip (h : Accounted runId written recorded (some (.exporting e)))
    (hrest : e.remaining = (meterId, serial) :: rest) :
    Accounted runId written recorded (some (.exporting { e with remaining := rest })) := by
  obtain ⟨hrecorded, hmatch, hall, hrun⟩ := h
  refine ⟨hrecorded, hmatch, ?_, hrun⟩
  rw [ExportExecution.meters, hrest] at hall
  exact hall.sublist (List.Sublist.append_left (List.sublist_cons_self _ _) _)

/-- An execution with nothing behind it may be lost. -/
theorem Accounted.abandon (h : Accounted runId written recorded (some (.exporting e)))
    (hnone : ∀ item ∈ e.items, item.ok = false) :
    Accounted runId written recorded (some (ExportPhase.ended : ExportPhase V)) := by
  obtain ⟨rfl, hmatch, -, -⟩ := h
  refine ⟨?_, List.nodup_nil⟩
  rw [Matching, hmatch, List.filter_eq_nil_iff.mpr]
  · rfl
  · intro item hitem hok
    rw [hnone item hitem] at hok
    cases hok

end Record

def ExportState.phase (s : ExportState V F) (runId : Int) : Option (ExportPhase V) :=
  (s.runs.get runId).map (·.phase)

def ExportState.written (s : ExportState V F) (runId : Int) : List (ExternalTransaction F) :=
  s.transactions.filter (·.runId = runId)

def ExportState.recorded (s : ExportState V F) (runId : Int) : List EudbExportItem :=
  s.items.filter (·.runId = runId)

def Accounts (s : ExportState V F) : Prop :=
  ∀ runId, Accounted runId (s.written runId) (s.recorded runId) (s.phase runId)

/-! ## Sendings -/

/-- The row brings the number of the value at an index, under its description. -/
def BringsNumber (float : V → Except String F) (refMeter : String) (mpgDate : Int) (values : List V)
    (v : Nat × String) (row : ExternalRow F) : Prop :=
  ∃ value number, values[v.1]? = some value ∧ float value = .ok number ∧
    row = ⟨refMeter, mpgDate, number, v.2⟩

/-- The transaction wrote all the values of a stored row of its meter, each at its index, under the
    date of that row, and nothing else. -/
def ExportState.Brings (C : ExportConfig V F) (s : ExportState V F) (tr : ExternalTransaction F) :
    Prop :=
  ∃ timestamp values,
    (⟨tr.meterId, defaultLoadProfileObis, timestamp, .list values⟩ : LoadProfileData V) ∈
      s.loadProfileData ∧
    tr.mpgDate = C.wallClock timestamp ∧
    List.Forall₂ (BringsNumber C.float tr.refMeter tr.mpgDate values) valueIndexToDescription tr.rows

/-- What is known of a meter in hand: what was sent of it was sent by runs that started before the
    day, and the row that was read is stored and has not been sent. -/
structure Holding (C : ExportConfig V F) (s : ExportState V F) (h : Hand V) : Prop where
  before : ∀ tr ∈ s.transactions, tr.meterId = h.meterId →
    ∃ startedAt ∈ s.startedAt tr.runId, startedAt < h.dayStartUtc
  unsent : ∀ p ∈ h.latest, (h.meterId, C.wallClock p.1) ∉ s.transactions.map (·.sending)
  stored : ∀ p ∈ h.latest,
    (⟨h.meterId, defaultLoadProfileObis, p.1, .list p.2⟩ : LoadProfileData V) ∈ s.loadProfileData

def ExportState.hand (s : ExportState V F) (runId : Int) : Option (Hand V) :=
  (s.phase runId).bind (·.hand)

/-- Each transaction brings a stored row, no meter's row of one date has two transactions, a meter is
    in one hand at most, and transactions with one UUID are of one meter. -/
structure Sendings (C : ExportConfig V F) (s : ExportState V F) : Prop where
  brings : ∀ tr ∈ s.transactions, s.Brings C tr
  once : (s.transactions.map (·.sending)).Nodup
  holding : ∀ {runId h}, s.hand runId = some h → Holding C s h
  apart : ∀ {i j h h'}, s.hand i = some h → s.hand j = some h' → h.meterId = h'.meterId → i = j
  owner : ∀ tr ∈ s.transactions, ∀ tr' ∈ s.transactions, tr.refMeter = tr'.refMeter →
    tr.meterId = tr'.meterId

/-- The keys of the rows of a transaction are the meter, the date and the codes of the descriptions,
    in their order. -/
theorem BringsNumber.keys {float : V → Except String F} {refMeter : String} {mpgDate : Int}
    {values : List V} {descriptions : List (Nat × String)} {rows : List (ExternalRow F)}
    (h : List.Forall₂ (BringsNumber float refMeter mpgDate values) descriptions rows) :
    rows.map (·.key) = descriptions.map fun v => (refMeter, mpgDate, v.2) := by
  induction h with
  | nil => rfl
  | cons hrow _ ih =>
    obtain ⟨_, _, _, _, rfl⟩ := hrow
    rw [List.map_cons, List.map_cons, ih]
    rfl

/-- What a run has in its hand stays what it is, while nothing is sent and nothing of the profile is
    lost. -/
theorem Holding.mono {h : Hand V} (hold : Holding C s h)
    (transactions : s'.transactions = s.transactions)
    (started : ∀ {i t}, s.startedAt i = some t → s'.startedAt i = some t)
    (data : s.loadProfileData ⊆ s'.loadProfileData) : Holding C s' h := by
  refine ⟨?_, transactions ▸ hold.unsent, fun p hp => data (hold.stored p hp)⟩
  intro tr htr hmeter
  rw [transactions] at htr
  obtain ⟨t, ht, hlt⟩ := hold.before tr htr hmeter
  exact ⟨t, started ht, hlt⟩

/-- A transaction brings what the profile holds, and goes on doing so while the profile only grows.
    -/
theorem ExportState.Brings.mono {tr : ExternalTransaction F} (h : s.Brings C tr)
    (data : s.loadProfileData ⊆ s'.loadProfileData) : s'.Brings C tr := by
  obtain ⟨timestamp, values, hstored, hdate, hrows⟩ := h
  exact ⟨timestamp, values, data hstored, hdate, hrows⟩

/-- Nothing is sent, and one run at most comes to hold a meter, which no other one holds. -/
theorem Sendings.update (h : Sendings C s) (runId : Int)
    (transactions : s'.transactions = s.transactions)
    (started : ∀ {i t}, s.startedAt i = some t → s'.startedAt i = some t)
    (data : s.loadProfileData ⊆ s'.loadProfileData)
    (others : ∀ i ≠ runId, s'.hand i = s.hand i)
    (holding : ∀ held, s'.hand runId = some held → Holding C s held)
    (alone : ∀ held, s'.hand runId = some held → ∀ i ≠ runId, ∀ held', s.hand i = some held' →
      held'.meterId ≠ held.meterId) : Sendings C s' := by
  have hold : ∀ {i held}, i ≠ runId → s'.hand i = some held → s.hand i = some held :=
    fun hne hi => (others _ hne).symm.trans hi
  refine ⟨?_, transactions ▸ h.once, ?_, ?_, transactions ▸ h.owner⟩
  · intro tr htr
    exact (h.brings tr (transactions ▸ htr)).mono data
  · intro i held hi
    rcases eq_or_ne i runId with rfl | hne
    · exact (holding held hi).mono transactions started data
    · exact (h.holding (hold hne hi)).mono transactions started data
  · intro i j held held' hi hj hmeter
    rcases eq_or_ne i runId with rfl | hnei <;> rcases eq_or_ne j i with rfl | hnej
    · rfl
    · exact absurd hmeter.symm (alone held hi j hnej held' (hold hnej hj))
    · rfl
    · rcases eq_or_ne j runId with rfl | hne
      · exact absurd hmeter (alone held' hj i hnei held (hold hnei hi))
      · exact h.apart (hold hnei hi) (hold hne hj) hmeter

/-! ## Changes -/

/-- What a step can do. -/
inductive ExportChange (C : ExportConfig V F) (s : ExportState V F) : ExportState V F → Prop
  | aside {s' : ExportState V F} (runs : s'.runs = s.runs) (items : s'.items = s.items)
      (transactions : s'.transactions = s.transactions)
      (data : s.loadProfileData ⊆ s'.loadProfileData) : ExportChange C s s'
  | created {runId : Int} {run : TrackedRun V} (checked : Nat) (new : s.runs.get runId = none)
      (phase : run.phase = .created) :
      ExportChange C s { s with runs := s.runs.insert runId run new, checked := checked }
  | moved {runId : Int} {run run' : TrackedRun V} (found : s.runs.get runId = some run)
      (started : run'.row.startedAt = run.row.startedAt)
      (keeps : ∀ (written : List (ExternalTransaction F)) (recorded : List EudbExportItem),
        Accounted runId written recorded (some run.phase) →
          Accounted runId written recorded (some run'.phase))
      (holding : ∀ held, run'.phase.hand = some held → Holding C s held)
      (alone : ∀ held, run'.phase.hand = some held → ∀ i ≠ runId, ∀ held', s.hand i = some held' →
        held'.meterId ≠ held.meterId) :
      ExportChange C s (s.setRun runId run')
  | sent {runId : Int} {run : TrackedRun V} {e : ExportExecution V} {meterId : Int}
      {serial : String} {rest : List (Int × String)} {timestamp : Int} {values : List V}
      {result : Bool × Nat × Option String} {tr : ExternalTransaction F}
      (found : s.runs.get runId = some run) (phase : run.phase = .exporting e)
      (remaining : e.remaining = (meterId, serial) :: rest)
      (stage : e.stage = .latest timestamp values) (ok : result.1 = true)
      (runId_eq : tr.runId = runId) (sending : tr.sending = (meterId, C.wallClock timestamp))
      (rows : List.Forall₂ (BringsNumber C.float tr.refMeter (C.wallClock timestamp) values)
        valueIndexToDescription tr.rows)
      (owner : ∀ old ∈ s.transactions, old.refMeter = tr.refMeter → old.meterId = meterId) :
      ExportChange C s { s.setExecution runId run (e.record runId meterId rest result) with
        transactions := s.transactions ++ [tr] }
  | finished {runId : Int} {run run' : TrackedRun V} {e : ExportExecution V}
      (found : s.runs.get runId = some run) (started : run'.row.startedAt = run.row.startedAt)
      (phase : run.phase = .exporting e) (ended : run'.phase = .ended) :
      ExportChange C s { s.setRun runId run' with items := s.items ++ e.items }

/-- A run that is left without a meter in hand. -/
theorem ExportChange.put {runId : Int} {run run' : TrackedRun V}
    (found : s.runs.get runId = some run) (started : run'.row.startedAt = run.row.startedAt)
    (keeps : ∀ (written : List (ExternalTransaction F)) (recorded : List EudbExportItem),
      Accounted runId written recorded (some run.phase) →
        Accounted runId written recorded (some run'.phase))
    (none : run'.phase.hand = none) : ExportChange C s (s.setRun runId run') := by
  refine .moved found started keeps (fun held h => ?_) fun held h => ?_ <;> rw [none] at h <;> cases h

/-- If every value is a number, the rows bring all of them. -/
theorem insertRows_brings {float : V → Except String F} {meterGuid : String} {mpgDate : Int}
    {values : List V} : ∀ {descriptions : List (Nat × String)} {rows : List (ExternalRow F)},
    insertRows float meterGuid mpgDate values descriptions = .ok rows →
    List.Forall₂ (BringsNumber float meterGuid mpgDate values) descriptions rows
  | [], rows, h => by
    obtain rfl := Except.ok.inj h
    exact .nil
  | (index, description) :: rest, rows, h => by
    rw [insertRows] at h
    rcases hvalue : values[index]? with _ | value <;> rw [hvalue] at h
    · cases h
    dsimp only at h
    rcases hnumber : float value with _ | number <;> rw [hnumber] at h
    · cases h
    rcases hrest : insertRows float meterGuid mpgDate values rest with _ | restRows <;> rw [hrest] at h
    · cases h
    · obtain rfl := Except.ok.inj h
      exact .cons ⟨value, number, hvalue, hnumber, rfl⟩ (insertRows_brings hrest)

/-- What comes of a meter whose row was read, when the answer to its commit is not lost: an item that
    is not ok, or one that is and its transaction. -/
theorem exportOneMeter_cases (runId meterId timestamp : Int) (values : List V) (lookup : UuidLookup)
    {outcome : CommitOutcome} (hanswered : outcome.answered = true) :
    ((exportOneMeter C runId meterId timestamp values lookup outcome).1.1 = false ∧
      (exportOneMeter C runId meterId timestamp values lookup outcome).2 = none) ∨
    ∃ tr, (exportOneMeter C runId meterId timestamp values lookup outcome).1.1 = true ∧
      (exportOneMeter C runId meterId timestamp values lookup outcome).2 = some tr ∧
      tr.runId = runId ∧ tr.sending = (meterId, C.wallClock timestamp) ∧
      lookup = .found tr.refMeter ∧
      List.Forall₂ (BringsNumber C.float tr.refMeter (C.wallClock timestamp) values)
        valueIndexToDescription tr.rows := by
  rcases lookup with exc | _ | meterGuid
  · exact .inl ⟨rfl, rfl⟩
  · exact .inl ⟨rfl, rfl⟩
  rcases hrows : insertRows C.float meterGuid (C.wallClock timestamp) values valueIndexToDescription
    with exc | rows <;> unfold exportOneMeter <;> dsimp only <;> rw [hrows]
  · exact .inl ⟨rfl, rfl⟩
  rcases outcome with _ | exc | exc
  · exact .inr ⟨_, rfl, rfl, rfl, rfl, rfl, insertRows_brings hrows⟩
  · exact .inl ⟨rfl, rfl⟩
  · cases hanswered

/-- A stage that is taken while exporting belongs to a run that is exporting. -/
theorem whileExporting_some {runId : Int}
    {f : TrackedRun V → ExportExecution V → Option (ExportState V F)}
    (h : whileExporting s runId f = some s') :
    ∃ run e, s.runs.get runId = some run ∧ run.phase = .exporting e ∧ f run e = some s' := by
  rw [whileExporting] at h
  rcases hget : s.runs.get runId with _ | run <;> rw [hget] at h
  · cases h
  rcases hphase : run.phase with _ | e | _ <;> simp only [hphase] at h
  · cases h
  · exact ⟨run, e, rfl, hphase, h⟩
  · cases h

/-- The execution of a run is found under its id, -/
theorem execution_found {runId : Int} {run : TrackedRun V} {e : ExportExecution V}
    (hget : s.runs.get runId = some run) (hphase : run.phase = .exporting e) :
    e ∈ s.execution runId := by
  obtain ⟨row, phase⟩ := run
  obtain rfl : phase = .exporting e := hphase
  rw [ExportState.execution, hget]
  rfl

/-- The phase that is looked up under a run's id is the phase of that run. -/
theorem phase_found {runId : Int} {run : TrackedRun V} (hget : s.runs.get runId = some run) :
    s.phase runId = some run.phase := congrArg (Option.map _) hget

/-- What a run has in hand is looked up under its id. -/
theorem hand_found {runId : Int} {run : TrackedRun V} (hget : s.runs.get runId = some run) :
    s.hand runId = run.phase.hand := by
  rw [ExportState.hand, phase_found hget]
  rfl

/-- A phase that is found is the one of a run of the table. -/
theorem phase_some {runId : Int} {phase : ExportPhase V} (h : s.phase runId = some phase) :
    ∃ run, s.runs.get runId = some run ∧ run.phase = phase := Option.map_eq_some_iff.mp h

/-- A meter in hand is held by the execution of a run. -/
theorem holds_of_hand {runId : Int} {h : Hand V} (hhand : s.hand runId = some h) :
    ∃ r ∈ s.runs.rows, r.1 = runId ∧ ∃ e ∈ s.execution r.1, e.Holds h.meterId := by
  obtain ⟨phase, hphase, hsome⟩ := Option.bind_eq_some_iff.mp hhand
  obtain ⟨run, hget, rfl⟩ := phase_some hphase
  refine ⟨(runId, run), Table.get_eq_some.mp hget, rfl, ?_⟩
  rcases hexporting : run.phase with _ | e | _ <;> rw [hexporting] at hsome
  · cases hsome
  · refine ⟨e, execution_found hget hexporting, .inl ?_⟩
    have hsome : e.hand = some h := hsome
    rw [hsome]
    rfl
  · cases hsome

/-- No meter is exported twice in one run: the query for active meters returns each once. -/
theorem activeMeters_nodup (s : ExportState V F) : ((activeMeters s).map (·.1)).Nodup := by
  rw [activeMeters, List.map_map]
  exact s.meters.keys.sublist (List.Sublist.map _ List.filter_sublist)

/-- Before the check for today's export a run has nothing in hand. -/
theorem hand_unchecked {e : ExportExecution V} (h : e.stage = .unchecked) : e.hand = none := by
  obtain ⟨day, total, _ | ⟨⟨_, _⟩, _⟩, stage, items⟩ := e <;> obtain rfl : stage = .unchecked := h <;>
    rfl

/-- Starting to export touches no item and no transaction; without a connection the run ends at
    once. -/
theorem beginRun_change {runId now : Int} {connected : Except String (List (Int × String))}
    {run : TrackedRun V} (hget : s.runs.get runId = some run) (hphase : run.phase = .created)
    (h : beginRun C s runId now connected run = some s') : ExportChange C s s' := by
  have hended : ∀ row : EudbExportRun, row.startedAt = run.row.startedAt →
      ExportChange C s (s.setRun runId ⟨row, .ended⟩) := by
    refine fun row hrow => .put hget hrow (fun written recorded hacc => ?_) rfl
    rw [hphase] at hacc
    obtain ⟨rfl, rfl⟩ := hacc
    exact ⟨rfl, List.nodup_nil⟩
  unfold beginRun at h
  rcases ite_eq_iff.mp h with ⟨_, h⟩ | ⟨_, h⟩
  · obtain rfl := Option.some.inj h
    exact hended _ rfl
  rcases connected with exc | meters
  · obtain rfl := Option.some.inj h
    exact hended _ rfl
  rcases ite_eq_iff.mp h with ⟨hperm, h⟩ | ⟨_, h⟩
  · obtain rfl := Option.some.inj h
    refine .put hget rfl (fun written recorded hacc => ?_) (hand_unchecked rfl)
    rw [hphase] at hacc
    obtain ⟨rfl, rfl⟩ := hacc
    refine ⟨rfl, rfl, ?_, fun _ h => nomatch h⟩
    exact (hperm.map _).nodup_iff.mpr (activeMeters_nodup s)
  · cases h

/-- A meter that passes the check was sent, if at all, by runs that started before the day: the items
    of executions that have ended are seen, and no other execution has sent it. -/
theorem Accounts.before (haccounts : Accounts s) {runId : Int} {run : TrackedRun V}
    {e : ExportExecution V} {meterId : Int} {serial : String} {rest : List (Int × String)}
    (hget : s.runs.get runId = some run) (hphase : run.phase = .exporting e)
    (hrest : e.remaining = (meterId, serial) :: rest)
    (hunseen : alreadyExportedToday s e.items meterId e.dayStartUtc = false)
    (halone : ∀ r ∈ s.runs.rows, r.1 ≠ runId → ∀ other ∈ s.execution r.1, ¬ other.Holds meterId)
    {tr : ExternalTransaction F} (htr : tr ∈ s.transactions) (hmeter : tr.meterId = meterId) :
    ∃ startedAt ∈ s.startedAt tr.runId, startedAt < e.dayStartUtc := by
  have hmem : tr ∈ s.written tr.runId := List.mem_filter.mpr ⟨htr, decide_eq_true rfl⟩
  have hacc := haccounts tr.runId
  rcases hof : s.phase tr.runId with _ | _ | other | _ <;> rw [hof] at hacc
  · rw [hacc.1] at hmem
    cases hmem
  · rw [hacc.1] at hmem
    cases hmem
  · obtain ⟨item, hitem, hitemMeter, hok⟩ := hacc.2.1.recorded hmem
    rw [hmeter] at hitemMeter
    obtain ⟨run', hget', hphase'⟩ := phase_some hof
    rcases eq_or_ne tr.runId runId with hsame | hne
    · -- its own items are of meters it has left behind
      rw [hsame, hget] at hget'
      obtain rfl := Option.some.inj hget'
      obtain rfl : e = other := ExportPhase.exporting.inj (hphase.symm.trans hphase')
      have hdisjoint := List.disjoint_of_nodup_append hacc.2.2.1
      have hdone : meterId ∈ e.items.map (·.meterId) := List.mem_map.mpr ⟨item, hitem, hitemMeter⟩
      refine absurd ?_ (hdisjoint hdone)
      rw [hrest]
      exact List.mem_cons_self
    · exact absurd (.inr ⟨item, hitem, hitemMeter, hok⟩)
        (halone _ (Table.get_eq_some.mp hget') hne other (execution_found hget' hphase'))
  · obtain ⟨item, hitem, hitemMeter, hok⟩ := hacc.1.recorded hmem
    obtain ⟨hitem, hitemRun⟩ := List.mem_filter.mp hitem
    obtain ⟨run', hget', -⟩ := phase_some hof
    refine ⟨run'.row.startedAt, congrArg (Option.map _) hget', ?_⟩
    by_contra hlate
    refine List.any_eq_false.mp hunseen item (List.mem_append_left _ hitem) ?_
    refine decide_eq_true ⟨hitemMeter.trans hmeter, hok, run', ?_, Int.not_lt.mp hlate⟩
    rw [of_decide_eq_true hitemRun]
    exact hget'

/-- The check passes a meter over that was exported today; otherwise it goes into the hand of the
    run, and nobody else has it. -/
theorem checkNextMeter_change (haccounts : Accounts s) {runId : Int} {run : TrackedRun V}
    {e : ExportExecution V} (hget : s.runs.get runId = some run) (hphase : run.phase = .exporting e)
    (halone : Alone s runId e) (h : checkNextMeter s runId run e = some s') : ExportChange C s s' := by
  have hbefore := @Accounts.before _ _ _ haccounts runId run e
  rcases e with ⟨day, total, _ | ⟨⟨meterId, serial⟩, rest⟩, _ | _ | _, items⟩
  case cons.unchecked =>
    obtain rfl := Option.some.inj h
    rcases hseen : alreadyExportedToday s items meterId day with _ | _
    · have halone := halone _ rfl hseen
      rw [if_neg Bool.false_ne_true]
      refine .moved hget rfl (fun written recorded hacc => ?_) ?_ ?_
      · rw [hphase] at hacc
        exact hacc
      · rintro _ ⟨⟩
        exact ⟨fun tr htr hmeter => hbefore hget hphase rfl hseen halone htr hmeter,
          fun _ h => (nomatch h), fun _ h => (nomatch h)⟩
      · rintro _ ⟨⟩ i hne held' hi hmeter
        obtain ⟨r, hr, rfl, other, hother, hholds⟩ := holds_of_hand hi
        have hmeter : held'.meterId = meterId := hmeter
        rw [hmeter] at hholds
        exact halone r hr hne other hother hholds
    · rw [if_pos rfl]
      refine .put hget rfl (fun written recorded hacc => ?_) (hand_unchecked rfl)
      rw [hphase] at hacc
      exact hacc.skip rfl
  all_goals cases h

/-- A row that is to be sent is stored. -/
theorem profileToSend_stored {meterId timestamp : Int} {values : List V}
    (h : profileToSend s meterId = .ok (timestamp, values)) :
    (⟨meterId, defaultLoadProfileObis, timestamp, .list values⟩ : LoadProfileData V) ∈
      s.loadProfileData := by
  unfold profileToSend at h
  rcases hlatest : latestProfileRow s meterId with _ | row <;> rw [hlatest] at h
  · cases h
  obtain ⟨hstored, hrow⟩ := List.mem_filter.mp
    (mem_of_mem_orderBy _ (List.mem_of_mem_head? hlatest))
  obtain ⟨hmeter, hobis⟩ := of_decide_eq_true hrow
  obtain ⟨_, _, time, _ | _⟩ := row
  · obtain rfl : _ = meterId := hmeter
    obtain rfl : _ = defaultLoadProfileObis := hobis
    rcases ite_eq_iff.mp h with ⟨_, h⟩ | ⟨_, h⟩
    · cases h
    · cases h
      exact hstored
  · cases h

/-- Reading takes the latest row of the profile into the hand, if it is of the day. -/
theorem readLatestRow_change (hsendings : Sendings C s) {runId : Int} {run : TrackedRun V}
    {e : ExportExecution V} (hget : s.runs.get runId = some run) (hphase : run.phase = .exporting e)
    (hday : RowOfTheDay C s e) (h : readLatestRow s runId run e = some s') :
    ExportChange C s s' := by
  rcases e with ⟨day, total, _ | ⟨⟨meterId, serial⟩, rest⟩, _ | _ | _, items⟩
  case cons.due =>
    have hhand : s.hand runId = some ⟨meterId, day, none⟩ := by
      rw [hand_found hget, hphase]
      rfl
    have hold := hsendings.holding hhand
    unfold readLatestRow at h
    dsimp only at h
    have hday := hday _ rfl
    rcases hsend : profileToSend s meterId with message | ⟨timestamp, values⟩ <;> rw [hsend] at h hday
    · obtain rfl := Option.some.inj h
      refine .put hget rfl (fun written recorded hacc => ?_) (hand_unchecked rfl)
      rw [hphase] at hacc
      exact hacc.record_failed rfl rfl
    · obtain rfl := Option.some.inj h
      refine .moved hget rfl (fun written recorded hacc => ?_) ?_ ?_
      · rw [hphase] at hacc
        exact hacc
      · rintro _ ⟨⟩
        refine ⟨hold.before, ?_, ?_⟩
        · -- sent, it was sent before the day, but then not the row of the day
          rintro _ ⟨⟩ hsent
          obtain ⟨tr, htr, hsending⟩ := List.mem_map.mp hsent
          obtain ⟨t, ht, hlt⟩ := hold.before tr htr (congrArg Prod.fst hsending)
          exact Int.not_lt.mpr (hday _ rfl tr htr hsending t ht) hlt
        · rintro _ ⟨⟩
          exact profileToSend_stored hsend
      · rintro _ ⟨⟩ i hne held' hi hmeter
        exact hne (hsendings.apart hi hhand hmeter)
  all_goals cases h

/-- **Sending.**  A transaction goes out with all its rows or not at all, and the run knows which.
    -/
theorem exportNextMeter_change {runId : Int} {lookup : UuidLookup} {outcome : CommitOutcome}
    {run : TrackedRun V} {e : ExportExecution V} (hget : s.runs.get runId = some run)
    (hphase : run.phase = .exporting e) (hanswered : outcome.answered = true)
    (howner : OwnUuid s lookup e) (h : exportNextMeter C s runId lookup outcome run e = some s') :
    ExportChange C s s' := by
  rcases e with ⟨day, total, _ | ⟨⟨meterId, serial⟩, rest⟩, _ | _ | ⟨timestamp, values⟩, items⟩
  case cons.latest =>
    obtain rfl := Option.some.inj h
    rcases exportOneMeter_cases (C := C) runId meterId timestamp values lookup hanswered with
      ⟨hok, hnone⟩ | ⟨tr, hok, hsome, hrun, hsending, hlookup, hrows⟩
    · rw [hnone, Option.toList_none, List.append_nil]
      refine .put hget rfl (fun written recorded hacc => ?_) (hand_unchecked rfl)
      rw [hphase] at hacc
      exact hacc.record_failed rfl hok
    · rw [hsome, Option.toList_some]
      exact .sent hget hphase rfl rfl hok hrun hsending hrows fun old hold href =>
        howner _ rfl old hold (hlookup.trans (congrArg _ href.symm))
  all_goals cases h

/-- Where both invariants hold, a careful step is one of the changes. -/
theorem exportStep_change (haccounts : Accounts s) (hsendings : Sendings C s) {a : ExportAction V}
    (hcareful : Careful C s a) (h : exportStep C s a = some s') : ExportChange C s s' := by
  cases a with
  | meters table =>
    obtain rfl := Option.some.inj h
    exact .aside rfl rfl rfl (List.Subset.refl _)
  | store row =>
    obtain rfl := Option.some.inj h
    refine .aside rfl rfl rfl ?_
    dsimp only
    split
    · exact List.Subset.refl _
    · exact List.subset_append_left _ _
  | check now =>
    rcases ite_eq_iff.mp h with ⟨_, h⟩ | ⟨_, h⟩
    · obtain rfl := Option.some.inj h
      exact .aside rfl rfl rfl (List.Subset.refl _)
    · cases h
  | create runId triggeredManually startedAt =>
    rcases dite_eq_iff.mp h with ⟨hnew, h⟩ | ⟨_, h⟩
    · rcases ite_eq_iff.mp h with ⟨_, h⟩ | ⟨_, h⟩
      · obtain rfl := Option.some.inj h
        exact .created _ hnew rfl
      · cases h
    · cases h
  | begin runId now connected =>
    rw [exportStep] at h
    rcases hget : s.runs.get runId with _ | run <;> rw [hget] at h
    · cases h
    rcases hphase : run.phase with _ | e | _ <;> simp only [hphase] at h
    · exact beginRun_change hget hphase h
    · cases h
    · cases h
  | checkMeter runId =>
    obtain ⟨run, e, hget, hphase, h⟩ := whileExporting_some h
    exact checkNextMeter_change haccounts hget hphase (hcareful _ (execution_found hget hphase)) h
  | readLatest runId =>
    obtain ⟨run, e, hget, hphase, h⟩ := whileExporting_some h
    exact readLatestRow_change hsendings hget hphase (hcareful _ (execution_found hget hphase)) h
  | exportMeter runId lookup outcome =>
    obtain ⟨run, e, hget, hphase, h⟩ := whileExporting_some h
    exact exportNextMeter_change hget hphase hcareful.1
      (hcareful.2 _ (execution_found hget hphase)) h
  | finish runId now =>
    obtain ⟨run, e, hget, hphase, h⟩ := whileExporting_some h
    rcases ite_eq_iff.mp h with ⟨_, h⟩ | ⟨_, h⟩
    · obtain rfl := Option.some.inj h
      exact .finished hget rfl hphase rfl
    · cases h
  | abandon runId =>
    rw [exportStep] at h
    rcases hget : s.runs.get runId with _ | run <;> rw [hget] at h
    · cases h
    obtain rfl := Option.some.inj h
    -- an abandoned run closes with what it has recorded
    refine .put hget rfl (fun written recorded hacc => ?_) rfl
    rcases hphase : run.phase with _ | e | _ <;> rw [hphase] at hacc
    · obtain ⟨rfl, rfl⟩ := hacc
      exact ⟨rfl, List.nodup_nil⟩
    · exact hacc.abandon (hcareful _ (execution_found hget hphase))
    · exact hacc

/-! ## Every run's account -/

/-- The run that takes a stage has its new phase, -/
theorem phase_updated {runId : Int} {run run' : TrackedRun V}
    (runs : s'.runs = s.runs.update runId fun _ => run') (hget : s.runs.get runId = some run) :
    s'.phase runId = some run'.phase := by
  rw [ExportState.phase, runs, Table.get_update_self, hget]
  rfl

/-- A run that takes a stage leaves the phases of the others as they are. -/
theorem phase_kept {i runId : Int} {run' : TrackedRun V}
    (runs : s'.runs = s.runs.update runId fun _ => run') (hne : i ≠ runId) :
    s'.phase i = s.phase i := by
  rw [ExportState.phase, runs, Table.get_update_ne _ hne]
  rfl

/-- The moment at which a run started stays the same through every step, as no run starts anew. -/
theorem startedAt_kept {runId : Int} {run run' : TrackedRun V}
    (runs : s'.runs = s.runs.update runId fun _ => run') (hget : s.runs.get runId = some run)
    (started : run'.row.startedAt = run.row.startedAt) {i t : Int} (h : s.startedAt i = some t) :
    s'.startedAt i = some t := by
  rw [← h, ExportState.startedAt, ExportState.startedAt, runs]
  rcases eq_or_ne i runId with rfl | hne
  · rw [Table.get_update_self, hget]
    exact congrArg some started
  · rw [Table.get_update_ne _ hne]

/-- A run that is created begins at its first phase; the others keep theirs. -/
theorem phase_created {runId : Int} {run : TrackedRun V} {checked : Nat}
    (new : s.runs.get runId = none) (i : Int) :
    ExportState.phase { s with runs := s.runs.insert runId run new, checked := checked } i =
      if i = runId then some run.phase else s.phase i := by
  rcases eq_or_ne i runId with rfl | hne
  · rw [if_pos rfl, ExportState.phase, Table.get_insert_self]
    rfl
  · rw [if_neg hne, ExportState.phase, Table.get_insert_ne _ _ new hne]
    rfl

/-- A step changes the account of one run. -/
theorem Accounts.update (h : Accounts s) (runId : Int)
    (others : ∀ i ≠ runId, s'.written i = s.written i ∧ s'.recorded i = s.recorded i ∧
      s'.phase i = s.phase i)
    (this : Accounted runId (s'.written runId) (s'.recorded runId) (s'.phase runId)) :
    Accounts s' := by
  intro i
  rcases eq_or_ne i runId with rfl | hne
  · exact this
  · obtain ⟨hwritten, hrecorded, hphase⟩ := others i hne
    rw [hwritten, hrecorded, hphase]
    exact h i

/-- What is added by one run is none of another's. -/
theorem filter_append_of_ne {α : Type} (f : α → Int) (kept new : List α) {runId i : Int}
    (hnew : ∀ a ∈ new, f a = runId) (hne : i ≠ runId) :
    (kept ++ new).filter (fun a => f a = i) = kept.filter (fun a => f a = i) := by
  have hnone : new.filter (fun a => f a = i) = [] := List.filter_eq_nil_iff.mpr fun a ha hi =>
    hne ((of_decide_eq_true hi).symm.trans (hnew a ha))
  rw [List.filter_append, hnone, List.append_nil]

/-- What a run adds is found among what is its own, behind what it had added before. -/
theorem filter_append_self {α : Type} (f : α → Int) (kept new : List α) {runId : Int}
    (hnew : ∀ a ∈ new, f a = runId) :
    (kept ++ new).filter (fun a => f a = runId) = kept.filter (fun a => f a = runId) ++ new := by
  rw [List.filter_append, List.filter_eq_self.mpr fun a ha => decide_eq_true (hnew a ha)]

/-- **The step.**  Items and transactions stay balanced: each run accounts for what it has sent. -/
theorem Accounts.step (h : Accounts s) (change : ExportChange C s s') : Accounts s' := by
  cases change with
  | aside runs items transactions data =>
    intro i
    rw [ExportState.written, ExportState.recorded, ExportState.phase, runs, items, transactions]
    exact h i
  | @created runId run checked new hphase =>
    refine h.update runId (fun i hne => ⟨rfl, rfl, ?_⟩) ?_
    · exact (phase_created new i).trans (if_neg hne)
    · have hnone := h runId
      rw [ExportState.phase, new] at hnone
      rw [phase_created new, if_pos rfl, hphase]
      exact hnone
  | @moved runId run run' found started keeps holding alone =>
    refine h.update runId (fun i hne => ⟨rfl, rfl, phase_kept rfl hne⟩) ?_
    rw [phase_updated rfl found]
    exact keeps _ _ (phase_found found ▸ h runId)
  | @sent runId run e meterId serial rest timestamp values result tr found hphase remaining stage ok
      hrun sending rows owner =>
    -- the new transaction is of this run, and so is the new item
    have htr : ∀ t ∈ [tr], t.runId = runId := by
      intro t ht
      rw [List.mem_singleton.mp ht, hrun]
    refine h.update runId (fun i hne => ⟨filter_append_of_ne ExternalTransaction.runId _ _ htr hne, rfl,
      phase_kept rfl hne⟩) ?_
    have hacc := h runId
    rw [phase_found found, hphase] at hacc
    rw [phase_updated rfl found, ExportState.written,
      filter_append_self ExternalTransaction.runId _ _ htr]
    exact hacc.record_ok remaining ok (congrArg Prod.fst sending)
  | @finished runId run run' e found started hphase hended =>
    have hacc := h runId
    rw [phase_found found, hphase] at hacc
    obtain ⟨hnone, hmatch, hall, hitems⟩ := hacc
    refine h.update runId (fun i hne => ⟨rfl, filter_append_of_ne EudbExportItem.runId _ _ hitems hne,
      phase_kept rfl hne⟩) ?_
    rw [ExportState.recorded] at hnone
    rw [phase_updated rfl found, hended, ExportState.recorded,
      filter_append_self EudbExportItem.runId _ _ hitems, hnone, List.nil_append]
    exact ⟨hmatch, (List.nodup_append.mp hall).1⟩

/-! ## Every sending -/

/-- **The step.**  What is sent stays exact: right values, right date, once a day and meter. -/
theorem Sendings.step (h : Sendings C s) (change : ExportChange C s s') : Sendings C s' := by
  cases change with
  | aside runs items transactions data =>
    have hhand : ∀ i, s'.hand i = s.hand i := fun i => by
      rw [ExportState.hand, ExportState.hand, ExportState.phase, ExportState.phase, runs]
    refine h.update 0 transactions (fun ht => ?_) data (fun i _ => hhand i)
      (fun held hheld => h.holding ((hhand 0).symm.trans hheld)) fun held hheld i hne held' hi hmeter =>
        hne (h.apart hi ((hhand 0).symm.trans hheld) hmeter)
    rw [ExportState.startedAt, runs]
    exact ht
  | @created runId run checked new hphase =>
    have hnone : ExportState.hand { s with runs := s.runs.insert runId run new, checked := checked }
        runId = none := by
      rw [ExportState.hand, phase_created new, if_pos rfl, hphase]
      rfl
    refine h.update runId rfl (fun {i t} ht => ?_) (List.Subset.refl _) (fun i hne => ?_)
      (fun held hheld => ?_) fun held hheld => ?_
    · have hne : i ≠ runId := by
        rintro rfl
        rw [ExportState.startedAt, new] at ht
        cases ht
      rw [ExportState.startedAt, Table.get_insert_ne _ _ new hne]
      exact ht
    · rw [ExportState.hand, phase_created new, if_neg hne]
      rfl
    · rw [hnone] at hheld
      cases hheld
    · rw [hnone] at hheld
      cases hheld
  | @moved runId run run' found started keeps holding alone =>
    have hhand : (s.setRun runId run').hand runId = run'.phase.hand := by
      rw [ExportState.hand, phase_updated rfl found]
      rfl
    refine h.update runId rfl (startedAt_kept rfl found started) (List.Subset.refl _) (fun i hne => ?_)
      (fun held hheld => holding held (hhand.symm.trans hheld))
      fun held hheld => alone held (hhand.symm.trans hheld)
    rw [ExportState.hand, phase_kept rfl hne]
    rfl
  | @sent runId run e meterId serial rest timestamp values result tr found hphase remaining stage ok
      hrun sending rows owner =>
    -- the row that was just sent was in the hand of its run
    have hbefore : s.hand runId = some ⟨meterId, e.dayStartUtc, some (timestamp, values)⟩ := by
      obtain ⟨day, total, remaining', stage', items⟩ := e
      obtain rfl : remaining' = _ := remaining
      obtain rfl : stage' = _ := stage
      rw [hand_found found, hphase]
      rfl
    have hold := h.holding hbefore
    have hmeter : tr.meterId = meterId := congrArg Prod.fst sending
    have hdate : tr.mpgDate = C.wallClock timestamp := congrArg Prod.snd sending
    have hnew : tr.sending ∉ s.transactions.map (·.sending) := sending ▸ hold.unsent _ rfl
    have hafter : ∀ {i held}, ExportState.hand
        { s.setExecution runId run (e.record runId meterId rest result) with
          transactions := s.transactions ++ [tr] } i = some held →
        i ≠ runId ∧ s.hand i = some held ∧ held.meterId ≠ meterId := by
      intro i held hi
      rcases eq_or_ne i runId with rfl | hne
      · rw [ExportState.hand, phase_updated rfl found] at hi
        have hnone : (e.record i meterId rest result).hand = none := hand_unchecked rfl
        have hi := hnone.symm.trans hi
        cases hi
      · rw [ExportState.hand, phase_kept rfl hne] at hi
        exact ⟨hne, hi, fun hsame => hne (h.apart hi hbefore hsame)⟩
    have hstarted := fun {i t : Int} => @startedAt_kept _ _ s
      { s.setExecution runId run (e.record runId meterId rest result) with
        transactions := s.transactions ++ [tr] } runId run _ rfl found rfl i t
    refine ⟨?_, ?_, ?_, ?_, ?_⟩
    · intro t ht
      rcases List.mem_append.mp ht with hmem | hlast
      · exact (h.brings t hmem).mono (List.Subset.refl _)
      · rw [List.mem_singleton.mp hlast]
        exact ⟨timestamp, values, hmeter ▸ hold.stored _ rfl, hdate, hdate ▸ rows⟩
    · rw [List.map_append]
      exact h.once.append (List.nodup_singleton _) (List.disjoint_singleton.mpr hnew)
    · intro i held hi
      obtain ⟨hne, hhand, hother⟩ := hafter hi
      have hheld := h.holding hhand
      refine ⟨?_, ?_, hheld.stored⟩
      · intro t ht htmeter
        rcases List.mem_append.mp ht with hmem | hlast
        · obtain ⟨startedAt, hat, hlt⟩ := hheld.before t hmem htmeter
          exact ⟨startedAt, hstarted hat, hlt⟩
        · rw [List.mem_singleton.mp hlast, hmeter] at htmeter
          exact absurd htmeter.symm hother
      · intro p hp hmem
        rw [List.map_append, List.mem_append] at hmem
        rcases hmem with hmem | hlast
        · exact hheld.unsent p hp hmem
        · have hsame : held.meterId = tr.meterId := congrArg Prod.fst (List.mem_singleton.mp hlast)
          exact hother (hsame.trans hmeter)
    · intro i j held held' hi hj
      exact h.apart (hafter hi).2.1 (hafter hj).2.1
    -- two transactions of one reference: both old, or one of them the new one
    · intro t ht t' ht' href
      rcases List.mem_append.mp ht with hmem | hlast <;>
        rcases List.mem_append.mp ht' with hmem' | hlast'
      · exact h.owner t hmem t' hmem' href
      · rw [List.mem_singleton.mp hlast'] at href ⊢
        exact (owner t hmem href).trans hmeter.symm
      · rw [List.mem_singleton.mp hlast] at href ⊢
        exact hmeter.trans (owner t' hmem' href.symm).symm
      · rw [List.mem_singleton.mp hlast, List.mem_singleton.mp hlast']
  | @finished runId run run' e found started hphase hended =>
    have hnone : ExportState.hand { s.setRun runId run' with items := s.items ++ e.items } runId =
        none := by
      rw [ExportState.hand, phase_updated rfl found, hended]
      rfl
    refine h.update runId rfl (startedAt_kept rfl found started) (List.Subset.refl _) (fun i hne => ?_)
      (fun held hheld => ?_) fun held hheld => ?_
    · rw [ExportState.hand, phase_kept rfl hne]
      rfl
    · rw [hnone] at hheld
      cases hheld
    · rw [hnone] at hheld
      cases hheld

/-- No key comes twice into the external table. -/
theorem Sendings.external_keys (h : Sendings C s) : (s.external.map (·.key)).Nodup := by
  have hkeys : ∀ tr ∈ s.transactions, tr.rows.map (·.key) =
      valueIndexToDescription.map fun v => (tr.refMeter, tr.mpgDate, v.2) := by
    intro tr htr
    obtain ⟨_, _, _, _, hrows⟩ := h.brings tr htr
    exact BringsNumber.keys hrows
  rw [ExportState.external, List.map_flatMap, List.nodup_flatMap]
  constructor
  · intro tr htr
    rw [hkeys tr htr]
    have hdescriptions : (valueIndexToDescription.map (·.2)).Nodup := by decide
    refine List.Nodup.of_map (fun key => key.2.2) ?_
    rw [List.map_map]
    exact hdescriptions
  · refine (List.pairwise_map.mp h.once).imp_of_mem ?_
    intro tr tr' htr htr' hne key hkey hkey'
    dsimp only at hkey hkey'
    rw [hkeys tr htr] at hkey
    rw [hkeys tr' htr'] at hkey'
    obtain ⟨v, -, rfl⟩ := List.mem_map.mp hkey
    obtain ⟨v', -, heq⟩ := List.mem_map.mp hkey'
    have hmeter := h.owner tr htr tr' htr' (congrArg (·.1) heq).symm
    exact hne (Prod.ext hmeter (congrArg (·.2.1) heq).symm)

/-! ## All runs -/

/-- All the values of the item's row have been written to the external table by its run, under the
    date of the row. -/
def ExportState.AllWritten (C : ExportConfig V F) (s : ExportState V F) (item : EudbExportItem) :
    Prop :=
  ∃ tr ∈ s.transactions, tr.runId = item.runId ∧ tr.meterId = item.meterId ∧ s.Brings C tr

/-- The execution of the run has not ended. -/
def ExportState.underWay (s : ExportState V F) (runId : Int) : Prop :=
  ∃ e, s.phase runId = some (.exporting e)

/-- A committed item is ok iff its row is in the external table. -/
theorem Accounts.item_iff (h : Accounts s) (hsendings : Sendings C s) {item : EudbExportItem}
    (hitem : item ∈ s.items) : item.ok = true ↔ s.AllWritten C item := by
  have hmem : item ∈ s.recorded item.runId :=
    List.mem_filter.mpr ⟨hitem, decide_eq_true rfl⟩
  have hwritten : s.AllWritten C item ↔
      ∃ tr ∈ s.written item.runId, tr.meterId = item.meterId := by
    constructor
    · rintro ⟨tr, htr, hrun, hmeter, -⟩
      exact ⟨tr, List.mem_filter.mpr ⟨htr, decide_eq_true hrun⟩, hmeter⟩
    · rintro ⟨tr, htr, hmeter⟩
      obtain ⟨htr, hrun⟩ := List.mem_filter.mp htr
      exact ⟨tr, htr, of_decide_eq_true hrun, hmeter, hsendings.brings tr htr⟩
  have hacc := h item.runId
  rw [hwritten]
  rcases hphase : s.phase item.runId with _ | _ | e | _ <;> rw [hphase] at hacc
  · rw [hacc.2] at hmem
    cases hmem
  · rw [hacc.2] at hmem
    cases hmem
  · rw [hacc.1] at hmem
    cases hmem
  · exact hacc.1.ok_iff hacc.2 hmem

/-- A transaction of a run that is over is recorded as an item with success. -/
theorem Accounts.transaction_recorded (h : Accounts s) {tr : ExternalTransaction F}
    (htr : tr ∈ s.transactions) : s.underWay tr.runId ∨
      ∃ item ∈ s.items, item.runId = tr.runId ∧ item.meterId = tr.meterId ∧ item.ok = true := by
  have hmem : tr ∈ s.written tr.runId := List.mem_filter.mpr ⟨htr, decide_eq_true rfl⟩
  have hacc := h tr.runId
  rcases hphase : s.phase tr.runId with _ | _ | e | _ <;> rw [hphase] at hacc
  · rw [hacc.1] at hmem
    cases hmem
  · rw [hacc.1] at hmem
    cases hmem
  · exact .inl ⟨e, hphase⟩
  · obtain ⟨item, hitem, hmeter, hok⟩ := hacc.1.recorded hmem
    obtain ⟨hitem, hrun⟩ := List.mem_filter.mp hitem
    exact .inr ⟨item, hitem, of_decide_eq_true hrun, hmeter, hok⟩

/-- The export over every history: overlapping runs, failures, losses of executions, new rows, new
    meters and any passing of time.  While every step is careful, no key comes twice into the external
    table, an item is ok iff all the values of its row are there, at their indices and under the date
    of the row, and what is there has such an item once its run has ended. -/
theorem export_exact {meters : Table Int FleetMeter} {loadProfileData : List (LoadProfileData V)}
    {actions : List (ExportAction V)}
    (run : Run (exportStep C) (Careful C) ⟨meters, loadProfileData, ⟨[], List.nodup_nil⟩, [], 0, []⟩
      actions s) :
    (s.external.map (·.key)).Nodup ∧ (∀ item ∈ s.items, item.ok = true ↔ s.AllWritten C item) ∧
      ∀ tr ∈ s.transactions, s.underWay tr.runId ∨
        ∃ item ∈ s.items, item.runId = tr.runId ∧ item.meterId = tr.meterId ∧ item.ok = true := by
  have hinvariant : Accounts s ∧ Sendings C s := by
    refine run.invariant (I := fun s => Accounts s ∧ Sendings C s) ⟨?_, ?_⟩ ?_
    · exact fun _ => ⟨rfl, rfl⟩
    · exact ⟨fun _ h => (nomatch h), List.nodup_nil, fun h => (nomatch h),
        fun h => (nomatch h), fun _ h => nomatch h⟩
    · rintro t a u ⟨haccounts, hsendings⟩ hcareful hstep
      have hchange := exportStep_change haccounts hsendings hcareful hstep
      exact ⟨haccounts.step hchange, hsendings.step hchange⟩
  obtain ⟨haccounts, hsendings⟩ := hinvariant
  exact ⟨hsendings.external_keys, fun _ hitem => haccounts.item_iff hsendings hitem,
    fun _ htr => haccounts.transaction_recorded htr⟩

/-! ## Two days and one -/

/-- Bishkek keeps six hours from UTC; the values are numbers already. -/
def eudbConfig : ExportConfig Nat Nat where
  configured := true
  exportHour := 23
  exportMinute := 50
  wallClock := (· + 21600)
  bishkekTodayStartUtc := fun now => (now + 21600) / 86400 * 86400 - 21600
  float := .ok

def oneMeter : Table Int FleetMeter where
  rows := [(7, ⟨"201811000033", true⟩)]
  keys := List.nodup_singleton _

def profileAt (timestamp : Int) : LoadProfileData Nat :=
  ⟨7, defaultLoadProfileObis, timestamp, .list (List.replicate 10 0)⟩

/-- A manual run over the one meter. -/
def manualRun (runId now : Int) : List (ExportAction Nat) :=
  [.create runId true now, .begin runId now (.ok [(7, "201811000033")]), .checkMeter runId,
    .readLatest runId, .exportMeter runId (.found "5f0c") .committed, .finish runId now]

/-- A run on each of two days, with a new row between them. -/
theorem export_exact_newRow : ∃ s : ExportState Nat Nat, s.external.length = 20 ∧
    (s.external.map (·.key)).Nodup ∧ (∀ item ∈ s.items, item.ok = true ↔ s.AllWritten eudbConfig item) ∧
      ∀ tr ∈ s.transactions, s.underWay tr.runId ∨
        ∃ item ∈ s.items, item.runId = tr.runId ∧ item.meterId = tr.meterId ∧ item.ok = true := by
  have hexec : ((exec (guarded (exportStep eudbConfig) (Careful eudbConfig))
      ⟨oneMeter, [profileAt 1000], ⟨[], List.nodup_nil⟩, [], 0, []⟩
      (manualRun 1 2000 ++ .store (profileAt 90000) :: manualRun 2 100000)).map
        fun s => s.external.length) = some 20 := by decide
  obtain ⟨s, hrun, hlength⟩ := Option.map_eq_some_iff.mp hexec
  exact ⟨s, hlength, export_exact (Run.of_guarded hrun)⟩

/-- Two runs of one day that overlap: neither sees the other's item, and each sends the row. -/
theorem overlapping_runs_send_twice :
    ¬ ∀ (actions : List (ExportAction Nat)) (s : ExportState Nat Nat),
      Run (exportStep eudbConfig) (fun _ _ => True)
        ⟨oneMeter, [profileAt 1000], ⟨[], List.nodup_nil⟩, [], 0, []⟩ actions s →
      (s.external.map (·.key)).Nodup := by
  intro h
  have hexec : ((exec (guarded (exportStep eudbConfig) fun _ _ => True)
      ⟨oneMeter, [profileAt 1000], ⟨[], List.nodup_nil⟩, [], 0, []⟩
      ((manualRun 1 2000).take 5 ++ manualRun 2 2060 ++ [.finish 1 2100])).map
        fun s => decide (s.external.map (·.key)).Nodup) = some false := by decide
  obtain ⟨s, hrun, hkeys⟩ := Option.map_eq_some_iff.mp hexec
  exact of_decide_eq_false hkeys (h _ s (Run.of_guarded hrun))

end RiseSun.Backend
