/-
  One batch for one idempotency key.

  1. **Abstract model** — a registry of idempotency keys: the content of a request is its operation
     and the SET of its serial numbers, the result is the batch (`BatchRegistry`).

  2. **Refinement** (`Registers.create`) — `_create_batch` is `Registry.serve`, if a request lists
     no serial number twice: it compares sets, but makes an item and a job for each element of the
     list, and counts elements in its answer.  No other step touches what is registered
     (`batchStep_same`).

  3. **Every run** (`batches_idempotent`) — with a record of the requests that were accepted.
-/
import Mathlib.Data.Finset.Card
import RiseSun.Lib.Registry
import RiseSun.Backend.BatchConsistency

namespace RiseSun.Backend

open Machine

variable {V : Type} {values : Values V}

/-! ## What does not change about a batch and its items -/

/-- Who made a batch, under which key, for what, and its public id. -/
def DisconnectBatch.identity (batch : DisconnectBatch) :
    (Int × String) × BatchOperation × String :=
  ((batch.apiKeyId, batch.idempotencyKey), batch.operation, batch.batchId)

/-- The batch of an item, its meter and its job. -/
def DisconnectBatchItem.identity (item : DisconnectBatchItem) : Int × String × Option Int :=
  (item.batchPk, item.meterSerial, item.jobId)

/-- Batches and items are who they were; their statuses may differ. -/
structure SameBatches (s t : BatchState V) : Prop where
  batches : t.batches.rows.map (fun r => (r.1, r.2.identity)) =
    s.batches.rows.map fun r => (r.1, r.2.identity)
  items : t.items.rows.map (fun r => (r.1, r.2.identity)) =
    s.items.rows.map fun r => (r.1, r.2.identity)

/-- A step that is no request for a batch makes no batch and no item. -/
theorem batchStep_same {s t : BatchState V} {a : BatchAction V} (next : batchStep values s a = some t)
    (other : ∀ operation request key apiKeyId meters new,
      a ≠ .create operation request key apiKeyId meters new) : SameBatches s t := by
  cases a with
  | create operation request key apiKeyId meters new => exact absurd rfl (other _ _ _ _ _ _)
  | job session a =>
    rw [batchStep] at next
    split at next
    · obtain ⟨core, -, rfl⟩ := Option.map_eq_some_iff.mp next
      exact ⟨rfl, rfl⟩
    · cases next
  | finalizeSelect f =>
    rw [batchStep] at next
    split at next
    · split at next
      · cases next
        exact ⟨rfl, rfl⟩
      · cases next
        exact ⟨rfl, rfl⟩
    · cases next
  | finalizeGet f =>
    rw [batchStep] at next
    split at next
    · split at next
      · cases next
        exact ⟨rfl, rfl⟩
      · cases next
    · cases next
  | finalizeCommit f now =>
    rw [batchStep] at next
    split at next
    · split at next
      · cases next
        exact ⟨rfl, Table.rows_update _ fun _ => rfl⟩
      · cases next
        exact ⟨Table.rows_update _ fun _ => rfl, Table.rows_update _ fun _ => rfl⟩
      · cases next
    · cases next
  | restart now =>
    cases next
    exact ⟨rfl, rfl⟩

/-! ## The registry of a state -/

/-- Under an API key and its idempotency key: the operation, the set of serial numbers, the batch. -/
abbrev BatchRegistry := Table (Int × String) ((BatchOperation × Finset String) × String)

/-- The serial numbers of the items of a batch. -/
def serials (items : Table Int DisconnectBatchItem) (batchPk : Int) : List String :=
  (itemsOf items batchPk).map (·.2.meterSerial)

/-- What a batch stands for. -/
def registered (items : Table Int DisconnectBatchItem)
    (r : Int × (Int × String) × BatchOperation × String) :
    (Int × String) × (BatchOperation × Finset String) × String :=
  (r.2.1, (r.2.2.1, (serials items r.1).toFinset), r.2.2.2)

/-- The batches of the state are those of the registry, and every serial number of a batch has one
    item. -/
structure Registers (s : BatchState V) (reg : BatchRegistry) : Prop where
  rows : (s.batches.rows.map fun r => (r.1, r.2.identity)).map (registered s.items) = reg.rows
  owned : ∀ i ∈ s.items.rows, i.2.batchPk ∈ s.batches.rows.map Prod.fst
  once : ∀ batchPk, (serials s.items batchPk).Nodup

/-- The serial numbers and jobs of a batch are read off what does not change. -/
theorem itemsOf_identity {s t : BatchState V} (same : SameBatches s t) (batchPk : Int) :
    (itemsOf t.items batchPk).map (·.2.identity) = (itemsOf s.items batchPk).map (·.2.identity) := by
  have hfilter : ∀ items : Table Int DisconnectBatchItem,
      (itemsOf items batchPk).map (·.2.identity) =
        ((items.rows.map fun r => (r.1, r.2.identity)).filter fun r => r.2.1 = batchPk).map
          Prod.snd := by
    intro items
    rw [List.filter_map, List.map_map]
    rfl
  rw [hfilter, hfilter, same.items]

theorem serials_identity {s t : BatchState V} (same : SameBatches s t) (batchPk : Int) :
    serials t.items batchPk = serials s.items batchPk := by
  have hmap := congrArg (List.map fun i : Int × String × Option Int => i.2.1)
    (itemsOf_identity same batchPk)
  rw [List.map_map, List.map_map] at hmap
  exact hmap

theorem registered_identity {s t : BatchState V} (same : SameBatches s t) :
    registered t.items = registered s.items := by
  funext r
  rw [registered, registered, serials_identity same]

theorem Registers.same {s t : BatchState V} {reg : BatchRegistry} (h : Registers s reg)
    (same : SameBatches s t) : Registers t reg := by
  have hkeys : t.batches.rows.map Prod.fst = s.batches.rows.map Prod.fst := by
    have hmap := congrArg (List.map Prod.fst) same.batches
    rw [List.map_map, List.map_map] at hmap
    exact hmap
  refine ⟨?_, fun i hi => ?_, fun batchPk => ?_⟩
  · rw [same.batches, registered_identity same]
    exact h.rows
  · have hmem : (i.1, i.2.identity) ∈ s.items.rows.map fun r => (r.1, r.2.identity) := by
      rw [← same.items]
      exact List.mem_map.mpr ⟨i, hi, rfl⟩
    obtain ⟨i', hi', heq⟩ := List.mem_map.mp hmem
    have hpk : i'.2.batchPk = i.2.batchPk := congrArg (fun p => p.2.1) heq
    rw [hkeys, ← hpk]
    exact h.owned i' hi'
  · rw [serials_identity same]
    exact h.once batchPk

/-! ## Looking a key up -/

section Lookup

variable {s : BatchState V} {reg : BatchRegistry}

/-- The batch that is found under a key is the registered one. -/
theorem Registers.existing (h : Registers s reg) (apiKeyId : Int) (key : String) :
    reg.get (apiKeyId, key) = (existingBatch s apiKeyId key).map fun r =>
      ((r.2.operation, (serials s.items r.1).toFinset), r.2.batchId) := by
  have hfind : (fun r : (Int × String) × (BatchOperation × Finset String) × String =>
      decide (r.1 = (apiKeyId, key))) ∘ (registered s.items ∘
        fun r : Int × DisconnectBatch => (r.1, r.2.identity)) =
      fun r => decide (r.2.apiKeyId = apiKeyId ∧ r.2.idempotencyKey = key) := by
    funext r
    exact decide_eq_decide.mpr Prod.mk_inj
  rw [Table.get, ← h.rows, List.map_map, List.find?_map, hfind, Option.map_map]
  rfl

/-- Comparing with the items is comparing operations and sets of serial numbers. -/
theorem sameContent_iff {operation : BatchOperation} {request : DisconnectBatchRequest}
    {existing : Int × DisconnectBatch} :
    sameContent s operation request existing = true ↔
      (existing.2.operation, (serials s.items existing.1).toFinset) =
        (operation, request.meters.toFinset) := by
  have hset : (serials s.items existing.1).toFinset = request.meters.toFinset ↔
      (∀ r ∈ itemsOf s.items existing.1, r.2.meterSerial ∈ request.meters) ∧
        ∀ serial ∈ request.meters, ∃ r ∈ itemsOf s.items existing.1, r.2.meterSerial = serial := by
    rw [Finset.Subset.antisymm_iff, Finset.subset_iff, Finset.subset_iff]
    simp only [List.mem_toFinset, serials, List.mem_map, forall_exists_index, and_imp,
      Prod.forall, Prod.exists]
    refine and_congr ⟨fun h i item hi => h i item hi rfl, ?_⟩ Iff.rfl
    rintro h x i item hi rfl
    exact h i item hi
  rw [sameContent, decide_eq_true_eq, Prod.mk_inj, hset]

end Lookup

/-! ## A new batch -/

/-- One turn of the loop adds one item, and a job only with the item. -/
theorem addItem_rows {operation : BatchOperation} {meters : String → Option Int} {new : NewBatch}
    {s t : BatchState V} {row : String × Int × Int}
    (next : addItem values operation meters new s row = some t) :
    t.batches = s.batches ∧ ∃ i : Int × DisconnectBatchItem, t.items.rows = s.items.rows ++ [i] ∧
      i.2.meterSerial = row.1 ∧ i.2.batchPk = new.batchPk ∧
      ∀ id, t.core.jobs.get id ≠ none → s.core.jobs.get id = none → i.2.jobId = some id := by
  obtain ⟨serial, itemId, jobId⟩ := row
  rcases dite_eq_iff.mp next with ⟨hnew, next⟩ | ⟨_, next⟩
  · rcases hmeter : meters serial with _ | meterId <;> rw [hmeter] at next
    · obtain rfl := Option.some.inj next
      exact ⟨rfl, _, rfl, rfl, rfl, fun id hid hnone => absurd hnone hid⟩
    · obtain ⟨core, hcore, rfl⟩ := Option.map_eq_some_iff.mp next
      refine ⟨rfl, _, rfl, rfl, rfl, fun id hid hnone => ?_⟩
      rw [jobStep] at hcore
      split at hcore
      · rename_i hfree
        rw [if_pos rfl] at hcore
        cases hcore
        by_contra hne
        exact hid ((Table.get_insert_ne _ _ hfree fun heq : id = jobId =>
          hne (congrArg some heq.symm)).trans hnone)
      · cases hcore
  · cases next

/-- The loop adds an item for every element of the list, in order. -/
theorem addItems_rows {operation : BatchOperation} {meters : String → Option Int} {new : NewBatch} :
    ∀ (rows : List (String × Int × Int)) {s t : BatchState V},
      exec (addItem values operation meters new) s rows = some t →
      t.batches = s.batches ∧ ∃ added, t.items.rows = s.items.rows ++ added ∧
        added.map (·.2.meterSerial) = rows.map Prod.fst ∧
        (∀ i ∈ added, i.2.batchPk = new.batchPk) ∧
        ∀ id, t.core.jobs.get id ≠ none → s.core.jobs.get id = none →
          ∃ i ∈ added, i.2.jobId = some id
  | [], s, t, hexec => by
    obtain rfl := Option.some.inj hexec
    exact ⟨rfl, [], (List.append_nil _).symm, rfl, fun i hi => (nomatch hi),
      fun id hid hnone => absurd hnone hid⟩
  | row :: rows, s, t, hexec => by
    obtain ⟨u, hnext, hexec⟩ := Option.bind_eq_some_iff.mp hexec
    obtain ⟨hbatches, i, hitems, hserial, hof, hjob⟩ := addItem_rows hnext
    obtain ⟨hbatches', added, hitems', hserials, hall, hjobs⟩ := addItems_rows rows hexec
    refine ⟨hbatches'.trans hbatches, i :: added, ?_, ?_, ?_, fun id hid hnone => ?_⟩
    · rw [hitems', hitems, List.append_assoc, List.singleton_append]
    · rw [List.map_cons, List.map_cons, hserials, hserial]
    · exact List.forall_mem_cons.mpr ⟨hof, hall⟩
    · rcases hu : u.core.jobs.get id with _ | job
      · obtain ⟨i', hi', hid'⟩ := hjobs id hid hu
        exact ⟨i', List.mem_cons_of_mem _ hi', hid'⟩
      · exact ⟨i, List.mem_cons_self .., hjob id (by rw [hu]; exact Option.some_ne_none job) hnone⟩

/-- A new batch: its row, its items in the order of the request, and the jobs of the items. -/
theorem insertBatch_rows {operation : BatchOperation} {request : DisconnectBatchRequest}
    {key : String} {apiKeyId : Int} {meters : String → Option Int} {new : NewBatch}
    {s t : BatchState V}
    (made : insertBatch values s operation request key apiKeyId meters new = some t) :
    new.batchPk ∉ s.batches.rows.map Prod.fst ∧
    t.batches.rows.map (fun r => (r.1, r.2.identity)) =
      s.batches.rows.map (fun r => (r.1, r.2.identity)) ++
        [(new.batchPk, (apiKeyId, key), operation, new.batchId)] ∧
    ∃ added, t.items.rows = s.items.rows ++ added ∧
      added.map (·.2.meterSerial) = request.meters ∧ (∀ i ∈ added, i.2.batchPk = new.batchPk) ∧
      ∀ id, t.core.jobs.get id ≠ none → s.core.jobs.get id = none →
        ∃ i ∈ added, i.2.jobId = some id := by
  rcases dite_eq_iff.mp made with ⟨hnew, made⟩ | ⟨_, made⟩
  · rcases ite_eq_iff.mp made with ⟨hlength, made⟩ | ⟨_, made⟩
    · obtain ⟨u, hexec, rfl⟩ := Option.map_eq_some_iff.mp made
      obtain ⟨hbatches, added, hitems, hserials, hof, hjobs⟩ := addItems_rows _ hexec
      rw [List.map_fst_zip (Nat.le_of_eq hlength.symm)] at hserials
      have hrows : u.batches.rows.map (fun r => (r.1, r.2.identity)) =
          s.batches.rows.map (fun r => (r.1, r.2.identity)) ++
            [(new.batchPk, (apiKeyId, key), operation, new.batchId)] := by
        rw [hbatches]
        exact List.map_append
      refine ⟨Table.get_eq_none.mp hnew, ?_⟩
      -- closing the batch at once changes neither who it is nor its items
      split
      · refine ⟨Eq.trans ?_ hrows, added, hitems, hserials, hof, hjobs⟩
        exact Table.rows_update _ fun _ => rfl
      · exact ⟨hrows, added, hitems, hserials, hof, hjobs⟩
    · cases made
  · cases made

section Insert

variable {s t : BatchState V} {reg : BatchRegistry} {added : List (Int × DisconnectBatchItem)}
  {newPk : Int}

/-- The items of other batches are left alone. -/
theorem itemsOf_other (items : t.items.rows = s.items.rows ++ added)
    (ofNew : ∀ i ∈ added, i.2.batchPk = newPk) {batchPk : Int} (hne : batchPk ≠ newPk) :
    itemsOf t.items batchPk = itemsOf s.items batchPk := by
  have hnone : added.filter (fun r => r.2.batchPk = batchPk) = [] := by
    refine List.filter_eq_nil_iff.mpr fun i hi heq => hne ?_
    rw [← of_decide_eq_true heq]
    exact ofNew i hi
  rw [itemsOf, items, List.filter_append, hnone, List.append_nil]
  rfl

/-- The items of a new batch are those that were added. -/
theorem Registers.itemsOf_new (h : Registers s reg) (items : t.items.rows = s.items.rows ++ added)
    (ofNew : ∀ i ∈ added, i.2.batchPk = newPk) (new : newPk ∉ s.batches.rows.map Prod.fst) :
    itemsOf t.items newPk = added := by
  have hnone : s.items.rows.filter (fun r => r.2.batchPk = newPk) = [] :=
    List.filter_eq_nil_iff.mpr fun i hi heq => new (of_decide_eq_true heq ▸ h.owned i hi)
  rw [itemsOf, items, List.filter_append, hnone, List.nil_append, List.filter_eq_self]
  exact fun i hi => decide_eq_true (ofNew i hi)

/-- A batch is registered with the set of the serial numbers it was asked for. -/
theorem Registers.insert (h : Registers s reg) {operation : BatchOperation}
    {request : DisconnectBatchRequest} {key : String} {apiKeyId : Int}
    {meters : String → Option Int} {new : NewBatch} (once : request.meters.Nodup)
    (unknown : reg.get (apiKeyId, key) = none)
    (made : insertBatch values s operation request key apiKeyId meters new = some t) :
    Registers t (reg.insert (apiKeyId, key)
      ((operation, request.meters.toFinset), new.batchId) unknown) := by
  obtain ⟨hnew, hbatches, added, hitems, hserials, hof, -⟩ := insertBatch_rows made
  have hfresh : serials t.items new.batchPk = request.meters := by
    rw [serials, h.itemsOf_new hitems hof hnew, hserials]
  have hold : ∀ {batchPk}, batchPk ≠ new.batchPk →
      serials t.items batchPk = serials s.items batchPk := by
    intro batchPk hne
    rw [serials, itemsOf_other hitems hof hne]
    rfl
  refine ⟨?_, fun i hi => ?_, fun batchPk => ?_⟩
  -- the old batches have the items they had
  · have hkept : (s.batches.rows.map fun r => (r.1, r.2.identity)).map (registered t.items) =
        (s.batches.rows.map fun r => (r.1, r.2.identity)).map (registered s.items) := by
      refine List.map_congr_left fun r hr => ?_
      have hne : r.1 ≠ new.batchPk := by
        rintro heq
        obtain ⟨r', hr', rfl⟩ := List.mem_map.mp hr
        exact hnew (heq ▸ List.mem_map_of_mem hr')
      rw [registered, registered, hold hne]
    rw [hbatches, List.map_append, hkept, h.rows, List.map_singleton, registered, hfresh]
    rfl
  · have hkeys : t.batches.rows.map Prod.fst = s.batches.rows.map Prod.fst ++ [new.batchPk] := by
      have hmap := congrArg (List.map Prod.fst) hbatches
      rw [List.map_append, List.map_map, List.map_map] at hmap
      exact hmap
    rw [hkeys]
    rw [hitems] at hi
    rcases List.mem_append.mp hi with hi | hi
    · exact List.mem_append_left _ (h.owned i hi)
    · rw [hof i hi]
      exact List.mem_append_right _ (List.mem_singleton_self _)
  -- the only place where it matters that no serial number is listed twice
  · rcases Decidable.em (batchPk = new.batchPk) with rfl | hne
    · rw [hfresh]
      exact once
    · rw [hold hne]
      exact h.once batchPk

end Insert

/-! ## Requests -/

/-- The request is answered with an error: it has no key, too many meters, or a key that was used
    for something else. -/
def TurnedAway (s : BatchState V) (operation : BatchOperation) (request : DisconnectBatchRequest)
    (idempotencyKey : Option String) (apiKeyId : Int) : Prop :=
  idempotencyKey = none ∨ idempotencyKey = some "" ∨ maxBatchSize < request.meters.length ∨
    ∃ key existing, idempotencyKey = some key ∧ existingBatch s apiKeyId key = some existing ∧
      sameContent s operation request existing = false

/-- A request for a batch is turned away, or answered from the batch with the same key, or a new
    batch is made for it. -/
theorem createBatch_cases {s t : BatchState V} {operation : BatchOperation}
    {request : DisconnectBatchRequest} {idempotencyKey : Option String} {apiKeyId : Int}
    {meters : String → Option Int} {new : NewBatch}
    {answer : Except BillingApiError DisconnectBatchAccepted}
    (h : createBatch values s operation request idempotencyKey apiKeyId meters new =
      some (t, answer)) :
    (t = s ∧ TurnedAway s operation request idempotencyKey apiKeyId ∧ ∃ e, answer = .error e) ∨
    ∃ key, idempotencyKey = some key ∧ key ≠ "" ∧
      ((∃ existing, existingBatch s apiKeyId key = some existing ∧
        sameContent s operation request existing = true ∧ t = s ∧
        answer = .ok (accepted request existing.2)) ∨
      existingBatch s apiKeyId key = none ∧
        insertBatch values s operation request key apiKeyId meters new = some t ∧
        ∃ batch, t.batches.get new.batchPk = some batch ∧
          answer = .ok (accepted request batch)) := by
  unfold createBatch at h
  split at h
  · cases h
    exact .inl ⟨rfl, .inl rfl, _, rfl⟩
  · cases h
    exact .inl ⟨rfl, .inr (.inl rfl), _, rfl⟩
  · rename_i key hkey
    have hne : key ≠ "" := hkey
    split at h
    · rename_i hlarge
      cases h
      exact .inl ⟨rfl, .inr (.inr (.inl hlarge)), _, rfl⟩
    · split at h
      · rename_i existing hexisting
        split at h
        · rename_i hsame
          cases h
          exact .inr ⟨key, rfl, hne, .inl ⟨existing, hexisting, hsame, rfl, rfl⟩⟩
        · rename_i hother
          cases h
          exact .inl ⟨rfl, .inr (.inr (.inr ⟨key, existing, rfl, hexisting,
            Bool.eq_false_iff.mpr hother⟩)), _, rfl⟩
      · rename_i hnone
        obtain ⟨u, hu, h⟩ := Option.bind_eq_some_iff.mp h
        obtain ⟨batch, hbatch, heq⟩ := Option.map_eq_some_iff.mp h
        cases heq
        exact .inr ⟨key, rfl, hne, .inr ⟨hnone, hu, batch, hbatch, rfl⟩⟩

/-- A request that is turned away changes nothing. -/
theorem createBatch_turnedAway {s : BatchState V} {operation : BatchOperation}
    {request : DisconnectBatchRequest} {idempotencyKey : Option String} {apiKeyId : Int}
    (away : TurnedAway s operation request idempotencyKey apiKeyId) (values : Values V)
    (meters : String → Option Int) (new : NewBatch) :
    ∃ e, createBatch values s operation request idempotencyKey apiKeyId meters new =
      some (s, .error e) := by
  unfold createBatch
  split
  · exact ⟨_, rfl⟩
  · exact ⟨_, rfl⟩
  · rename_i key hkey
    split
    · exact ⟨_, rfl⟩
    · rename_i hsize
      rcases away with hnone | hempty | hlarge | ⟨key', existing, heq, hexisting, hother⟩
      · cases hnone
      · exact absurd (Option.some.inj hempty) hkey
      · exact absurd hlarge hsize
      · cases heq
        rw [hexisting]
        dsimp only
        rw [if_neg (Bool.eq_false_iff.mp hother)]
        exact ⟨_, rfl⟩

/-- A request for what is there is answered with what is there. -/
theorem createBatch_again {s : BatchState V} {operation : BatchOperation}
    {request : DisconnectBatchRequest} {key : String} {apiKeyId : Int}
    {existing : Int × DisconnectBatch} (nonempty : key ≠ "")
    (size : request.meters.length ≤ maxBatchSize)
    (found : existingBatch s apiKeyId key = some existing)
    (same : sameContent s operation request existing = true) (values : Values V)
    (meters : String → Option Int) (new : NewBatch) :
    createBatch values s operation request (some key) apiKeyId meters new =
      some (s, .ok (accepted request existing.2)) := by
  unfold createBatch
  split
  · rename_i hnone
    cases hnone
  · rename_i hempty
    exact absurd (Option.some.inj hempty) nonempty
  · rename_i key' _ heq
    cases heq
    rw [if_neg (Nat.not_lt.mpr size), found]
    dsimp only
    rw [if_pos same]

/-- `_create_batch` serves the registry, if the request lists no serial number twice. -/
theorem Registers.create {s t : BatchState V} {reg : BatchRegistry} (h : Registers s reg)
    {operation : BatchOperation} {request : DisconnectBatchRequest} {key : String} {apiKeyId : Int}
    {meters : String → Option Int} {new : NewBatch} {answer : DisconnectBatchAccepted}
    (once : request.meters.Nodup)
    (served : createBatch values s operation request (some key) apiKeyId meters new =
      some (t, .ok answer)) :
    Registers t
      (Registry.serve reg (apiKeyId, key) (operation, request.meters.toFinset) new.batchId).1 ∧
    (Registry.serve reg (apiKeyId, key) (operation, request.meters.toFinset) new.batchId).2 =
      some answer.batchId := by
  have hlookup := h.existing apiKeyId key
  rcases createBatch_cases served with ⟨-, -, e, herror⟩ | ⟨key', hkey, -, hcase⟩
  · cases herror
  · cases hkey
    rcases hcase with ⟨existing, hexisting, hsame, rfl, hanswer⟩ | ⟨hnone, hmade, batch, hbatch, hanswer⟩
    · cases hanswer
      rw [hexisting, Option.map_some, sameContent_iff.mp hsame] at hlookup
      rw [Registry.serve_again hlookup]
      exact ⟨h, rfl⟩
    · cases hanswer
      rw [hnone, Option.map_none] at hlookup
      rw [Registry.serve_new hlookup]
      refine ⟨h.insert once hlookup hmade, ?_⟩
      have hmem : (new.batchPk, batch.identity) ∈ t.batches.rows.map fun r => (r.1, r.2.identity) :=
        List.mem_map.mpr ⟨_, Table.get_eq_some.mp hbatch, rfl⟩
      obtain ⟨hfresh, hrows, -⟩ := insertBatch_rows hmade
      rw [hrows] at hmem
      rcases List.mem_append.mp hmem with hmem | hmem
      -- an old batch does not have the new key
      · obtain ⟨r, hr, heq⟩ := List.mem_map.mp hmem
        have hpk : r.1 = new.batchPk := congrArg Prod.fst heq
        exact absurd (hpk ▸ List.mem_map_of_mem hr) hfresh
      · have hid : batch.identity = ((apiKeyId, key), operation, new.batchId) :=
          congrArg Prod.snd (List.mem_singleton.mp hmem)
        exact congrArg some (congrArg (fun i => i.2.2) hid).symm

/-! ## Runs with a record of what was accepted -/

/-- A request that was accepted: what it asked for, its answer, and the jobs it has made. -/
structure Served where
  apiKeyId : Int
  idempotencyKey : String
  operation : BatchOperation
  meters : List String
  answer : DisconnectBatchAccepted
  jobs : List Int
  deriving DecidableEq

def Served.key (e : Served) : Int × String := (e.apiKeyId, e.idempotencyKey)

def newJobs (s t : BatchState V) : List Int :=
  (t.core.jobs.rows.map Prod.fst).filter fun id => (s.core.jobs.get id).isNone

/-- What a step puts on record. -/
def served (values : Values V) (s : BatchState V) : BatchAction V → List Served
  | .create operation request (some key) apiKeyId meters new =>
    match createBatch values s operation request (some key) apiKeyId meters new with
    | some (t, .ok answer) => [⟨apiKeyId, key, operation, request.meters, answer, newJobs s t⟩]
    | _ => []
  | _ => []

def servedStep (values : Values V) (s : BatchState V × List Served) (a : BatchAction V) :
    Option (BatchState V × List Served) :=
  (batchStep values s.1 a).map fun t => (t, s.2 ++ served values s.1 a)

/-- A request that is not turned away lists no serial number twice. -/
def ListsOnce (s : BatchState V) : BatchAction V → Prop
  | .create operation request key apiKeyId .. =>
    TurnedAway s operation request key apiKeyId ∨ request.meters.Nodup
  | _ => True

/-- The state and the record agree with a registry. -/
structure Ledger (reg : BatchRegistry) (s : BatchState V) (log : List Served) : Prop where
  registers : Registers s reg
  answered : ∀ e ∈ log,
    reg.get e.key = some ((e.operation, e.meters.toFinset), e.answer.batchId)
  counted : ∀ e ∈ log, e.idempotencyKey ≠ "" ∧ e.meters.Nodup ∧
    e.answer.acceptedCount = e.meters.length
  /-- Every job that was made is the job of an item of its batch. -/
  jobs : ∀ e ∈ log, e.jobs.Nodup ∧ ∀ r ∈ s.batches.rows.map (fun r => (r.1, r.2.identity)),
    r.2.1 = e.key → ∀ id ∈ e.jobs, ∃ i ∈ (itemsOf s.items r.1).map (·.2.identity), i.2.2 = some id
  asked : ∀ r ∈ s.batches.rows.map (fun r => (r.1, r.2.identity)), ∃ e ∈ log, e.key = r.2.1

section Ledger

variable {reg : BatchRegistry} {s t : BatchState V} {log : List Served}

theorem newJobs_nodup (s t : BatchState V) : (newJobs s t).Nodup := t.core.jobs.keys.filter _

theorem mem_newJobs {id : Int} :
    id ∈ newJobs s t ↔ t.core.jobs.get id ≠ none ∧ s.core.jobs.get id = none := by
  rw [newJobs, List.mem_filter, Option.isNone_iff_eq_none]
  exact and_congr_left fun _ => (Table.get_eq_none.not.trans not_not).symm

theorem newJobs_self (s : BatchState V) : newJobs s s = [] :=
  List.eq_nil_iff_forall_not_mem.mpr fun _ hid =>
    (mem_newJobs.mp hid).1 (mem_newJobs.mp hid).2

theorem Registers.get_of_mem (h : Registers s reg) {r : Int × (Int × String) × BatchOperation × String}
    (hr : r ∈ s.batches.rows.map fun r => (r.1, r.2.identity)) :
    reg.get r.2.1 = some ((r.2.2.1, (serials s.items r.1).toFinset), r.2.2.2) := by
  rw [Table.get_eq_some, ← h.rows]
  exact List.mem_map.mpr ⟨r, hr, rfl⟩

theorem Ledger.same (h : Ledger reg s log) (same : SameBatches s t) : Ledger reg t log where
  registers := h.registers.same same
  answered := h.answered
  counted := h.counted
  jobs e he := by
    obtain ⟨hnodup, hjobs⟩ := h.jobs e he
    refine ⟨hnodup, fun r hr => ?_⟩
    rw [same.batches] at hr
    rw [itemsOf_identity same]
    exact hjobs r hr
  asked r hr := by
    rw [same.batches] at hr
    exact h.asked r hr

/-- A request for what is there already goes on record, and makes nothing. -/
theorem Ledger.again (h : Ledger reg s log) {e : Served}
    (answered : reg.get e.key = some ((e.operation, e.meters.toFinset), e.answer.batchId))
    (counted : e.idempotencyKey ≠ "" ∧ e.meters.Nodup ∧ e.answer.acceptedCount = e.meters.length)
    (nothing : e.jobs = []) : Ledger reg s (log ++ [e]) where
  registers := h.registers
  answered := List.forall_mem_append.mpr ⟨h.answered, List.forall_mem_singleton.mpr answered⟩
  counted := List.forall_mem_append.mpr ⟨h.counted, List.forall_mem_singleton.mpr counted⟩
  jobs := by
    refine List.forall_mem_append.mpr ⟨h.jobs, List.forall_mem_singleton.mpr ?_⟩
    rw [nothing]
    exact ⟨List.nodup_nil, fun r hr hkey id hid => (nomatch hid)⟩
  asked r hr := by
    obtain ⟨e', he', hkey⟩ := h.asked r hr
    exact ⟨e', List.mem_append_left _ he', hkey⟩

/-- A new batch goes on record with its request. -/
theorem Ledger.create (h : Ledger reg s log) {operation : BatchOperation}
    {request : DisconnectBatchRequest} {key : String} {apiKeyId : Int}
    {meters : String → Option Int} {new : NewBatch} {answer : DisconnectBatchAccepted}
    (once : request.meters.Nodup) (nonempty : key ≠ "")
    (served : createBatch values s operation request (some key) apiKeyId meters new =
      some (t, .ok answer))
    (counted : answer.acceptedCount = request.meters.length)
    (unknown : existingBatch s apiKeyId key = none)
    (made : insertBatch values s operation request key apiKeyId meters new = some t) :
    ∃ reg', Ledger reg' t
      (log ++ [⟨apiKeyId, key, operation, request.meters, answer, newJobs s t⟩]) := by
  obtain ⟨hregisters, hanswer⟩ := h.registers.create once served
  obtain ⟨hfresh, hbatches, added, hitems, -, hof, hjobs⟩ := insertBatch_rows made
  have hunknown : reg.get (apiKeyId, key) = none := by
    rw [h.registers.existing, unknown]
    rfl
  -- an old batch is under another key, and keeps its items
  have hold : ∀ r ∈ s.batches.rows.map (fun r => (r.1, r.2.identity)),
      r.2.1 ≠ (apiKeyId, key) ∧ itemsOf t.items r.1 = itemsOf s.items r.1 := by
    intro r hr
    refine ⟨fun heq => ?_, itemsOf_other hitems hof fun heq => ?_⟩
    · have hget := h.registers.get_of_mem hr
      rw [heq, hunknown] at hget
      cases hget
    · obtain ⟨r', hr', rfl⟩ := List.mem_map.mp hr
      exact hfresh (heq ▸ List.mem_map_of_mem hr')
  refine ⟨_, hregisters, ?_, ?_, ?_, ?_⟩
  · refine List.forall_mem_append.mpr ⟨fun e he => Registry.serve_keeps (h.answered e he), ?_⟩
    exact List.forall_mem_singleton.mpr (Registry.serve_registers hanswer)
  · refine List.forall_mem_append.mpr ⟨h.counted, ?_⟩
    exact List.forall_mem_singleton.mpr ⟨nonempty, once, counted⟩
  · rw [hbatches]
    refine List.forall_mem_append.mpr ⟨fun e he => ?_, List.forall_mem_singleton.mpr ?_⟩
    · obtain ⟨hnodup, hlinked⟩ := h.jobs e he
      refine ⟨hnodup, List.forall_mem_append.mpr ⟨fun r hr hkey => ?_,
        List.forall_mem_singleton.mpr fun hkey => ?_⟩⟩
      · rw [(hold r hr).2]
        exact hlinked r hr hkey
      · have hget := h.answered e he
        rw [← hkey, hunknown] at hget
        cases hget
    · refine ⟨newJobs_nodup s t, List.forall_mem_append.mpr ⟨fun r hr hkey => ?_,
        List.forall_mem_singleton.mpr fun _ id hid => ?_⟩⟩
      · exact absurd hkey (hold r hr).1
      · obtain ⟨hsome, hnone⟩ := mem_newJobs.mp hid
        obtain ⟨i, hi, hjob⟩ := hjobs id hsome hnone
        refine ⟨i.2.identity, List.mem_map.mpr ⟨i, ?_, rfl⟩, hjob⟩
        rw [h.registers.itemsOf_new hitems hof hfresh]
        exact hi
  · rw [hbatches]
    refine List.forall_mem_append.mpr ⟨fun r hr => ?_, List.forall_mem_singleton.mpr ?_⟩
    · obtain ⟨e, he, hkey⟩ := h.asked r hr
      exact ⟨e, List.mem_append_left _ he, hkey⟩
    · exact ⟨_, List.mem_append_right _ (List.mem_singleton_self _), rfl⟩

/-- What a step that meets the condition does to state and record, the registry follows. -/
theorem Ledger.step {a : BatchAction V} (h : Ledger reg s log) (cond : ListsOnce s a)
    (next : batchStep values s a = some t) :
    ∃ reg', Ledger reg' t (log ++ served values s a) := by
  have hother : (∀ operation request key apiKeyId meters new,
      a ≠ .create operation request key apiKeyId meters new) →
      ∃ reg', Ledger reg' t (log ++ []) := by
    intro hne
    rw [List.append_nil]
    exact ⟨reg, h.same (batchStep_same next hne)⟩
  cases a with
  | create operation request idempotencyKey apiKeyId meters new =>
    obtain ⟨⟨u, answer⟩, hcreate, heq⟩ := Option.map_eq_some_iff.mp next
    obtain rfl : u = t := heq
    rcases createBatch_cases hcreate with
      ⟨rfl, haway, e, rfl⟩ | ⟨key, rfl, hkey, hcase⟩
    -- what is turned away leaves no record
    · have hnothing : served values u
          (.create operation request idempotencyKey apiKeyId meters new) = [] := by
        cases idempotencyKey with
        | none => rfl
        | some key => rw [served, hcreate]
      rw [hnothing, List.append_nil]
      exact ⟨reg, h⟩
    -- what is accepted meets the second half of the condition
    · have honce : ∀ {answer}, createBatch values s operation request (some key) apiKeyId meters
          new = some (u, .ok answer) → request.meters.Nodup := by
        intro answer haccepted
        refine cond.resolve_left fun haway => ?_
        obtain ⟨e, herror⟩ := createBatch_turnedAway haway values meters new
        rw [herror] at haccepted
        cases haccepted
      rcases hcase with ⟨existing, hexisting, hsame, rfl, rfl⟩ | ⟨hnone, hmade, batch, hbatch, rfl⟩
      · have hget := h.registers.existing apiKeyId key
        rw [hexisting, Option.map_some, sameContent_iff.mp hsame] at hget
        rw [served, hcreate]
        exact ⟨reg, h.again hget ⟨hkey, honce hcreate, rfl⟩ (newJobs_self u)⟩
      · rw [served, hcreate]
        exact h.create (honce hcreate) hkey hcreate rfl hnone hmade
  | job session a => exact hother fun _ _ _ _ _ _ h => (nomatch h)
  | finalizeSelect f => exact hother fun _ _ _ _ _ _ h => (nomatch h)
  | finalizeGet f => exact hother fun _ _ _ _ _ _ h => (nomatch h)
  | finalizeCommit f now => exact hother fun _ _ _ _ _ _ h => (nomatch h)
  | restart now => exact hother fun _ _ _ _ _ _ h => (nomatch h)

end Ledger

/-! ## Every run -/

/-- The batch `r` serves the request `e`. -/
structure Serves (s : BatchState V) (r : Int × DisconnectBatch) (e : Served) : Prop where
  identity : r.2.identity = (e.key, e.operation, e.answer.batchId)
  /-- Every serial number of the request has exactly one item, and nothing else has one. -/
  item : ∀ serial ∈ e.meters, (serials s.items r.1).count serial = 1
  noOther : ∀ serial ∈ serials s.items r.1, serial ∈ e.meters
  /-- The jobs that were made are those of the items: at most one for a serial number. -/
  jobs : ∀ id ∈ e.jobs, ∃ i ∈ itemsOf s.items r.1, i.2.jobId = some id
  job : ∀ serial ∈ e.meters, (e.jobs.filter fun id => ∃ i ∈ itemsOf s.items r.1,
    i.2.meterSerial = serial ∧ i.2.jobId = some id).length ≤ 1

/-- What idempotency keys are for.  `P` is a condition on the next request. -/
structure Idempotent (values : Values V) (P : BatchState V → BatchAction V → Prop)
    (s : BatchState V) (log : List Served) : Prop where
  /-- One API key has at most one batch under an idempotency key. -/
  one : ∀ r ∈ s.batches.rows, ∀ r' ∈ s.batches.rows, r.2.apiKeyId = r'.2.apiKeyId →
    r.2.idempotencyKey = r'.2.idempotencyKey → r = r'
  /-- Every request that was accepted has its batch, and every batch its request. -/
  served : ∀ e ∈ log, ∃ r ∈ s.batches.rows, Serves s r e
  asked : ∀ r ∈ s.batches.rows, ∃ e ∈ log, Serves s r e
  /-- A later request for the same makes nothing, and is answered as the first was. -/
  again : ∀ e ∈ log, ∀ (request : DisconnectBatchRequest) (meters : String → Option Int)
    (new : NewBatch), request.meters.length ≤ maxBatchSize →
    P s (.create e.operation request (some e.idempotencyKey) e.apiKeyId meters new) →
    (∀ serial, serial ∈ request.meters ↔ serial ∈ e.meters) →
    ∃ answer, createBatch values s e.operation request (some e.idempotencyKey) e.apiKeyId meters
        new = some (s, .ok answer) ∧
      answer.batchId = e.answer.batchId ∧ answer.acceptedCount = e.answer.acceptedCount
  /-- A later request for something else is rejected, and changes nothing. -/
  other : ∀ e ∈ log, ∀ (operation : BatchOperation) (request : DisconnectBatchRequest)
    (meters : String → Option Int) (new : NewBatch),
    ¬ (operation = e.operation ∧ ∀ serial, serial ∈ request.meters ↔ serial ∈ e.meters) →
    ∃ error, createBatch values s operation request (some e.idempotencyKey) e.apiKeyId meters new =
      some (s, .error error)

section Every

variable {reg : BatchRegistry} {s : BatchState V} {log : List Served}

/-- A request that is on record is found under its key. -/
theorem Ledger.found (h : Ledger reg s log) {e : Served} (he : e ∈ log) :
    ∃ existing, existingBatch s e.apiKeyId e.idempotencyKey = some existing ∧
      existing.2.operation = e.operation ∧
      (serials s.items existing.1).toFinset = e.meters.toFinset ∧
      existing.2.batchId = e.answer.batchId := by
  have hget := h.answered e he
  rw [Served.key, h.registers.existing] at hget
  obtain ⟨existing, hexisting, heq⟩ := Option.map_eq_some_iff.mp hget
  obtain ⟨hcontent, hid⟩ := Prod.mk.inj heq
  obtain ⟨hoperation, hset⟩ := Prod.mk.inj hcontent
  exact ⟨existing, hexisting, hoperation, hset, hid⟩

/-- The batch under the key of a request serves it. -/
theorem Ledger.serves (h : Ledger reg s log) {e : Served} (he : e ∈ log)
    {r : Int × DisconnectBatch} (hr : r ∈ s.batches.rows)
    (hkey : (r.2.apiKeyId, r.2.idempotencyKey) = e.key) : Serves s r e := by
  have hmem : (r.1, r.2.identity) ∈ s.batches.rows.map fun r => (r.1, r.2.identity) :=
    List.mem_map.mpr ⟨r, hr, rfl⟩
  have hget := h.registers.get_of_mem hmem
  rw [show (r.1, r.2.identity).2.1 = e.key from hkey, h.answered e he] at hget
  obtain ⟨hcontent, hid⟩ := Prod.mk.inj (Option.some.inj hget)
  obtain ⟨hoperation, hset⟩ := Prod.mk.inj hcontent
  have hserials : ∀ serial, serial ∈ serials s.items r.1 ↔ serial ∈ e.meters := by
    intro serial
    rw [← List.mem_toFinset, ← List.mem_toFinset, hset]
  have hone := h.registers.once r.1
  refine ⟨?_, fun serial hserial => ?_, fun serial => (hserials serial).mp, fun id hjob => ?_,
    fun serial hserial => ?_⟩
  · rw [DisconnectBatch.identity, hkey, hoperation, hid]
    rfl
  · exact List.count_eq_one_of_mem hone ((hserials serial).mpr hserial)
  · obtain ⟨i, hi, hlink⟩ := (h.jobs e he).2 _ hmem hkey id hjob
    obtain ⟨i', hi', rfl⟩ := List.mem_map.mp hi
    exact ⟨i', hi', hlink⟩
  · -- two jobs of one serial number are jobs of one item
    have hsame : ∀ id ∈ e.jobs.filter fun id => ∃ i ∈ itemsOf s.items r.1,
        i.2.meterSerial = serial ∧ i.2.jobId = some id, ∀ id' ∈ e.jobs.filter fun id =>
        ∃ i ∈ itemsOf s.items r.1, i.2.meterSerial = serial ∧ i.2.jobId = some id, id = id' := by
      intro id hid id' hid'
      obtain ⟨i, hi, hof, hjob⟩ := of_decide_eq_true (List.mem_filter.mp hid).2
      obtain ⟨i', hi', hof', hjob'⟩ := of_decide_eq_true (List.mem_filter.mp hid').2
      obtain rfl := List.inj_on_of_nodup_map hone hi hi' (hof.trans hof'.symm)
      exact Option.some.inj (hjob.symm.trans hjob')
    have hnodup := (h.jobs e he).1.filter fun id => ∃ i ∈ itemsOf s.items r.1,
      i.2.meterSerial = serial ∧ i.2.jobId = some id
    generalize e.jobs.filter (fun id => ∃ i ∈ itemsOf s.items r.1,
      i.2.meterSerial = serial ∧ i.2.jobId = some id) = jobs at hsame hnodup ⊢
    match jobs with
    | [] => exact Nat.zero_le _
    | [id] => exact Nat.le_refl _
    | id :: id' :: rest =>
      have heq := hsame id (List.mem_cons_self ..) id' (List.mem_cons_of_mem _ (List.mem_cons_self ..))
      exact absurd (heq ▸ List.mem_cons_self ..) (List.nodup_cons.mp hnodup).1

/-- A state that agrees with a registry has all that idempotency keys are for. -/
theorem Ledger.idempotent (h : Ledger reg s log) : Idempotent values ListsOnce s log where
  one r hr r' hr' hapi hkey := by
    have hrows : (s.batches.rows.map fun r => (r.2.apiKeyId, r.2.idempotencyKey)).Nodup := by
      have hkeys := reg.keys
      rw [← h.registers.rows, List.map_map, List.map_map] at hkeys
      exact hkeys
    exact List.inj_on_of_nodup_map hrows hr hr' (by rw [hapi, hkey])
  served e he := by
    obtain ⟨r, hr, -⟩ := h.found he
    have hkey := of_decide_eq_true (List.find?_some
      (p := fun r : Int × DisconnectBatch => decide (r.2.apiKeyId = e.apiKeyId ∧
        r.2.idempotencyKey = e.idempotencyKey)) hr)
    have hmem := List.mem_of_find?_eq_some hr
    exact ⟨r, hmem, h.serves he hmem (by rw [hkey.1, hkey.2]; rfl)⟩
  asked r hr := by
    obtain ⟨e, he, hkey⟩ := h.asked _ (List.mem_map.mpr ⟨r, hr, rfl⟩)
    exact ⟨e, he, h.serves he hr hkey.symm⟩
  again e he request meters new size cond same := by
    obtain ⟨existing, hexisting, hoperation, hset, hid⟩ := h.found he
    obtain ⟨hkey, honce, hcount⟩ := h.counted e he
    have hmeters : request.meters.toFinset = e.meters.toFinset := by
      ext serial
      rw [List.mem_toFinset, List.mem_toFinset, same]
    have hsame : sameContent s e.operation request existing = true := by
      rw [sameContent_iff, hoperation, hset, hmeters]
    have hcreate := createBatch_again hkey size hexisting hsame values meters new
    have hnodup : request.meters.Nodup := by
      refine cond.resolve_left fun haway => ?_
      obtain ⟨error, herror⟩ := createBatch_turnedAway haway values meters new
      rw [hcreate] at herror
      cases herror
    refine ⟨_, hcreate, hid, ?_⟩
    -- both lists name the elements of one set once each
    rw [hcount, ← List.toFinset_card_of_nodup honce, ← hmeters,
      List.toFinset_card_of_nodup hnodup]
    rfl
  other e he operation request meters new different := by
    obtain ⟨existing, hexisting, hoperation, hset, -⟩ := h.found he
    refine createBatch_turnedAway (.inr (.inr (.inr
      ⟨e.idempotencyKey, existing, rfl, hexisting, ?_⟩))) values meters new
    refine Bool.eq_false_iff.mpr fun hsame => different ?_
    have hcontent := sameContent_iff.mp hsame
    rw [hoperation, hset] at hcontent
    obtain ⟨hop, hmeters⟩ := Prod.mk.inj hcontent
    refine ⟨hop.symm, fun serial => ?_⟩
    rw [← List.mem_toFinset, ← List.mem_toFinset, hmeters]

end Every

/-- In every run whose requests list no serial number twice, unless they are turned away, there is
    one batch for a key, with one item and at most one job for each serial number, and a repeated
    request is answered as the first was. -/
theorem batches_idempotent {core : JobState V} {actions : List (BatchAction V)} {s : BatchState V}
    {log : List Served}
    (run : Run (servedStep values) (fun s a => ListsOnce s.1 a) ({ core := core }, []) actions
      (s, log)) : Idempotent values ListsOnce s log := by
  have hledger : ∃ reg, Ledger reg (s, log).1 (s, log).2 := by
    refine run.invariant (I := fun s => ∃ reg, Ledger reg s.1 s.2) ?_ ?_
    · have hnone : ∀ batchPk, itemsOf (⟨[], List.nodup_nil⟩ : Table Int DisconnectBatchItem) batchPk =
          [] := fun _ => rfl
      refine ⟨⟨[], List.nodup_nil⟩, ⟨rfl, fun i hi => (nomatch hi), fun batchPk => ?_⟩,
        fun e he => (nomatch he), fun e he => (nomatch he), fun e he => (nomatch he),
        fun r hr => (nomatch hr)⟩
      rw [serials, hnone]
      exact List.nodup_nil
    · rintro s a t ⟨reg, hledger⟩ cond next
      obtain ⟨u, hnext, rfl⟩ := Option.map_eq_some_iff.mp next
      exact hledger.step cond hnext
  obtain ⟨reg, hledger⟩ := hledger
  exact hledger.idempotent

/-- A batch of three meters, and the same request once more. -/
theorem batches_idempotent_retry : ∃ (s : BatchState Nat) (log : List Served),
    log.map (fun e => (e.answer.batchId, e.answer.acceptedCount, e.jobs)) =
      [("b-1", 3, [1, 2]), ("b-1", 3, [])] ∧ Idempotent plainValues ListsOnce s log := by
  have hexec : (exec (servedStep plainValues) ({ core := { jobs := ⟨[], List.nodup_nil⟩ } }, [])
      [createBoth ["404"], createBoth ["404"]]).map
        (fun s => s.2.map fun e => (e.answer.batchId, e.answer.acceptedCount, e.jobs)) =
      some [("b-1", 3, [1, 2]), ("b-1", 3, [])] := by decide
  obtain ⟨⟨s, log⟩, hrun, hresult⟩ := Option.map_eq_some_iff.mp hexec
  obtain ⟨t, hfirst, hrun⟩ := Option.bind_eq_some_iff.mp hrun
  obtain ⟨u, hsecond, hrun⟩ := Option.bind_eq_some_iff.mp hrun
  obtain rfl := Option.some.inj hrun
  have honce : ∀ s : BatchState Nat, ListsOnce s (createBoth ["404"]) := fun s =>
    Or.inr (by decide)
  exact ⟨s, log, hresult,
    batches_idempotent (.snoc (.snoc .nil (honce _) hfirst) (honce _) hsecond)⟩

/-- A serial number that is listed twice has two items, and two jobs switch the relay. -/
theorem serial_listed_twice :
    ¬ ∀ (actions : List (BatchAction Nat)) (s : BatchState Nat) (log : List Served),
      Run (servedStep plainValues) (fun _ _ => True) ({ core := { jobs := ⟨[], List.nodup_nil⟩ } }, [])
        actions (s, log) → Idempotent plainValues (fun _ _ => True) s log := by
  intro h
  have hexec : (exec (guarded (servedStep plainValues) fun _ _ => True)
      ({ core := { jobs := ⟨[], List.nodup_nil⟩ } }, []) [createBoth ["202310000007"]]).map
        (fun s => (s.1.batches.rows.map Prod.fst, serials s.1.items 1, s.2.map (·.jobs))) =
      some ([1], ["202310000007", "202310000008", "202310000007"], [[1, 2, 3]]) := by decide
  obtain ⟨⟨s, log⟩, hrun, hresult⟩ := Option.map_eq_some_iff.mp hexec
  obtain ⟨hbatches, hrest⟩ := Prod.mk.inj hresult
  obtain ⟨hserials, -⟩ := Prod.mk.inj hrest
  have hall := h _ s log (Run.of_guarded hrun)
  have hone : 1 ∈ s.batches.rows.map Prod.fst := by rw [hbatches]; exact List.mem_singleton_self 1
  obtain ⟨r, hr, hpk⟩ := List.mem_map.mp hone
  obtain ⟨e, -, hserves⟩ := hall.asked r hr
  have hcount := hserves.item "202310000007"
    (hserves.noOther _ (by rw [hpk, hserials]; decide))
  rw [hpk, hserials] at hcount
  exact absurd hcount (by decide)

end RiseSun.Backend
