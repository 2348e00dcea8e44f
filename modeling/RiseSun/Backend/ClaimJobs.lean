/-
  The claim endpoint of the Gateway (`api/gateway_internal.py`, `claim_due_jobs_for_meter`).

  1. **Program** — the rows a claim takes, set `RUNNING` before the answer is built; the answer
     routes each row by its type into one of three lists.

  2. **Routing** (`routeAll_ids`) — the ids of a list are those of the rows of its types.

  3. **Attempted** (`claimDueJobs_attempts`) — the queries separate jobs by one notion of priority
     and the lists by another: reading the relay state goes before everything, but stands in the
     list of reads, which the Gateway leaves aside when there are control jobs.  So every claimed
     job is attempted exactly when the priority jobs taken are not of both kinds (and the answer
     can be built at all).
-/
import RiseSun.Lib.Proc
import RiseSun.Gateway.BackendClient
import RiseSun.Backend.Jobs

namespace RiseSun.Backend

open Gateway (DueJob DueLoadProfileJob DueControlJob ClaimDueJobsResult Lane)

variable {V : Type}

def JobType.value : JobType → String
  | .readCurrent => "read_current"
  | .writeDatetime => "write_datetime"
  | .writeParameter => "write_parameter"
  | .readLoadProfile => "read_load_profile"
  | .disconnect => "disconnect"
  | .reconnect => "reconnect"
  | .readRatedCurrent => "read_rated_current"
  | .readRelayState => "read_relay_state"
  | .unknown name => name

/-! ## Program -/

inductive MeterStatus
  | installed
  | active
  deriving DecidableEq, Repr

/-- The columns of a meter's row that a claim reads. -/
structure Meter where
  serialNumber : String
  isCallHome : Bool := false
  protocolProfile : Option String
  passwordEncrypted : Option (List UInt8)
  isActive : Bool := true
  status : MeterStatus
  deriving DecidableEq, Repr

structure Settings where
  immediateReadEnabled : Bool := false
  immediateReadAllowedSerials : List String := []
  gatewayInternalClaimBatchMax : Nat := 50

/-- The body of the request; the Gateway leaves both fields out. -/
structure ClaimDueJobsRequest where
  jobTypes : List JobType := [.readCurrent, .readRatedCurrent, .readLoadProfile, .disconnect,
    .reconnect, .readRelayState]
  maxJobs : Option Nat := none

inductive ClaimError
  | keyError (key : String)
  /-- The password cannot be decrypted, or is not ASCII. -/
  | password
  deriving DecidableEq, Repr

/-- The three lists being filled. -/
structure Routed where
  jobs : List DueJob := []
  loadProfileJobs : List DueLoadProfileJob := []
  controlJobs : List DueControlJob := []
  deriving DecidableEq, Repr

def payloadKey (key : String) : Option String → Except ClaimError String
  | some value => .ok value
  | none => .error (.keyError key)

/-- One round of the routing loop, the rows after it being routed already. -/
def route (id : Int) (job : Job V) (rest : Routed) : Except ClaimError Routed :=
  match job.jobType with
  | .readCurrent => do
    let obis ← payloadKey "obis" job.payload.obis
    .ok { rest with
      jobs := ⟨id, job.jobType.value, obis, job.payload.classId.getD 0⟩ :: rest.jobs }
  | .readRatedCurrent =>
    .ok { rest with jobs := ⟨id, job.jobType.value, ratedCurrentObis, 0⟩ :: rest.jobs }
  | .readRelayState =>
    .ok { rest with jobs := ⟨id, job.jobType.value, relayStateObis, 1⟩ :: rest.jobs }
  | .readLoadProfile => do
    let fromIso ← payloadKey "from_iso" job.payload.fromIso
    let toIso ← payloadKey "to_iso" job.payload.toIso
    let obis := match job.payload.obis with
      | none | some "" => defaultLoadProfileObis
      | some obis => obis
    .ok { rest with
      loadProfileJobs := ⟨id, obis, job.payload.classId.getD 0, fromIso, toIso⟩ ::
        rest.loadProfileJobs }
  | .disconnect | .reconnect =>
    .ok { rest with controlJobs := ⟨id, job.jobType.value⟩ :: rest.controlJobs }
  | .writeDatetime | .writeParameter | .unknown _ => .ok rest

def routeAll : List (Int × Job V) → Except ClaimError Routed
  | [] => .ok {}
  | r :: rows => do
    let rest ← routeAll rows
    route r.1 r.2 rest

section Endpoint

variable (locked : Int → Bool) (tie : Int → Nat) (meterId : Int) (jobTypes : List JobType)
  (limit : Nat) (jobs : Table Int (Job V))

/-- The rows `claim_due_jobs_for_meter` takes. -/
def claimedRows : List (Int × Job V) :=
  if duePriorityJobs locked tie meterId jobTypes limit jobs ≠ [] then
    duePriorityJobs locked tie meterId jobTypes limit jobs
  else dueJobs locked tie meterId jobTypes limit jobs

/-- `claim_due_jobs_for_meter`: the table with the rows taken, and these rows. -/
def claimDueJobsForMeter (now : Int) : Table Int (Job V) × List (Int × Job V) :=
  let rows := claimedRows locked tie meterId jobTypes limit jobs
  (startAll (rows.map (·.1)) now jobs, rows.map fun r => (r.1, r.2.start now))

end Endpoint

/-- A meter the event path works with. -/
def Meter.isServed (meter : Meter) : Bool :=
  meter.isCallHome ∧ meter.isActive ∧ meter.status = .active ∧ meter.protocolProfile.isSome ∧
    meter.passwordEncrypted.isSome

/-- The meter a claim is for, if the event path serves it. -/
def servedMeter (settings : Settings) (meters : Table Int Meter) (serial : String) :
    Option (Int × Meter) :=
  if settings.immediateReadEnabled = false then none
  else if settings.immediateReadAllowedSerials ≠ [] ∧
      serial ∉ settings.immediateReadAllowedSerials then none
  else (meters.rows.find? fun r => r.2.serialNumber = serial).filter fun r => r.2.isServed

/-- The answer with the three lists. -/
def Routed.response (routed : Routed) (meterId : Int) (meter : Meter) (password : String) :
    ClaimDueJobsResult where
  meterFound := true
  meterId := some meterId
  protocolProfile := meter.protocolProfile
  password := some password
  jobs := routed.jobs
  loadProfileJobs := routed.loadProfileJobs
  controlJobs := routed.controlJobs

/-- `body.max_jobs or settings.gateway_internal_claim_batch_max`. -/
def claimLimit (settings : Settings) (body : ClaimDueJobsRequest) : Nat :=
  match body.maxJobs with
  | none | some 0 => settings.gatewayInternalClaimBatchMax
  | some maxJobs => maxJobs

/-- `claim_due_jobs`: the rows are committed before the answer is built.  `decrypt` is
    `decrypt_secret` and the decoding of its result. -/
def claimDueJobs (settings : Settings) (decrypt : List UInt8 → Option String)
    (meters : Table Int Meter) (locked : Int → Bool) (tie : Int → Nat) (jobs : Table Int (Job V))
    (serial : String) (body : ClaimDueJobsRequest) (now : Int) :
    Table Int (Job V) × Except ClaimError ClaimDueJobsResult :=
  match servedMeter settings meters serial with
  | none => (jobs, .ok { meterFound := false })
  | some (meterId, meter) =>
    let claim := claimDueJobsForMeter locked tie meterId body.jobTypes (claimLimit settings body)
      jobs now
    (claim.1, do
      let routed ← routeAll claim.2
      match meter.passwordEncrypted.bind decrypt with
      | none => .error .password
      | some password => .ok (routed.response meterId meter password))

/-! ## Routing -/

/-- The list a type is routed into. -/
def JobType.lane : JobType → Option Lane
  | .readCurrent | .readRatedCurrent | .readRelayState => some .jobs
  | .readLoadProfile => some .loadProfileJobs
  | .disconnect | .reconnect => some .controlJobs
  | .writeDatetime | .writeParameter | .unknown _ => none

def Routed.ids (routed : Routed) : Lane → List Int
  | .jobs => routed.jobs.map (·.jobId)
  | .loadProfileJobs => routed.loadProfileJobs.map (·.jobId)
  | .controlJobs => routed.controlJobs.map (·.jobId)

/-- The keys of the payload the routing of a row reads are there. -/
def Job.Routable (job : Job V) : Prop :=
  (job.jobType = .readCurrent → job.payload.obis.isSome) ∧
    (job.jobType = .readLoadProfile → job.payload.fromIso.isSome ∧ job.payload.toIso.isSome)

theorem payloadKey_ok {key : String} {value : Option String} {text : String}
    (h : payloadKey key value = .ok text) : value.isSome := by
  rcases value with _ | _
  · cases h
  · rfl

theorem payloadKey_isSome (key : String) {value : Option String} (h : value.isSome) :
    ∃ text, payloadKey key value = .ok text := by
  obtain ⟨text, rfl⟩ := Option.isSome_iff_exists.mp h
  exact ⟨text, rfl⟩

/-- A row that is routed stands in front of the list of its type, and nowhere else. -/
theorem route_ok {id : Int} {job : Job V} {rest routed : Routed}
    (h : route id job rest = .ok routed) :
    job.Routable ∧ ∀ lane, routed.ids lane =
      if job.jobType.lane = some lane then id :: rest.ids lane else rest.ids lane := by
  rw [route] at h
  rw [Job.Routable]
  split at h
  · next htype =>
    obtain ⟨obis, hobis, h⟩ := Result.bind_eq_ok h
    obtain rfl := Except.ok.inj h
    simp only [htype, JobType.lane]
    exact ⟨⟨fun _ => payloadKey_ok hobis, fun h => nomatch h⟩, fun lane => by cases lane <;> rfl⟩
  · next htype =>
    obtain rfl := Except.ok.inj h
    simp only [htype, JobType.lane]
    exact ⟨⟨fun h => (nomatch h), fun h => nomatch h⟩, fun lane => by cases lane <;> rfl⟩
  · next htype =>
    obtain rfl := Except.ok.inj h
    simp only [htype, JobType.lane]
    exact ⟨⟨fun h => (nomatch h), fun h => nomatch h⟩, fun lane => by cases lane <;> rfl⟩
  · next htype =>
    obtain ⟨fromIso, hfrom, h⟩ := Result.bind_eq_ok h
    obtain ⟨toIso, hto, h⟩ := Result.bind_eq_ok h
    obtain rfl := Except.ok.inj h
    simp only [htype, JobType.lane]
    exact ⟨⟨fun h => (nomatch h), fun _ => ⟨payloadKey_ok hfrom, payloadKey_ok hto⟩⟩,
      fun lane => by cases lane <;> rfl⟩
  all_goals
    next htype =>
    obtain rfl := Except.ok.inj h
    simp only [htype, JobType.lane]
    exact ⟨⟨fun h => (nomatch h), fun h => nomatch h⟩, fun lane => by cases lane <;> rfl⟩

/-- With the keys it reads a row can always be routed. -/
theorem route_total (id : Int) {job : Job V} (rest : Routed) (h : job.Routable) :
    ∃ routed, route id job rest = .ok routed := by
  rw [route]
  split
  · next htype =>
    obtain ⟨obis, hobis⟩ := payloadKey_isSome "obis" (h.1 htype)
    exact ⟨_, by rw [hobis]; rfl⟩
  · exact ⟨_, rfl⟩
  · exact ⟨_, rfl⟩
  · next htype =>
    obtain ⟨hfrom, hto⟩ := h.2 htype
    obtain ⟨fromIso, hfrom⟩ := payloadKey_isSome "from_iso" hfrom
    obtain ⟨toIso, hto⟩ := payloadKey_isSome "to_iso" hto
    exact ⟨_, by rw [hfrom, hto]; rfl⟩
  all_goals exact ⟨_, rfl⟩

/-- The ids of a list are those of the rows of its types. -/
theorem routeAll_ids : ∀ {rows : List (Int × Job V)} {routed : Routed},
    routeAll rows = .ok routed → (∀ r ∈ rows, r.2.Routable) ∧ ∀ lane,
      routed.ids lane = (rows.filter fun r => r.2.jobType.lane = some lane).map (·.1)
  | [], routed, h => by
    obtain rfl := Except.ok.inj h
    exact ⟨fun r hr => absurd hr List.not_mem_nil, fun lane => by cases lane <;> rfl⟩
  | r :: rows, routed, h => by
    obtain ⟨rest, hrest, h⟩ := Result.bind_eq_ok h
    obtain ⟨hrows, hids⟩ := routeAll_ids hrest
    obtain ⟨hrow, hfront⟩ := route_ok h
    refine ⟨List.forall_mem_cons.mpr ⟨hrow, hrows⟩, fun lane => ?_⟩
    rw [hfront, List.filter_cons, hids]
    rcases Decidable.em (r.2.jobType.lane = some lane) with hlane | hlane
    · rw [if_pos hlane, if_pos (decide_eq_true hlane), List.map_cons]
    · rw [if_neg hlane, if_neg (by simpa using hlane)]

theorem routeAll_total : ∀ {rows : List (Int × Job V)}, (∀ r ∈ rows, r.2.Routable) →
    ∃ routed, routeAll rows = .ok routed
  | [], _ => ⟨{}, rfl⟩
  | r :: rows, h => by
    obtain ⟨hrow, hrows⟩ := List.forall_mem_cons.mp h
    obtain ⟨rest, hrest⟩ := routeAll_total hrows
    obtain ⟨routed, hrouted⟩ := route_total r.1 rest hrow
    exact ⟨routed, by rw [routeAll, hrest]; exact hrouted⟩

/-! ## Claimed rows -/

section Claimed

variable {locked : Int → Bool} {tie : Int → Nat} {meterId : Int} {jobTypes : List JobType}
  {limit : Nat} {jobs : Table Int (Job V)}

theorem mem_claimedRows {r : Int × Job V}
    (h : r ∈ claimedRows locked tie meterId jobTypes limit jobs) :
    r ∈ jobs.rows ∧ isDue locked meterId jobTypes r = true := by
  rw [claimedRows] at h
  split at h
  · exact ⟨(mem_duePriorityJobs h).1, (mem_duePriorityJobs h).2.1⟩
  · exact mem_dueJobs h

theorem claimedRows_nodup :
    ((claimedRows locked tie meterId jobTypes limit jobs).map (·.1)).Nodup := by
  have hsub : (claimedRows locked tie meterId jobTypes limit jobs).Nodup := by
    have hrows : jobs.rows.Nodup := List.Nodup.of_map _ jobs.keys
    rw [claimedRows]
    split
    · exact orderBy_nodup _ (hrows.filter _)
    · exact orderBy_nodup _ (hrows.filter _)
  refine List.Nodup.map_on (fun r hr s hs hid => ?_) hsub
  exact List.inj_on_of_nodup_map jobs.keys (mem_claimedRows hr).1 (mem_claimedRows hs).1 hid

/-- Outside the priority rows a claim takes no priority type: an empty priority query leaves no due
    row of such a type. -/
theorem mem_duePriorityJobs_of_claimed {r : Int × Job V}
    (h : r ∈ claimedRows locked tie meterId jobTypes limit jobs)
    (hpriority : r.2.jobType ∈ priorityJobTypes) :
    r ∈ duePriorityJobs locked tie meterId jobTypes limit jobs := by
  rw [claimedRows] at h
  split at h
  · exact h
  · next hnone =>
    have hlimit : 0 < limit := by
      rcases Nat.eq_zero_or_pos limit with rfl | hpos
      · exact absurd h List.not_mem_nil
      · exact hpos
    have hempty := (orderBy_eq_nil (byCreation tie) hlimit).mp (not_not.mp hnone)
    obtain ⟨hmem, hdue⟩ := mem_dueJobs h
    obtain ⟨hmeter, htype, hrest⟩ := of_decide_eq_true hdue
    refine absurd (List.mem_filter.mpr ⟨hmem, decide_eq_true ⟨hmeter, ?_, hrest⟩⟩)
      (List.eq_nil_iff_forall_not_mem.mp hempty r)
    exact List.mem_filter.mpr ⟨htype, decide_eq_true hpriority⟩

/-- The priority rows are all that a claim takes, if there are any. -/
theorem claimedRows_of_priority {r : Int × Job V}
    (h : r ∈ duePriorityJobs locked tie meterId jobTypes limit jobs) :
    claimedRows locked tie meterId jobTypes limit jobs =
      duePriorityJobs locked tie meterId jobTypes limit jobs :=
  if_pos (List.ne_nil_of_mem h)

end Claimed

/-- The queued job `id` has been set `RUNNING`. -/
def Started (before after : Table Int (Job V)) (id : Int) : Prop :=
  (∃ job, before.get id = some job ∧ job.status = .queued) ∧
    ∃ job, after.get id = some job ∧ job.status = .running

theorem not_started_self {jobs : Table Int (Job V)} {id : Int} : ¬ Started jobs jobs id := by
  rintro ⟨⟨job, hget, hqueued⟩, job', hget', hrunning⟩
  obtain rfl := Option.some.inj (hget.symm.trans hget')
  rw [hqueued] at hrunning
  cases hrunning

/-- A claim starts the rows its queries take, and no other. -/
theorem started_claim {locked : Int → Bool} {tie : Int → Nat} {meterId : Int}
    {jobTypes : List JobType} {limit : Nat} {jobs : Table Int (Job V)} {now : Int} {id : Int} :
    Started jobs (claimDueJobsForMeter locked tie meterId jobTypes limit jobs now).1 id ↔
      id ∈ (claimedRows locked tie meterId jobTypes limit jobs).map (·.1) := by
  constructor
  · rintro ⟨⟨job, hget, hqueued⟩, job', hget', hrunning⟩
    rw [claimDueJobsForMeter, startAll, Table.get_modify, hget] at hget'
    obtain rfl := Option.some.inj hget'
    by_contra hout
    dsimp only at hrunning
    rw [if_neg hout, hqueued] at hrunning
    cases hrunning
  · intro h
    obtain ⟨r, hr, rfl⟩ := List.mem_map.mp h
    obtain ⟨hmem, hdue⟩ := mem_claimedRows hr
    have hget := Table.get_eq_some.mpr hmem
    refine ⟨⟨r.2, hget, (of_decide_eq_true hdue).2.2.1⟩, r.2.start now, ?_, rfl⟩
    rw [claimDueJobsForMeter, startAll, Table.get_modify, hget]
    exact congrArg some (if_pos h)

/-! ## Attempted -/

/-- Among the priority jobs taken are both a relay command and a reading of the relay's state. -/
def MixesControl (rows : List (Int × Job V)) : Prop :=
  (∃ r ∈ rows, r.2.jobType = .readRelayState) ∧
    ∃ r ∈ rows, r.2.jobType = .disconnect ∨ r.2.jobType = .reconnect

/-- A row that is routed into a list the call goes through is attempted. -/
theorem attempts_of_lane {rows : List (Int × Job V)} {claimed : Gateway.ClaimDueJobsResult}
    (hnodup : (rows.map (·.1)).Nodup)
    (hids : ∀ lane, claimed.ids lane =
      (rows.filter fun r => r.2.jobType.lane = some lane).map (·.1))
    {r : Int × Job V} (hr : r ∈ rows) {lane : Lane} (hlane : r.2.jobType.lane = some lane)
    (hgone : lane ∈ claimed.lanes) : claimed.Attempts r.1 := by
  refine ⟨lane, hgone, ?_, fun other hother hmem => ?_⟩
  · rw [hids]
    refine List.count_eq_one_of_mem ?_ ?_
    · exact hnodup.sublist ((List.filter_sublist).map _)
    · exact List.mem_map_of_mem (List.mem_filter.mpr ⟨hr, decide_eq_true hlane⟩)
  · rw [hids] at hmem
    obtain ⟨s, hs, hid⟩ := List.mem_map.mp hmem
    obtain ⟨hs, hother'⟩ := List.mem_filter.mp hs
    obtain rfl := List.inj_on_of_nodup_map hnodup hs hr hid
    rw [hlane] at hother'
    exact hother (Option.some.inj (of_decide_eq_true hother')).symm

theorem lane_of_attempts {rows : List (Int × Job V)} {claimed : Gateway.ClaimDueJobsResult}
    (hnodup : (rows.map (·.1)).Nodup)
    (hids : ∀ lane, claimed.ids lane =
      (rows.filter fun r => r.2.jobType.lane = some lane).map (·.1))
    {r : Int × Job V} (hr : r ∈ rows) (h : claimed.Attempts r.1) :
    ∃ lane ∈ claimed.lanes, r.2.jobType.lane = some lane := by
  obtain ⟨lane, hgone, hcount, -⟩ := h
  have hmem : r.1 ∈ claimed.ids lane := List.count_pos_iff.mp (by omega)
  rw [hids] at hmem
  obtain ⟨s, hs, hid⟩ := List.mem_map.mp hmem
  obtain ⟨hs, hlane⟩ := List.mem_filter.mp hs
  obtain rfl := List.inj_on_of_nodup_map hnodup hs hr hid
  exact ⟨lane, hgone, of_decide_eq_true hlane⟩

theorem JobType.lane_control {jobType : JobType} :
    jobType.lane = some .controlJobs ↔ jobType = .disconnect ∨ jobType = .reconnect := by
  rcases jobType with _ | _ | _ | _ | _ | _ | _ | _ | _ <;> simp [JobType.lane]

/-- Every row is attempted exactly when each has a list and a relay command stands with relay
    commands only: the call goes through one list or through the other two. -/
theorem forall_attempts_iff {rows : List (Int × Job V)} {claimed : Gateway.ClaimDueJobsResult}
    (hfound : claimed.meterFound) (hnodup : (rows.map (·.1)).Nodup)
    (hids : ∀ lane, claimed.ids lane =
      (rows.filter fun r => r.2.jobType.lane = some lane).map (·.1)) :
    (∀ r ∈ rows, claimed.Attempts r.1) ↔ (∀ r ∈ rows, r.2.jobType.lane.isSome) ∧
      ((∃ r ∈ rows, r.2.jobType.lane = some .controlJobs) →
        ∀ r ∈ rows, r.2.jobType.lane = some .controlJobs) := by
  have hcontrol : claimed.controlJobs = [] ↔ ∀ r ∈ rows, r.2.jobType.lane ≠ some .controlJobs := by
    have hlist := hids .controlJobs
    rw [Gateway.ClaimDueJobsResult.ids] at hlist
    rw [← List.map_eq_nil_iff, hlist, List.map_eq_nil_iff, List.filter_eq_nil_iff]
    exact forall₂_congr fun r _ => not_congr decide_eq_true_iff
  constructor
  · intro h
    refine ⟨fun r hr => ?_, ?_⟩
    · obtain ⟨lane, -, hlane⟩ := lane_of_attempts hnodup hids hr (h r hr)
      rw [hlane]
      rfl
    · rintro ⟨c, hc, hcommand⟩ r hr
      obtain ⟨lane, hgone, hlane⟩ := lane_of_attempts hnodup hids hr (h r hr)
      rw [Gateway.ClaimDueJobsResult.lanes_control hfound
        fun hnil => hcontrol.mp hnil c hc hcommand] at hgone
      rw [hlane, List.mem_singleton.mp hgone]
  · rintro ⟨hsome, hall⟩ r hr
    obtain ⟨lane, hlane⟩ := Option.isSome_iff_exists.mp (hsome r hr)
    rcases Decidable.em (claimed.controlJobs = []) with hnil | hcons
    · have hmem : r.1 ∈ claimed.ids lane := by
        rw [hids]
        exact List.mem_map_of_mem (List.mem_filter.mpr ⟨hr, decide_eq_true hlane⟩)
      exact attempts_of_lane hnodup hids hr hlane
        (Gateway.ClaimDueJobsResult.mem_lanes hfound hnil hmem)
    · have hcommand : ∃ c ∈ rows, c.2.jobType.lane = some .controlJobs := by
        by_contra hnone
        exact hcons (hcontrol.mpr fun c hc h => hnone ⟨c, hc, h⟩)
      refine attempts_of_lane hnodup hids hr (hall hcommand r hr) ?_
      rw [Gateway.ClaimDueJobsResult.lanes_control hfound hcons]
      exact List.mem_singleton.mpr rfl

/-- The rows of one claim stay apart exactly when its priority rows do. -/
theorem commands_apart_iff {locked : Int → Bool} {tie : Int → Nat} {meterId : Int}
    {jobTypes : List JobType} {limit : Nat} {jobs : Table Int (Job V)} :
    ((∃ r ∈ claimedRows locked tie meterId jobTypes limit jobs,
        r.2.jobType.lane = some .controlJobs) →
      ∀ r ∈ claimedRows locked tie meterId jobTypes limit jobs,
        r.2.jobType.lane = some .controlJobs) ↔
      ¬ MixesControl (duePriorityJobs locked tie meterId jobTypes limit jobs) := by
  constructor
  · rintro hapart ⟨⟨r, hr, hread⟩, c, hc, hcommand⟩
    rw [claimedRows_of_priority hr] at hapart
    have hlane := hapart ⟨c, hc, JobType.lane_control.mpr hcommand⟩ r hr
    rw [hread] at hlane
    cases hlane
  · rintro hmix ⟨c, hc, hcommand⟩ r hr
    rw [JobType.lane_control] at hcommand ⊢
    have hpriority : c ∈ duePriorityJobs locked tie meterId jobTypes limit jobs := by
      refine mem_duePriorityJobs_of_claimed hc ?_
      rcases hcommand with htype | htype <;> rw [htype] <;> decide
    rw [claimedRows_of_priority hpriority] at hr
    have htype : r.2.jobType = .disconnect ∨ r.2.jobType = .reconnect ∨
        r.2.jobType = .readRelayState := by
      simpa [priorityJobTypes] using (mem_duePriorityJobs hr).2.2
    rcases htype with h | h | h
    · exact .inl h
    · exact .inr h
    · exact absurd ⟨⟨r, hr, h⟩, c, hpriority, hcommand⟩ hmix

/-- The answer carries the ids the rows were routed with. -/
theorem ids_response {rows : List (Int × Job V)} {now : Int} {routed : Routed} {meterId : Int}
    {meter : Meter} {password : String}
    (h : routeAll (rows.map fun r => (r.1, r.2.start now)) = .ok routed) (lane : Lane) :
    (routed.response meterId meter password).ids lane =
      (rows.filter fun r => r.2.jobType.lane = some lane).map (·.1) := by
  have hresponse : (routed.response meterId meter password).ids lane = routed.ids lane := by
    cases lane <;> rfl
  rw [hresponse, (routeAll_ids h).2, List.filter_map, List.map_map]
  rfl

/-- Every job a request sets `RUNNING` is attempted exactly when the request takes no row, or the
    password can be read, every row has the keys of its payload and a list for its type, and the
    priority rows are not of both kinds. -/
theorem claimDueJobs_attempts (settings : Settings) (decrypt : List UInt8 → Option String)
    (meters : Table Int Meter) (locked : Int → Bool) (tie : Int → Nat) (jobs : Table Int (Job V))
    (serial : String) (body : ClaimDueJobsRequest) (now : Int) :
    (∀ id, Started jobs (claimDueJobs settings decrypt meters locked tie jobs serial body now).1 id →
      ∃ response, (claimDueJobs settings decrypt meters locked tie jobs serial body now).2 =
        .ok response ∧ response.Attempts id) ↔
    ∀ meterId meter, servedMeter settings meters serial = some (meterId, meter) →
      claimedRows locked tie meterId body.jobTypes (claimLimit settings body) jobs = [] ∨
      ((meter.passwordEncrypted.bind decrypt).isSome ∧
        (∀ r ∈ claimedRows locked tie meterId body.jobTypes (claimLimit settings body) jobs,
          r.2.Routable ∧ r.2.jobType.lane.isSome) ∧
        ¬ MixesControl
          (duePriorityJobs locked tie meterId body.jobTypes (claimLimit settings body) jobs)) := by
  rcases hserved : servedMeter settings meters serial with _ | ⟨meterId, meter⟩
  · simp only [claimDueJobs, hserved]
    exact ⟨fun _ _ _ h => (nomatch h), fun _ _ h => absurd h not_started_self⟩
  · simp only [claimDueJobs, hserved, started_claim]
    generalize hrows : claimedRows locked tie meterId body.jobTypes (claimLimit settings body) jobs =
      rows
    have hnodup : (rows.map (·.1)).Nodup := hrows ▸ claimedRows_nodup
    have hclaim : (claimDueJobsForMeter locked tie meterId body.jobTypes
        (claimLimit settings body) jobs now).2 = rows.map fun r => (r.1, r.2.start now) := by
      rw [claimDueJobsForMeter, hrows]
    have hapart := @commands_apart_iff V locked tie meterId body.jobTypes
      (claimLimit settings body) jobs
    rw [hrows] at hapart
    rw [hclaim]
    constructor
    · rintro h _ _ ⟨⟩
      rw [hrows]
      rcases rows with _ | ⟨first, others⟩
      · exact .inl rfl
      right
      -- an answer exists, so the routing and the password went well
      obtain ⟨response, hresponse, -⟩ := h first.1 (List.mem_map_of_mem List.mem_cons_self)
      obtain ⟨routed, hrouted, hrest⟩ := Result.bind_eq_ok hresponse
      rcases hpassword : meter.passwordEncrypted.bind decrypt with _ | password
      · rw [hpassword] at hrest
        cases hrest
      rw [hpassword] at hrest
      obtain rfl := Except.ok.inj hrest
      have hall := (forall_attempts_iff rfl hnodup (ids_response hrouted)).mp fun r hr => by
        obtain ⟨response', hresponse', hattempts⟩ := h r.1 (List.mem_map_of_mem hr)
        obtain rfl := Except.ok.inj (hresponse.symm.trans hresponse')
        exact hattempts
      have hroutable := List.forall_mem_map.mp (routeAll_ids hrouted).1
      exact ⟨rfl, fun r hr => ⟨hroutable r hr, hall.1 r hr⟩, hapart.mp hall.2⟩
    · intro h id hid
      have hcases := h meterId meter rfl
      rw [hrows] at hcases
      rcases hcases with rfl | ⟨hpassword, hsome, hmix⟩
      · cases hid
      obtain ⟨password, hpassword⟩ := Option.isSome_iff_exists.mp hpassword
      obtain ⟨routed, hrouted⟩ := @routeAll_total V (rows.map fun r => (r.1, r.2.start now))
        (List.forall_mem_map.mpr fun r hr => (hsome r hr).1)
      rw [hrouted, hpassword]
      refine ⟨routed.response meterId meter password, rfl, ?_⟩
      obtain ⟨r, hr, rfl⟩ := List.mem_map.mp hid
      exact (forall_attempts_iff rfl hnodup (ids_response hrouted)).mpr
        ⟨fun r hr => (hsome r hr).2, hapart.mpr hmix⟩ r hr

/-- One meter that calls home. -/
def callHomeMeters : Table Int Meter where
  rows := [(7, {
    serialNumber := "202310000001"
    isCallHome := true
    protocolProfile := some "dlms"
    passwordEncrypted := some []
    status := .active })]
  keys := by decide

/-- For that meter a relay command and a reading of the relay's state wait together. -/
def commandAndReading : Table Int (Job Int) where
  rows := [(1, { jobType := .disconnect, meterId := 7, createdAt := 0 }),
    (2, { jobType := .readRelayState, meterId := 7, createdAt := 1 })]
  keys := by decide

/-- The answer gives the reading in the list the Gateway leaves aside. -/
theorem reading_left_aside :
    ¬ ∀ id, Started commandAndReading (claimDueJobs { immediateReadEnabled := true }
        (fun _ => some "12345678") callHomeMeters (fun _ => false) (fun _ => 0) commandAndReading
        "202310000001" {} 10).1 id →
      ∃ response, (claimDueJobs { immediateReadEnabled := true } (fun _ => some "12345678")
        callHomeMeters (fun _ => false) (fun _ => 0) commandAndReading "202310000001" {} 10).2 =
        .ok response ∧ response.Attempts id := by
  intro h
  obtain ⟨response, hresponse, lane, hgone, hcount, -⟩ := h 2 ⟨⟨_, rfl, rfl⟩, _, rfl, rfl⟩
  obtain rfl := Except.ok.inj hresponse
  obtain rfl : lane = .controlJobs := List.mem_singleton.mp hgone
  revert hcount
  decide

end RiseSun.Backend
