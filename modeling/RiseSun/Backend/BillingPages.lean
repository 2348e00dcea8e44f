/-
  The two paged lists of the billing API (`api/billing.py`: `GET /readings`, `GET /profile`).

  1. **Program** — the checks of a request, the joined and filtered rows, one page of them.  The two
     endpoints are one program over their tables.

  2. **Purpose** (`PagesExact`) — all pages of a request together have every matching row once.

  3. **`readings_and_profile_pages`** — the rows are ordered by their time alone, so this holds exactly
     when no rows of one time lie on both sides of a page's end.
-/
import RiseSun.Lib.Calendar
import RiseSun.Lib.Paging
import RiseSun.Lib.PyText
import RiseSun.Lib.Table
import RiseSun.Backend.Batches

namespace RiseSun.Backend

open Paging

/-! ## Program -/

structure BillingMeter where
  serialNumber : String
  location : Option String := none
  deriving DecidableEq, Repr

/-- Moments are microseconds of UTC. -/
structure StoredReading (V : Type) where
  meterId : Int
  obisCode : String
  valueJson : V
  unit : Option String := none
  readAt : Int
  deriving DecidableEq, Repr

structure ProfileData (V : Type) where
  meterId : Int
  obisCode : String
  timestamp : Int
  valuesJson : List V
  deriving DecidableEq, Repr

/-- Dates on their way in and out. -/
structure DateFormats where
  /-- `datetime.fromisoformat`; `none` is its `ValueError`. -/
  fromisoformat : String → Option DateTime
  /-- The moment that a bound of a query stands for. -/
  moment : DateTime → Int
  /-- How a stored moment is written. -/
  isoformat : Int → String
  /-- `repr` of a text. -/
  repr : String → String

structure PageRequest where
  dateFrom : String
  dateTo : String
  meterIds : Option String := none
  region : Option String := none
  page : Int := 1
  pageSize : Int := 500

inductive BillingException
  | billing (e : BillingApiError)
  /-- A moment with a time zone beside one without. -/
  | typeError
  deriving DecidableEq, Repr

def maxPageSize : Int := 2000

def maxDateRangeDays : Int := 31

def refuse (code message : String) : Except BillingException α := .error (.billing ⟨400, code, message⟩)

/-- `_paginate`. -/
def paginate (page pageSize : Int) : Except BillingException (Int × Int) :=
  if page < 1 then refuse "VALIDATION_ERROR" "page должен быть >= 1"
  else if pageSize < 1 ∨ maxPageSize < pageSize then
    refuse "VALIDATION_ERROR" "page_size должен быть от 1 до 2000"
  else .ok (page, pageSize)

/-- `_parse_iso`. -/
def parseBound (F : DateFormats) (value field : String) : Except BillingException DateTime :=
  match F.fromisoformat value with
  | some moment => .ok moment
  | none => refuse "INVALID_DATE_RANGE" (field ++ " должен быть датой ISO 8601: " ++ F.repr value)

/-- `b - a` in microseconds, for moments that can be compared. -/
def elapsed (a b : DateTime) : Int :=
  (b.clock - b.utcoffset.getD 0 * 1000000) - (a.clock - a.utcoffset.getD 0 * 1000000)

/-- The two bounds, and what is asked of them. -/
def period (F : DateFormats) (request : PageRequest) :
    Except BillingException (DateTime × DateTime) := do
  let fromDt ← parseBound F request.dateFrom "date_from"
  let toDt ← parseBound F request.dateTo "date_to"
  match toDt.le? fromDt with
  | none => .error .typeError
  | some true => refuse "INVALID_DATE_RANGE" "date_from must be earlier than date_to"
  | some false =>
    if maxDateRangeDays * 86400 * 1000000 < elapsed fromDt toDt then
      refuse "INVALID_DATE_RANGE" "Диапазон дат не должен превышать 31 суток"
    else .ok (fromDt, toDt)

/-- `[s.strip() for s in meter_ids.split(",") if s.strip()]`. -/
def listedSerials (meterIds : String) : List String :=
  ((meterIds.toList.splitOn ',').map fun s => String.ofList (PyText.strip s)).filter (· ≠ "")

/-- A filter that is absent or empty selects everything. -/
def given : Option String → Option String
  | some "" => none
  | text => text

/-- A table that is joined with the meters, and the time its rows are ordered by. -/
structure PagedTable (ρ : Type) where
  meterId : ρ → Int
  time : ρ → Int

/-- A row of the join: what is stored under its key, and the serial number. -/
abbrev Joined (ρ : Type) := (Int × ρ) × String

section Query

variable {ρ : Type} (P : PagedTable ρ) (F : DateFormats) (meters : Table Int BillingMeter)
  (rows : Table Int ρ)

/-- The `WHERE` of a request. -/
def selects (request : PageRequest) (bounds : DateTime × DateTime) (row : ρ)
    (meter : BillingMeter) : Bool :=
  (F.moment bounds.1 ≤ P.time row ∧ P.time row ≤ F.moment bounds.2) ∧
    (∀ meterIds ∈ given request.meterIds, meter.serialNumber ∈ listedSerials meterIds) ∧
    ∀ region ∈ given request.region, meter.location = some region

def matching (request : PageRequest) (bounds : DateTime × DateTime) : List (Joined ρ) :=
  rows.rows.filterMap fun r =>
    ((meters.get (P.meterId r.2)).filter (selects P F request bounds r.2)).map fun meter =>
      (r, meter.serialNumber)

structure Page (ι : Type) where
  page : Int
  pageSize : Int
  total : Nat
  items : List ι

def Page.map (f : ι → κ) (p : Page ι) : Page κ :=
  { page := p.page, pageSize := p.pageSize, total := p.total, items := p.items.map f }

/-- What the two endpoints share; `orderBy` is how the database answers this query. -/
def joinedPage (request : PageRequest) (orderBy : List (Joined ρ) → List (Joined ρ)) :
    Except BillingException (Page (Joined ρ)) := do
  let (page, pageSize) ← paginate request.page request.pageSize
  let bounds ← period F request
  let found := matching P F meters rows request bounds
  pure { page := page, pageSize := pageSize, total := found.length,
         items := ((orderBy found).drop ((page - 1) * pageSize).toNat).take pageSize.toNat }

end Query

def readingsTable (V : Type) : PagedTable (StoredReading V) := ⟨(·.meterId), (·.readAt)⟩

def profileTable (V : Type) : PagedTable (ProfileData V) := ⟨(·.meterId), (·.timestamp)⟩

structure ReadingItem (V : Type) where
  meterSerial : String
  obisCode : String
  value : V
  unit : Option String
  readAt : String

structure ProfileItem (V : Type) where
  meterSerial : String
  obisCode : String
  values : List V
  timestamp : String

def readingItem (F : DateFormats) : Joined (StoredReading V) → ReadingItem V
  | ((_, reading), serial) =>
    ⟨serial, reading.obisCode, reading.valueJson, reading.unit, F.isoformat reading.readAt⟩

def profileItem (F : DateFormats) : Joined (ProfileData V) → ProfileItem V
  | ((_, row), serial) => ⟨serial, row.obisCode, row.valuesJson, F.isoformat row.timestamp⟩

/-- `get_readings`. -/
def getReadings (F : DateFormats) (meters : Table Int BillingMeter)
    (rows : Table Int (StoredReading V)) (request : PageRequest)
    (orderBy : List (Joined (StoredReading V)) → List (Joined (StoredReading V))) :
    Except BillingException (Page (ReadingItem V)) :=
  (joinedPage (readingsTable V) F meters rows request orderBy).map (Page.map (readingItem F))

/-- `get_profile`. -/
def getProfile (F : DateFormats) (meters : Table Int BillingMeter)
    (rows : Table Int (ProfileData V)) (request : PageRequest)
    (orderBy : List (Joined (ProfileData V)) → List (Joined (ProfileData V))) :
    Except BillingException (Page (ProfileItem V)) :=
  (joinedPage (profileTable V) F meters rows request orderBy).map (Page.map (profileItem F))

/-! ## Purpose -/

section Purpose

variable {V ρ ι : Type} (P : PagedTable ρ) (F : DateFormats) (meters : Table Int BillingMeter)
  (rows : Table Int ρ)

/-- What a row of the join is ordered by. -/
def PagedTable.key (row : Joined ρ) : Int := P.time row.1.2

/-- However the database orders rows of one time in each query, the pages of a request make up the
matching rows, and an endpoint answers with them. -/
def PagesExact
    (endpoint : PageRequest → (List (Joined ρ) → List (Joined ρ)) →
      Except BillingException (Page ι)) (item : Joined ρ → ι) (request : PageRequest)
    (bounds : DateTime × DateTime) : Prop :=
  let found := matching P F meters rows request bounds
  let numbers := List.range' 1 (pageCount request.pageSize.toNat found.length)
  ∀ orderBy : Nat → List (Joined ρ) → List (Joined ρ),
    (∀ n some, Paging.Ordered P.key some (orderBy n some)) →
    ∃ pages : Nat → Page (Joined ρ),
      (∀ n ∈ numbers,
        joinedPage P F meters rows { request with page := n } (orderBy n) = .ok (pages n) ∧
        endpoint { request with page := n } (orderBy n) = .ok ((pages n).map item) ∧
        (pages n).total = found.length) ∧
      (numbers.flatMap fun n => (pages n).items).Perm found

/-- The join of readings and meters has each row once, as the numbers of its rows differ. -/
theorem matching_nodup (request : PageRequest) (bounds : DateTime × DateTime) :
    (matching P F meters rows request bounds).Nodup := by
  have hrows : rows.rows.Nodup := rows.keys.of_map _
  refine hrows.filterMap fun r r' j hr hr' => ?_
  obtain ⟨_, _, rfl⟩ := Option.map_eq_some_iff.mp hr
  obtain ⟨_, _, hj⟩ := Option.map_eq_some_iff.mp hr'
  exact (congrArg Prod.fst hj).symm

/-- Page `n` of an accepted request is the `n`-th slice of the rows that match, in the order asked
    for, with their total number. -/
theorem joinedPage_eq {request : PageRequest} {bounds : DateTime × DateTime}
    (hsize : 1 ≤ request.pageSize ∧ request.pageSize ≤ 2000)
    (hperiod : period F request = .ok bounds) {n : Nat} (hn : 1 ≤ n)
    (orderBy : List (Joined ρ) → List (Joined ρ)) :
    let found := matching P F meters rows request bounds
    joinedPage P F meters rows { request with page := n } orderBy =
      .ok ⟨n, request.pageSize, found.length,
        page request.pageSize.toNat n (orderBy found)⟩ := by
  have hpaginate : paginate n request.pageSize = .ok ((n : Int), request.pageSize) := by
    rw [paginate, if_neg (by omega), if_neg (by rw [maxPageSize]; omega)]
  have hoffset : (((n : Int) - 1) * request.pageSize).toNat = (n - 1) * request.pageSize.toNat := by
    obtain ⟨m, rfl⟩ : ∃ m, n = m + 1 := ⟨n - 1, by omega⟩
    obtain ⟨size, hcast⟩ := Int.eq_ofNat_of_zero_le (show 0 ≤ request.pageSize by omega)
    rw [hcast, Nat.add_sub_cancel, Nat.cast_succ, Int.add_sub_cancel, ← Int.natCast_mul,
      Int.toNat_natCast, Int.toNat_natCast]
  have hsame : period F { request with page := n } = .ok bounds := hperiod
  rw [joinedPage, hpaginate, hsame]
  dsimp only [bind, Except.bind, pure, Except.pure]
  rw [hoffset]
  rfl

variable {P F meters rows}

/-- An endpoint over the join keeps the purpose exactly when no group of one time reaches over the end
of a page. -/
theorem pagesExact_iff
    {endpoint : PageRequest → (List (Joined ρ) → List (Joined ρ)) →
      Except BillingException (Page ι)} {item : Joined ρ → ι}
    (hendpoint : ∀ request orderBy, endpoint request orderBy =
      (joinedPage P F meters rows request orderBy).map (Page.map item))
    {request : PageRequest} {bounds : DateTime × DateTime}
    (hsize : 1 ≤ request.pageSize ∧ request.pageSize ≤ 2000)
    (hperiod : period F request = .ok bounds) :
    PagesExact P F meters rows endpoint item request bounds ↔
      GroupsFit P.key request.pageSize.toNat (matching P F meters rows request bounds) := by
  have hnodup := matching_nodup P F meters rows request bounds
  rw [← pages_perm_iff (by omega) hnodup]
  constructor
  · intro hexact answers hanswers
    classical
    choose sort hsort using exists_ordered P.key
    -- a database that answers these queries so, and others as it likes
    obtain ⟨pages, hpages, hperm⟩ := hexact
      (fun n => Function.update sort (matching P F meters rows request bounds) (answers n))
      fun n some => by
        by_cases hsome : some = matching P F meters rows request bounds
        · rw [hsome, Function.update_self]
          exact hanswers n
        · rw [Function.update_of_ne hsome]
          exact hsort some
    refine List.Perm.trans (.of_eq (List.flatMap_congr fun n hn => ?_)) hperm
    have hanswer := (hpages n hn).1
    rw [joinedPage_eq P F meters rows hsize hperiod (List.mem_range'_1.mp hn).1,
      Function.update_self] at hanswer
    rw [← Except.ok.inj hanswer]
  · intro hperm orderBy horder
    refine ⟨fun n => ⟨n, request.pageSize, (matching P F meters rows request bounds).length,
      page request.pageSize.toNat n (orderBy n (matching P F meters rows request bounds))⟩,
      fun n hn => ?_, hperm _ fun n => horder n _⟩
    have hanswer := joinedPage_eq P F meters rows hsize hperiod (List.mem_range'_1.mp hn).1 (orderBy n)
    exact ⟨hanswer, by rw [hendpoint, hanswer]; rfl, rfl⟩

end Purpose

/-! ## The two endpoints -/

section Endpoints

variable {V : Type}

/-- Both lists are complete, and no row is in them twice, exactly when the rows of every time that
match lie on one page. -/
theorem readings_and_profile_pages (F : DateFormats) (meters : Table Int BillingMeter)
    (readings : Table Int (StoredReading V)) (profile : Table Int (ProfileData V))
    {request : PageRequest} {bounds : DateTime × DateTime}
    (hsize : 1 ≤ request.pageSize ∧ request.pageSize ≤ 2000)
    (hperiod : period F request = .ok bounds) :
    (PagesExact (readingsTable V) F meters readings (getReadings F meters readings) (readingItem F)
        request bounds ↔
      GroupsFit (readingsTable V).key request.pageSize.toNat
        (matching (readingsTable V) F meters readings request bounds)) ∧
    (PagesExact (profileTable V) F meters profile (getProfile F meters profile) (profileItem F)
        request bounds ↔
      GroupsFit (profileTable V).key request.pageSize.toNat
        (matching (profileTable V) F meters profile request bounds)) :=
  ⟨pagesExact_iff (fun _ _ => rfl) hsize hperiod, pagesExact_iff (fun _ _ => rfl) hsize hperiod⟩

end Endpoints

section QuarterHour

def firstOfMay : DateTime := ⟨2026, 5, 1, 0, 0, 0, 0, some 21600, by decide⟩

def secondOfMay : DateTime := ⟨2026, 5, 2, 0, 0, 0, 0, some 21600, by decide⟩

def mayFormats : DateFormats where
  fromisoformat := fun text =>
    if text = "2026-05-01T00:00:00+06:00" then some firstOfMay
    else if text = "2026-05-02T00:00:00+06:00" then some secondOfMay else none
  moment := fun d => d.clock - d.utcoffset.getD 0 * 1000000
  isoformat := fun _ => "2026-05-01T00:15:00+06:00"
  repr := id

def twoMeters : Table Int BillingMeter := ⟨[(1, ⟨"202001002201", none⟩), (2, ⟨"202001002202", none⟩)],
  by decide⟩

/-- A quarter of an hour into the day. -/
def quarterPast : Int := mayFormats.moment firstOfMay + 900000000

def quarterHour : Table Int (ProfileData Nat) :=
  ⟨[(10, ⟨1, "1.0.99.1.0.255", quarterPast, [5]⟩), (11, ⟨2, "1.0.99.1.0.255", quarterPast, [7]⟩)],
    by decide⟩

def onePerPage : PageRequest where
  dateFrom := "2026-05-01T00:00:00+06:00"
  dateTo := "2026-05-02T00:00:00+06:00"
  pageSize := 1

/-- Two meters record at one time, and their rows come in another order for the second page: one of
them is on both pages, the other one on none. -/
theorem quarterHour_not_exact : period mayFormats onePerPage = .ok (firstOfMay, secondOfMay) ∧
    ¬ PagesExact (profileTable Nat) mayFormats twoMeters quarterHour
      (getProfile mayFormats twoMeters quarterHour) (profileItem mayFormats) onePerPage
      (firstOfMay, secondOfMay) := by
  refine ⟨by decide +kernel, fun hexact => ?_⟩
  have hfit := (pagesExact_iff (fun _ _ => rfl) (by decide) (by decide +kernel)).mp hexact
  have hrow := hfit ((10, ⟨1, "1.0.99.1.0.255", quarterPast, [5]⟩), "202001002201")
    (by decide +kernel) 1
  revert hrow
  decide +kernel

/-- With two rows a page, the rows that share a quarter of an hour fit one page, and the pages are
    exact. -/
theorem readings_and_profile_pages_quarterHour :
    PagesExact (profileTable Nat) mayFormats twoMeters quarterHour
      (getProfile mayFormats twoMeters quarterHour) (profileItem mayFormats)
      { onePerPage with pageSize := 2 } (firstOfMay, secondOfMay) := by
  refine (readings_and_profile_pages (V := Nat) mayFormats twoMeters ⟨[], List.nodup_nil⟩ quarterHour
    (by decide) (by decide +kernel)).2.mpr fun r hr n => ?_
  rcases n with _ | n
  · exact .inl ((Nat.zero_mul _).trans_le (Nat.zero_le _))
  · have hle : upTo (profileTable Nat).key (matching (profileTable Nat) mayFormats twoMeters
        quarterHour { onePerPage with pageSize := 2 } (firstOfMay, secondOfMay))
        ((profileTable Nat).key r) ≤ 2 := List.countP_le_length.trans (by decide +kernel)
    exact .inr (hle.trans (by change 2 ≤ (n + 1) * 2; omega))

end QuarterHour

end RiseSun.Backend
