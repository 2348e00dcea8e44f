/-
  Values on their way to the backend (`_json_safe_value` in `callhome.py`, `_jsonable` in
  `grpc_server.py`, the payloads of `report_job_results` and `report_load_profile_results` in
  `backend_client.py`).

  1. **Python values** (`PyObject`) — what a payload is made of, and what `json.dumps` does with it:
     of the values that come up here, bytes and dates have no JSON form, and an integer is not written
     with more than 4300 digits.

  2. **The two converters** — both write bytes as hexadecimal text and go into lists; only one goes
     into tuples, too.  On a decoded value they are the same (`jsonable_ofValue`).

  3. **Reports** (`reports_serialisable_iff`) — a decoded value can be reported iff no tag of a date
     was read in it, and one value that cannot keeps every result of the batch back.  The integers of
     a decoded value are short (`decodeValue_short`); a register with a large scaler may be long.

  The rows of a load profile hold numbers only, so nothing in them keeps their report back
  (`jsonDumps_loadProfilePayload`).
-/
import RiseSun.Gateway.ProfileRow
import RiseSun.Gateway.ValueLayout

namespace RiseSun.Gateway

/-! ## Python values -/

inductive PyObject
  | null
  | bool (b : Bool)
  | int (n : Int)
  | float (x : ℚ)
  | str (s : Message)
  | bytes (b : Bytes)
  | datetime (d : DateTime)
  | list (items : List PyObject)
  | tuple (items : List PyObject)
  | dict (keys : List String) (values : List PyObject)

/-- The digits of an integer that the runtime writes at most. -/
def maxIntDigits : Nat := 4300

def tooManyDigits (n : Int) : Bool := decide (10 ^ maxIntDigits ≤ n.natAbs)

namespace PyObject

mutual

/-- `json.dumps`, but for the text it returns. -/
def jsonDumps : PyObject → Except PyExc Unit
  | .bytes _ | .datetime _ => .error .typeError
  | .list items | .tuple items | .dict _ items => jsonDumpsAll items
  | .int n => if tooManyDigits n then .error (.valueError []) else .ok ()
  | .null | .bool _ | .float _ | .str _ => .ok ()

def jsonDumpsAll : List PyObject → Except PyExc Unit
  | [] => .ok ()
  | item :: items => do
    jsonDumps item
    jsonDumpsAll items

end

mutual

/-- Null, booleans, numbers, strings and lists of these. -/
def IsJson : PyObject → Prop
  | .null | .bool _ | .int _ | .float _ | .str _ => True
  | .list items => AllJson items
  | .bytes _ | .datetime _ | .tuple _ | .dict _ _ => False

def AllJson : List PyObject → Prop
  | [] => True
  | item :: items => IsJson item ∧ AllJson items

end

mutual

/-- A decoded value. -/
def ofValue : Value → PyObject
  | .null => .null
  | .int n => .int n
  | .bytes b => .bytes b
  | .text s => .str [.text s]
  | .list items => .list (ofValues items)
  | .date d => .datetime d

def ofValues : List Value → List PyObject
  | [] => []
  | v :: vs => ofValue v :: ofValues vs

end

/-- An integer that was scaled up stays an integer. -/
def ofRegisterValue : RegisterValue → PyObject
  | .plain value => ofValue value
  | .float value => .float value

/-! ## The two converters -/

mutual

/-- `_json_safe_value`. -/
def jsonSafeValue : PyObject → PyObject
  | .bytes b => .str [.hex b]
  | .list items | .tuple items => .list (jsonSafeValues items)
  | value => value

def jsonSafeValues : List PyObject → List PyObject
  | [] => []
  | item :: items => jsonSafeValue item :: jsonSafeValues items

end

mutual

/-- `_jsonable`. -/
def jsonable : PyObject → PyObject
  | .bytes b => .str [.hex b]
  | .list items => .list (jsonables items)
  | value => value

def jsonables : List PyObject → List PyObject
  | [] => []
  | item :: items => jsonable item :: jsonables items

end

mutual

/-- The decoder makes no tuples, so the two conversions do the same to what it returns. -/
theorem jsonable_ofValue : ∀ v : Value, jsonable (ofValue v) = jsonSafeValue (ofValue v)
  | .list items => by rw [ofValue, jsonable, jsonSafeValue, jsonables_ofValues items]
  | .null | .int _ | .bytes _ | .text _ | .date _ => rfl

theorem jsonables_ofValues : ∀ vs : List Value,
    jsonables (ofValues vs) = jsonSafeValues (ofValues vs)
  | [] => rfl
  | v :: vs => by
    rw [ofValues, jsonables, jsonSafeValues, jsonable_ofValue v, jsonables_ofValues vs]

end

mutual

/-- Of what the decoder returns, a date is the one thing that is not converted. -/
theorem isJson_jsonSafeValue : ∀ v : Value,
    (jsonSafeValue (ofValue v)).IsJson ↔ v.hasDate = false
  | .list items => allJson_jsonSafeValues items
  | .date _ => ⟨fun h => h.elim, fun h => (nomatch h)⟩
  | .null | .int _ | .bytes _ | .text _ => ⟨fun _ => rfl, fun _ => trivial⟩

theorem allJson_jsonSafeValues : ∀ vs : List Value,
    AllJson (jsonSafeValues (ofValues vs)) ↔ Value.anyDate vs = false
  | [] => ⟨fun _ => rfl, fun _ => trivial⟩
  | v :: vs => by
    rw [ofValues, jsonSafeValues, AllJson, Value.anyDate, Bool.or_eq_false_iff,
      isJson_jsonSafeValue v, allJson_jsonSafeValues vs]

end

end PyObject

/-! ## Long integers -/

mutual

/-- The value holds an integer that is not written. -/
def Value.hasLongInt : Value → Bool
  | .int n => tooManyDigits n
  | .list items => Value.anyLongInt items
  | .null | .bytes _ | .text _ | .date _ => false

def Value.anyLongInt : List Value → Bool
  | [] => false
  | v :: vs => v.hasLongInt || Value.anyLongInt vs

end

/-- The integers of the decoder have eight bytes at most. -/
theorem decodeNumber_short {read : Bytes → Int} (hread : read = readUnsigned ∨ read = Bytes.signedBE)
    {width : Nat} (hwidth : width ≤ 8) {data : Bytes} {pos : Nat} {v : Value} {consumed : Nat}
    (h : decodeNumber read width data pos = .ok (v, consumed)) : v.hasLongInt = false := by
  obtain ⟨_, -, h⟩ := Result.bind_eq_ok h
  cases h
  have hlength : (Bytes.slice data pos (pos + width)).length ≤ 8 := by
    rw [Bytes.slice, List.length_take]
    omega
  generalize Bytes.slice data pos (pos + width) = bs at hlength ⊢
  have hlt := Bytes.fromBE_lt bs
  have hpow : 256 ^ bs.length ≤ 256 ^ 8 := Nat.pow_le_pow_right (by decide) hlength
  have hlimit : 256 ^ 8 < 10 ^ maxIntDigits := by decide +kernel
  have hcast : ((256 ^ bs.length : Nat) : Int) = 256 ^ bs.length := by push_cast; rfl
  have hshort : (read bs).natAbs < 10 ^ maxIntDigits := by
    refine Nat.lt_of_le_of_lt ?_ (Nat.lt_of_le_of_lt hpow hlimit)
    rcases hread with rfl | rfl
    · rw [readUnsigned]
      omega
    · rw [Bytes.signedBE, ← hcast]
      split <;> omega
  rw [Value.hasLongInt, tooManyDigits]
  exact decide_eq_false (Nat.not_le.mpr hshort)

theorem decodeItems_short {dec : Nat → Except PyExc (Value × Nat)}
    (hdec : ∀ {pos consumed : Nat} {v : Value}, dec pos = .ok (v, consumed) → v.hasLongInt = false) :
    ∀ {count pos stop : Nat} {items : List Value}, decodeItems dec count pos = .ok (items, stop) →
      Value.anyLongInt items = false := by
  intro count
  induction count with
  | zero =>
    intro pos stop items h
    cases h
    rfl
  | succ count ih =>
    intro pos stop items h
    obtain ⟨⟨item, consumed⟩, hitem, h⟩ := Result.bind_eq_ok h
    obtain ⟨⟨rest, stop'⟩, hrest, h⟩ := Result.bind_eq_ok h
    cases h
    rw [Value.anyLongInt, hdec hitem, ih hrest]
    rfl

theorem decodeBody_short {dec : Nat → Except PyExc (Value × Nat)}
    (hdec : ∀ {pos consumed : Nat} {v : Value}, dec pos = .ok (v, consumed) → v.hasLongInt = false)
    {data : Bytes} {offset consumed : Nat} {v : Value}
    (h : decodeBody dec data offset = .ok (v, consumed)) : v.hasLongInt = false := by
  unfold decodeBody at h
  rcases ite_eq_iff.mp h with ⟨_, h⟩ | ⟨_, h⟩
  · cases h
  obtain ⟨tag, -, h⟩ := Result.bind_eq_ok h
  rcases ite_eq_iff.mp h with ⟨_, h⟩ | ⟨_, h⟩
  · cases h
    rfl
  -- the integer tags
  iterate 8
    rcases ite_eq_iff.mp h with ⟨_, h⟩ | ⟨_, h⟩
    · exact decodeNumber_short (by simp) (by decide) h
  rcases ite_eq_iff.mp h with ⟨_, h⟩ | ⟨_, h⟩
  · obtain ⟨_, -, h⟩ := Result.bind_eq_ok h
    obtain ⟨length, -, h⟩ := Result.bind_eq_ok h
    obtain ⟨_, -, h⟩ := Result.bind_eq_ok h
    obtain ⟨value, hvalue, h⟩ := Result.bind_eq_ok h
    cases h
    unfold stringValue at hvalue
    split at hvalue
    · cases htext : asciiDecode (Bytes.slice data (offset + 1 + 1)
        (offset + 1 + 1 + length.toNat)) with
      | ok text =>
        rw [htext] at hvalue
        cases hvalue
        rfl
      | error e =>
        rw [htext] at hvalue
        cases hvalue
    · cases hvalue
      rfl
  rcases ite_eq_iff.mp h with ⟨_, h⟩ | ⟨_, h⟩
  · obtain ⟨_, -, h⟩ := Result.bind_eq_ok h
    obtain ⟨count, -, h⟩ := Result.bind_eq_ok h
    obtain ⟨⟨items, stop⟩, hitems, h⟩ := Result.bind_eq_ok h
    cases h
    exact decodeItems_short hdec hitems
  rcases ite_eq_iff.mp h with ⟨_, h⟩ | ⟨_, h⟩
  · obtain ⟨_, -, h⟩ := Result.bind_eq_ok h
    obtain ⟨d, -, h⟩ := Result.bind_eq_ok h
    cases h
    rfl
  · cases h

/-- No integer of a decoded value is too long to be written. -/
theorem decodeValue_short {data : Bytes} {offset consumed : Nat} {v : Value}
    (h : decodeValue data offset = .ok (v, consumed)) : v.hasLongInt = false := by
  have hfuel : ∀ (fuel offset consumed : Nat) (v : Value),
      decodeValueAt fuel data offset = .ok (v, consumed) → v.hasLongInt = false := by
    intro fuel
    induction fuel with
    | zero =>
      intro offset consumed v h
      cases h
    | succ fuel ih =>
      intro offset consumed v h
      exact decodeBody_short (fun h => ih _ _ _ h) h
  exact hfuel _ _ _ _ h

namespace PyObject

mutual

/-- What keeps a decoded value from being serialised: a date or an integer that is too long. -/
theorem jsonDumps_jsonSafeValue : ∀ v : Value,
    jsonDumps (jsonSafeValue (ofValue v)) = .ok () ↔ v.hasDate = false ∧ v.hasLongInt = false
  | .list items => jsonDumps_jsonSafeValues items
  | .int n => by
    rw [ofValue, jsonSafeValue, jsonDumps, Value.hasDate, Value.hasLongInt]
    · cases tooManyDigits n with
      | true => exact ⟨fun h => (nomatch h), fun h => (nomatch h.2)⟩
      | false => exact ⟨fun _ => ⟨rfl, rfl⟩, fun _ => rfl⟩
    all_goals rintro _ h; cases h
  | .date _ => ⟨fun h => (nomatch h), fun h => (nomatch h.1)⟩
  | .null | .bytes _ | .text _ => ⟨fun _ => ⟨rfl, rfl⟩, fun _ => rfl⟩

theorem jsonDumps_jsonSafeValues : ∀ vs : List Value,
    jsonDumpsAll (jsonSafeValues (ofValues vs)) = .ok () ↔
      Value.anyDate vs = false ∧ Value.anyLongInt vs = false
  | [] => ⟨fun _ => ⟨rfl, rfl⟩, fun _ => rfl⟩
  | v :: vs => by
    rw [ofValues, jsonSafeValues, jsonDumpsAll, Value.anyDate, Value.anyLongInt,
      Bool.or_eq_false_iff, Bool.or_eq_false_iff, and_and_and_comm, ← jsonDumps_jsonSafeValue v,
      ← jsonDumps_jsonSafeValues vs]
    cases jsonDumps (jsonSafeValue (ofValue v)) with
    | ok _ => exact ⟨fun h => ⟨rfl, h⟩, fun h => h.2⟩
    | error e => exact ⟨fun h => (nomatch h), fun h => (nomatch h.1)⟩

end

theorem jsonDumpsAll_ok : ∀ {items : List PyObject},
    jsonDumpsAll items = .ok () ↔ ∀ item ∈ items, jsonDumps item = .ok ()
  | [] => ⟨fun _ item h => (nomatch h), fun _ => rfl⟩
  | item :: items => by
    rw [jsonDumpsAll, List.forall_mem_cons, ← @jsonDumpsAll_ok items]
    cases jsonDumps item with
    | ok _ => exact ⟨fun h => ⟨rfl, h⟩, fun h => h.2⟩
    | error e => exact ⟨fun h => (nomatch h), fun h => (nomatch h.1)⟩

end PyObject

/-! ## Reports -/

structure JobResultReport where
  jobId : Int
  obis : Option String := none
  ok : Bool
  value : Option RegisterValue := none
  errorCode : Option String
  errorMessage : Option Message
  isPartial : Bool := false
  deriving DecidableEq

/-- The arguments of `report_load_profile_results`, with the rows as they were read. -/
structure LoadProfileReport where
  jobId : Int
  obis : String
  rows : List ProfileRow
  ok : Bool
  errorCode : Option String
  errorMessage : Option Message
  isPartial : Bool
  deriving DecidableEq

open PyObject PyText

def optional {α : Type} (of : α → PyObject) : Option α → PyObject
  | some a => of a
  | none => .null

/-- A result in the payload of `report_job_results`; its value has been through
    `_json_safe_value`. -/
def resultPayload (r : JobResultReport) : PyObject :=
  .dict ["job_id", "obis", "ok", "value", "error_code", "error_message", "is_partial"]
    [.int r.jobId, optional (fun obis => .str [.text obis]) r.obis, .bool r.ok,
     jsonSafeValue (optional ofRegisterValue r.value),
     optional (fun code => .str [.text code]) r.errorCode, optional .str r.errorMessage,
     .bool r.isPartial]

/-- The payload of `report_job_results`. -/
def jobResultsPayload (serial : String) (results : List JobResultReport) : PyObject :=
  .dict ["serial", "results"] [.str [.text serial], .list (results.map resultPayload)]

/-- Nothing in a result keeps the report back: its value holds no date, and no integer of more digits
    than are written, and its number is not such an integer. -/
def JobResultReport.Serialisable (r : JobResultReport) : Prop :=
  tooManyDigits r.jobId = false ∧
    ∀ value, r.value = some (.plain value) → value.hasDate = false ∧ value.hasLongInt = false

theorem jsonDumps_int {n : Int} : jsonDumps (.int n) = .ok () ↔ tooManyDigits n = false := by
  rw [jsonDumps]
  cases tooManyDigits n with
  | true => exact ⟨fun h => (nomatch h), fun h => (nomatch h)⟩
  | false => exact ⟨fun _ => rfl, fun _ => rfl⟩

/-- A field that may be missing is serialised if what may stand in it is. -/
theorem jsonDumps_optional {α : Type} {of : α → PyObject} (hof : ∀ a, jsonDumps (of a) = .ok ())
    (o : Option α) : jsonDumps (optional of o) = .ok () := by
  cases o with
  | none => rfl
  | some a => exact hof a

/-- What a result needs so that it is serialised. -/
theorem jsonDumps_resultPayload (r : JobResultReport) :
    jsonDumps (resultPayload r) = .ok () ↔ r.Serialisable := by
  -- of the other fields only the value can be more than text or a flag
  have hvalue : jsonDumps (jsonSafeValue (optional ofRegisterValue r.value)) = .ok () ↔
      ∀ value, r.value = some (.plain value) → value.hasDate = false ∧ value.hasLongInt = false := by
    rcases r.value with _ | value | x
    · exact ⟨fun _ _ h => (nomatch h), fun _ => rfl⟩
    · dsimp only [optional, ofRegisterValue]
      rw [jsonDumps_jsonSafeValue]
      refine ⟨?_, fun h => h value rfl⟩
      rintro h _ heq
      cases heq
      exact h
    · exact ⟨fun _ _ h => (nomatch h), fun _ => rfl⟩
  rw [JobResultReport.Serialisable, ← hvalue, ← jsonDumps_int, resultPayload, jsonDumps, jsonDumpsAll_ok]
  constructor
  · intro h
    exact ⟨h _ (by simp), h _ (by simp)⟩
  · intro h item hitem
    simp only [List.mem_cons, List.not_mem_nil, or_false] at hitem
    rcases hitem with rfl | rfl | rfl | rfl | rfl | rfl | rfl
    · exact h.1
    · exact jsonDumps_optional (fun _ => rfl) _
    · rfl
    · exact h.2
    · exact jsonDumps_optional (fun _ => rfl) _
    · exact jsonDumps_optional (fun _ => rfl) _
    · rfl

/-- One value that cannot be serialised keeps the whole report back. -/
theorem jsonDumps_jobResultsPayload (serial : String) (results : List JobResultReport) :
    jsonDumps (jobResultsPayload serial results) = .ok () ↔ ∀ r ∈ results, r.Serialisable := by
  have hall : jsonDumpsAll (results.map resultPayload) = .ok () ↔
      ∀ r ∈ results, r.Serialisable := by
    rw [jsonDumpsAll_ok, List.forall_mem_map]
    exact forall₂_congr fun r _ => jsonDumps_resultPayload r
  rw [← hall, jobResultsPayload, jsonDumps, jsonDumpsAll_ok]
  constructor
  · intro h
    exact h (.list (results.map resultPayload)) (by simp)
  · intro h item hitem
    simp only [List.mem_cons, List.not_mem_nil, or_false] at hitem
    rcases hitem with rfl | rfl
    · rfl
    · exact h

/-! ### Load profiles -/

/-- `timestamp.isoformat()` of a moment without time zone, as the timestamps of rows are. -/
def isoformat (d : DateTime) : String :=
  padded 4 d.year ++ "-" ++ padded 2 d.month ++ "-" ++ padded 2 d.day ++ "T" ++
    padded 2 d.hour ++ ":" ++ padded 2 d.minute ++ ":" ++ padded 2 d.second ++
    if d.microsecond = 0 then "" else "." ++ padded 6 d.microsecond

/-- A row in the payload; its values have been through `_json_safe_value`. -/
def rowPayload (row : ProfileRow) : PyObject :=
  .dict ["timestamp_iso", "values"]
    [.str [.text (isoformat row.timestamp)], jsonSafeValue (.list (row.values.map .float))]

/-- The payload of `report_load_profile_results`. -/
def loadProfilePayload (serial : String) (r : LoadProfileReport) : PyObject :=
  .dict ["serial", "job_id", "obis", "ok", "error_code", "error_message", "is_partial", "rows"]
    [.str [.text serial], .int r.jobId, .str [.text r.obis], .bool r.ok,
     optional (fun code => .str [.text code]) r.errorCode, optional .str r.errorMessage,
     .bool r.isPartial, .list (r.rows.map rowPayload)]

/-- **Reports.**  Both converters make JSON of a decoded value, and it is serialised, iff no tag of a
    date was read in it; and a report is serialised iff none of its values holds a date or an integer
    that is too long, which a decoded value never does. -/
theorem reports_serialisable_iff {data : Bytes} {offset consumed : Nat} {v : Value}
    (h : decodeValue data offset = .ok (v, consumed)) (serial : String)
    (results : List JobResultReport) :
    ((jsonSafeValue (ofValue v)).IsJson ∧ (jsonable (ofValue v)).IsJson ↔
      ∀ pos ∈ (layout data offset).tags, data[pos]? ≠ some tagDateTime) ∧
    (jsonDumps (jsonSafeValue (ofValue v)) = .ok () ∧ jsonDumps (jsonable (ofValue v)) = .ok () ↔
      ∀ pos ∈ (layout data offset).tags, data[pos]? ≠ some tagDateTime) ∧
    (v.hasDate = false ↔ ∀ pos ∈ (layout data offset).tags, data[pos]? ≠ some tagDateTime) ∧
    v.hasLongInt = false ∧
    (jsonDumps (jobResultsPayload serial results) = .ok () ↔ ∀ r ∈ results, r.Serialisable) := by
  have hdate : v.hasDate = false ↔
      ∀ pos ∈ (layout data offset).tags, data[pos]? ≠ some tagDateTime := by
    rw [← Bool.not_eq_true, decodeValue_hasDate h]
    exact ⟨fun h pos hpos htag => h ⟨pos, hpos, htag⟩, fun h ⟨pos, hpos, htag⟩ => h pos hpos htag⟩
  have hshort := decodeValue_short h
  rw [jsonable_ofValue, and_self, and_self, isJson_jsonSafeValue, jsonDumps_jsonSafeValue,
    and_iff_left hshort]
  exact ⟨hdate, hdate, hdate, hshort, jsonDumps_jobResultsPayload serial results⟩

/-- A structure with an empty octet string is serialised, on either way. -/
theorem reports_serialisable_iff_emptyString :
    (jsonSafeValue (ofValue (.list [.bytes []]))).IsJson ∧
      (jsonable (ofValue (.list [.bytes []]))).IsJson :=
  ((@reports_serialisable_iff [0x02, 0x01, 0x09, 0x00] 0 4 (.list [.bytes []]) (by decide) ""
    []).1).mpr (by decide)

/-- The clock of a meter beside its energy: the report of both is lost. -/
theorem clock_not_serialisable :
    ∃ v, decodeValue [0x19, 0x07, 0xEA, 1, 1, 4, 0, 0, 0, 0xFF, 0x80, 0x00, 0xFF] 0 = .ok (v, 13) ∧
      ¬ (jsonSafeValue (ofValue v)).IsJson ∧ ¬ (jsonable (ofValue v)).IsJson ∧
      jsonDumps (jobResultsPayload "202310030001"
        [{ jobId := 1, obis := some "1.1.1.8.0.ff", ok := true, value := some (.float (25 / 2))
           errorCode := none, errorMessage := none },
         { jobId := 2, obis := some "0.0.1.0.0.ff", ok := true, value := some (.plain v)
           errorCode := none, errorMessage := none }]) = .error .typeError :=
  ⟨.date ⟨2026, 1, 1, 0, 0, 0, 0, none, by decide⟩, by decide, fun h => h, fun h => h, by
    decide +kernel⟩

/-- A register with the scaler 5000 is no date, and its report is lost as well. -/
example : jsonDumps (jobResultsPayload "202310030001"
    [{ jobId := 1, obis := some "1.1.1.8.0.ff", ok := true, value := some (scaledValue 1 5000)
       errorCode := none, errorMessage := none }]) = .error (.valueError []) := by decide +kernel

end RiseSun.Gateway
