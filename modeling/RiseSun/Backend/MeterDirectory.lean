/-
  The directory of meters, and everyone who writes it (`api/meters.py`, `services/meter_discovery.py`,
  the metadata of `api/gateway_internal.py`).

  1. **Secrets** — a password is stored encrypted; whoever reads it decrypts it and takes it for ASCII.

  2. **Programs** — creating, activating, changing and deleting a meter, what a call home says of its
     connection, and the discovery of one Gateway.  A column that is given the value it was read with
     is not written.

  3. **Writes** — which changes of the directory keep an active meter fit for service, whatever the
     others do.

  4. **`directory_serves`** — in every run of sessions beside each other an active meter has a profile and
     a password that can be read, and no meter is left to be activated that was not so at the start.
     So a claim never fails at the password, and jobs are for meters that are served.
-/
import Mathlib.Data.List.MinMax
import RiseSun.Lib.PyText
import RiseSun.Lib.SharedDatabase
import RiseSun.Gateway.Datatypes
import RiseSun.Backend.JobCreation

namespace RiseSun.Backend

open Machine
open Gateway (asciiEncode asciiDecode asciiDecode_encode)

variable {V : Type}

/-! ## Secrets -/

/-- `Fernet(settings.secret_encryption_key)`: a token is another one each time. -/
structure Fernet where
  encrypt : Nat → List UInt8 → List UInt8
  decrypt : List UInt8 → Option (List UInt8)
  decrypt_encrypt : ∀ nonce plain, decrypt (encrypt nonce plain) = some plain

/-- `decrypt_secret(…).decode("ascii")`. -/
def Fernet.password (fernet : Fernet) (token : List UInt8) : Option String :=
  (fernet.decrypt token).bind fun raw => (asciiDecode raw).toOption

/-- An ASCII password comes back from its token, whatever randomness went into it. -/
theorem Fernet.password_encrypt {fernet : Fernet} {nonce : Nat} {text : String} {raw : List UInt8}
    (h : asciiEncode text = .ok raw) : fernet.password (fernet.encrypt nonce raw) = some text := by
  rw [asciiEncode] at h
  split at h
  · rename_i hascii
    rw [password, fernet.decrypt_encrypt, Option.bind_some, ← Except.ok.inj h,
      asciiDecode_encode hascii]
    rfl
  · cases h

/-! ## Programs -/

inductive ProtocolProfile
  | modeC
  | modeE
  | hdlcDlms
  deriving DecidableEq, Repr

def ProtocolProfile.value : ProtocolProfile → String
  | .modeC => "mode_c"
  | .modeE => "mode_e"
  | .hdlcDlms => "hdlc_dlms"

/-- The columns of a meter, but for the key of its channel, which nothing reads. -/
structure DirectoryRow extends MeterRow where
  ipAddress : Option String := none
  port : Option Int := none
  location : Option String := none
  model : Option String := none
  gatewayId : Int
  isLowConsumption : Bool := false
  resName : Option String := none
  deriving DecidableEq, Repr

inductive GatewayStatus
  | pending
  | approved
  | disabled
  deriving DecidableEq, Repr

structure GatewayRow where
  grpcTarget : String
  status : GatewayStatus
  deriving DecidableEq, Repr

structure MeterAudit where
  userId : Int
  action : String
  objectId : Int
  details : List (String × List String) := []
  deriving DecidableEq, Repr

structure DirectoryDb where
  meters : Table Int DirectoryRow
  gateways : Table Int GatewayRow := .empty
  schedules : Table Int Schedule := .empty
  auditLog : List MeterAudit := []

inductive DirectoryError
  | http (e : HttpError)
  | integrityError
  | unicodeEncodeError
  | otherError
  deriving DecidableEq, Repr

abbrev DirectoryWork (α : Type) := Program DirectoryError DirectoryDb α

/-- The meters as the creation of jobs sees them. -/
def DirectoryDb.meterRows (db : DirectoryDb) : Table Int MeterRow :=
  db.meters.mapRows (·.toMeterRow)

/-- The meters as a claim sees them. -/
def DirectoryDb.claimRows (db : DirectoryDb) : Table Int Meter :=
  db.meters.mapRows (·.toMeter)

def DirectoryDb.updateMeter (id : Int) (g : DirectoryRow → DirectoryRow) (db : DirectoryDb) :
    DirectoryDb :=
  { db with meters := db.meters.update id g }

/-- A key that is taken is not given again. -/
def DirectoryDb.addMeter (id : Int) (row : DirectoryRow) (db : DirectoryDb) : DirectoryDb :=
  if h : db.meters.get id = none then { db with meters := db.meters.insert id row h } else db

def recordAudit (entry : MeterAudit) : DirectoryWork Unit :=
  Program.change fun db => { db with auditLog := db.auditLog ++ [entry] }

/-- What becomes of a column: `loaded` is what the session has read, `stored` what there is. -/
def put {α : Type} [DecidableEq α] (loaded : α) (value : Option α) (stored : α) : α :=
  match value with
  | some value => if value = loaded then stored else value
  | none => stored

def httpError (status : Nat) (detail : String) : DirectoryError := .http (.http status detail)

def loadMeter (missing : DirectoryError) (id : Int) : DirectoryWork DirectoryRow := do
  let db ← Program.query
  match db.meters.get id with
  | some row => pure row
  | none => Program.ofExcept (.error missing)

/-- `db.get(Meter, …)`, which must be there. -/
def getMeter (id : Int) : DirectoryWork DirectoryRow :=
  loadMeter (httpError 404 "Счётчик не найден") id

/-- `db.refresh(meter)`. -/
def refreshMeter (id : Int) : DirectoryWork DirectoryRow := loadMeter .otherError id

/-- `encrypt_secret(password.encode("ascii"))`. -/
def encryptPassword (fernet : Fernet) (nonce : Nat) (password : String) :
    Except DirectoryError (List UInt8) :=
  match asciiEncode password with
  | .ok raw => .ok (fernet.encrypt nonce raw)
  | .error _ => .error .unicodeEncodeError

/-- The body is checked before the endpoint runs. -/
structure MeterCreate where
  serialNumber : String
  ipAddress : Option String := none
  port : Option Int := none
  isCallHome : Bool := false
  protocolProfile : ProtocolProfile
  password : String
  location : Option String := none
  model : Option String := none
  gatewayId : Int
  serialLength : 1 ≤ serialNumber.length ∧ serialNumber.length ≤ 32
  portRange : ∀ p ∈ port, 0 < p ∧ p ≤ 65535
  /-- A meter that does not call home must be called. -/
  addressed : isCallHome = true ∨ ipAddress.isSome ∧ port.isSome

def createMeter (fernet : Fernet) (userId : Int) (body : MeterCreate) (id : Int) (nonce : Nat) :
    DirectoryWork (Int × DirectoryRow) := do
  let db ← Program.query
  match (db.gateways.get body.gatewayId).filter (·.status = .approved) with
  | none => Program.ofExcept (.error (httpError 400
      "Gateway не найден либо не подтверждён (approved) Супер-администратором"))
  | some _ => do
    let token ← Program.ofExcept (encryptPassword fernet nonce body.password)
    Program.change (DirectoryDb.addMeter id {
      serialNumber := body.serialNumber
      ipAddress := body.ipAddress
      port := body.port
      isCallHome := body.isCallHome
      protocolProfile := some body.protocolProfile.value
      passwordEncrypted := some token
      location := body.location
      model := body.model
      gatewayId := body.gatewayId
      status := .active })
    Program.flush
    recordAudit ⟨userId, "meter.create", id, [("serial_number", [body.serialNumber])]⟩
    Program.commit
    let row ← refreshMeter id
    pure (id, row)

structure ActivateMeterRequest where
  password : String
  protocolProfile : ProtocolProfile
  ipAddress : Option String := none
  port : Option Int := none
  location : Option String := none
  model : Option String := none
  portRange : ∀ p ∈ port, 0 < p ∧ p ≤ 65535

/-- The columns an activation sets; `loaded` is the row it has read. -/
def ActivateMeterRequest.write (body : ActivateMeterRequest) (token : List UInt8)
    (loaded stored : DirectoryRow) : DirectoryRow :=
  { stored with
    passwordEncrypted := some token
    protocolProfile := put loaded.protocolProfile (some (some body.protocolProfile.value))
      stored.protocolProfile
    ipAddress := put loaded.ipAddress (body.ipAddress.map some) stored.ipAddress
    port := put loaded.port (body.port.map some) stored.port
    location := put loaded.location (body.location.map some) stored.location
    model := put loaded.model (body.model.map some) stored.model
    status := put loaded.status (some .active) stored.status
    isActive := put loaded.isActive (some true) stored.isActive }

def activateMeter (fernet : Fernet) (userId id : Int) (body : ActivateMeterRequest) (nonce : Nat) :
    DirectoryWork DirectoryRow := do
  let meter ← getMeter id
  if meter.status = .active then
    Program.ofExcept (.error (httpError 409 "Счётчик уже активирован"))
  else do
    let token ← Program.ofExcept (encryptPassword fernet nonce body.password)
    Program.change (DirectoryDb.updateMeter id (body.write token meter))
    recordAudit ⟨userId, "meter.activate", id, [("serial_number", [meter.serialNumber]),
      ("protocol_profile", [body.protocolProfile.value])]⟩
    Program.commit
    refreshMeter id

/-- The fields of the body that are there; a field may be there and be null. -/
structure MeterUpdate where
  serialNumber : Option (Option String) := none
  ipAddress : Option (Option String) := none
  port : Option (Option Int) := none
  isCallHome : Option (Option Bool) := none
  password : Option String := none
  location : Option (Option String) := none
  model : Option (Option String) := none
  isActive : Option (Option Bool) := none
  isLowConsumption : Option (Option Bool) := none
  resName : Option (Option String) := none

namespace MeterUpdate

variable (body : MeterUpdate)

/-- `changes.keys()`. -/
def changedFields : List String :=
  [("serial_number", body.serialNumber.isSome), ("ip_address", body.ipAddress.isSome),
    ("port", body.port.isSome), ("is_call_home", body.isCallHome.isSome),
    ("location", body.location.isSome), ("model", body.model.isSome),
    ("is_active", body.isActive.isSome), ("is_low_consumption", body.isLowConsumption.isSome),
    ("res_name", body.resName.isSome)].filterMap fun field => if field.2 then some field.1 else none

/-- A column that must not be null is to be. -/
def violates : Bool :=
  body.serialNumber = some none ∨ body.isCallHome = some none ∨ body.isActive = some none ∨
    body.isLowConsumption = some none

def write (token : Option (List UInt8)) (loaded stored : DirectoryRow) : DirectoryRow :=
  { stored with
    serialNumber := put loaded.serialNumber body.serialNumber.join stored.serialNumber
    ipAddress := put loaded.ipAddress body.ipAddress stored.ipAddress
    port := put loaded.port body.port stored.port
    isCallHome := put loaded.isCallHome body.isCallHome.join stored.isCallHome
    passwordEncrypted := (token.map some).getD stored.passwordEncrypted
    location := put loaded.location body.location stored.location
    model := put loaded.model body.model stored.model
    isActive := put loaded.isActive body.isActive.join stored.isActive
    isLowConsumption := put loaded.isLowConsumption body.isLowConsumption.join
      stored.isLowConsumption
    resName := put loaded.resName body.resName stored.resName }

end MeterUpdate

/-- A flush that goes on with what the endpoint says of an `IntegrityError`. -/
def flushOr (detail : String) (violates : Bool) : DirectoryWork Unit :=
  Program.tryExcept
    (do Program.ofExcept (if violates then .error .integrityError else .ok ()); Program.flush)
    fun e => Program.ofExcept (.error (if e = .integrityError then httpError 409 detail else e))

def updateMeter (fernet : Fernet) (userId id : Int) (body : MeterUpdate) (nonce : Nat) :
    DirectoryWork DirectoryRow := do
  let meter ← getMeter id
  let token ← Program.ofExcept (body.password.mapM (encryptPassword fernet nonce))
  Program.change (DirectoryDb.updateMeter id (body.write token meter))
  recordAudit ⟨userId, "meter.update", id, [("changed_fields", body.changedFields)]⟩
  flushOr "Счётчик с таким серийным номером уже существует" body.violates
  Program.commit
  refreshMeter id

def deleteMeter (userId id : Int) : DirectoryWork Unit := do
  let _ ← getMeter id
  Program.change fun db => { db with meters := db.meters.erase id }
  flushOr ("Нельзя удалить счётчик — с ним связаны показания, задачи или журналы. " ++
    "Деактивируйте счётчик (is_active=false) вместо удаления.") false
  recordAudit ⟨userId, "meter.delete", id, []⟩
  Program.commit

/-- `PORT_TO_RES_NAME`. -/
def portToResName : List (Int × String) :=
  [(2009, "Общий"), (2010, "Кок-Арт РЭС"), (2011, "Сузак РЭС"), (2012, "Базар-Коргон РЭС"),
    (2013, "Ноокен РЭС"), (2014, "Майлуу-Суу РЭС"), (2015, "Ташкомур РЭС"), (2016, "Аксы РЭС"),
    (2017, "Алабука РЭС"), (2018, "Кара-Куль РЭС"), (2019, "Токтогул РЭС, Чаткал РЭС"),
    (2020, "ТСН"), (2021, "Хоз. службы"), (2022, "ТП Жалал-Абад"), (2023, "ТП Сузак"),
    (2024, "Манас РЭС (100А)"), (2025, "Манас РЭС (5А)")]

def resNameForPort (port : Option Int) : Option String := port.bind (portToResName.lookup ·)

/-- `_record_connection_metadata`; whatever is raised is swallowed. -/
def recordConnectionMetadata (serial : String) (peerIp : Option String) (localPort : Option Int) :
    DirectoryWork Unit :=
  Program.tryExcept
    (do
      let db ← Program.query
      match db.meters.rows.find? fun r => r.2.serialNumber = serial with
      | none => pure ()
      | some (id, meter) =>
        let ipAddress := peerIp.filter fun ip => ip ≠ "" ∧ meter.ipAddress ≠ some ip
        let resName := (resNameForPort localPort).filter fun name => meter.resName ≠ some name
        if ipAddress.isSome ∨ resName.isSome then do
          Program.change (DirectoryDb.updateMeter id fun row =>
            { row with
              ipAddress := (ipAddress.map some).getD row.ipAddress
              resName := (resName.map some).getD row.resName })
          Program.commit
        else pure ())
    fun _ => pure ()

/-- What a session of the discovery is given: the keys of the new meters, one after the other, the
    randomness of their tokens, and the order in which each query returns schedules. -/
structure Given where
  id : Nat → Int
  nonce : Nat → Nat
  order : Nat → List (Int × Schedule) → List (Int × Schedule)
  perm : ∀ k rows, (order k rows).Perm rows

/-- `max(schedules, key=lambda s: len(s.meter_ids))`, of the schedules of one type. -/
def biggestSchedule (order : List (Int × Schedule) → List (Int × Schedule)) (jobType : JobType)
    (schedules : Table Int Schedule) : Option (Int × Schedule) :=
  (order (schedules.rows.filter fun r => r.2.jobType = jobType)).argmax (·.2.meterIds.length)

/-- One round of the loop of `_add_to_catchall_schedules`.  A session keeps a loaded row only as long as
    something refers to it; the rows of a round are let go at its end, so the next one reads them anew,
    with what this session has changed in them. -/
def addToBiggest (order : List (Int × Schedule) → List (Int × Schedule)) (jobType : JobType)
    (meterId : Int) : DirectoryWork Unit := do
  let db ← Program.query
  match biggestSchedule order jobType db.schedules with
  | none => pure ()
  | some (scheduleId, biggest) =>
    if meterId ∈ biggest.meterIds then pure ()
    else Program.change fun db => { db with
      schedules := db.schedules.update scheduleId fun schedule =>
        { schedule with meterIds := biggest.meterIds ++ [meterId] } }

/-- `_add_to_catchall_schedules`, for the new meters from the `k`-th on. -/
def addToCatchallSchedules (given : Given) (k : Nat) : List String → DirectoryWork Unit
  | [] => pure ()
  | _ :: rest => do
    addToBiggest (given.order (2 * k)) .readCurrent (given.id k)
    addToBiggest (given.order (2 * k + 1)) .readRatedCurrent (given.id k)
    addToCatchallSchedules given (k + 1) rest

/-- `_AUTO_ACTIVATE_PASSWORD`. -/
def autoActivatePassword : List UInt8 := [0x31, 0x32, 0x33, 0x34, 0x35, 0x36, 0x37, 0x38]

def autoActivateProfile : ProtocolProfile := .hdlcDlms

def discoveredRow (fernet : Fernet) (gatewayId : Int) (nonce : Nat) (serial : String) :
    DirectoryRow where
  serialNumber := serial
  isCallHome := true
  protocolProfile := some autoActivateProfile.value
  passwordEncrypted := some (fernet.encrypt nonce autoActivatePassword)
  gatewayId := gatewayId
  status := .active

def addDiscovered (fernet : Fernet) (gatewayId : Int) (given : Given) (k : Nat) :
    List String → DirectoryWork Unit
  | [] => pure ()
  | serial :: rest => do
    Program.change (DirectoryDb.addMeter (given.id k)
      (discoveredRow fernet gatewayId (given.nonce k) serial))
    addDiscovered fernet gatewayId given (k + 1) rest

/-- The serial numbers of a report that become meters. -/
def newSerials (db : DirectoryDb) (seen : List String) : List String :=
  (seen.filter fun serial => serial ∉ db.meters.rows.map (·.2.serialNumber)).filter PyText.isDigit

/-- The session for the report of one Gateway. -/
def discover (fernet : Fernet) (gatewayId : Int) (seen : List String) (given : Given) :
    DirectoryWork Unit := do
  let db ← Program.query
  match newSerials db seen with
  | [] => pure ()
  | autoActivated => do
    addDiscovered fernet gatewayId given 0 autoActivated
    Program.flush
    addToCatchallSchedules given 0 autoActivated
    Program.commit

/-! ## Writes -/

section Writes

variable {fernet : Fernet}

/-- A profile, and a password that can be read. -/
def DirectoryRow.Provisioned (fernet : Fernet) (row : DirectoryRow) : Prop :=
  row.protocolProfile.isSome ∧ (row.passwordEncrypted.bind fernet.password).isSome

/-- The rows of this kind in the second state were of this kind in the first. -/
def NoneNew (p : DirectoryRow → Prop) (db db' : DirectoryDb) : Prop :=
  ∀ id row, db'.meters.get id = some row → p row → ∃ old, db.meters.get id = some old ∧ p old

/-- Where nothing has changed there is no meter that was not there before. -/
theorem NoneNew.refl (p : DirectoryRow → Prop) (db : DirectoryDb) : NoneNew p db db :=
  fun _ row hrow hp => ⟨row, hrow, hp⟩

/-- Nothing new on either of two stretches is nothing new over both. -/
theorem NoneNew.trans {p : DirectoryRow → Prop} {db db' db'' : DirectoryDb} (h : NoneNew p db db')
    (h' : NoneNew p db' db'') : NoneNew p db db'' := by
  intro id row hrow hp
  obtain ⟨old, hold, hp⟩ := h' id row hrow hp
  exact h id old hold hp

/-- What sessions rely on, and keep. -/
def directoryContract (fernet : Fernet) : Contract DirectoryDb where
  good db := ∀ id row, db.meters.get id = some row → row.status = .active → row.Provisioned fernet
  moves db db' := NoneNew (·.status = .installed) db db' ∧ NoneNew (·.protocolProfile = none) db db'
  refl db := ⟨.refl _ db, .refl _ db⟩
  trans h h' := ⟨h.1.trans h'.1, h.2.trans h'.2⟩

/-- What may become of a row. -/
structure MeterStep (fernet : Fernet) (row row' : DirectoryRow) : Prop where
  installed : row'.status = .installed → row.status = .installed
  profile : row'.protocolProfile = none → row.protocolProfile = none
  provisioned : (row.status = .active → row.Provisioned fernet) → row'.status = .active →
    row'.Provisioned fernet

/-- A write may be staged if every row it leaves either is active and provisioned by itself, or is a
    step of a row that was there. -/
theorem stages_meters {base : DirectoryDb} {f : DirectoryDb → DirectoryDb}
    (h : ∀ db, (directoryContract fernet).good db → (directoryContract fernet).moves base db →
      ∀ id row, (f db).meters.get id = some row →
        row.status = .active ∧ row.Provisioned fernet ∨
        ∃ old, db.meters.get id = some old ∧ MeterStep fernet old row) :
    (directoryContract fernet).Stages base f := by
  intro db hdb hmoves
  refine ⟨fun id row hrow hactive => ?_, fun id row hrow hp => ?_, fun id row hrow hp => ?_⟩
  · rcases h db hdb hmoves id row hrow with ⟨_, hready⟩ | ⟨old, hold, hstep⟩
    · exact hready
    · exact hstep.provisioned (hdb id old hold) hactive
  · rcases h db hdb hmoves id row hrow with ⟨hactive, _⟩ | ⟨old, hold, hstep⟩
    · exact absurd (hactive.symm.trans hp) (by decide)
    · exact ⟨old, hold, hstep.installed hp⟩
  · rcases h db hdb hmoves id row hrow with ⟨_, hready⟩ | ⟨old, hold, hstep⟩
    · have hsome := hready.1
      rw [hp] at hsome
      cases hsome
    · exact ⟨old, hold, hstep.profile hp⟩

/-- A write that keeps the contract wherever it is made. -/
def SafeWrite (fernet : Fernet) (f : DirectoryDb → DirectoryDb) : Prop :=
  ∀ base, (directoryContract fernet).Stages base f

/-- A row of a meter may stay as it is. -/
theorem MeterStep.refl (row : DirectoryRow) : MeterStep fernet row row :=
  ⟨fun h => h, fun h => h, fun h => h⟩

/-- An update of one row may be staged if it is a step of that row, whatever others have made of the
    row meanwhile. -/
theorem stages_updateMeter {base : DirectoryDb} {id : Int} {g : DirectoryRow → DirectoryRow}
    (h : ∀ db row, (directoryContract fernet).moves base db → db.meters.get id = some row →
      MeterStep fernet row (g row)) :
    (directoryContract fernet).Stages base (DirectoryDb.updateMeter id g) := by
  refine stages_meters fun db hdb hmoves id' row hrow => .inr ?_
  by_cases hid : id' = id
  · subst hid
    rw [DirectoryDb.updateMeter, Table.get_update_self] at hrow
    obtain ⟨old, hold, rfl⟩ := Option.map_eq_some_iff.mp hrow
    exact ⟨old, hold, h db old hmoves hold⟩
  · rw [DirectoryDb.updateMeter, Table.get_update_ne _ hid] at hrow
    exact ⟨row, hrow, .refl row⟩

/-- A write of other tables is safe for the meters. -/
theorem safeWrite_other {f : DirectoryDb → DirectoryDb} (h : ∀ db, (f db).meters = db.meters) :
    SafeWrite fernet f :=
  fun _ => stages_meters fun db _ _ _ row hrow => .inr ⟨row, by rwa [← h db], .refl row⟩

/-- A new meter is safe if it comes active with a profile and a readable password: it is neither
    `INSTALLED` nor without profile. -/
theorem safeWrite_add {id : Int} {row : DirectoryRow} (hactive : row.status = .active)
    (hready : row.Provisioned fernet) : SafeWrite fernet (DirectoryDb.addMeter id row) := by
  refine fun _ => stages_meters fun db _ _ id' row' hrow => ?_
  rw [DirectoryDb.addMeter] at hrow
  split at hrow
  · rename_i hfree
    by_cases hid : id' = id
    · subst hid
      rw [Table.get_insert_self] at hrow
      obtain rfl := Option.some.inj hrow
      exact .inl ⟨hactive, hready⟩
    · rw [Table.get_insert_ne _ _ hfree hid] at hrow
      exact .inr ⟨row', hrow, .refl row'⟩
  · exact .inr ⟨row', hrow, .refl row'⟩

/-- Taking a meter out of the directory is a safe write: it makes no meter active. -/
theorem safeWrite_erase (id : Int) :
    SafeWrite fernet fun db => { db with meters := db.meters.erase id } :=
  fun _ => stages_meters fun _ _ _ _ row hrow =>
    .inr ⟨row, Table.get_of_get_erase hrow, .refl row⟩

/-- A token that `encrypt_secret` has made of a password can be read again: it refuses everything
    but ASCII before. -/
theorem encryptPassword_ok {nonce : Nat} {text : String} {token : List UInt8}
    (h : encryptPassword fernet nonce text = .ok token) : (fernet.password token).isSome := by
  rw [encryptPassword] at h
  split at h
  · rename_i raw hraw
    obtain rfl := Except.ok.inj h
    rw [Fernet.password_encrypt hraw]
    rfl
  · cases h

/-- The audit log is a table of its own, so that an entry in it is a safe write. -/
theorem writes_recordAudit (entry : MeterAudit) : (recordAudit entry).Writes (SafeWrite fernet) :=
  Program.writes_change (safeWrite_other fun _ => rfl)

/-- Loading a meter writes nothing, found or not. -/
theorem writes_loadMeter (missing : DirectoryError) (id : Int) :
    (loadMeter missing id).Writes (SafeWrite fernet) := by
  refine Program.Writes.bind Program.writes_query fun db => ?_
  split
  · trivial
  · exact Program.writes_ofExcept _

/-- A flush whose violation becomes an answer writes nothing. -/
theorem writes_flushOr (detail : String) (violates : Bool) :
    (flushOr detail violates).Writes (SafeWrite fernet) :=
  .tryExcept (.bind (Program.writes_ofExcept _) fun _ => Program.writes_flush) fun _ =>
    Program.writes_ofExcept _

/-! ### Programs -/

/-- `create_meter` adds an active meter with a profile and the password it was given, or refuses the
    request before it writes. -/
theorem writes_createMeter (userId : Int) (body : MeterCreate) (id : Int) (nonce : Nat) :
    (createMeter fernet userId body id nonce).Writes (SafeWrite fernet) := by
  refine .bind Program.writes_query fun db => ?_
  split
  · exact Program.writes_ofExcept _
  · refine Program.writes_ofExcept_bind fun token htoken => ?_
    refine .bind (Program.writes_change (safeWrite_add rfl ⟨rfl, ?_⟩)) fun _ => ?_
    · exact encryptPassword_ok htoken
    · refine .bind Program.writes_flush fun _ => ?_
      refine .bind (writes_recordAudit _) fun _ => ?_
      refine .bind Program.writes_commit fun _ => ?_
      exact .bind (writes_loadMeter _ id) fun _ => trivial

/-- `update_meter` leaves status and profile of a meter alone, and writes only passwords that can be
    read again. -/
theorem writes_updateMeter (userId id : Int) (body : MeterUpdate) (nonce : Nat) :
    (updateMeter fernet userId id body nonce).Writes (SafeWrite fernet) := by
  refine .bind (writes_loadMeter _ id) fun meter => ?_
  refine Program.writes_ofExcept_bind fun token htoken => ?_
  refine .bind (Program.writes_change fun _ => stages_updateMeter fun db row _ _ => ?_) fun _ => ?_
  · refine ⟨fun h => h, fun h => h, fun hready hactive => ?_⟩
    obtain ⟨hprofile, hpassword⟩ := hready hactive
    refine ⟨hprofile, ?_⟩
    rcases hbody : body.password with _ | password
    · rw [hbody] at htoken
      obtain rfl := Except.ok.inj htoken
      exact hpassword
    · rw [hbody] at htoken
      obtain ⟨token', htoken', hsame⟩ := Result.bind_eq_ok htoken
      obtain rfl := Except.ok.inj hsame
      exact encryptPassword_ok htoken'
  · refine .bind (writes_recordAudit _) fun _ => ?_
    refine .bind (writes_flushOr _ _) fun _ => ?_
    exact .bind Program.writes_commit fun _ => writes_loadMeter _ id

/-- `delete_meter` takes one row away and notes it. -/
theorem writes_deleteMeter (userId id : Int) :
    (deleteMeter userId id).Writes (SafeWrite fernet) := by
  refine .bind (writes_loadMeter _ id) fun _ => ?_
  refine .bind (Program.writes_change (safeWrite_erase id)) fun _ => ?_
  refine .bind (writes_flushOr _ _) fun _ => ?_
  exact .bind (writes_recordAudit _) fun _ => Program.writes_commit

/-- The metadata of a connection touch the address and the name of the substation only. -/
theorem writes_recordConnectionMetadata (serial : String) (peerIp : Option String)
    (localPort : Option Int) :
    (recordConnectionMetadata serial peerIp localPort).Writes (SafeWrite fernet) := by
  refine .tryExcept (.bind Program.writes_query fun db => ?_) fun _ => trivial
  split
  · exact trivial
  · dsimp only
    split
    · exact .bind (Program.writes_change fun _ => stages_updateMeter fun _ _ _ _ =>
        ⟨fun h => h, fun h => h, fun h => h⟩) fun _ => Program.writes_commit
    · exact trivial

/-- The password of discovered meters can be read again. -/
theorem autoActivatePassword_reads (nonce : Nat) :
    fernet.password (fernet.encrypt nonce autoActivatePassword) = some "12345678" :=
  Fernet.password_encrypt (by decide)

/-- Discovered meters come active, with a profile and a readable password. -/
theorem writes_addDiscovered (gatewayId : Int) (given : Given) (serials : List String) :
    ∀ k, (addDiscovered fernet gatewayId given k serials).Writes (SafeWrite fernet) := by
  induction serials with
  | nil => exact fun _ => trivial
  | cons serial rest ih =>
    intro k
    refine .bind (Program.writes_change (safeWrite_add rfl ⟨rfl, ?_⟩)) fun _ => ih (k + 1)
    show (fernet.password _).isSome
    rw [autoActivatePassword_reads]
    rfl

/-- The schedules are a table of their own, so that adding a meter to one of them is a safe write.
    -/
theorem writes_addToBiggest (order : List (Int × Schedule) → List (Int × Schedule))
    (jobType : JobType) (meterId : Int) :
    (addToBiggest order jobType meterId).Writes (SafeWrite fernet) := by
  refine .bind Program.writes_query fun db => ?_
  split
  · exact trivial
  · split
    · exact trivial
    · exact Program.writes_change (safeWrite_other fun _ => rfl)

/-- The loop over the new meters touches schedules only, which are another table. -/
theorem writes_addToCatchallSchedules (given : Given) (serials : List String) :
    ∀ k, (addToCatchallSchedules given k serials).Writes (SafeWrite fernet) := by
  induction serials with
  | nil => exact fun _ => trivial
  | cons serial rest ih =>
    exact fun k => .bind (writes_addToBiggest _ _ _) fun _ => .bind (writes_addToBiggest _ _ _)
      fun _ => ih (k + 1)

/-- The session for the report of a Gateway makes only such writes. -/
theorem writes_discover (gatewayId : Int) (seen : List String) (given : Given) :
    (discover fernet gatewayId seen given).Writes (SafeWrite fernet) := by
  refine .bind Program.writes_query fun db => ?_
  split
  · exact trivial
  · refine .bind (writes_addDiscovered _ _ _ _) fun _ => ?_
    refine .bind Program.writes_flush fun _ => ?_
    exact .bind (writes_addToCatchallSchedules _ _ _) fun _ => Program.writes_commit

/-- A program of safe writes keeps the contract, wherever it commits and whatever others do in
    between. -/
theorem keeps_of_writes {α : Type} {p : DirectoryWork α} (h : p.Writes (SafeWrite fernet))
    (base : DirectoryDb) :
    p.Keeps (directoryContract fernet) (fun _ _ _ => True) (fun _ _ _ => True) base id :=
  (h.keeps (fun _ hf => hf base) ((directoryContract fernet).refl base)
    (Contract.stages_id base)).mono (fun _ _ _ _ => trivial) fun _ _ _ _ => trivial

/-- An activation leaves a profile on a row that others may have changed since it was read. -/
theorem stages_activate {body : ActivateMeterRequest} {token : List UInt8} {base : DirectoryDb}
    {id : Int} {meter : DirectoryRow} (hmeter : base.meters.get id = some meter)
    (hinstalled : meter.status ≠ .active) (htoken : (fernet.password token).isSome) :
    (directoryContract fernet).Stages base
      (DirectoryDb.updateMeter id (body.write token meter)) := by
  refine stages_updateMeter fun db row hmoves hrow => ?_
  have hstatus : (body.write token meter row).status = .active := by
    simp only [ActivateMeterRequest.write, put, if_neg (Ne.symm hinstalled)]
  have hprofile : (body.write token meter row).protocolProfile.isSome := by
    simp only [ActivateMeterRequest.write, put]
    split
    · rename_i hsame
      rcases hnone : row.protocolProfile with _ | profile
      · obtain ⟨old, hold, hlacks⟩ := hmoves.2 id row hrow hnone
        obtain rfl := Option.some.inj (hold.symm.trans hmeter)
        exact absurd (hsame.trans hlacks) (Option.some_ne_none _)
      · rfl
    · rfl
  refine ⟨fun h => ?_, fun h => ?_, fun _ _ => ⟨hprofile, htoken⟩⟩
  · exact absurd (hstatus.symm.trans h) (by decide)
  · rw [h] at hprofile
    cases hprofile

/-- `activate_meter` is more than safe writes: it looks at the row, refuses it or leaves it active,
    with the profile and the password it has checked. -/
theorem keeps_activateMeter (userId meterId : Int) (body : ActivateMeterRequest) (nonce : Nat)
    (base : DirectoryDb) : (activateMeter fernet userId meterId body nonce).Keeps
      (directoryContract fernet) (fun _ _ _ => True) (fun _ _ _ => True) base id := by
  refine Program.Keeps.bind (Program.Keeps.bind (Program.keeps_query fun db _ _ => ?_))
  split
  · rename_i meter hmeter
    show Program.Keeps _ _ _ (ite _ _ _) db id
    split
    · exact trivial
    · rename_i hinstalled
      refine Program.Keeps.bind (Program.keeps_ofExcept (fun token htoken => ?_) fun _ _ => trivial)
      have hstages : (directoryContract fernet).Stages db
          (DirectoryDb.updateMeter meterId (body.write token meter)) :=
        stages_activate hmeter hinstalled (encryptPassword_ok htoken)
      refine Program.Keeps.bind (Program.keeps_change ?_)
      refine Program.Keeps.bind (Program.keeps_change ?_)
      refine Program.Keeps.bind (Program.keeps_commit (hstages.write
        (safeWrite_other (fun _ => rfl) db)) fun db' _ _ => ?_)
      exact keeps_of_writes (writes_loadMeter _ meterId) _
  · exact trivial

end Writes

/-! ## Service -/

section Known

variable {values : Values V} {meters : Table Int MeterRow}

/-- A meter that is active is in the directory. -/
theorem IsActive.known {meterId : Int} (h : IsActive meters meterId) : meters.get meterId ≠ none := by
  obtain ⟨_, hmeter, _⟩ := h
  rw [hmeter]
  exact Option.some_ne_none _

/-- The jobs of an applied scheme are for meters that are in the directory. -/
theorem applyScheme_known {scheme : Option ParameterScheme} {meterIds : List Int} {createdAt : Int}
    {jobs : List (Job V)} (h : applyScheme meters scheme meterIds createdAt = .ok jobs) :
    ∀ job ∈ jobs, meters.get job.meterId ≠ none := by
  intro job hjob hnone
  rcases scheme with _ | parameters
  · cases h
  rw [applyScheme] at h
  split at h
  · cases h
  · rename_i hmissing
    cases h
    obtain ⟨id, hid, hjob⟩ := List.mem_flatMap.mp hjob
    obtain ⟨_, _, rfl⟩ := List.mem_map.mp hjob
    exact hmissing (List.ne_nil_of_mem (List.mem_filter.mpr ⟨hid, decide_eq_true hnone⟩))

/-- What a lookup by serial number finds is in the directory. -/
theorem meterOfSerial_known {serial : String} {meterId : Int}
    (h : meterOfSerial meters serial = some meterId) : meters.get meterId ≠ none := by
  obtain ⟨r, hr, rfl⟩ := Option.map_eq_some_iff.mp h
  rw [Table.get_eq_some.mpr (List.mem_of_find?_eq_some hr)]
  exact Option.some_ne_none _

/-- Whatever creates a job creates it for a meter that is there. -/
theorem created_known {repr : String → String} {s t : BatchState V} {ids : List Int} {createdAt : Int}
    {request : CreationRequest} {answer : Except Refusal Unit}
    (h : serveCreation values repr meters s ids createdAt request = some (t, answer)) :
    ∀ job ∈ createdJobs s t, meters.get job.meterId ≠ none := by
  have hsame : ∀ job ∈ createdJobs s s, meters.get job.meterId ≠ none := by
    rw [createdJobs_eq (List.append_nil _).symm]
    exact fun job hjob => absurd hjob List.not_mem_nil
  cases request with
  | endpoint e meterId =>
    rw [serveCreation] at h
    split at h
    · cases h
      exact hsame
    · rename_i job hjob
      obtain ⟨core, hcore, heq⟩ := Option.map_eq_some_iff.mp h
      cases heq
      rw [createdJobs_addJobs hcore]
      exact List.forall_mem_singleton.mpr (MeterEndpoint.serve_ok hjob).known
  | applyScheme scheme meterIds =>
    rw [serveCreation] at h
    split at h
    · cases h
      exact hsame
    · rename_i jobs hjobs
      obtain ⟨core, hcore, heq⟩ := Option.map_eq_some_iff.mp h
      cases heq
      rw [createdJobs_addJobs hcore]
      exact applyScheme_known hjobs
  | batch operation request idempotencyKey apiKeyId new =>
    obtain ⟨⟨u, batchAnswer⟩, hbatch, heq⟩ := Option.map_eq_some_iff.mp h
    cases heq
    rcases createBatch_cases hbatch with ⟨rfl, -⟩ | ⟨key, rfl, -, ⟨_, -, -, rfl, -⟩ | ⟨-, hmade, -⟩⟩
    · exact hsame
    · exact hsame
    · intro job hjob
      have hid := List.mem_map_of_mem (f := (·.meterId)) hjob
      rw [insertBatch_jobs hmade] at hid
      obtain ⟨serial, _, hserial⟩ := List.mem_filterMap.mp hid
      exact meterOfSerial_known hserial
  | tick schedule profiles clock runId =>
    obtain ⟨core, hcore, heq⟩ := Option.map_eq_some_iff.mp h
    cases heq
    rw [createdJobs_addJobs hcore, triggerOne]
    refine List.forall_mem_map.mpr fun pair hpair => ?_
    obtain ⟨⟨row, hrow, _⟩, _⟩ := mem_duePairs.mp (List.mem_map_of_mem hpair)
    show meters.get pair.1 ≠ none
    rw [hrow]
    exact Option.some_ne_none _

end Known

section Runs

variable {n : Nat} {fernet : Fernet}

/-- What happens to the directory: requests, call homes and discoveries, all at once.  Others write
    other columns, and delete. -/
inductive DirectoryStep (fernet : Fernet) (s : Shared DirectoryError DirectoryDb n) :
    SharedAction DirectoryError DirectoryDb n → Prop
  | create (k : Fin n) (userId : Int) (body : MeterCreate) (id : Int) (nonce : Nat) :
    DirectoryStep fernet s (.start k (createMeter fernet userId body id nonce >>= fun _ => pure ()))
  | activate (k : Fin n) (userId id : Int) (body : ActivateMeterRequest) (nonce : Nat) :
    DirectoryStep fernet s
      (.start k (activateMeter fernet userId id body nonce >>= fun _ => pure ()))
  | update (k : Fin n) (userId id : Int) (body : MeterUpdate) (nonce : Nat) :
    DirectoryStep fernet s (.start k (updateMeter fernet userId id body nonce >>= fun _ => pure ()))
  | delete (k : Fin n) (userId id : Int) :
    DirectoryStep fernet s (.start k (deleteMeter userId id))
  | callHome (k : Fin n) (serial : String) (peerIp : Option String) (localPort : Option Int) :
    DirectoryStep fernet s (.start k (recordConnectionMetadata serial peerIp localPort))
  | discover (k : Fin n) (gatewayId : Int) (seen : List String) (given : Given) :
    DirectoryStep fernet s (.start k (discover fernet gatewayId seen given))
  | act (k : Fin n) : DirectoryStep fernet s (.act k)
  | elsewhere (db : DirectoryDb)
      (same : ∀ id row, db.meters.get id = some row → ∃ old, s.stored.meters.get id = some old ∧
        row.status = old.status ∧ row.protocolProfile = old.protocolProfile ∧
        row.passwordEncrypted = old.passwordEncrypted) :
    DirectoryStep fernet s (.elsewhere db)

/-- Every step of the run fits the contract: each endpoint by its lemma, the others by what is asked
    of them. -/
theorem DirectoryStep.fits {s : Shared DirectoryError DirectoryDb n}
    {a : SharedAction DirectoryError DirectoryDb n}
    (hstored : (directoryContract fernet).good s.stored) (h : DirectoryStep fernet s a) :
    Fits (directoryContract fernet) s a := by
  have hdone : ∀ {α : Type} {p : DirectoryWork α}, p.Keeps (directoryContract fernet)
      (fun _ _ _ => True) (fun _ _ _ => True) s.stored id →
      (p >>= fun _ => pure ()).Keeps (directoryContract fernet) (fun _ _ _ => True)
        (fun _ _ _ => True) s.stored id := fun h => Program.Keeps.bind h
  cases h with
  | create k userId body meterId nonce =>
    exact hdone (keeps_of_writes (writes_createMeter userId body meterId nonce) _)
  | activate k userId meterId body nonce => exact hdone (keeps_activateMeter userId meterId body nonce _)
  | update k userId meterId body nonce =>
    exact hdone (keeps_of_writes (writes_updateMeter userId meterId body nonce) _)
  | delete k userId meterId => exact keeps_of_writes (writes_deleteMeter userId meterId) _
  | callHome k serial peerIp localPort =>
    exact keeps_of_writes (writes_recordConnectionMetadata serial peerIp localPort) _
  | discover k gatewayId seen given => exact keeps_of_writes (writes_discover gatewayId seen given) _
  | act k => trivial
  | elsewhere db same =>
    refine ⟨fun id row hrow hactive => ?_, fun id row hrow hp => ?_, fun id row hrow hp => ?_⟩
    · obtain ⟨old, hold, hstatus, hprofile, hpassword⟩ := same id row hrow
      rw [DirectoryRow.Provisioned, hprofile, hpassword]
      exact hstored id old hold (hstatus ▸ hactive)
    · obtain ⟨old, hold, hstatus, _⟩ := same id row hrow
      exact ⟨old, hold, hstatus.symm.trans hp⟩
    · obtain ⟨old, hold, _, hprofile, _⟩ := same id row hrow
      exact ⟨old, hold, hprofile.symm.trans hp⟩

/-- A meter can be served, or has been waiting for its activation since the start. -/
def Serviceable (fernet : Fernet) (start : DirectoryDb) (id : Int) (row : DirectoryRow) : Prop :=
  row.status = .active ∧ row.Provisioned fernet ∨
    row.status = .installed ∧ ∃ old, start.meters.get id = some old ∧ old.status = .installed

/-- What the contract says of a row at the end of a run: it is active and provisioned, or
    `INSTALLED` since the start. -/
theorem serviceable_of_good {start db : DirectoryDb} (hgood : (directoryContract fernet).good db)
    (hmoves : (directoryContract fernet).moves start db) {id : Int} {row : DirectoryRow}
    (hrow : db.meters.get id = some row) : Serviceable fernet start id row := by
  cases hstatus : row.status with
  | active => exact .inl ⟨hstatus, hgood id row hrow hstatus⟩
  | installed => exact .inr ⟨hstatus, hmoves.1 id row hrow hstatus⟩

/-- Routing a claimed job fails in one way only: a key of its payload is missing. -/
theorem route_error {id : Int} {job : Job V} {rest : Routed} {e : ClaimError}
    (h : route id job rest = .error e) : ∃ key, e = .keyError key := by
  have hkey : ∀ {key value e}, payloadKey key value = .error e → e = .keyError key := by
    intro key value e h
    cases value with
    | some text => cases h
    | none => exact (Except.error.inj h).symm
  rw [route] at h
  split at h
  · rcases Result.bind_eq_error h with h | ⟨_, _, h⟩
    · exact ⟨_, hkey h⟩
    · cases h
  · cases h
  · cases h
  · rcases Result.bind_eq_error h with h | ⟨_, _, h⟩
    · exact ⟨_, hkey h⟩
    · rcases Result.bind_eq_error h with h | ⟨_, _, h⟩
      · exact ⟨_, hkey h⟩
      · cases h
  all_goals cases h

/-- Routing the claimed rows fails only with the `KeyError` of a payload that lacks a key. -/
theorem routeAll_error {rows : List (Int × Job V)} {e : ClaimError} (h : routeAll rows = .error e) :
    ∃ key, e = .keyError key := by
  induction rows with
  | nil => cases h
  | cons r rows ih =>
    rcases Result.bind_eq_error h with h | ⟨_, _, h⟩
    · exact ih h
    · exact route_error h

/-- The meter for which jobs are handed out is a row of the directory that may be served. -/
theorem served_row {settings : Settings} {meters : Table Int Meter} {serial : String} {meterId : Int}
    {meter : Meter} (h : servedMeter settings meters serial = some (meterId, meter)) :
    meters.get meterId = some meter ∧ meter.isServed = true := by
  rw [servedMeter] at h
  split at h
  · cases h
  · split at h
    · cases h
    · obtain ⟨hfind, hserves⟩ := Option.filter_eq_some_iff.mp h
      exact ⟨Table.get_eq_some.mpr (List.mem_of_find?_eq_some hfind), hserves⟩

/-- A claim takes active meters only, and their passwords can be read. -/
theorem claim_reads_password {db : DirectoryDb} (hgood : (directoryContract fernet).good db)
    (settings : Settings) (locked : Int → Bool) (tie : Int → Nat) (jobs : Table Int (Job V))
    (serial : String) (body : ClaimDueJobsRequest) (now : Int) :
    (claimDueJobs settings fernet.password db.claimRows locked tie jobs serial body now).2 ≠
      .error .password := by
  rcases hserved : servedMeter settings db.claimRows serial with _ | ⟨meterId, meter⟩
  · simp only [claimDueJobs, hserved]
    intro h
    cases h
  · simp only [claimDueJobs, hserved]
    obtain ⟨hmeter, hserves⟩ := served_row hserved
    have hactive : meter.status = .active := (of_decide_eq_true hserves).2.2.1
    rw [DirectoryDb.claimRows, Table.get_mapRows] at hmeter
    obtain ⟨row, hrow, rfl⟩ := Option.map_eq_some_iff.mp hmeter
    obtain ⟨password, hpassword⟩ := Option.isSome_iff_exists.mp (hgood meterId row hrow hactive).2
    rcases hrouted : routeAll (claimDueJobsForMeter locked tie meterId body.jobTypes
      (claimLimit settings body) jobs now).2 with e | routed
    · obtain ⟨key, rfl⟩ := routeAll_error hrouted
      intro h
      cases h
    · rw [Result.ok_bind, hpassword]
      intro h
      cases h

/-- **Service.**  Whatever the sessions do beside each other and the database refuses: every meter can be
    served, unless it has been waiting for its activation since the start; no claim fails at the
    password; and every job that is created is for such a meter. -/
theorem directory_serves (fernet : Fernet) (D : Database DirectoryError DirectoryDb)
    (s t : Shared DirectoryError DirectoryDb n)
    (actions : List (SharedAction DirectoryError DirectoryDb n)) (hidle : ∀ k, s.clients k = .idle)
    (hstart : ∀ id row, s.stored.meters.get id = some row → row.status = .active →
      row.Provisioned fernet)
    (hrun : Run (Shared.step D) (DirectoryStep fernet) s actions t) :
    (∀ id row, t.stored.meters.get id = some row → Serviceable fernet s.stored id row) ∧
    (∀ (settings : Settings) (locked : Int → Bool) (tie : Int → Nat) (jobs : Table Int (Job V))
      (serial : String) (body : ClaimDueJobsRequest) (now : Int),
      (claimDueJobs settings fernet.password t.stored.claimRows locked tie jobs serial body now).2 ≠
        .error .password) ∧
    ∀ (values : Values V) (repr : String → String) (b b' : BatchState V) (ids : List Int)
      (createdAt : Int) (request : CreationRequest) (answer : Except Refusal Unit),
      serveCreation values repr t.stored.meterRows b ids createdAt request = some (b', answer) →
      ∀ job ∈ createdJobs b b', ∃ row, t.stored.meters.get job.meterId = some row ∧
        Serviceable fernet s.stored job.meterId row := by
  obtain ⟨hgood, hmoves⟩ := run_keeps (C := directoryContract fernet) hidle hstart
    (fun h => DirectoryStep.fits h) hrun
  refine ⟨fun id row hrow => serviceable_of_good hgood hmoves hrow, claim_reads_password hgood, ?_⟩
  intro values repr b b' ids createdAt request answer hserve job hjob
  have hknown := created_known hserve job hjob
  rw [DirectoryDb.meterRows, Table.get_mapRows] at hknown
  rcases hrow : t.stored.meters.get job.meterId with _ | row
  · rw [hrow] at hknown
    exact absurd rfl hknown
  · exact ⟨row, rfl, serviceable_of_good hgood hmoves hrow⟩

/-- A cipher that only marks what it has encrypted. -/
def markingFernet : Fernet where
  encrypt nonce plain := UInt8.ofNat nonce :: plain
  decrypt token := some token.tail
  decrypt_encrypt _ _ := rfl

def keysFrom (first : Int) : Given where
  id k := first + k
  nonce k := k
  order _ rows := rows
  perm _ rows := .refl rows

/-- A meter that was discovered before meters were activated at once. -/
def installedRow : DirectoryRow where
  serialNumber := "202001002201"
  isCallHome := true
  protocolProfile := none
  passwordEncrypted := none
  gatewayId := 1
  status := .installed

def oneInstalled : Shared DirectoryError DirectoryDb 2 where
  stored := { meters := Table.empty.setItem 1 installedRow }
  clients _ := .idle

def neverRefuses : Database DirectoryError DirectoryDb := ⟨fun _ _ => none, .otherError⟩

def activation : DirectoryWork Unit :=
  activateMeter markingFernet 1 1 ⟨"12345678", .hdlcDlms, none, none, none, none, by simp⟩ 0 >>=
    fun _ => pure ()

def discovery : DirectoryWork Unit :=
  discover markingFernet 1 ["202001002201", "202006003607"] (keysFrom 2)

/-- The second session discovers a meter while the first one activates the other. -/
def bothWrite (first second : Fin 2) : List (SharedAction DirectoryError DirectoryDb 2) :=
  [.act first, .act second, .act first] ++ List.replicate 3 (.act second) ++
    List.replicate 4 (.act first) ++ List.replicate 3 (.act second)

/-- An activation and a discovery beside each other, each between the statements of the other. -/
theorem directory_serves_both : ∃ t, Run (Shared.step neverRefuses) (DirectoryStep markingFernet)
    oneInstalled (.start 0 activation :: .start 1 discovery :: bothWrite 0 1) t ∧
    t.stored.meters.rows.map (fun r => (r.1, r.2.status)) = [(1, .active), (2, .active)] ∧
    ∀ id row, t.stored.meters.get id = some row →
      Serviceable markingFernet oneInstalled.stored id row := by
  have hexec : ((exec (guarded (Shared.step neverRefuses) fun _ a => (a matches .act _) = true)
      ((oneInstalled.opened 0 activation).opened 1 discovery) (bothWrite 0 1)).map fun t =>
        t.stored.meters.rows.map fun r => (r.1, r.2.status)) =
      some [(1, .active), (2, .active)] := by decide
  obtain ⟨t, hrun, hlast⟩ := Option.map_eq_some_iff.mp hexec
  have hRun : Run (Shared.step neverRefuses) (DirectoryStep markingFernet) oneInstalled
      (.start 0 activation :: .start 1 discovery :: bothWrite 0 1) t := by
    refine .cons (.activate 0 1 1 _ 0) rfl (.cons (.discover 1 1 _ _) rfl ?_)
    refine (Run.of_guarded hrun).mono fun s a h => ?_
    cases a with
    | act k => exact .act k
    | start | elsewhere => cases h
  have hwaiting : ∀ r ∈ oneInstalled.stored.meters.rows, r.2.status ≠ .active := by decide
  exact ⟨t, hRun, hlast, (directory_serves (V := Unit) markingFernet neverRefuses oneInstalled t _
    (fun _ => rfl) (fun id row hrow hactive =>
      absurd hactive (hwaiting (id, row) (Table.get_eq_some.mp hrow))) hRun).1⟩

end Runs

end RiseSun.Backend
