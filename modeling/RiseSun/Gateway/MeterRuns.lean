/-
  Many clients on one meter.

  1. **Refinement** (`sessions_simulate`) — any clients, with right and wrong passwords, in any order:
     the outcomes are those of the abstract meter, and the dictionaries of the emulator represent its
     memory at the end.

  2. **Reading back** (`lastWritten_read`) — an object reads as the last value that a client with the
     password has written.

  3. **Without the password** (`runEach_refused`) — whoever has not got it is not missed.
-/
import RiseSun.Lib.Simulation
import RiseSun.Gateway.MeterCommands

namespace RiseSun.Gateway

open Proc Server

/-! ## Visits -/

/-- One client on one connection. -/
structure Visit where
  attempt : Nat
  serial : String
  password : Bytes
  command : Command

/-- The visit can be paid: no failure is staged for it, the serial number has an address, the
    password and the command have bytes that fit. -/
structure Visit.Valid (E : Emulator) (v : Visit) : Prop where
  calm : E.Calm v.attempt
  address : ∃ server, serverAddress v.serial = .ok server
  aarq : ∃ aarq, buildAarq v.password userInformationInitiate = .ok aarq
  fits : v.command.Fits

def Visit.session (E : Emulator) (v : Visit) : Proc PyExc MeterObjects Answer :=
  E.session v.attempt v.serial v.password v.command

def Visit.perform (E : Emulator) (v : Visit) : Proc PyExc Memory Answer :=
  E.perform v.password v.command

section Visits

variable {E : Emulator}

/-- What a session is, from the run of its command. -/
theorem session_run {attempt : Nat} {serial : String} {password : Bytes} {c : Command}
    {objects : MeterObjects} {r : Except PyExc Answer} {l : Line Session}
    (h : c.run E.meterSocket serial password { server := ⟨.snrm, objects, attempt⟩ } = (r, l)) :
    E.session attempt serial password c objects = (r, l.server.objects) := by
  show ((c.run E.meterSocket serial password { server := ⟨.snrm, objects, attempt⟩ }).1,
    (c.run E.meterSocket serial password
      { server := ⟨.snrm, objects, attempt⟩ }).2.server.objects) = _
  rw [h]

theorem session_simulates (hE : E.Proper) {v : Visit} (hv : v.Valid E) :
    Simulates Represents (v.perform E) (v.session E) := by
  refine Simulates.of_runs fun m objects hm => ?_
  obtain ⟨server, haddr⟩ := hv.address
  obtain ⟨aarq, haarq⟩ := hv.aarq
  obtain ⟨r, m', l', hperform, hrun, hm'⟩ := command_agrees hE haddr haarq hm hv.fits
    (fun _ _ => hv.calm) (l := { server := ⟨.snrm, objects, v.attempt⟩ }) ⟨rfl, rfl, rfl⟩
  exact ⟨r, m', l'.server.objects, hperform, session_run hrun, hm'⟩

/-- Every visit of a run is simulated by the abstract meter, which makes the step of every run
    below. -/
theorem visits_simulate (hE : E.Proper) {visits : List Visit} (hv : ∀ v ∈ visits, v.Valid E) :
    List.Forall₂ (Simulates Represents) (visits.map (Visit.perform E))
      (visits.map (Visit.session E)) := by
  induction visits with
  | nil => exact .nil
  | cons v visits ih =>
    exact .cons (session_simulates hE (hv v (List.mem_cons_self ..)))
      (ih fun w hw => hv w (List.mem_cons_of_mem v hw))

/-- **Refinement.**  Any clients in any order have the outcomes of the abstract meter, and the
    dictionaries of the emulator represent its memory. -/
theorem sessions_simulate (hE : E.Proper) {visits : List Visit} (hv : ∀ v ∈ visits, v.Valid E)
    {m : Memory} {objects : MeterObjects} (hm : Represents m objects) :
    (runEach (visits.map (Visit.perform E)) m).1 =
        (runEach (visits.map (Visit.session E)) objects).1 ∧
      Represents (runEach (visits.map (Visit.perform E)) m).2
        (runEach (visits.map (Visit.session E)) objects).2 :=
  runEach_simulates (visits_simulate hE hv) hm

/-! ## Three clients -/

/-- The code of the total energy. -/
def energyCode : Bytes := [1, 1, 1, 8, 0, 0xFF]

/-- A meter that has counted 4507.70 kWh. -/
def energyMeter : Emulator where
  password := List.replicate 8 0x30
  obisValues := Table.empty.setItem energyCode 450770
  registerScalers := Table.empty.setItem energyCode 1
  registerUnits := Table.empty.setItem energyCode 30

/-- A table of one entry has no other entry to be found. -/
theorem get_singleton {κ ρ : Type} [DecidableEq κ] {k k' : κ} {r r' : ρ}
    (h : (Table.empty.setItem k r).get k' = some r') : r = r' := by
  by_cases hk : k' = k
  · rw [hk, Table.get_setItem_self] at h
    exact Option.some.inj h
  · rw [Table.get_setItem_ne _ hk] at h
    cases h

theorem getD_singleton {κ : Type} [DecidableEq κ] (k k' : κ) (n : Int) :
    ((Table.empty.setItem k n).get k').getD 0 = n ∨ ((Table.empty.setItem k n).get k').getD 0 = 0 := by
  rcases h : (Table.empty.setItem k n).get k' with _ | n'
  · exact .inr rfl
  · exact .inl (get_singleton h).symm

theorem energyMeter_proper : energyMeter.Proper where
  values := by
    intro k n h
    rw [← get_singleton h]
    decide
  scalers := by
    intro k
    have hscaler : energyMeter.scaler k = 1 ∨ energyMeter.scaler k = 0 :=
      getD_singleton energyCode k 1
    rcases hscaler with h | h <;> rw [h] <;> decide
  units := by
    intro k
    have hunit : energyMeter.unit k = 30 ∨ energyMeter.unit k = 0 := getD_singleton energyCode k 30
    rcases hunit with h | h <;> rw [h] <;> decide

/-- Dictionaries without entries. -/
def emptyObjects : MeterObjects := ⟨some .empty, some .empty, some .empty⟩

theorem emptyObjects_represents : Represents ⟨fun _ => none, fun _ => none⟩ emptyObjects :=
  ⟨⟨_, rfl, fun _ => trivial⟩, ⟨_, rfl, fun _ => rfl⟩, ⟨_, rfl, fun _ => rfl⟩⟩

/-- One writes, one has the wrong password, one reads. -/
def threeVisits : List Visit :=
  [⟨1, "202310012345", List.replicate 8 0x30, .write "0.0.60.1.0.ff" (.unsigned 7) 1⟩,
   ⟨2, "202310012345", List.replicate 8 0x31, .write "0.0.60.1.0.ff" (.unsigned 8) 1⟩,
   ⟨3, "202310012345", List.replicate 8 0x30, .read "1.1.1.8.0.ff" 3⟩]

theorem threeVisits_address : serverAddress "202310012345" = .ok (2 ^ 14 + 12345) := by decide

theorem calm_by_default (attempt : Nat) : energyMeter.Calm attempt := by
  rintro (h | h) <;> cases h

/-- A password with which the AARQ can be built fits it. -/
theorem eight_fits {password : Bytes}
    (h : (buildAarq password userInformationInitiate).isOk = true) :
    ∃ aarq, buildAarq password userInformationInitiate = .ok aarq := by
  cases haarq : buildAarq password userInformationInitiate with
  | ok aarq => exact ⟨aarq, rfl⟩
  | error e =>
    rw [haarq] at h
    cases h

theorem threeVisits_valid : ∀ v ∈ threeVisits, v.Valid energyMeter := by
  intro v hv
  have hwrite : ∀ n : Int, (Command.write "0.0.60.1.0.ff" (.unsigned n) 1).Fits := by
    intro n bytes h
    unfold Tree.encode encodeUnsigned at h
    obtain ⟨content, hcontent, h⟩ := Result.bind_eq_ok h
    cases h
    rw [List.length_cons, toBytes_length hcontent]
    decide
  simp only [threeVisits, List.mem_cons, List.not_mem_nil, or_false] at hv
  rcases hv with rfl | rfl | rfl
  · exact ⟨calm_by_default 1, ⟨_, threeVisits_address⟩, eight_fits (by decide), hwrite 7⟩
  · exact ⟨calm_by_default 2, ⟨_, threeVisits_address⟩, eight_fits (by decide), hwrite 8⟩
  · exact ⟨calm_by_default 3, ⟨_, threeVisits_address⟩, eight_fits (by decide), trivial⟩

theorem sessions_simulate_three :
    (runEach (threeVisits.map (Visit.perform energyMeter)) ⟨fun _ => none, fun _ => none⟩).1 =
        (runEach (threeVisits.map (Visit.session energyMeter)) emptyObjects).1 ∧
      Represents
        (runEach (threeVisits.map (Visit.perform energyMeter)) ⟨fun _ => none, fun _ => none⟩).2
        (runEach (threeVisits.map (Visit.session energyMeter)) emptyObjects).2 :=
  sessions_simulate energyMeter_proper threeVisits_valid emptyObjects_represents

/-! ## Reading back -/

/-- What a command writes into an object: it takes the password, and a value that can be encoded. -/
def Command.writes (E : Emulator) (password target : Bytes) : Command → Option Tree
  | .write obis value classId =>
    if E.accepts password ∧ value.encode.isOk ∧ (parseObis obis).toOption = some target ∧
      (toBytes 2 classId).isOk then some value else none
  | .read .. => none
  | .act .. => none

/-- The last value that is written into an object. -/
def lastWritten (E : Emulator) : List Visit → Bytes → Option Tree
  | [], _ => none
  | v :: visits, target =>
    (lastWritten E visits target).or (v.command.writes E v.password target)

/-- What an object of another class reads as. -/
def storedAnswer : Option Tree → Except PyExc Answer
  | some tree => .ok (.ofValue tree.value.wholeSeconds)
  | none => .error undefinedObject

/-- An action changes no data object of the abstract meter. -/
theorem execute_data (E : Emulator) (obis : String) (methodId : UInt8) (classId : Int)
    (parameters : Option Bytes) (m : Memory) :
    (E.execute obis methodId classId parameters m).2.data = m.data := by
  unfold Emulator.execute
  cases parseObis obis with
  | error e => rfl
  | ok target =>
    rw [lift_ok_bind_run]
    cases toBytes 2 classId with
    | error e => rfl
    | ok cls =>
      rw [lift_ok_bind_run, modify_bind_run]
      show ((if _ then _ else _ : Proc PyExc Memory Answer) _).2.data = _
      split <;> rfl

/-- A write changes the object that it names. -/
theorem store_data (obis : String) (value : Tree) (classId : Int) (m : Memory) (k : Bytes) :
    (Emulator.store obis value classId m).2.data k =
      if (parseObis obis).toOption = some k ∧ (toBytes 2 classId).isOk then some value
      else m.data k := by
  unfold Emulator.store
  cases parseObis obis with
  | error e => rw [if_neg (fun h => by cases h.1)]; rfl
  | ok target =>
    rw [lift_ok_bind_run]
    cases toBytes 2 classId with
    | error e => rw [if_neg (fun h => by cases h.2)]; rfl
    | ok cls =>
      show Function.update m.data target (some value) k = _
      rw [Function.update_apply]
      by_cases hk : k = target
      · rw [if_pos hk, if_pos ⟨congrArg some hk.symm, rfl⟩]
      · rw [if_neg hk, if_neg fun h => hk (Option.some.inj h.1).symm]

/-- One command writes what it says, and nothing else. -/
theorem perform_data (password : Bytes) (c : Command) (m : Memory) (target : Bytes) :
    (E.perform password c m).2.data target = (c.writes E password target).or (m.data target) := by
  cases hencoded : c.encoded with
  | error e =>
    rw [perform_unencoded password hencoded]
    cases c with
    | write obis value classId =>
      cases hvalue : value.encode with
      | ok encoded =>
        rw [Command.encoded, hvalue] at hencoded
        cases hencoded
      | error e =>
        rw [Command.writes, hvalue, if_neg fun h => Bool.false_ne_true h.2.1]
        rfl
    | read | act => cases hencoded
  | ok u =>
    rw [perform_run password hencoded]
    cases c with
    | read obis classId =>
      rw [Command.writes, Option.none_or, Emulator.obey]
      split
      · rw [readOut_memory]
      · rfl
    | act obis methodId classId parameters =>
      rw [Command.writes, Option.none_or, Emulator.obey]
      split
      · rw [execute_data]
      · rfl
    | write obis value classId =>
      have hvalue : value.encode.isOk = true := by
        cases hvalue : value.encode with
        | ok encoded => rfl
        | error e =>
          rw [Command.encoded, hvalue] at hencoded
          cases hencoded
      rw [Command.writes, Emulator.obey]
      by_cases haccepts : E.accepts password = true
      · rw [if_pos haccepts, store_data]
        by_cases htarget : (parseObis obis).toOption = some target ∧ (toBytes 2 classId).isOk
        · rw [if_pos htarget, if_pos ⟨haccepts, hvalue, htarget⟩]
          rfl
        · rw [if_neg htarget, if_neg fun h => htarget h.2.2]
          rfl
      · rw [if_neg haccepts, if_neg fun h => haccepts h.1]
        rfl

/-- After a run every object holds what was written last. -/
theorem runEach_data : ∀ (visits : List Visit) (m : Memory) (target : Bytes),
    (runEach (visits.map (Visit.perform E)) m).2.data target =
      (lastWritten E visits target).or (m.data target) := by
  intro visits
  induction visits with
  | nil =>
    intro m target
    rfl
  | cons v visits ih =>
    intro m target
    show (runEach (visits.map (Visit.perform E)) (v.perform E m).2).2.data target = _
    rw [ih, Visit.perform, perform_data, lastWritten, Option.or_assoc]

/-- **Reading back.**  After any visits an object of another class reads as the last value written
    with the password, whoever reads it. -/
theorem lastWritten_read (hE : E.Proper) {visits : List Visit} (hv : ∀ v ∈ visits, v.Valid E)
    {m : Memory} {objects : MeterObjects} (hm : Represents m objects) {reader : Visit}
    (hreader : reader.Valid E) (haccepts : E.accepts reader.password = true) {obis : String}
    {target valueTarget cls : Bytes} {classId : Int} (hcommand : reader.command = .read obis classId)
    (hobis : parseObis obis = .ok target) (hvalue : parseObis (valueObis obis) = .ok valueTarget)
    (hclass : classId ≠ registerClassId) (hcls : toBytes 2 classId = .ok cls) :
    (reader.session E (runEach (visits.map (Visit.session E)) objects).2).1 =
      storedAnswer ((lastWritten E visits valueTarget).or (m.data valueTarget)) := by
  obtain ⟨-, hafter⟩ := runEach_simulates (visits_simulate hE hv) hm
  rw [← (session_simulates hE hreader _ _ hafter).1, ← runEach_data]
  generalize (runEach (visits.map (Visit.perform E)) m).2 = m'
  have hboth : (if valueObis obis ≠ obis then parseObis (valueObis obis) else .ok target) =
      .ok valueTarget := by
    split
    · exact hvalue
    · rename_i hsame
      rw [not_not.mp hsame, hobis] at hvalue
      exact hvalue
  rw [Visit.perform, hcommand, perform_run _ (show (Command.read obis classId).encoded = .ok () from rfl),
    if_pos haccepts, Emulator.obey]
  unfold Emulator.readOut
  rw [hobis, lift_ok_bind_run, hboth, lift_ok_bind_run, if_neg hclass, hcls, lift_ok_bind_run,
    gets_bind_run]
  cases m'.data valueTarget <;> rfl

theorem lastWritten_read_three :
    (Visit.session energyMeter
        ⟨4, "202310012345", List.replicate 8 0x30, .read "0.0.60.1.0.ff" 1⟩
        (runEach (threeVisits.map (Visit.session energyMeter)) emptyObjects).2).1 =
      storedAnswer ((lastWritten energyMeter threeVisits [0, 0, 0x60, 1, 0, 0xFF]).or none) :=
  lastWritten_read (m := ⟨fun _ => none, fun _ => none⟩) energyMeter_proper threeVisits_valid
    emptyObjects_represents
    (show Visit.Valid energyMeter ⟨4, _, _, .read _ _⟩ from
      ⟨calm_by_default 4, ⟨_, threeVisits_address⟩, eight_fits (by decide), trivial⟩)
    (by decide) rfl (by decide : parseObis "0.0.60.1.0.ff" = .ok [0, 0, 0x60, 1, 0, 0xFF])
    (by decide) (by decide) (by decide : toBytes 2 1 = .ok [0, 1])

/-! ## Without the password -/

/-- A command without the password fails and changes nothing. -/
theorem perform_refused {password : Bytes} (h : ¬ E.accepts password = true) (c : Command)
    (m : Memory) : ∃ e, E.perform password c m = (.error e, m) := by
  cases hencoded : c.encoded with
  | error e => exact ⟨e, perform_unencoded password hencoded m⟩
  | ok u => exact ⟨authFailed, by rw [perform_run password hencoded, if_neg h]⟩

/-- **Without the password.**  Whoever has not got it is refused, and the others have the outcomes
    they would have without him, on the memory they would leave without him. -/
theorem runEach_refused (hE : E.Proper) {visits : List Visit} (hv : ∀ v ∈ visits, v.Valid E)
    {m : Memory} {objects : MeterObjects} (hm : Represents m objects) :
    let trusted := visits.filter fun v => E.accepts v.password
    let outcomes := (runEach (visits.map (Visit.session E)) objects).1
    (∀ p ∈ visits.zip outcomes, ¬ E.accepts p.1.password = true → ∃ e, p.2 = .error e) ∧
      ((visits.zip outcomes).filter fun p => E.accepts p.1.password).map Prod.snd =
        (runEach (trusted.map (Visit.perform E)) m).1 ∧
      Represents (runEach (trusted.map (Visit.perform E)) m).2
        (runEach (visits.map (Visit.session E)) objects).2 := by
  have hidle : ∀ v : Visit, ¬ E.accepts v.password = true → ∀ m, (v.perform E m).2 = m := by
    intro v hrefused m
    obtain ⟨e, hrun⟩ := perform_refused hrefused v.command m
    rw [Visit.perform, hrun]
  obtain ⟨houts, hafter⟩ := runEach_simulates (visits_simulate hE hv) hm
  obtain ⟨hstate, hothers⟩ := runEach_filter hidle visits m
  refine ⟨?_, ?_, ?_⟩
  · intro p hp hrefused
    rw [← houts] at hp
    obtain ⟨m', hout⟩ := mem_zip_runEach visits m p hp
    obtain ⟨e, hrun⟩ := perform_refused hrefused p.1.command m'
    exact ⟨e, by rw [hout, Visit.perform, hrun]⟩
  · rw [← houts]
    exact hothers.symm
  · rw [hstate]
    exact hafter

theorem runEach_refused_three :
    let outcomes := (runEach (threeVisits.map (Visit.session energyMeter)) emptyObjects).1
    (∀ p ∈ threeVisits.zip outcomes, ¬ energyMeter.accepts p.1.password = true →
        ∃ e, p.2 = .error e) ∧
      ((threeVisits.zip outcomes).filter fun p => energyMeter.accepts p.1.password).map Prod.snd =
        (runEach ((threeVisits.filter fun v => energyMeter.accepts v.password).map
          (Visit.perform energyMeter)) ⟨fun _ => none, fun _ => none⟩).1 ∧
      Represents
        (runEach ((threeVisits.filter fun v => energyMeter.accepts v.password).map
          (Visit.perform energyMeter)) ⟨fun _ => none, fun _ => none⟩).2
        (runEach (threeVisits.map (Visit.session energyMeter)) emptyObjects).2 :=
  runEach_refused energyMeter_proper threeVisits_valid emptyObjects_represents

end Visits

end RiseSun.Gateway
