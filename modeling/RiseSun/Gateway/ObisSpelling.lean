/-
  One OBIS code in two spellings (`_read_one_register_via_established_link`).

  `parse_obis` reads "1.1.1.8.0.ff" and "01.1.1.8.0.FF" as the same six bytes, and the requests are
  built from these.  But `VALUE_OBIS_OVERRIDES` is looked up by the text.

  1. **After parsing** (`readRegisterAt_alike`) — from the bytes on, the text stands in messages only:
     two spellings send the same frames and end with the same value or the same kind of error.

  2. **The override** (`readOneRegister_spelling_iff`) — so two spellings of one code are read alike
     iff the table has both or neither.  One that it has and one that it has not ask for the value
     under different codes, unless the class id keeps the request from being built at all.
-/
import RiseSun.Gateway.Batch
import RiseSun.Gateway.Registers
import RiseSun.Gateway.RoundTrips

namespace RiseSun.Gateway

open Proc

variable {σ : Type}

/-! ## After parsing -/

/-- `_read_one_register_via_established_link` after both codes are parsed. -/
def readRegisterAt (S : MeterSocket σ) (server client : Int) (sendSeq : Nat) (obis : String)
    (parsedObis parsedValueObis : Bytes) (classId : Int) (invokeId : Nat) :
    Proc PyExc σ (Except GatewayError RegisterValue × Nat) :=
  if classId = registerClassId then do
    let frame ← getScaler S server client sendSeq invokeId parsedObis classId
    let scalerUnit ← lift (scalerAnswer frame)
    readValue S server client (sendSeq + 1) (invokeId + 1) obis parsedValueObis classId scalerUnit
  else readValue S server client sendSeq invokeId obis parsedValueObis classId .null

theorem readOneRegister_parsed {obis : String} {parsedObis parsedValueObis : Bytes}
    (hobis : parseObis obis = .ok parsedObis)
    (hvalue : parseObis (valueObis obis) = .ok parsedValueObis) (S : MeterSocket σ)
    (server client : Int) (sendSeq : Nat) (classId : Int) (invokeId : Nat) (s : σ) :
    readOneRegister S server client sendSeq obis classId invokeId s =
      readRegisterAt S server client sendSeq obis parsedObis parsedValueObis classId invokeId s := by
  unfold readOneRegister
  rw [hobis, lift_ok_bind_run, parseValueObis_eq hobis, hvalue, lift_ok_bind_run, readRegisterAt]

/-- The same value, or an error of the same kind: its message may name the code as it was written. -/
def SameKind : (r₁ r₂ : Except PyExc (Except GatewayError RegisterValue × Nat)) → Prop
  | .ok (.ok v₁, next₁), .ok (.ok v₂, next₂) => v₁ = v₂ ∧ next₁ = next₂
  | .ok (.error e₁, next₁), .ok (.error e₂, next₂) =>
    e₁.cls = e₂.cls ∧ e₁.isPartial = e₂.isPartial ∧ e₁.rawFrame = e₂.rawFrame ∧ next₁ = next₂
  | .error e₁, .error e₂ => e₁ = e₂
  | _, _ => False

theorem SameKind.refl (r : Except PyExc (Except GatewayError RegisterValue × Nat)) :
    SameKind r r := by
  rcases r with e | ⟨e | v, next⟩
  · exact rfl
  · exact ⟨rfl, rfl, rfl, rfl⟩
  · exact ⟨rfl, rfl⟩

/-- The text of the code stands in the messages only. -/
theorem interpretValue_sameKind (t₁ t₂ : String) (classId : Int) (scalerUnit raw : Value)
    (next : Nat) :
    SameKind (.ok (interpretValue t₁ classId scalerUnit raw, next))
      (.ok (interpretValue t₂ classId scalerUnit raw, next)) := by
  unfold interpretValue
  split
  · exact ⟨rfl, rfl, rfl, rfl⟩
  · split
    · split
      · exact ⟨rfl, rfl⟩
      · split
        · exact SameKind.refl _
        · exact ⟨rfl, rfl, rfl, rfl⟩
    · exact ⟨rfl, rfl⟩

section Spelling

variable (S : MeterSocket σ) (server client : Int) (t₁ t₂ : String)

theorem readValue_alike (sendSeq invokeId : Nat) (parsedValueObis : Bytes) (classId : Int)
    (scalerUnit : Value) :
    Alike SameKind (readValue S server client sendSeq invokeId t₁ parsedValueObis classId scalerUnit)
      (readValue S server client sendSeq invokeId t₂ parsedValueObis classId scalerUnit) := by
  unfold readValue
  refine Alike.bind (fun e => SameKind.refl (.error e)) _ fun frame => ?_
  cases getAnswer frame with
  | ok raw => exact fun s => ⟨interpretValue_sameKind t₁ t₂ classId scalerUnit raw (sendSeq + 1), rfl⟩
  | error e => exact Alike.refl SameKind.refl _

/-- **After parsing**, two spellings are read alike: the parsed codes are all that the rest looks
    at. -/
theorem readRegisterAt_alike (sendSeq : Nat) (parsedObis parsedValueObis : Bytes) (classId : Int)
    (invokeId : Nat) :
    Alike SameKind
      (readRegisterAt S server client sendSeq t₁ parsedObis parsedValueObis classId invokeId)
      (readRegisterAt S server client sendSeq t₂ parsedObis parsedValueObis classId invokeId) := by
  unfold readRegisterAt
  split
  · refine Alike.bind (fun e => SameKind.refl (.error e)) _ fun frame => ?_
    refine Alike.bind (fun e => SameKind.refl (.error e)) _ fun scalerUnit => ?_
    exact readValue_alike S server client t₁ t₂ _ _ _ _ _
  · exact readValue_alike S server client t₁ t₂ _ _ _ _ _

end Spelling

/-! ## The override -/

/-- Reading the two texts sends the same and ends the same, whatever the meter answers. -/
def ReadAlike (t₁ t₂ : String) (classId : Int) : Prop :=
  ∀ (σ : Type) (S : MeterSocket σ) (server client : Int) (sendSeq invokeId : Nat),
    Alike SameKind (readOneRegister S server client sendSeq t₁ classId invokeId)
      (readOneRegister S server client sendSeq t₂ classId invokeId)

theorem ReadAlike.symm {t₁ t₂ : String} {classId : Int} (h : ReadAlike t₁ t₂ classId) :
    ReadAlike t₂ t₁ classId := by
  have hsymm : ∀ r₁ r₂, SameKind r₁ r₂ → SameKind r₂ r₁ := by
    rintro (e₁ | ⟨e₁ | v₁, next₁⟩) (e₂ | ⟨e₂ | v₂, next₂⟩) hkind
    all_goals first
      | exact hkind.elim
      | exact Eq.symm hkind
      | exact ⟨hkind.1.symm, hkind.2.1.symm, hkind.2.2.1.symm, hkind.2.2.2.symm⟩
      | exact ⟨hkind.1.symm, hkind.2.symm⟩
  intro σ S server client sendSeq invokeId s
  obtain ⟨hkind, hstate⟩ := h σ S server client sendSeq invokeId s
  exact ⟨hsymm _ _ hkind, hstate.symm⟩

/-- The text stands in the table of `VALUE_OBIS_OVERRIDES`. -/
def Overridden (t : String) : Prop := valueObisOverrides.lookup t ≠ none

instance (t : String) : Decidable (Overridden t) := by
  unfold Overridden; exact inferInstance

theorem overridden_iff {t : String} : Overridden t ↔ t = "1.1.1.8.0.ff" := by
  unfold Overridden valueObisOverrides
  rw [List.lookup_cons, List.lookup_nil]
  by_cases h : t = "1.1.1.8.0.ff"
  · simp [h]
  · rw [beq_eq_false_iff_ne.mpr h]
    simp [h]

theorem valueObis_of_not_overridden {t : String} (h : ¬ Overridden t) : valueObis t = t := by
  unfold Overridden at h
  rw [valueObis, not_not.mp h]
  rfl

/-- Both codes of a text that the table has not are the one it says. -/
theorem readOneRegister_plain {t : String} {obis : Bytes} (h : ¬ Overridden t)
    (hobis : parseObis t = .ok obis) (S : MeterSocket σ) (server client : Int) (sendSeq : Nat)
    (classId : Int) (invokeId : Nat) (s : σ) :
    readOneRegister S server client sendSeq t classId invokeId s =
      readRegisterAt S server client sendSeq t obis obis classId invokeId s :=
  readOneRegister_parsed hobis (by rw [valueObis_of_not_overridden h, hobis]) S server client sendSeq
    classId invokeId s

theorem readAlike_plain {t₁ t₂ : String} {obis : Bytes} (h₁ : ¬ Overridden t₁)
    (h₂ : ¬ Overridden t₂) (hobis₁ : parseObis t₁ = .ok obis) (hobis₂ : parseObis t₂ = .ok obis)
    (classId : Int) : ReadAlike t₁ t₂ classId := by
  intro σ S server client sendSeq invokeId s
  rw [readOneRegister_plain h₁ hobis₁, readOneRegister_plain h₂ hobis₂]
  exact readRegisterAt_alike S server client t₁ t₂ sendSeq obis obis classId invokeId s

/-- A class id of more than two bytes: no request is built. -/
theorem readRegisterAt_overflow {S : MeterSocket σ} {server client : Int} {sendSeq : Nat}
    {t : String} {parsedObis parsedValueObis : Bytes} {classId : Int} {invokeId : Nat}
    (hobis : parsedValueObis.length = 6) (hclass : ¬ (0 ≤ classId ∧ classId < 65536)) (s : σ) :
    readRegisterAt S server client sendSeq t parsedObis parsedValueObis classId invokeId s =
      (.error .overflowError, s) := by
  have hother : classId ≠ registerClassId := by
    rintro rfl
    exact hclass (by decide)
  have hbuild : buildGetRequest parsedValueObis (UInt8.ofNat invokeId) registerValueAttribute
      classId = .error .overflowError := by
    rw [buildGetRequest, if_neg (by omega), attributeDescriptor, toBytes,
      if_neg (by norm_num; omega)]
    rfl
  rw [readRegisterAt, if_neg hother, readValue, getValue, getAttribute, hbuild]
  rfl

/-- A meter that never answers: after the first request the exchange ends. -/
theorem readRegisterAt_silent {t : String} {parsedObis parsedValueObis : Bytes} {classId : Int}
    (hobis : parsedValueObis.length = 6) (hclass : 0 ≤ classId ∧ classId < 65536)
    (hother : classId ≠ registerClassId) :
    ∃ request raw, buildGetRequest parsedValueObis 1 registerValueAttribute classId = .ok request ∧
      request.length = 13 ∧
      iFrame 0x4001 defaultClientAddress 1 1 (wrapLlcCommand request) = .ok raw ∧
      (readRegisterAt scheduled 0x4001 defaultClientAddress 1 t parsedObis parsedValueObis classId 1
        (arrived [])).2.sent = [raw] := by
  obtain ⟨request, hbuild, hlen⟩ := buildGetRequest_ok hobis hclass 1 registerValueAttribute
  obtain ⟨raw, hraw⟩ := iFrame_ok (show (0 : Int) ≤ 0x4001 ∧ (0x4001 : Int) < 2 ^ 28 from by decide)
    (show 0 ≤ defaultClientAddress ∧ defaultClientAddress < 2 ^ 28 from by decide) 1 1
    (show (wrapLlcCommand request).length ≤ 2000 from by
      rw [wrapLlcCommand, List.length_append, hlen]
      decide)
  refine ⟨request, raw, hbuild, hlen, hraw, ?_⟩
  have hsend : sendIFrame scheduled 0x4001 defaultClientAddress 1 1 (wrapLlcCommand request)
      (arrived []) = (.ok (), { arrived [] with sent := [raw] }) := by
    show (lift (iFrame 0x4001 defaultClientAddress 1 1 (wrapLlcCommand request)) >>=
      fun raw => send scheduled raw) (arrived []) = _
    rw [hraw]
    rfl
  have hrecv : ∃ e w, recvIFrame scheduled { arrived [] with sent := [raw] } = (.error e, w) ∧
      w.sent = [raw] := ⟨_, _, rfl, rfl⟩
  obtain ⟨e, w, hrecv, hsent⟩ := hrecv
  have hget : getValue scheduled 0x4001 defaultClientAddress 1 1 parsedValueObis classId (arrived []) =
      (.error e, w) := by
    rw [getValue, getAttribute, show buildGetRequest parsedValueObis (UInt8.ofNat 1)
      registerValueAttribute classId = .ok request from hbuild, lift_ok_bind_run, bind_ok hsend, hrecv]
  rw [readRegisterAt, if_neg hother, readValue, bind_error hget]
  exact hsent

/-- Different requests of one length are sent in different frames. -/
theorem iFrame_injective {request₁ request₂ raw : Bytes} (h₁ : request₁.length = 13)
    (h₂ : request₂.length = 13)
    (hraw₁ : iFrame 0x4001 defaultClientAddress 1 1 (wrapLlcCommand request₁) = .ok raw)
    (hraw₂ : iFrame 0x4001 defaultClientAddress 1 1 (wrapLlcCommand request₂) = .ok raw) :
    request₁ = request₂ := by
  have hdecode : ∀ {request : Bytes}, request.length = 13 →
      iFrame 0x4001 defaultClientAddress 1 1 (wrapLlcCommand request) = .ok raw →
      HdlcFrame.decode raw = .ok ⟨0x4001, defaultClientAddress, controlInformationFrame 1 1,
        wrapLlcCommand request⟩ := by
    intro request hlen hraw
    have hshort : (wrapLlcCommand request).length ≤ 2003 := by
      rw [wrapLlcCommand, List.length_append, hlen]
      decide
    obtain ⟨raw', hraw', _, hdecode⟩ := @frame_roundtrip
      ⟨0x4001, defaultClientAddress, controlInformationFrame 1 1, wrapLlcCommand request⟩
      ⟨show (0 : Int) ≤ 0x4001 ∧ (0x4001 : Int) < 2 ^ 28 from by decide,
       show 0 ≤ defaultClientAddress ∧ defaultClientAddress < 2 ^ 28 from by decide⟩
      (HdlcFrame.totalLength_short hshort)
    obtain rfl := Except.ok.inj (hraw'.symm.trans hraw)
    exact hdecode
  have hframes := (hdecode h₁ hraw₁).symm.trans (hdecode h₂ hraw₂)
  exact List.append_cancel_left (congrArg HdlcFrame.information (Except.ok.inj hframes))

/-- **The override.**  Of two spellings of one code, one that the table has and one that it has not
    are told apart by the frames that are sent. -/
theorem not_readAlike {t₁ t₂ : String} {obis : Bytes} (h₁ : Overridden t₁) (h₂ : ¬ Overridden t₂)
    (hobis₁ : parseObis t₁ = .ok obis) (hobis₂ : parseObis t₂ = .ok obis) {classId : Int}
    (hclass : 0 ≤ classId ∧ classId < 65536) : ¬ ReadAlike t₁ t₂ classId := by
  obtain rfl := overridden_iff.mp h₁
  obtain rfl := Except.ok.inj
    ((show parseObis "1.1.1.8.0.ff" = .ok [1, 1, 1, 8, 0, 0xFF] from by decide).symm.trans hobis₁)
  have hvalue : parseObis (valueObis "1.1.1.8.0.ff") = .ok [1, 1, 0x60, 0x50, 0, 0xFF] := by decide
  intro h
  by_cases hother : classId = registerClassId
  · subst hother
    have hstate := (h Wire scheduled 0x4001 defaultClientAddress 1 1 energyAnswers).2
    rw [readOneRegister_parsed hobis₁ hvalue, readOneRegister_plain h₂ hobis₂,
      (readRegisterAt_alike scheduled _ _ t₂ "" _ _ _ _ _ _).2] at hstate
    revert hstate
    decide +kernel
  · have hstate := (h Wire scheduled 0x4001 defaultClientAddress 1 1 (arrived [])).2
    rw [readOneRegister_parsed hobis₁ hvalue, readOneRegister_plain h₂ hobis₂] at hstate
    obtain ⟨request₁, raw₁, hbuild₁, hlen₁, hraw₁, hsent₁⟩ :=
      @readRegisterAt_silent "1.1.1.8.0.ff" [1, 1, 1, 8, 0, 0xFF] [1, 1, 0x60, 0x50, 0, 0xFF] classId
        rfl hclass hother
    obtain ⟨request₂, raw₂, hbuild₂, hlen₂, hraw₂, hsent₂⟩ :=
      @readRegisterAt_silent t₂ [1, 1, 1, 8, 0, 0xFF] [1, 1, 1, 8, 0, 0xFF] classId rfl hclass hother
    rw [hstate, hsent₂] at hsent₁
    obtain rfl := (List.cons.inj hsent₁).1
    obtain rfl := iFrame_injective hlen₁ hlen₂ hraw₁ hraw₂
    have hparsed := (parseGetRequest_build hbuild₁).symm.trans (parseGetRequest_build hbuild₂)
    have hsame : ([1, 1, 0x60, 0x50, 0, 0xFF] : Bytes) = [1, 1, 1, 8, 0, 0xFF] :=
      congrArg ParsedGetRequest.obis (Except.ok.inj hparsed)
    revert hsame
    decide

/-- **Spelling.**  Two texts of one code are read alike iff the table of overrides has both or
    neither (or no request can be built). -/
theorem readOneRegister_spelling_iff {t₁ t₂ : String} {obis : Bytes}
    (h₁ : parseObis t₁ = .ok obis) (h₂ : parseObis t₂ = .ok obis) (classId : Int) :
    ReadAlike t₁ t₂ classId ↔
      ((Overridden t₁ ↔ Overridden t₂) ∨ ¬ (0 ≤ classId ∧ classId < 65536)) := by
  constructor
  · intro h
    -- one spelling is overridden and the other is not: they ask for different attributes
    by_contra hnot
    rw [not_or, not_not] at hnot
    obtain ⟨hdiffer, hclass⟩ := hnot
    by_cases h₁' : Overridden t₁
    · by_cases h₂' : Overridden t₂
      · exact hdiffer ⟨fun _ => h₂', fun _ => h₁'⟩
      · exact not_readAlike h₁' h₂' h₁ h₂ hclass h
    · by_cases h₂' : Overridden t₂
      · exact not_readAlike h₂' h₁' h₂ h₁ hclass h.symm
      · exact hdiffer ⟨fun h => absurd h h₁', fun h => absurd h h₂'⟩
  · rintro (hsame | hclass)
    · by_cases h₁' : Overridden t₁
      · rw [overridden_iff.mp h₁', overridden_iff.mp (hsame.mp h₁')]
        exact fun σ S server client sendSeq invokeId => Alike.refl SameKind.refl _
      · exact readAlike_plain h₁' (fun h => h₁' (hsame.mpr h)) h₁ h₂ classId
    -- no such class: both fail before anything is sent
    · intro σ S server client sendSeq invokeId s
      have hrun : ∀ {t : String}, parseObis t = .ok obis →
          readOneRegister S server client sendSeq t classId invokeId s =
            (.error .overflowError, s) := by
        intro t ht
        obtain ⟨value, hvalue⟩ : ∃ value, parseObis (valueObis t) = .ok value := by
          by_cases hover : Overridden t
          · rw [overridden_iff.mp hover]
            exact ⟨_, rfl⟩
          · rw [valueObis_of_not_overridden hover]
            exact ⟨obis, ht⟩
        rw [readOneRegister_parsed ht hvalue]
        exact readRegisterAt_overflow (parseObis_length hvalue) hclass s
      rw [hrun h₁, hrun h₂]
      exact ⟨rfl, rfl⟩

/-- Two spellings of a reactive register are read alike, as the table of overrides has neither. -/
theorem readOneRegister_spelling_iff_reactive : ReadAlike "1.1.3.8.0.ff" "01.1.3.8.0.FF" 3 :=
  (@readOneRegister_spelling_iff "1.1.3.8.0.ff" "01.1.3.8.0.FF" [1, 1, 3, 8, 0, 0xFF] (by decide)
    (by decide) 3).mpr (.inl (by decide))

/-- The total energy, with the last field in capitals: its value is asked for where the meter is
    known to keep another one. -/
theorem totalEnergy_by_spelling :
    parseObis "1.1.1.8.0.ff" = parseObis "1.1.1.8.0.FF" ∧
    (readOneRegister scheduled 0x4001 defaultClientAddress 1 "1.1.1.8.0.ff" registerClassId 1
      energyAnswers).2.sent ≠
    (readOneRegister scheduled 0x4001 defaultClientAddress 1 "1.1.1.8.0.FF" registerClassId 1
      energyAnswers).2.sent := by
  decide +kernel

end RiseSun.Gateway
