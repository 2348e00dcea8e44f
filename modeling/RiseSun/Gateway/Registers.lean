/-
  Reading registers: what a returned value is, and what survives a bad answer.

  1. **Scaling** — `IsScaled` compares the number of a register with the exact product of the raw
     integer and the power of ten.  With a power of at least one the number is an integer, and exact;
     with a smaller one it is a float (`scaledValue_isScaled`).

  2. **One register** — `readValue_ok` and `readOneRegister_ok` invert a run that returned: which
     frames were read and what was made of them.

  3. **Values** (`readOneRegister_scaled`) — a value returned for class Register is either the scaled
     number, or the decoded answer itself when that is neither a number nor null.
-/
import RiseSun.Gateway.Meter

namespace RiseSun.Gateway

open Proc

variable {σ : Type}

/-! ## Scaling -/

/-- The number a register value is, if it is one. -/
def RegisterValue.number : RegisterValue → Option ℚ
  | .plain (.int n) => some n
  | .float x => some x
  | _ => none

/-- Kilo-units for watt-hours. -/
def unitDivisor (unit : Value) : ℚ := if unit = .int unitWattHour then 1000 else 1

/-- The value of a register, as the meter means it. -/
def exactValue (n scaler : Int) (unit : Value) : ℚ := n * 10 ^ scaler / unitDivisor unit

/-- The number `q` is the value of a register as near as it can be had: an integer is exact, a float
    the nearest one if the raw value has at most fifty bits, and close to the value in any case.  A
    power of ten below `10 ^ -307` is too small for a float to carry it, and nothing is said. -/
structure IsScaled (n scaler : Int) (unit : Value) (q : ℚ) : Prop where
  exact : 0 ≤ effectiveScaler scaler unit → q = exactValue n scaler unit
  isFloat : effectiveScaler scaler unit < 0 →
    q = Binary64.scaleDown n (-effectiveScaler scaler unit).toNat
  nearest : effectiveScaler scaler unit < 0 → -307 ≤ effectiveScaler scaler unit → |n| < 2 ^ 50 →
    q = Binary64.nearest (exactValue n scaler unit)
  close : -307 ≤ effectiveScaler scaler unit →
    |q - exactValue n scaler unit| ≤ |exactValue n scaler unit| / 2 ^ 49

/-- The division by 1000 is three powers of ten. -/
theorem exactValue_eq (n scaler : Int) (unit : Value) :
    exactValue n scaler unit = n * 10 ^ effectiveScaler scaler unit := by
  have h10 : (10 : ℚ) ≠ 0 := by norm_num
  unfold exactValue unitDivisor effectiveScaler
  split
  · rw [zpow_sub₀ h10]
    norm_num
    ring
  · rw [div_one]

/-- A power of ten of at least one is an integer. -/
theorem exactValue_up (n : Int) {scaler : Int} {unit : Value}
    (h : 0 ≤ effectiveScaler scaler unit) :
    exactValue n scaler unit = ((n * 10 ^ (effectiveScaler scaler unit).toNat : Int) : ℚ) := by
  rw [exactValue_eq]
  conv_lhs => rw [← Int.toNat_of_nonneg h]
  push_cast
  rw [zpow_natCast]

/-- A power of ten below one is a quotient. -/
theorem exactValue_down (n : Int) {scaler : Int} {unit : Value}
    (h : effectiveScaler scaler unit < 0) :
    exactValue n scaler unit = n / 10 ^ (-effectiveScaler scaler unit).toNat := by
  have hneg : effectiveScaler scaler unit = -((-effectiveScaler scaler unit).toNat : Int) := by omega
  rw [exactValue_eq]
  conv_lhs => rw [hneg]
  rw [zpow_neg, zpow_natCast, div_eq_mul_inv]

/-- An integer that is exact is as near as can be. -/
theorem IsScaled.of_exact {n scaler : Int} {unit : Value} {q : ℚ}
    (h : 0 ≤ effectiveScaler scaler unit) (hq : q = exactValue n scaler unit) :
    IsScaled n scaler unit q where
  exact _ := hq
  isFloat hneg := absurd hneg (not_lt.mpr h)
  nearest hneg := absurd hneg (not_lt.mpr h)
  close _ := by
    rw [hq, sub_self, abs_zero]
    positivity

/-- What scaling makes of an integer is a number, and the right one. -/
theorem scaledValue_isScaled (n scaler : Int) (unit : Value) :
    ∃ q, (scaledValue n (effectiveScaler scaler unit)).number = some q ∧
      IsScaled n scaler unit q := by
  unfold scaledValue
  rcases le_or_gt 0 (effectiveScaler scaler unit) with hup | hdown
  · rw [if_pos hup]
    exact ⟨_, rfl, .of_exact hup (exactValue_up n hup).symm⟩
  · rw [if_neg (not_le.mpr hdown)]
    refine ⟨_, rfl, fun h => absurd hdown (not_lt.mpr h), fun _ => rfl, fun _ hlow hn => ?_,
      fun hlow => ?_⟩
    · rw [exactValue_down n hdown]
      exact Binary64.scaleDown_eq hn (by omega)
    · rw [exactValue_down n hdown]
      exact Binary64.scaleDown_close n (by omega)

/-- What is returned for a register of class Register: an integer is scaled, another value but null
    is passed on. -/
theorem interpretValue_register {obis : String} {scalerUnit raw : Value} {v : RegisterValue}
    (h : interpretValue obis registerClassId scalerUnit raw = .ok v) :
    (∃ n scaler unit q, raw = .int n ∧ scalerUnit = .list [.int scaler, unit] ∧
      v.number = some q ∧ IsScaled n scaler unit q) ∨
    (raw ≠ .null ∧ (∀ n, raw ≠ .int n) ∧ v = .plain raw) := by
  unfold interpretValue at h
  split at h
  · cases h
  · rename_i hnull
    have hraw : raw ≠ .null := fun heq => hnull ⟨rfl, heq⟩
    split at h
    · rename_i n
      rw [if_neg (by simp)] at h
      split at h
      · rename_i scaler unit
        split at h
        · rename_i hzero
          cases h
          refine .inl ⟨n, scaler, unit, n, rfl, rfl, rfl, .of_exact hzero.ge ?_⟩
          rw [exactValue_eq, hzero, zpow_zero, mul_one]
        · cases h
          obtain ⟨q, hnumber, hscaled⟩ := scaledValue_isScaled n scaler unit
          exact .inl ⟨n, scaler, unit, q, rfl, rfl, hnumber, hscaled⟩
      · cases h
    · rename_i hint
      cases h
      exact .inr ⟨hraw, hint, rfl⟩

/-! ## One register -/

/-- A value GET that returned: the frame read, and the value or error made of it. -/
theorem readValue_ok {S : MeterSocket σ} {server client classId : Int} {sendSeq invokeId next : Nat}
    {obis : String} {parsed : Bytes} {scalerUnit : Value}
    {result : Except GatewayError RegisterValue} {s s' : σ}
    (h : readValue S server client sendSeq invokeId obis parsed classId scalerUnit s =
      (.ok (result, next), s')) :
    ∃ frame, getValue S server client sendSeq invokeId parsed classId s = (.ok frame, s') ∧
      next = sendSeq + 1 ∧
      ((∃ raw, getAnswer frame = .ok raw ∧ result = interpretValue obis classId scalerUnit raw) ∨
       (∃ e, getAnswer frame = .error e ∧ e.isAnswerFailure = true ∧
         result = .error (answerFailure e))) := by
  unfold readValue at h
  obtain ⟨frame, s₁, hget, h⟩ := bind_eq_ok.mp h
  refine ⟨frame, ?_⟩
  cases hanswer : getAnswer frame with
  | ok raw =>
    rw [hanswer] at h
    cases h
    exact ⟨hget, rfl, .inl ⟨raw, rfl, rfl⟩⟩
  | error e =>
    rw [hanswer] at h
    dsimp only at h
    split at h
    · rename_i hfail
      cases h
      exact ⟨hget, rfl, .inr ⟨e, rfl, hfail, rfl⟩⟩
    · cases h

/-- A register of class Register that returned: both OBIS codes parse, the scaler GET and the value
    GET were each answered by a frame. -/
theorem readOneRegister_ok {S : MeterSocket σ} {server client : Int} {sendSeq invokeId next : Nat}
    {obis : String} {result : Except GatewayError RegisterValue} {s s' : σ}
    (h : readOneRegister S server client sendSeq obis registerClassId invokeId s =
      (.ok (result, next), s')) :
    ∃ parsedObis parsedValueObis scalerFrame scalerUnit s₁,
      parseObis obis = .ok parsedObis ∧ parseObis (valueObis obis) = .ok parsedValueObis ∧
      getScaler S server client sendSeq invokeId parsedObis registerClassId s =
        (.ok scalerFrame, s₁) ∧
      scalerAnswer scalerFrame = .ok scalerUnit ∧
      readValue S server client (sendSeq + 1) (invokeId + 1) obis parsedValueObis registerClassId
        scalerUnit s₁ = (.ok (result, next), s') := by
  unfold readOneRegister at h
  obtain ⟨parsedObis, s₁, hobis, h⟩ := bind_eq_ok.mp h
  cases hp : parseObis obis with
  | error e =>
    rw [hp] at hobis
    cases hobis
  | ok parsed =>
    rw [hp] at hobis
    cases hobis
    obtain ⟨parsedValueObis, s₂, hvalue, h⟩ := bind_eq_ok.mp h
    have hv : parseObis (valueObis obis) = .ok parsedValueObis ∧ s₂ = s := by
      split at hvalue
      · obtain ⟨h1, h2⟩ := Prod.mk.inj hvalue
        exact ⟨h1, h2.symm⟩
      · rename_i hsame
        cases hvalue
        rw [not_not] at hsame
        rw [hsame]
        exact ⟨hp, rfl⟩
    obtain ⟨hv, hs⟩ := hv
    rw [if_pos rfl, hs] at h
    obtain ⟨frame, s₃, hframe, h⟩ := bind_eq_ok.mp h
    obtain ⟨scalerUnit, s₄, hscaler, h⟩ := bind_eq_ok.mp h
    obtain ⟨h1, h2⟩ := Prod.mk.inj hscaler
    subst h2
    exact ⟨parsedObis, parsedValueObis, frame, scalerUnit, s₃, rfl, hv, hframe, h1, h⟩

/-- **Scaling.**  What a register of class Register returns as a value is the number that the raw
    integer of the value GET and the scaler and unit of the scaler GET stand for, or else the answered
    value itself, which is then neither a number nor null. -/
theorem readOneRegister_scaled {S : MeterSocket σ} {server client : Int}
    {sendSeq invokeId next : Nat} {obis : String} {v : RegisterValue} {s s' : σ}
    (h : readOneRegister S server client sendSeq obis registerClassId invokeId s =
      (.ok (.ok v, next), s')) :
    ∃ parsedObis parsedValueObis scalerFrame valueFrame s₁ raw,
      parseObis obis = .ok parsedObis ∧ parseObis (valueObis obis) = .ok parsedValueObis ∧
      getScaler S server client sendSeq invokeId parsedObis registerClassId s =
        (.ok scalerFrame, s₁) ∧
      getValue S server client (sendSeq + 1) (invokeId + 1) parsedValueObis registerClassId s₁ =
        (.ok valueFrame, s') ∧
      getAnswer valueFrame = .ok raw ∧
      ((∃ n scaler unit q, raw = .int n ∧
          getAnswer scalerFrame = .ok (.list [.int scaler, unit]) ∧
          v.number = some q ∧ IsScaled n scaler unit q) ∨
       (raw ≠ .null ∧ (∀ n, raw ≠ .int n) ∧ v = .plain raw)) := by
  obtain ⟨parsedObis, parsedValueObis, scalerFrame, scalerUnit, s₁, hobis, hvalueObis, hget, hscaler,
    hread⟩ := readOneRegister_ok h
  obtain ⟨valueFrame, hvalue, _, hcases⟩ := readValue_ok hread
  refine ⟨parsedObis, parsedValueObis, scalerFrame, valueFrame, s₁, ?_⟩
  rcases hcases with ⟨raw, hraw, hinterpret⟩ | ⟨e, _, _, herr⟩
  · refine ⟨raw, hobis, hvalueObis, hget, hvalue, hraw, ?_⟩
    rcases interpretValue_register hinterpret.symm with
      ⟨n, scaler, unit, q, hn, hlist, hnumber, hscaled⟩ | hother
    · refine .inl ⟨n, scaler, unit, q, hn, ?_, hnumber, hscaled⟩
      -- a failed scaler GET leaves null, so this list is the answer itself
      unfold scalerAnswer at hscaler
      split at hscaler
      · rename_i value hanswer
        cases hscaler
        rw [hanswer, hlist]
      · split at hscaler
        · cases hscaler
          cases hlist
        · cases hscaler
    · exact .inr hother
  · cases herr

/-! ## Two answers on the wire -/

/-- The answers for the total energy: scaler -2 in watt-hours, then 450770. -/
def energyAnswers : Wire :=
  arrived [meterFrame [0xC4, 1, 1, 0, 2, 2, 0x0F, 0xFE, 0x16, 30],
    meterFrame [0xC4, 1, 2, 0, 6, 0, 6, 0xE0, 0xD2]]

theorem readOneRegister_energy :
    readOneRegister scheduled 0x4001 defaultClientAddress 1 "1.1.1.8.0.ff" registerClassId 1
        energyAnswers =
      (.ok (.ok (.float (Binary64.nearest (450770 / 100000))), 3),
        (readOneRegister scheduled 0x4001 defaultClientAddress 1 "1.1.1.8.0.ff" registerClassId 1
          energyAnswers).2) :=
  run_eq (by decide +kernel)

/-- The float nearest to 4.5077 kWh, for 450770 times ten to the power of -2, over 1000. -/
theorem readOneRegister_scaled_energy :
    ∃ parsedObis parsedValueObis scalerFrame valueFrame s₁ raw,
      parseObis "1.1.1.8.0.ff" = .ok parsedObis ∧
      parseObis (valueObis "1.1.1.8.0.ff") = .ok parsedValueObis ∧
      getScaler scheduled 0x4001 defaultClientAddress 1 1 parsedObis registerClassId energyAnswers =
        (.ok scalerFrame, s₁) ∧
      getValue scheduled 0x4001 defaultClientAddress 2 2 parsedValueObis registerClassId s₁ =
        (.ok valueFrame, (readOneRegister scheduled 0x4001 defaultClientAddress 1 "1.1.1.8.0.ff"
          registerClassId 1 energyAnswers).2) ∧
      getAnswer valueFrame = .ok raw ∧
      ((∃ n scaler unit q, raw = .int n ∧
          getAnswer scalerFrame = .ok (.list [.int scaler, unit]) ∧
          (RegisterValue.float (Binary64.nearest (450770 / 100000))).number = some q ∧
          IsScaled n scaler unit q) ∨
       (raw ≠ .null ∧ (∀ n, raw ≠ .int n) ∧
          RegisterValue.float (Binary64.nearest (450770 / 100000)) = .plain raw)) :=
  readOneRegister_scaled readOneRegister_energy

/-- A success that is not a number, the value GET answered by an octet string; and one that is not
    exact, a tenth of a volt, which no float is. -/
theorem readOneRegister_octetString_tenth :
    (readOneRegister scheduled 0x4001 defaultClientAddress 1 "1.1.1.8.0.ff" registerClassId 1
        (arrived [meterFrame [0xC4, 1, 1, 0, 2, 2, 0x0F, 0xFE, 0x16, 30],
          meterFrame [0xC4, 1, 2, 0, 9, 2, 0xAB, 0xCD]])).1 =
      .ok (.ok (.plain (.bytes [0xAB, 0xCD])), 3) ∧
    (RegisterValue.plain (.bytes [0xAB, 0xCD])).number = none ∧
    (readOneRegister scheduled 0x4001 defaultClientAddress 1 "1.1.32.7.0.ff" registerClassId 1
        (arrived [meterFrame [0xC4, 1, 1, 0, 2, 2, 0x0F, 0xFF, 0x16, 35],
          meterFrame [0xC4, 1, 2, 0, 6, 0, 0, 0, 1]])).1 =
      .ok (.ok (.float (3602879701896397 / 36028797018963968)), 3) ∧
    (3602879701896397 / 36028797018963968 : ℚ) ≠ exactValue 1 (-1) (.int 35) := by
  decide +kernel

end RiseSun.Gateway
