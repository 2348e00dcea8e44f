/-
  The round trip of a load profile row (`encode_load_profile_row`, `decode_load_profile_row` in
  `protocols/dlms.py`).

  1. **One column** (`ProfileField.readBack_eq_iff`) — the minus sign is written over the first
     digit.  That digit is a zero unless the number fills its field, and then it is lost.

  2. **The markers** (`encodeLoadProfileRow_positions`) — in a row, and across the border of two rows,
     the marker stands at the beginnings only.

  3. **The row** (`loadProfileRow_roundTrip`).
-/
import Mathlib.Algebra.Order.Ring.Abs
import Mathlib.Tactic.FieldSimp
import Mathlib.Tactic.NormNum
import Mathlib.Tactic.Positivity
import RiseSun.Gateway.ProfileRow

namespace RiseSun.Gateway

/-! ## One column -/

namespace ProfileField

/-- The value has no more decimals than the column. -/
def Exact (f : ProfileField) : Prop := ∃ n : Int, f.value * 10 ^ f.scale = n

/-- A minus sign finds a zero to stand on. -/
def SignFits (f : ProfileField) : Prop :=
  f.value < 0 → |f.value| * 10 ^ f.scale < 10 ^ (2 * f.length - 1)

/-- A value with as many decimals as its scale is scaled to an integer without rounding. -/
theorem scaled_exact {f : ProfileField} (h : f.Exact) :
    (f.scaled : ℚ) = |f.value| * 10 ^ f.scale := by
  obtain ⟨n, hn⟩ := h
  have hpow : (0 : ℚ) ≤ 10 ^ f.scale := by positivity
  have habs : |f.value| * 10 ^ f.scale = ((|n| : Int) : ℚ) := by
    rw [← abs_of_nonneg hpow, ← abs_mul, hn, Int.cast_abs]
  rw [scaled, habs, roundHalfEven_intCast]
  exact_mod_cast Int.toNat_of_nonneg (abs_nonneg n)

/-- A value is read back as it was iff its sign found a zero. -/
theorem readBack_eq_iff {f : ProfileField} (h : f.Exact) : f.readBack = f.value ↔ f.SignFits := by
  have hscaled := scaled_exact h
  have hpow : (10 : ℚ) ^ f.scale ≠ 0 := by positivity
  rw [readBack, kept]
  by_cases hneg : f.value < 0
  · rw [if_pos hneg, if_pos hneg, SignFits, ← hscaled]
    have hvalue : f.value = -(f.scaled / 10 ^ f.scale) := by
      rw [hscaled, abs_of_neg hneg]
      field_simp
    have hkept : -(((f.scaled % 10 ^ (2 * f.length - 1) : Nat) : ℚ) / 10 ^ f.scale) = f.value ↔
        f.scaled % 10 ^ (2 * f.length - 1) = f.scaled := by
      rw [hvalue, neg_inj, div_left_inj' hpow, Nat.cast_inj]
    rw [hkept]
    constructor
    · intro hsmall _
      have hlt := Nat.mod_lt f.scaled (show 10 ^ (2 * f.length - 1) > 0 from Nat.pos_of_ne_zero
        (pow_ne_zero _ (by norm_num)))
      rw [hsmall] at hlt
      exact_mod_cast hlt
    · intro hfits
      exact Nat.mod_eq_of_lt (by exact_mod_cast hfits hneg)
  · rw [if_neg hneg, if_neg hneg, SignFits, hscaled, abs_of_nonneg (not_lt.mp hneg),
      mul_div_cancel_right₀ _ hpow]
    exact ⟨fun _ h => absurd h hneg, fun _ => rfl⟩

end ProfileField

/-! ## The markers -/

/-- In an encoded row, and in two that follow one another, the marker stands where they begin. -/
theorem encodeLoadProfileRow_positions {timestamp : DateTime} {fields : List ProfileField}
    {raw : Bytes} (h : encodeLoadProfileRow timestamp fields = .ok raw) :
    Markers.positions loadProfileRowMarker raw = [0] ∧
    ∀ (timestamp' : DateTime) (fields' : List ProfileField) (raw' : Bytes),
      encodeLoadProfileRow timestamp' fields' = .ok raw' →
      Markers.positions loadProfileRowMarker (raw ++ raw') = [0, raw.length] := by
  have hrow := encodeLoadProfileRow_row h
  constructor
  · have hone := Markers.positions_rows (show loadProfileRowMarker ≠ [] from by decide)
      (fun r hr => List.mem_singleton.mp hr ▸ hrow : ∀ r ∈ [raw], Markers.Row loadProfileRowMarker r)
    rw [List.flatten_cons, List.flatten_nil, List.append_nil] at hone
    exact hone
  · intro timestamp' fields' raw' h'
    have hrows : ∀ r ∈ [raw, raw'], Markers.Row loadProfileRowMarker r := by
      intro r hr
      rcases List.mem_cons.mp hr with rfl | hr
      · exact hrow
      · rw [List.mem_singleton.mp hr]
        exact encodeLoadProfileRow_row h'
    have htwo := Markers.positions_rows (show loadProfileRowMarker ≠ [] from by decide) hrows
    rw [List.flatten_cons, List.flatten_cons, List.flatten_nil, List.append_nil] at htwo
    rw [htwo, Markers.starts, Markers.starts, Markers.starts, Nat.zero_add]

/-! ## The row -/

/-- **The row.**  A row of exact values that is encoded is decoded to the same timestamp and values
    iff the timestamp carries no time zone and every minus sign found a zero to stand on; and its
    marker is the only one in any case. -/
theorem loadProfileRow_roundTrip {timestamp : DateTime} {fields : List ProfileField} {raw : Bytes}
    (hseconds : timestamp.microsecond = 0) (hscale : ∀ f ∈ fields, f.scale < 16)
    (hexact : ∀ f ∈ fields, f.Exact) (h : encodeLoadProfileRow timestamp fields = .ok raw) :
    (decodeLoadProfileRow raw = .ok ⟨timestamp, fields.map (·.value)⟩ ↔
      timestamp.utcoffset = none ∧ ∀ f ∈ fields, f.SignFits) ∧
    Markers.positions loadProfileRowMarker raw = [0] ∧
    ∀ (timestamp' : DateTime) (fields' : List ProfileField) (raw' : Bytes),
      encodeLoadProfileRow timestamp' fields' = .ok raw' →
      Markers.positions loadProfileRowMarker (raw ++ raw') = [0, raw.length] := by
  refine ⟨?_, encodeLoadProfileRow_positions h⟩
  rw [decodeLoadProfileRow_encode hscale h]
  have hvalues : fields.map (·.readBack) = fields.map (·.value) ↔ ∀ f ∈ fields, f.SignFits := by
    rw [List.map_inj_left]
    exact forall₂_congr fun f hf => ProfileField.readBack_eq_iff (hexact f hf)
  have htimestamp : timestamp.wholeSeconds = timestamp ↔ timestamp.utcoffset = none := by
    constructor
    · intro heq
      rw [← heq]
      rfl
    · intro hzone
      obtain ⟨year, month, day, hour, minute, second, microsecond, utcoffset, valid⟩ := timestamp
      obtain rfl : microsecond = 0 := hseconds
      obtain rfl : utcoffset = none := hzone
      rfl
  rw [← hvalues, ← htimestamp]
  constructor
  · intro heq
    have hrow := Except.ok.inj heq
    exact ⟨congrArg ProfileRow.timestamp hrow, congrArg ProfileRow.values hrow⟩
  · rintro ⟨htime, hvals⟩
    rw [htime, hvals]

/-- A voltage and a negative current, half an hour past midnight. -/
theorem loadProfileRow_roundTrip_current :
    decodeLoadProfileRow [0xA0, 0xA0, 0x00, 0x30, 0x00, 0x11, 0x09, 0x26, 0x32, 0x65, 0x55, 0x02,
        0x21, 0x23, 0xF1] =
      .ok ⟨⟨2026, 9, 11, 0, 30, 0, 0, none, by decide⟩, [25565 / 100, -123 / 10]⟩ :=
  ((@loadProfileRow_roundTrip ⟨2026, 9, 11, 0, 30, 0, 0, none, by decide⟩
    [⟨25565 / 100, 3, 2⟩, ⟨-123 / 10, 2, 1⟩] _ rfl (by decide)
    (by
      simp only [List.mem_cons, List.not_mem_nil, or_false, forall_eq_or_imp, forall_eq]
      exact ⟨⟨25565, by norm_num⟩, ⟨-123, by norm_num⟩⟩)
    (by decide +kernel)).1).mpr
    ⟨rfl, by
      simp only [List.mem_cons, List.not_mem_nil, or_false, forall_eq_or_imp, forall_eq]
      exact ⟨fun h => by norm_num at h, fun _ => by norm_num [abs_of_neg]⟩⟩

/-- Minus twelve in a column of one byte is read back as minus two. -/
theorem loadProfileRow_lostDigit :
    encodeLoadProfileRow ⟨2026, 9, 11, 0, 30, 0, 0, none, by decide⟩ [⟨-12, 1, 0⟩] =
      .ok [0xA0, 0xA0, 0x00, 0x30, 0x00, 0x11, 0x09, 0x26, 0x10, 0xF2] ∧
    decodeLoadProfileRow [0xA0, 0xA0, 0x00, 0x30, 0x00, 0x11, 0x09, 0x26, 0x10, 0xF2] =
      .ok ⟨⟨2026, 9, 11, 0, 30, 0, 0, none, by decide⟩, [-2]⟩ ∧ (-2 : ℚ) ≠ -12 := by
  decide +kernel

end RiseSun.Gateway
