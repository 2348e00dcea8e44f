/-
  Rounding rational numbers: to integers, and to floating point numbers of 64 bits.

  A float stands for the rational number it is, so that arithmetic on floats is exact arithmetic
  followed by `nearest`.  Zeros of either sign are one number, and there is no infinity: a number too
  large for the format is rounded as if the exponent were unbounded.

  1. **Integers** (`roundHalfEven`) — no integer is closer, and what is closer than a half is the one.

  2. **Floats** (`nearest`) — the integer multiples of a power of two, the spacing, which is fixed by
     the binade of the number.  The result is a float (`nearest_isFloat`), no float is closer
     (`nearest_closest`), and its error is at most `2 ^ -53` of the number (`nearest_error`).

  3. **Decimals** (`scaleDown_eq`, `scaleDown_close`) — an integer times a negative power of ten,
     computed with floats and rounded to that many decimals, is the float nearest to the exact quotient
     as long as the errors on the way do not reach half a unit of the last decimal; it is close to the
     quotient in any case.
-/
import Mathlib.Algebra.Order.Floor.Ring
import Mathlib.Data.Nat.Log
import Mathlib.Data.Rat.Floor
import Mathlib.Tactic.FieldSimp
import Mathlib.Tactic.Linarith
import Mathlib.Tactic.NormNum
import Mathlib.Tactic.Positivity
import Mathlib.Tactic.Ring

namespace RiseSun

/-! ## Integers -/

/-- `round(x)`: to the nearest integer, ties to the even one. -/
def roundHalfEven (x : ℚ) : Int :=
  let low := x.floor
  let rest := x - low
  if rest < 1 / 2 then low else if 1 / 2 < rest then low + 1
  else if low % 2 = 0 then low else low + 1

/-- The rounded integer is at most a half away. -/
theorem abs_sub_roundHalfEven (x : ℚ) : |x - roundHalfEven x| ≤ 1 / 2 := by
  have hlow : ((x.floor : Int) : ℚ) ≤ x := Int.floor_le x
  have hhigh : x < (x.floor : Int) + 1 := Int.lt_floor_add_one x
  unfold roundHalfEven
  dsimp only
  rw [abs_le]
  split
  · exact ⟨by linarith, by linarith⟩
  · split
    · push_cast
      exact ⟨by linarith, by linarith⟩
    · split
      · exact ⟨by linarith, by linarith⟩
      · push_cast
        exact ⟨by linarith, by linarith⟩

/-- An integer that is closer than a half is the rounded one. -/
theorem roundHalfEven_eq {x : ℚ} {n : Int} (h : |x - n| < 1 / 2) : roundHalfEven x = n := by
  have hround := abs_sub_roundHalfEven x
  rw [abs_lt] at h
  rw [abs_le] at hround
  have hlow : ((roundHalfEven x : Int) : ℚ) < (n + 1 : Int) := by
    push_cast
    linarith
  have hhigh : ((n : Int) : ℚ) < (roundHalfEven x + 1 : Int) := by
    push_cast
    linarith
  have := Int.cast_lt.mp hlow
  have := Int.cast_lt.mp hhigh
  omega

theorem roundHalfEven_intCast (n : Int) : roundHalfEven n = n :=
  roundHalfEven_eq (by rw [sub_self, abs_zero]; norm_num)

/-- No integer is closer than the rounded one. -/
theorem roundHalfEven_closest (x : ℚ) (n : Int) : |x - roundHalfEven x| ≤ |x - n| := by
  rcases lt_or_ge |x - n| (1 / 2) with hlt | hge
  · rw [roundHalfEven_eq hlt]
  · exact (abs_sub_roundHalfEven x).trans hge

/-! ## Floats -/

namespace Binary64

/-- The power of two at or below the size of a number that is not zero. -/
def binade (x : ℚ) : Int :=
  let k := (Nat.log2 x.num.natAbs : Int) - Nat.log2 x.den
  if (2 : ℚ) ^ k ≤ |x| then k else k - 1

/-- The exponent of the distance between neighbouring floats around a number; it is no less than that
    of the subnormal ones. -/
def spacing (x : ℚ) : Int := max (-1074) (binade x - 52)

/-- The float nearest to a number, ties to the even one. -/
def nearest (x : ℚ) : ℚ := roundHalfEven (x / 2 ^ spacing x) * 2 ^ spacing x

/-- At most 53 bits at an exponent the format has. -/
def IsFloat (x : ℚ) : Prop := ∃ m e : Int, |m| ≤ 2 ^ 53 ∧ -1074 ≤ e ∧ x = m * 2 ^ e

theorem binade_spec {x : ℚ} (hx : x ≠ 0) : 2 ^ binade x ≤ |x| ∧ |x| < 2 ^ (binade x + 1) := by
  have hnum : x.num.natAbs ≠ 0 := by
    rw [Int.natAbs_ne_zero]
    exact Rat.num_ne_zero.mpr hx
  have hden : x.den ≠ 0 := x.den_nz
  have habs : |x| = (x.num.natAbs : ℚ) / x.den := by
    rw [Nat.cast_natAbs, Int.cast_abs]
    conv_lhs => rw [← Rat.num_div_den x]
    rw [abs_div, Nat.abs_cast]
  have hdenpos : (0 : ℚ) < x.den := Nat.cast_pos.mpr (Nat.pos_of_ne_zero hden)
  -- the quotient of the two powers of two is right, or one too much
  have hnumlow : ((2 : ℚ) ^ (Nat.log2 x.num.natAbs : Int)) ≤ x.num.natAbs := by
    rw [zpow_natCast]
    exact_mod_cast Nat.log2_self_le hnum
  have hnumhigh : (x.num.natAbs : ℚ) < 2 ^ ((Nat.log2 x.num.natAbs : Int) + 1) := by
    rw [← Nat.cast_succ, zpow_natCast]
    exact_mod_cast Nat.lt_log2_self
  have hdenlow : ((2 : ℚ) ^ (Nat.log2 x.den : Int)) ≤ x.den := by
    rw [zpow_natCast]
    exact_mod_cast Nat.log2_self_le hden
  have hdenhigh : (x.den : ℚ) < 2 ^ ((Nat.log2 x.den : Int) + 1) := by
    rw [← Nat.cast_succ, zpow_natCast]
    exact_mod_cast Nat.lt_log2_self
  have h2 : (2 : ℚ) ≠ 0 := two_ne_zero
  have hbinade : binade x = if (2 : ℚ) ^ ((Nat.log2 x.num.natAbs : Int) - Nat.log2 x.den) ≤ |x| then
      (Nat.log2 x.num.natAbs : Int) - Nat.log2 x.den
      else (Nat.log2 x.num.natAbs : Int) - Nat.log2 x.den - 1 := rfl
  generalize (Nat.log2 x.num.natAbs : Int) = a at *
  generalize (Nat.log2 x.den : Int) = b at *
  have hlow : 2 ^ (a - b - 1) < |x| := by
    rw [habs, lt_div_iff₀ hdenpos]
    calc (2 : ℚ) ^ (a - b - 1) * x.den < 2 ^ (a - b - 1) * 2 ^ (b + 1) := by
          exact mul_lt_mul_of_pos_left hdenhigh (zpow_pos two_pos _)
      _ = 2 ^ a := by
          rw [← zpow_add₀ h2]
          congr 1
          ring
      _ ≤ x.num.natAbs := hnumlow
  have hhigh : |x| < 2 ^ (a - b + 1) := by
    rw [habs, div_lt_iff₀ hdenpos]
    calc (x.num.natAbs : ℚ) < 2 ^ (a + 1) := hnumhigh
      _ = 2 ^ (a - b + 1) * 2 ^ b := by
          rw [← zpow_add₀ h2]
          congr 1
          ring
      _ ≤ 2 ^ (a - b + 1) * x.den := mul_le_mul_of_nonneg_left hdenlow (zpow_pos two_pos _).le
  rw [hbinade]
  split
  · rename_i hle
    exact ⟨hle, hhigh⟩
  · rename_i hgt
    rw [sub_add_cancel]
    exact ⟨hlow.le, not_le.mp hgt⟩

/-- The error is at most half the spacing. -/
theorem nearest_half (x : ℚ) : |x - nearest x| ≤ 2 ^ spacing x / 2 := by
  have hpos : (0 : ℚ) < 2 ^ spacing x := zpow_pos two_pos _
  have hround := abs_sub_roundHalfEven (x / 2 ^ spacing x)
  have hscaled : x - nearest x =
      (x / 2 ^ spacing x - roundHalfEven (x / 2 ^ spacing x)) * 2 ^ spacing x := by
    rw [nearest, sub_mul, div_mul_cancel₀ _ hpos.ne']
  rw [hscaled, abs_mul, abs_of_pos hpos]
  calc _ ≤ 1 / 2 * (2 : ℚ) ^ spacing x := mul_le_mul_of_nonneg_right hround hpos.le
    _ = 2 ^ spacing x / 2 := by ring

/-- The multiples of the spacing are no closer. -/
theorem nearest_le_multiple (x : ℚ) (m : Int) : |x - nearest x| ≤ |x - m * 2 ^ spacing x| := by
  have hpos : (0 : ℚ) < 2 ^ spacing x := zpow_pos two_pos _
  have hscaled : ∀ n : Int, |x - n * 2 ^ spacing x| = |x / 2 ^ spacing x - n| * 2 ^ spacing x := by
    intro n
    rw [← abs_of_pos hpos, ← abs_mul, abs_of_pos hpos, sub_mul, div_mul_cancel₀ _ hpos.ne']
  rw [nearest, hscaled, hscaled]
  exact mul_le_mul_of_nonneg_right (roundHalfEven_closest _ m) hpos.le

theorem abs_lt_spacing {x : ℚ} : |x| < 2 ^ (spacing x + 53) := by
  rcases eq_or_ne x 0 with rfl | hx
  · rw [abs_zero]
    exact zpow_pos two_pos _
  · refine (binade_spec hx).2.trans_le (zpow_le_zpow_right₀ one_le_two ?_)
    have : binade x - 52 ≤ spacing x := le_max_right _ _
    omega

/-- The result of rounding is a float itself. -/
theorem nearest_isFloat (x : ℚ) : IsFloat (nearest x) := by
  refine ⟨roundHalfEven (x / 2 ^ spacing x), spacing x, ?_, le_max_left _ _, rfl⟩
  have hpos : (0 : ℚ) < 2 ^ spacing x := zpow_pos two_pos _
  -- the number itself is below 53 bits of the spacing, and that bound is an integer
  have hsize : |x / 2 ^ spacing x| < 2 ^ 53 := by
    rw [abs_div, abs_of_pos hpos, div_lt_iff₀ hpos, ← zpow_natCast, ← zpow_add₀ two_ne_zero, add_comm]
    exact abs_lt_spacing
  have hround := abs_sub_roundHalfEven (x / 2 ^ spacing x)
  rw [abs_lt] at hsize
  rw [abs_le] at hround
  rw [abs_le]
  constructor
  · have : ((-(2 ^ 53) - 1 : Int) : ℚ) < roundHalfEven (x / 2 ^ spacing x) := by
      push_cast
      linarith
    have := Int.cast_lt.mp this
    omega
  · have : (roundHalfEven (x / 2 ^ spacing x) : ℚ) < ((2 ^ 53 + 1 : Int) : ℚ) := by
      push_cast
      linarith
    have := Int.cast_lt.mp this
    omega

theorem nearest_zero : nearest 0 = 0 := by
  have hround := roundHalfEven_intCast 0
  rw [Int.cast_zero] at hround
  rw [nearest, zero_div, hround, Int.cast_zero, zero_mul]

/-- No float is closer to the number than the one it is rounded to. -/
theorem nearest_closest (x : ℚ) {y : ℚ} (hy : IsFloat y) : |x - nearest x| ≤ |x - y| := by
  rcases eq_or_ne x 0 with rfl | hx
  · rw [nearest_zero, sub_zero, abs_zero]
    exact abs_nonneg _
  obtain ⟨m, e, hm, he, rfl⟩ := hy
  rcases le_or_gt (spacing x) e with hle | hlt
  · -- a float of at least this spacing is a multiple of it
    have hmultiple : (m : ℚ) * 2 ^ e = ((m * 2 ^ (e - spacing x).toNat : Int) : ℚ) * 2 ^ spacing x := by
      push_cast
      rw [mul_assoc, ← zpow_natCast, ← zpow_add₀ two_ne_zero, Int.toNat_of_nonneg (by omega),
        sub_add_cancel]
    rw [hmultiple]
    exact nearest_le_multiple x _
  · -- the floats of a smaller spacing end below the binade
    have hspacing : spacing x = binade x - 52 := max_eq_right (by
      by_contra hsub
      have : spacing x = -1074 := max_eq_left (not_le.mp hsub).le
      omega)
    obtain ⟨hbinade, -⟩ := binade_spec hx
    have hsmall : |(m : ℚ) * 2 ^ e| ≤ 2 ^ binade x := by
      rw [abs_mul, abs_of_pos (zpow_pos two_pos e : (0 : ℚ) < 2 ^ e)]
      calc |(m : ℚ)| * 2 ^ e ≤ 2 ^ 53 * 2 ^ e := by
            refine mul_le_mul_of_nonneg_right ?_ (zpow_pos two_pos _).le
            exact_mod_cast hm
        _ = 2 ^ (53 + e) := by rw [zpow_add₀ two_ne_zero]; norm_num
        _ ≤ 2 ^ binade x := zpow_le_zpow_right₀ one_le_two (by omega)
    have hedge : ((2 ^ 52 : Int) : ℚ) * 2 ^ spacing x = 2 ^ binade x := by
      rw [hspacing, zpow_sub₀ two_ne_zero]
      push_cast
      ring
    have hfar := abs_sub_abs_le_abs_sub x ((m : ℚ) * 2 ^ e)
    -- the edge of the binade, on the side of the number, lies between it and the small float
    refine le_trans ?_ (le_trans (sub_le_sub_left hsmall |x|) hfar)
    rcases lt_or_gt_of_ne hx with hneg | hpos
    · refine (nearest_le_multiple x (-(2 ^ 52))).trans_eq ?_
      rw [Int.cast_neg, neg_mul, hedge, sub_neg_eq_add]
      rw [abs_of_neg hneg] at hbinade ⊢
      rw [abs_of_nonpos (by linarith)]
      ring
    · refine (nearest_le_multiple x (2 ^ 52)).trans_eq ?_
      rw [hedge]
      rw [abs_of_pos hpos] at hbinade ⊢
      rw [abs_of_nonneg (by linarith)]

/-- Above the subnormal numbers the error is relative. -/
theorem nearest_error {x : ℚ} (hx : 2 ^ (-1022 : Int) ≤ |x|) : |x - nearest x| ≤ |x| * 2 ^ (-53 : Int) := by
  have hne : x ≠ 0 := by
    rintro rfl
    rw [abs_zero] at hx
    exact absurd hx (not_le.mpr (zpow_pos two_pos _))
  obtain ⟨hlow, hhigh⟩ := binade_spec hne
  have hbinade : -1022 < binade x + 1 := (zpow_lt_zpow_iff_right₀ one_lt_two).mp (hx.trans_lt hhigh)
  have hspacing : spacing x = binade x - 52 := max_eq_right (by omega)
  refine (nearest_half x).trans ?_
  calc (2 : ℚ) ^ spacing x / 2 = 2 ^ binade x * 2 ^ (-53 : Int) := by
        rw [hspacing, ← zpow_add₀ two_ne_zero, div_eq_mul_inv, ← zpow_neg_one,
          ← zpow_add₀ two_ne_zero]
        congr 1
        ring
    _ ≤ |x| * 2 ^ (-53 : Int) := mul_le_mul_of_nonneg_right hlow (zpow_pos two_pos _).le

/-- An integer of at most 53 bits is a float. -/
theorem nearest_intCast {n : Int} (h : |n| ≤ 2 ^ 53) : nearest n = n := by
  have hclosest := nearest_closest n (y := n) ⟨n, 0, h, by norm_num, by rw [zpow_zero, mul_one]⟩
  rw [sub_self, abs_zero] at hclosest
  exact (sub_eq_zero.mp (abs_eq_zero.mp (le_antisymm hclosest (abs_nonneg _)))).symm

/-! ## Decimals -/

/-- `round(x, digits)` of a float: the float nearest to the rounded decimal.  No float has a decimal
    that more than 323 digits could lose. -/
def round (x : ℚ) (digits : Nat) : ℚ :=
  if 323 < digits then x else nearest (roundHalfEven (x * 10 ^ digits) / 10 ^ digits)

/-- `round(n * 10 ** -digits, digits)`: the integer and the power become floats, then their product. -/
def scaleDown (n : Int) (digits : Nat) : ℚ :=
  round (nearest (nearest n * nearest (1 / 10 ^ digits))) digits

/-- The float of a negative power of ten is close to it: far from the subnormal numbers, its error is
    relative. -/
theorem nearest_power {digits : Nat} (hdigits : digits ≤ 307) :
    |nearest (1 / 10 ^ digits) * 10 ^ digits - 1| ≤ 1 / 2 ^ 53 ∧
      2 ^ (-1021 : Int) ≤ nearest (1 / 10 ^ digits) := by
  have hT : (0 : ℚ) < 10 ^ digits := by positivity
  have hlimit : 10 ^ 307 ≤ 2 ^ 1020 := by decide +kernel
  have hpower : (10 : ℚ) ^ digits ≤ 2 ^ 1020 :=
    (pow_le_pow_right₀ (by norm_num) hdigits).trans (by exact_mod_cast hlimit)
  have hnormal : (2 : ℚ) ^ (-1020 : Int) ≤ 1 / 10 ^ digits := by
    rw [zpow_neg, ← one_div]
    exact one_div_le_one_div_of_le hT (by exact_mod_cast hpower)
  have hpos : (0 : ℚ) < 1 / 10 ^ digits := by positivity
  have hp := nearest_error (x := 1 / 10 ^ digits) (by
    rw [abs_of_pos hpos]
    exact le_trans (zpow_le_zpow_right₀ one_le_two (by norm_num)) hnormal)
  rw [abs_of_pos hpos] at hp
  generalize nearest (1 / 10 ^ digits) = p at hp ⊢
  have hpT : |p * 10 ^ digits - 1| ≤ 1 / 2 ^ 53 := by
    have hscaled : |p * 10 ^ digits - 1| = |1 / 10 ^ digits - p| * 10 ^ digits := by
      rw [← abs_of_pos hT, ← abs_mul, abs_of_pos hT, sub_mul, div_mul_cancel₀ _ hT.ne', abs_sub_comm]
    rw [hscaled]
    calc _ ≤ 1 / 10 ^ digits * 2 ^ (-53 : Int) * (10 : ℚ) ^ digits :=
          mul_le_mul_of_nonneg_right hp hT.le
      _ = 2 ^ (-53 : Int) := by field_simp
      _ = 1 / 2 ^ 53 := by norm_num
  refine ⟨hpT, ?_⟩
  rw [abs_le] at hpT
  calc (2 : ℚ) ^ (-1021 : Int) = 2 ^ (-1020 : Int) * (1 / 2) := by
        rw [one_div, ← zpow_neg_one, ← zpow_add₀ two_ne_zero]
        rfl
    _ ≤ 1 / 10 ^ digits * (1 / 2) := mul_le_mul_of_nonneg_right hnormal (by norm_num)
    _ = 1 / 2 / 10 ^ digits := by ring
    _ ≤ p := by
        rw [div_le_iff₀ hT]
        linarith [hpT.1]

/-- The product of an integer and the float of a power of ten, in units of the last decimal: each of
    the three roundings on the way moves it by `2 ^ -53` of itself. -/
theorem scaleDown_drift (n : Int) {digits : Nat} (hdigits : digits ≤ 307) :
    |nearest (nearest n * nearest (1 / 10 ^ digits)) * 10 ^ digits - n| ≤ |(n : ℚ)| / 2 ^ 51 := by
  have hT : (0 : ℚ) < 10 ^ digits := by positivity
  obtain ⟨hpT, hpsize⟩ := nearest_power hdigits
  rcases eq_or_ne n 0 with rfl | hzero
  · rw [Int.cast_zero, nearest_zero, zero_mul, nearest_zero, zero_mul, sub_zero, abs_zero, zero_div]
  generalize nearest (1 / 10 ^ digits) = p at hpT hpsize ⊢
  have hp0 : (0 : ℚ) ≤ p := (zpow_pos two_pos _).le.trans hpsize
  have hsmall : (2 : ℚ) ^ (-53 : Int) = 1 / 2 ^ 53 := by norm_num
  have hone : (1 : ℚ) ≤ |(n : ℚ)| := by exact_mod_cast Int.one_le_abs hzero
  have htiny : (2 : ℚ) ^ (-1022 : Int) ≤ 1 := zpow_le_one_of_nonpos₀ one_le_two (by norm_num)
  have hm := nearest_error (htiny.trans hone)
  rw [hsmall] at hm
  generalize nearest (n : ℚ) = m at hm ⊢
  have hmsize : |m| ≤ |(n : ℚ)| * (1 + 1 / 2 ^ 53) := by
    have := abs_sub_abs_le_abs_sub m (n : ℚ)
    rw [abs_sub_comm] at this
    linarith
  have hmlow : 1 / 2 ≤ |m| := by
    have := abs_sub_abs_le_abs_sub (n : ℚ) m
    have : |(n : ℚ)| * (1 / 2 ^ 53) ≤ |(n : ℚ)| * (1 / 2) :=
      mul_le_mul_of_nonneg_left (by norm_num) (abs_nonneg _)
    linarith
  have hx := nearest_error (x := m * p) (by
    rw [abs_mul, abs_of_nonneg hp0]
    calc (2 : ℚ) ^ (-1022 : Int) = 1 / 2 * 2 ^ (-1021 : Int) := by
          rw [one_div, ← zpow_neg_one, ← zpow_add₀ two_ne_zero]
          rfl
      _ ≤ |m| * p := mul_le_mul hmlow hpsize (zpow_pos two_pos _).le (abs_nonneg _))
  rw [hsmall, abs_mul, abs_of_nonneg hp0] at hx
  generalize nearest (m * p) = x at hx ⊢
  have hpT' : p * 10 ^ digits ≤ 1 + 1 / 2 ^ 53 := by linarith [(abs_le.mp hpT).2]
  have hpT0 : 0 ≤ p * 10 ^ digits := mul_nonneg hp0 hT.le
  -- the errors of the product, of the integer and of the power
  have hproduct : |(x - m * p) * 10 ^ digits| ≤
      |(n : ℚ)| * (1 + 1 / 2 ^ 53) * (1 / 2 ^ 53) * (1 + 1 / 2 ^ 53) := by
    rw [abs_mul, abs_of_pos hT, abs_sub_comm]
    calc _ ≤ |m| * p * (1 / 2 ^ 53) * 10 ^ digits := mul_le_mul_of_nonneg_right hx hT.le
      _ = |m| * (1 / 2 ^ 53) * (p * 10 ^ digits) := by ring
      _ ≤ |(n : ℚ)| * (1 + 1 / 2 ^ 53) * (1 / 2 ^ 53) * (1 + 1 / 2 ^ 53) :=
        mul_le_mul (mul_le_mul_of_nonneg_right hmsize (by norm_num)) hpT' hpT0 (by positivity)
  have hinteger : |(m - n) * (p * 10 ^ digits)| ≤
      |(n : ℚ)| * (1 / 2 ^ 53) * (1 + 1 / 2 ^ 53) := by
    rw [abs_mul, abs_of_nonneg hpT0, abs_sub_comm]
    exact mul_le_mul hm hpT' hpT0 (by positivity)
  have hpow : |(n : ℚ) * (p * 10 ^ digits - 1)| ≤ |(n : ℚ)| * (1 / 2 ^ 53) := by
    rw [abs_mul]
    exact mul_le_mul_of_nonneg_left hpT (abs_nonneg _)
  have hsplit : x * 10 ^ digits - n = (x - m * p) * 10 ^ digits + (m - n) * (p * 10 ^ digits) +
      n * (p * 10 ^ digits - 1) := by ring
  rw [hsplit]
  calc _ ≤ |(x - m * p) * 10 ^ digits| + |(m - n) * (p * 10 ^ digits)| +
        |(n : ℚ) * (p * 10 ^ digits - 1)| := abs_add_three _ _ _
    _ ≤ |(n : ℚ)| * (1 + 1 / 2 ^ 53) * (1 / 2 ^ 53) * (1 + 1 / 2 ^ 53) +
        |(n : ℚ)| * (1 / 2 ^ 53) * (1 + 1 / 2 ^ 53) + |(n : ℚ)| * (1 / 2 ^ 53) :=
      add_le_add (add_le_add hproduct hinteger) hpow
    _ = |(n : ℚ)| * ((1 + 1 / 2 ^ 53) * (1 / 2 ^ 53) * (1 + 1 / 2 ^ 53) +
        1 / 2 ^ 53 * (1 + 1 / 2 ^ 53) + 1 / 2 ^ 53) := by ring
    _ ≤ |(n : ℚ)| * (1 / 2 ^ 51) := mul_le_mul_of_nonneg_left (by norm_num) (abs_nonneg _)
    _ = |(n : ℚ)| / 2 ^ 51 := mul_one_div _ _

/-- **Scaling down.**  For an integer that leaves three bits of a float free, the float nearest to the
    exact quotient comes out. -/
theorem scaleDown_eq {n : Int} {digits : Nat} (hn : |n| < 2 ^ 50) (hdigits : digits ≤ 307) :
    scaleDown n digits = nearest (n / 10 ^ digits) := by
  have hn' : |(n : ℚ)| < 2 ^ 50 := by exact_mod_cast hn
  have hdrift := (scaleDown_drift n hdigits).trans_lt
    (show |(n : ℚ)| / 2 ^ 51 < 1 / 2 by rw [div_lt_iff₀ (by norm_num)]; linarith)
  rw [scaleDown, round, if_neg (by omega), roundHalfEven_eq hdrift]

/-- For any integer, what comes out is within `2 ^ -49` of the exact quotient. -/
theorem scaleDown_close (n : Int) {digits : Nat} (hdigits : digits ≤ 307) :
    |scaleDown n digits - n / 10 ^ digits| ≤ |(n : ℚ) / 10 ^ digits| / 2 ^ 49 := by
  have hT : (0 : ℚ) < 10 ^ digits := by positivity
  have hdrift := scaleDown_drift n hdigits
  rw [scaleDown, round, if_neg (by omega)]
  generalize nearest (nearest n * nearest (1 / 10 ^ digits)) = x at hdrift ⊢
  -- the rounded integer is no farther from the product than the exact one
  have hclosest := roundHalfEven_closest (x * 10 ^ digits) n
  generalize roundHalfEven (x * 10 ^ digits) = k at hclosest ⊢
  have hk : |(k : ℚ) - n| ≤ |(n : ℚ)| / 2 ^ 50 := by
    have htriangle := abs_sub_le (k : ℚ) (x * 10 ^ digits) n
    rw [abs_sub_comm (k : ℚ) (x * 10 ^ digits)] at htriangle
    calc _ ≤ |x * 10 ^ digits - k| + |x * 10 ^ digits - n| := htriangle
      _ ≤ |(n : ℚ)| / 2 ^ 51 + |(n : ℚ)| / 2 ^ 51 := add_le_add (hclosest.trans hdrift) hdrift
      _ = |(n : ℚ)| / 2 ^ 50 := by ring
  rcases eq_or_ne n 0 with rfl | hzero
  · have hk0 : (k : ℚ) = 0 := by
      rw [Int.cast_zero, sub_zero, abs_zero, zero_div] at hk
      exact abs_eq_zero.mp (le_antisymm hk (abs_nonneg _))
    rw [hk0, Int.cast_zero, zero_div, nearest_zero, sub_zero, abs_zero, zero_div]
  have hone : (1 : ℚ) ≤ |(n : ℚ)| := by exact_mod_cast Int.one_le_abs hzero
  have hksize : |(k : ℚ)| ≤ |(n : ℚ)| * (1 + 1 / 2 ^ 50) := by
    have := abs_sub_abs_le_abs_sub (k : ℚ) n
    linarith
  have hk0 : k ≠ 0 := by
    rintro rfl
    rw [Int.cast_zero, zero_sub, abs_neg] at hk
    linarith
  have hkone : (1 : ℚ) ≤ |(k : ℚ)| := by exact_mod_cast Int.one_le_abs hk0
  have hlimit : 10 ^ 307 ≤ 2 ^ 1022 := by decide +kernel
  have hpower : (10 : ℚ) ^ digits ≤ 2 ^ 1022 :=
    (pow_le_pow_right₀ (by norm_num) hdigits).trans (by exact_mod_cast hlimit)
  have hlast := nearest_error (x := (k : ℚ) / 10 ^ digits) (by
    rw [abs_div, abs_of_pos hT, le_div_iff₀ hT]
    calc (2 : ℚ) ^ (-1022 : Int) * 10 ^ digits ≤ 2 ^ (-1022 : Int) * 2 ^ 1022 :=
          mul_le_mul_of_nonneg_left hpower (zpow_pos two_pos _).le
      _ = 2 ^ (-1022 : Int) * 2 ^ (1022 : Int) := rfl
      _ = 1 := by
        rw [← zpow_add₀ two_ne_zero]
        rfl
      _ ≤ |(k : ℚ)| := hkone)
  have hsmall : (2 : ℚ) ^ (-53 : Int) = 1 / 2 ^ 53 := by norm_num
  rw [hsmall, abs_sub_comm, abs_div, abs_of_pos hT] at hlast
  rw [abs_div, abs_of_pos hT]
  have hmiddle : |(k : ℚ) / 10 ^ digits - n / 10 ^ digits| ≤ |(n : ℚ)| / 2 ^ 50 / 10 ^ digits := by
    rw [← sub_div, abs_div, abs_of_pos hT]
    exact div_le_div_of_nonneg_right hk hT.le
  calc _ ≤ |nearest ((k : ℚ) / 10 ^ digits) - k / 10 ^ digits| +
        |(k : ℚ) / 10 ^ digits - n / 10 ^ digits| := abs_sub_le _ _ _
    _ ≤ |(k : ℚ)| / 10 ^ digits * (1 / 2 ^ 53) + |(n : ℚ)| / 2 ^ 50 / 10 ^ digits :=
      add_le_add hlast hmiddle
    _ ≤ |(n : ℚ)| * (1 + 1 / 2 ^ 50) / 10 ^ digits * (1 / 2 ^ 53) +
        |(n : ℚ)| / 2 ^ 50 / 10 ^ digits := by
      gcongr
    _ = |(n : ℚ)| / 10 ^ digits * ((1 + 1 / 2 ^ 50) * (1 / 2 ^ 53) + 1 / 2 ^ 50) := by ring
    _ ≤ |(n : ℚ)| / 10 ^ digits * (1 / 2 ^ 49) :=
      mul_le_mul_of_nonneg_left (by norm_num) (by positivity)
    _ = |(n : ℚ)| / 10 ^ digits / 2 ^ 49 := mul_one_div _ _

end Binary64

end RiseSun
