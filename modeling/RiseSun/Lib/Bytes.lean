/-
  Byte strings: slices, big- and little-endian numbers, two's complement.

  A byte string is a plain `List UInt8`.  Two readings of a number are kept side by side:

  1. **Reading** — `fromBE`/`fromLE` accept a string of ANY length (a short slice reads as the
     number of the bytes that are there), because the programs verified with this library slice
     first and read afterwards.
  2. **Writing** — `toBE w`/`toLE w` always write exactly `w` bytes, keeping the value modulo
     `256 ^ w`; `signedBE`/`toSignedBE` are the two's complement versions.

  The round trips (`fromBE_toBE`, `signedBE_toSignedBE`) are the facts the codecs above rest on;
  the slice lemmas at the end say how `slice` moves over an append.
-/
import Mathlib.Data.List.Basic
import Mathlib.Tactic.Ring
import Mathlib.Tactic.Linarith

namespace RiseSun

/-- A byte string. -/
abbrev Bytes := List UInt8

namespace Bytes

/-! ## Slices -/

/-- `bs[lo:hi]` with both ends clipped to the string. -/
def slice (bs : Bytes) (lo hi : Nat) : Bytes := (bs.drop lo).take (hi - lo)

theorem slice_append_right (p bs : Bytes) (lo hi : Nat) :
    slice (p ++ bs) (p.length + lo) (p.length + hi) = slice bs lo hi := by
  have hsub : p.length + hi - (p.length + lo) = hi - lo := by omega
  rw [slice, slice, List.drop_append, hsub, List.drop_of_length_le (by omega)]
  simp

/-- The bytes of `q` sitting between a prefix and a suffix are exactly the slice at its place. -/
theorem slice_mid (p q s : Bytes) : slice (p ++ q ++ s) p.length (p.length + q.length) = q := by
  rw [List.append_assoc]
  have h := slice_append_right p (q ++ s) 0 q.length
  rw [Nat.add_zero] at h
  rw [h, slice]
  simp

/-- A front part is the slice from the start. -/
theorem slice_front (q s : Bytes) : slice (q ++ s) 0 q.length = q := by
  have h := slice_mid [] q s
  simpa using h

theorem slice_length (bs : Bytes) (lo hi : Nat) (hlo : lo ≤ hi) (hhi : hi ≤ bs.length) :
    (slice bs lo hi).length = hi - lo := by
  simp only [slice, List.length_take, List.length_drop]
  omega

/-! ## Numbers -/

/-- Little-endian reading of a byte string of any length. -/
def fromLE : Bytes → Nat
  | [] => 0
  | b :: bs => b.toNat + 256 * fromLE bs

/-- Big-endian reading of a byte string of any length. -/
def fromBE (bs : Bytes) : Nat := fromLE bs.reverse

theorem fromLE_lt (bs : Bytes) : fromLE bs < 256 ^ bs.length := by
  induction bs with
  | nil => exact Nat.one_pos
  | cons b bs ih =>
    have hb : b.toNat < 256 := b.toNat_lt
    rw [fromLE, List.length_cons, Nat.pow_succ]
    omega

/-- A string of bytes is a number of as many digits in base 256. -/
theorem fromBE_lt (bs : Bytes) : fromBE bs < 256 ^ bs.length := by
  have h := fromLE_lt bs.reverse
  rwa [List.length_reverse] at h

/-- The `w` low-order bytes of `n`, least significant first. -/
def toLE : Nat → Nat → Bytes
  | 0, _ => []
  | w + 1, n => UInt8.ofNat n :: toLE w (n / 256)

/-- The `w` low-order bytes of `n`, most significant first. -/
def toBE (w n : Nat) : Bytes := (toLE w n).reverse

@[simp] theorem toLE_length (w n : Nat) : (toLE w n).length = w := by
  induction w generalizing n with
  | zero => rfl
  | succ w ih => simp [toLE, ih]

@[simp] theorem toBE_length (w n : Nat) : (toBE w n).length = w := by
  simp [toBE]

/-- Writing a number in `w` bytes and reading it back gives its value modulo `256 ^ w`. -/
theorem fromLE_toLE (w n : Nat) : fromLE (toLE w n) = n % 256 ^ w := by
  induction w generalizing n with
  | zero => simp [fromLE, toLE, Nat.mod_one]
  | succ w ih =>
    have hb : (UInt8.ofNat n).toNat = n % 256 := by simp
    rw [toLE, fromLE, ih, hb, Nat.pow_succ, Nat.mul_comm (256 ^ w) 256, Nat.mod_mul]

theorem fromBE_toBE (w n : Nat) (h : n < 256 ^ w) : fromBE (toBE w n) = n := by
  rw [fromBE, toBE, List.reverse_reverse, fromLE_toLE, Nat.mod_eq_of_lt h]

/-- A string is determined by its length and its value. -/
theorem toLE_fromLE (bs : Bytes) : toLE bs.length (fromLE bs) = bs := by
  induction bs with
  | nil => rfl
  | cons b bs ih =>
    have hb : b.toNat < 256 := b.toNat_lt
    have hdiv : (b.toNat + 256 * fromLE bs) / 256 = fromLE bs := by omega
    have hhead : UInt8.ofNat (b.toNat + 256 * fromLE bs) = b := by
      apply UInt8.toNat_inj.mp
      simp only [UInt8.toNat_ofNat']
      omega
    rw [List.length_cons, fromLE, toLE, hhead, hdiv, ih]

/-! ## Two's complement -/

/-- Two's complement reading, big-endian: the top bit of the first byte carries the sign. -/
def signedBE (bs : Bytes) : Int :=
  if 2 * fromBE bs < 256 ^ bs.length then (fromBE bs : Int)
  else (fromBE bs : Int) - 256 ^ bs.length

/-- Two's complement writing, big-endian, `w` bytes. -/
def toSignedBE (w : Nat) (v : Int) : Bytes := toBE w (v % 256 ^ w).toNat

@[simp] theorem toSignedBE_length (w : Nat) (v : Int) : (toSignedBE w v).length = w := by
  simp [toSignedBE]

/-- Every integer of the signed range survives the round trip. -/
theorem signedBE_toSignedBE (w : Nat) (v : Int) (hlo : -(256 ^ w : Int) ≤ 2 * v)
    (hhi : 2 * v < 256 ^ w) : signedBE (toSignedBE w v) = v := by
  have hpos : (0 : Int) < 256 ^ w := by positivity
  have hcast : ((256 ^ w : Nat) : Int) = 256 ^ w := by push_cast; rfl
  have hm0 : 0 ≤ v % 256 ^ w := Int.emod_nonneg _ (by omega)
  have hm1 : v % 256 ^ w < 256 ^ w := Int.emod_lt_of_pos _ hpos
  have hread : fromBE (toSignedBE w v) = (v % 256 ^ w).toNat := by
    rw [toSignedBE, fromBE_toBE]
    omega
  rw [signedBE, hread, toSignedBE_length]
  rcases lt_or_ge v 0 with hneg | hnn
  · have hmod : v % 256 ^ w = v + 256 ^ w := by
      rw [← Int.add_emod_right]
      exact Int.emod_eq_of_lt (by omega) (by omega)
    rw [if_neg (by omega)]
    omega
  · have hmod : v % 256 ^ w = v := Int.emod_eq_of_lt hnn (by omega)
    rw [if_pos (by omega)]
    omega

end Bytes
end RiseSun
