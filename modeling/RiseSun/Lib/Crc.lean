/-
  Cyclic redundancy checks with a shift register, lowest bit first, of any width.

  1. **Register** — `shiftBit poly` is one shift, `feed poly s bits` takes the bits one by one into
     the lowest place.  A shift is linear in exclusive or (`shiftBit_xor`), and so is feeding
     (`feed_xor`): what two messages do to the register differs by what their difference does to
     an empty one.

  2. **Bursts** (`burst_detected`) — two messages that differ, and only within a window no wider than
     the register, leave different registers.  The crux is `feed_survives`: a difference whose
     highest place is at least `k` is still there after `k` more bits, since a shift either moves it
     down by one place or, when it drops a bit, brings the highest place of the polynomial in.

  3. **Bytes** (`feedBytes_eq_feed`) — adding a whole byte and shifting eight times is feeding its
     bits.

  4. **Residue** (`residue`) — a message followed by its own check sequence leaves a register that
     does not depend on the message.
-/
import Mathlib.Data.List.Basic
import Mathlib.Logic.Function.Iterate
import Mathlib.Tactic.Common
import RiseSun.Lib.Bytes

namespace RiseSun.Crc

variable {w : Nat} (poly : BitVec w)

/-! ## The register -/

/-- One shift: the polynomial is added when a bit drops out. -/
def shiftBit (crc : BitVec w) : BitVec w :=
  if crc.getLsbD 0 then (crc >>> 1) ^^^ poly else crc >>> 1

/-- A bit in the lowest place. -/
def bit (b : Bool) : BitVec w := BitVec.ofNat w b.toNat

def feedBit (crc : BitVec w) (b : Bool) : BitVec w := shiftBit poly (crc ^^^ bit b)

def feed (crc : BitVec w) (bits : List Bool) : BitVec w := bits.foldl (feedBit poly) crc

/-- The register may be fed in pieces: it depends on the bits and their order, not on where they
    were cut. -/
theorem feed_append (crc : BitVec w) (u v : List Bool) :
    feed poly crc (u ++ v) = feed poly (feed poly crc u) v := List.foldl_append

/-- The bit of an exclusive or is the exclusive or of the bits: the first half of linearity. -/
theorem bit_xor (a b : Bool) : bit (a ^^ b) = (bit a ^^^ bit b : BitVec w) := by
  cases a
  · simp [bit]
  · cases b
    · simp [bit]
    · simp [bit]

/-- A shift is linear, too: the polynomial is added where exactly one of the two registers drops a
    one. -/
theorem shiftBit_xor (a b : BitVec w) :
    shiftBit poly (a ^^^ b) = shiftBit poly a ^^^ shiftBit poly b := by
  have hcancel : ∀ x y p : BitVec w, x ^^^ p ^^^ (y ^^^ p) = x ^^^ y := by
    intro x y p
    rw [BitVec.xor_assoc, ← BitVec.xor_assoc p, BitVec.xor_comm p, BitVec.xor_assoc y,
      BitVec.xor_self, BitVec.xor_zero]
  show (if (a ^^^ b).getLsbD 0 then _ else _) = _
  rw [BitVec.getLsbD_xor, BitVec.ushiftRight_xor_distrib]
  unfold shiftBit
  cases ha : a.getLsbD 0
  · cases hb : b.getLsbD 0
    · rfl
    · exact BitVec.xor_assoc _ _ _
  · cases hb : b.getLsbD 0
    · show a >>> 1 ^^^ b >>> 1 ^^^ poly = a >>> 1 ^^^ poly ^^^ b >>> 1
      ac_rfl
    · exact (hcancel _ _ _).symm

/-- Feeding bits is linear in the register and the bits together. -/
theorem feed_xor : ∀ {u v : List Bool} (a b : BitVec w), u.length = v.length →
    feed poly a u ^^^ feed poly b v = feed poly (a ^^^ b) (List.zipWith (· ^^ ·) u v)
  | [], [], _, _, _ => rfl
  | x :: u, y :: v, a, b, h => by
    show feed poly (feedBit poly a x) u ^^^ feed poly (feedBit poly b y) v = _
    rw [feed_xor _ _ (Nat.succ.inj h)]
    show feed poly (shiftBit poly _ ^^^ shiftBit poly _) _ = feed poly (shiftBit poly _) _
    rw [← shiftBit_xor, bit_xor, BitVec.xor_assoc, ← BitVec.xor_assoc (bit x),
      BitVec.xor_comm (bit x), BitVec.xor_assoc b, ← BitVec.xor_assoc a]
  | [], _ :: _, _, _, h => nomatch h
  | _ :: _, [], _, _, h => nomatch h

/-- Two lists of bits without a difference are the same. -/
theorem eq_of_zipWith_xor : ∀ {u v : List Bool}, u.length = v.length →
    true ∉ List.zipWith (· ^^ ·) u v → u = v
  | [], [], _, _ => rfl
  | x :: u, y :: v, hlen, h => by
    rw [List.zipWith_cons_cons, List.mem_cons, not_or] at h
    have hxy : x = y := by
      cases x
      · cases y
        · rfl
        · exact absurd rfl h.1
      · cases y
        · exact absurd rfl h.1
        · rfl
    rw [hxy, eq_of_zipWith_xor (Nat.succ.inj hlen) h.2]
  | [], _ :: _, h, _ => nomatch h
  | _ :: _, [], h, _ => nomatch h

/-! ## Bursts -/

section Bursts

variable {poly} (hpoly : poly.msb = true)
include hpoly

/-- A shift that drops a bit brings the highest place in. -/
theorem shiftBit_odd {crc : BitVec w} (h : crc.getLsbD 0 = true) :
    2 ^ (w - 1) ≤ (shiftBit poly crc).toNat := by
  have hmsb : (shiftBit poly crc).msb = true := by
    rw [shiftBit, if_pos h, BitVec.msb_xor, hpoly]
    have hlow : (crc >>> 1).msb = false := by
      rw [BitVec.msb_ushiftRight]
      rfl
    rw [hlow]
    rfl
  rw [BitVec.msb_eq_decide] at hmsb
  exact of_decide_eq_true hmsb

/-- Feeding one bit moves the highest place down by one at most. -/
theorem feedBit_survives {k : Nat} {crc : BitVec w} (h : 2 ^ (k + 1) ≤ crc.toNat) (b : Bool) :
    2 ^ k ≤ (feedBit poly crc b).toNat := by
  have hk : k + 1 < w := by
    by_contra hge
    have hlt := crc.isLt
    have hpow : 2 ^ w ≤ 2 ^ (k + 1) := Nat.pow_le_pow_right (by decide) (by omega)
    omega
  by_cases hodd : (crc ^^^ bit b).getLsbD 0 = true
  · have hhigh : 2 ^ k ≤ 2 ^ (w - 1) := Nat.pow_le_pow_right (by decide) (by omega)
    exact Nat.le_trans hhigh (shiftBit_odd hpoly hodd)
  · rw [feedBit, shiftBit, if_neg hodd, BitVec.toNat_ushiftRight, BitVec.toNat_xor]
    have hbit : (bit b : BitVec w).toNat ≤ 1 := by
      rw [bit, BitVec.toNat_ofNat]
      exact Nat.le_trans (Nat.mod_le _ _) (Bool.toNat_le b)
    have hhalf : (crc.toNat ^^^ (bit b : BitVec w).toNat) >>> 1 = crc.toNat / 2 := by
      rw [Nat.shiftRight_xor_distrib, Nat.shiftRight_eq_div_pow, Nat.shiftRight_eq_div_pow,
        pow_one, Nat.div_eq_of_lt (show (bit b : BitVec w).toNat < 2 by omega), Nat.xor_zero]
    rw [hhalf]
    rw [pow_succ] at h
    omega

/-- A difference whose highest place is at least `k` survives `k` bits. -/
theorem feed_survives : ∀ {bits : List Bool} {k : Nat} {crc : BitVec w}, bits.length ≤ k →
    2 ^ k ≤ crc.toNat → feed poly crc bits ≠ 0#w
  | [], k, crc, _, h => by
    rintro hzero
    have hpos : 0 < 2 ^ k := Nat.two_pow_pos k
    rw [show crc = 0#w from hzero, show (0#w).toNat = 0 from BitVec.toNat_zero] at h
    omega
  | b :: bits, k, crc, hlen, h => by
    rw [List.length_cons] at hlen
    obtain ⟨k, rfl⟩ : ∃ m, k = m + 1 := ⟨k - 1, by omega⟩
    show feed poly (feedBit poly crc b) bits ≠ 0#w
    exact feed_survives (by omega) (feedBit_survives hpoly h b)

/-- A difference within the width of the register does not vanish. -/
theorem feed_burst : ∀ {bits : List Bool}, bits.length ≤ w → true ∈ bits →
    feed poly 0#w bits ≠ 0#w
  | false :: bits, hlen, hmem => by
    have hzero : feedBit poly 0#w false = 0#w := by
      show shiftBit poly (0#w ^^^ bit false) = 0#w
      rw [show (bit false : BitVec w) = 0#w from rfl, BitVec.xor_self]
      show (if (0#w).getLsbD 0 then _ else 0#w >>> 1) = 0#w
      rw [if_neg (by simp)]
      simp
    show feed poly (feedBit poly 0#w false) bits ≠ 0#w
    rw [hzero]
    rw [List.length_cons] at hlen
    exact feed_burst (by omega) (by simpa using hmem)
  | true :: bits, hlen, _ => by
    rw [List.length_cons] at hlen
    have hodd : (0#w ^^^ bit true).getLsbD 0 = true := by
      rw [BitVec.zero_xor, bit, BitVec.getLsbD_ofNat]
      simp
      omega
    show feed poly (feedBit poly 0#w true) bits ≠ 0#w
    exact feed_survives hpoly (show bits.length ≤ w - 1 by omega) (shiftBit_odd hpoly hodd)

/-- A shift of the register loses nothing: only zero becomes zero. -/
theorem shiftBit_ne_zero {crc : BitVec w} (h : crc ≠ 0#w) : shiftBit poly crc ≠ 0#w := by
  intro hzero
  by_cases hodd : crc.getLsbD 0 = true
  · have hhigh := shiftBit_odd hpoly hodd
    rw [hzero, show (0#w).toNat = 0 from BitVec.toNat_zero] at hhigh
    have hpos : 0 < 2 ^ (w - 1) := Nat.two_pow_pos _
    omega
  · rw [shiftBit, if_neg hodd] at hzero
    apply h
    apply BitVec.eq_of_getLsbD_eq
    intro i hi
    rw [BitVec.getLsbD_zero]
    rcases Nat.eq_zero_or_pos i with rfl | hpos
    · exact Bool.eq_false_iff.mpr hodd
    · have hshift : (crc >>> 1).getLsbD (i - 1) = false := by
        rw [hzero, BitVec.getLsbD_zero]
      rw [BitVec.getLsbD_ushiftRight, show 1 + (i - 1) = i by omega] at hshift
      exact hshift

/-- Feeding the same bits keeps different registers apart. -/
theorem feed_injective : ∀ (bits : List Bool) {a b : BitVec w},
    feed poly a bits = feed poly b bits → a = b
  | [], _, _, h => h
  | x :: bits, a, b, h => by
    have hstep : feedBit poly a x = feedBit poly b x := feed_injective bits h
    have hxor : shiftBit poly (a ^^^ bit x ^^^ (b ^^^ bit x)) = 0#w := by
      rw [shiftBit_xor, show shiftBit poly (a ^^^ bit x) = shiftBit poly (b ^^^ bit x) from hstep,
        BitVec.xor_self]
    have hsame : a ^^^ bit x ^^^ (b ^^^ bit x) = 0#w := by
      by_contra hne
      exact shiftBit_ne_zero hpoly hne hxor
    have hcancel := BitVec.xor_eq_zero_iff.mp hsame
    exact (BitVec.xor_left_inj (bit x)).mp hcancel

/-- **Bursts.**  Messages that differ within a window no wider than the register, and only there,
    leave different registers. -/
theorem burst_detected {u v : List Bool} (hlen : u.length = v.length) (hwidth : u.length ≤ w)
    (hne : u ≠ v) (crc : BitVec w) (before after : List Bool) :
    feed poly crc (before ++ u ++ after) ≠ feed poly crc (before ++ v ++ after) := by
  intro h
  rw [feed_append, feed_append, feed_append, feed_append] at h
  have hsame := feed_injective hpoly after h
  have hdiff : feed poly 0#w (List.zipWith (· ^^ ·) u v) = 0#w := by
    have hxor := feed_xor poly (feed poly crc before) (feed poly crc before) hlen
    rw [hsame, BitVec.xor_self, BitVec.xor_self] at hxor
    exact hxor.symm
  refine feed_burst hpoly ?_ ?_ hdiff
  · rw [List.length_zipWith, hlen, Nat.min_self, ← hlen]
    exact hwidth
  · by_contra hall
    exact hne (eq_of_zipWith_xor hlen hall)

end Bursts

/-! ## Bytes -/

/-- The `n` lowest bits of a number, the lowest first. -/
def lsbFirst : Nat → Nat → List Bool
  | 0, _ => []
  | n + 1, x => decide (x % 2 = 1) :: lsbFirst n (x / 2)

@[simp] theorem lsbFirst_length (n : Nat) : ∀ x, (lsbFirst n x).length = n := by
  induction n with
  | zero =>
    intro x
    rfl
  | succ n ih =>
    intro x
    show (lsbFirst n (x / 2)).length + 1 = n + 1
    rw [ih]

/-- The bits of a number, lowest first, are those of its low part and then those of its high part.
    -/
theorem lsbFirst_append (m n : Nat) : ∀ x, lsbFirst (m + n) x =
    lsbFirst m x ++ lsbFirst n (x / 2 ^ m) := by
  induction m with
  | zero =>
    intro x
    rw [Nat.zero_add, pow_zero, Nat.div_one]
    rfl
  | succ m ih =>
    intro x
    rw [Nat.succ_add]
    show _ :: lsbFirst (m + n) (x / 2) = _
    rw [ih, Nat.div_div_eq_div_mul, ← pow_succ']
    rfl

/-- What lies above the first `n` bits does not matter to them. -/
theorem lsbFirst_mod (n : Nat) : ∀ x, lsbFirst n (x % 2 ^ n) = lsbFirst n x := by
  induction n with
  | zero =>
    intro x
    rfl
  | succ n ih =>
    intro x
    show _ :: lsbFirst n (x % 2 ^ (n + 1) / 2) = _ :: lsbFirst n (x / 2)
    rw [pow_succ', Nat.mod_mul_right_mod, Nat.mod_mul_right_div_self, ih]

/-- Two numbers of `n` bits with the same bits are the same number. -/
theorem lsbFirst_injective (n : Nat) : ∀ {x y : Nat}, x < 2 ^ n → y < 2 ^ n →
    lsbFirst n x = lsbFirst n y → x = y := by
  induction n with
  | zero =>
    intro x y hx hy _
    rw [pow_zero] at hx hy
    omega
  | succ n ih =>
    intro x y hx hy h
    obtain ⟨hbit, hrest⟩ := List.cons.inj h
    rw [pow_succ] at hx hy
    have hhalf := ih (show x / 2 < 2 ^ n by omega) (show y / 2 < 2 ^ n by omega) hrest
    have hodd : x % 2 = 1 ↔ y % 2 = 1 := decide_eq_decide.mp hbit
    omega

/-- A number is its lowest bit and twice the rest. -/
theorem ofNat_split (x : Nat) : BitVec.ofNat w x =
    bit (decide (x % 2 = 1)) ^^^ (BitVec.ofNat w (x / 2) <<< 1) := by
  apply BitVec.eq_of_getLsbD_eq
  intro i hi
  rw [BitVec.getLsbD_xor, BitVec.getLsbD_shiftLeft, bit, BitVec.getLsbD_ofNat,
    BitVec.getLsbD_ofNat, BitVec.getLsbD_ofNat]
  rcases i with _ | i
  · by_cases hodd : x % 2 = 1
    · simp [hi, hodd, Nat.testBit_zero]
    · simp [hi, hodd, Nat.testBit_zero]
  · have hhigh : (decide (x % 2 = 1)).toNat.testBit (i + 1) = false := by
      cases decide (x % 2 = 1)
      · simp
      · simp [Nat.testBit_succ]
    simp [hi, hhigh, Nat.testBit_succ, show i < w by omega]

/-- Twice a number is shifted back to it. -/
theorem shiftBit_double {x : Nat} (hx : 2 * x < 2 ^ w) :
    shiftBit poly (BitVec.ofNat w x <<< 1) = BitVec.ofNat w x := by
  have hlow : ¬ (BitVec.ofNat w x <<< 1).getLsbD 0 = true := by
    rw [BitVec.getLsbD_shiftLeft]
    simp
  rw [shiftBit, if_neg hlow]
  apply BitVec.eq_of_toNat_eq
  have hsmall : (BitVec.ofNat w x).toNat = x := by
    rw [BitVec.toNat_ofNat, Nat.mod_eq_of_lt (by omega)]
  rw [BitVec.toNat_ushiftRight, BitVec.toNat_shiftLeft, hsmall, Nat.shiftLeft_eq, pow_one,
    Nat.mod_eq_of_lt (by omega), Nat.shiftRight_eq_div_pow, pow_one]
  omega

/-- **Bytes.**  Adding a number and shifting is feeding its bits. -/
theorem feed_lsbFirst : ∀ (n : Nat) {x : Nat} (crc : BitVec w), x < 2 ^ n → n ≤ w →
    feed poly crc (lsbFirst n x) = (shiftBit poly)^[n] (crc ^^^ BitVec.ofNat w x) := by
  intro n
  induction n with
  | zero =>
    intro x crc hx _
    have hzero : x = 0 := by
      rw [pow_zero] at hx
      omega
    rw [hzero]
    show crc = crc ^^^ BitVec.ofNat w 0
    exact BitVec.xor_zero.symm
  | succ n ih =>
    intro x crc hx hn
    rw [pow_succ] at hx
    have hroom : 2 * (x / 2) < 2 ^ w := by
      have hpow : 2 ^ (n + 1) ≤ 2 ^ w := Nat.pow_le_pow_right (by decide) hn
      rw [pow_succ] at hpow
      omega
    have hshift : shiftBit poly (crc ^^^ BitVec.ofNat w x) =
        feedBit poly crc (decide (x % 2 = 1)) ^^^ BitVec.ofNat w (x / 2) := by
      rw [ofNat_split x, ← BitVec.xor_assoc, shiftBit_xor, shiftBit_double poly hroom]
      rfl
    show feed poly (feedBit poly crc _) (lsbFirst n (x / 2)) = _
    rw [ih _ (by omega) (by omega), Function.iterate_succ_apply, hshift]

/-- One byte: it is added to the register, which is shifted eight times. -/
def feedByte (crc : BitVec w) (byte : UInt8) : BitVec w :=
  (shiftBit poly)^[8] (crc ^^^ BitVec.ofNat w byte.toNat)

/-- The bits of a byte string, each byte from its lowest bit. -/
def bitsOf : Bytes → List Bool
  | [] => []
  | b :: bs => lsbFirst 8 b.toNat ++ bitsOf bs

/-- The bits on the wire of two strings of bytes follow one another. -/
theorem bitsOf_append (as bs : Bytes) : bitsOf (as ++ bs) = bitsOf as ++ bitsOf bs := by
  induction as with
  | nil => rfl
  | cons a as ih =>
    show lsbFirst 8 a.toNat ++ bitsOf (as ++ bs) = lsbFirst 8 a.toNat ++ bitsOf as ++ bitsOf bs
    rw [ih, List.append_assoc]

@[simp] theorem bitsOf_length (bs : Bytes) : (bitsOf bs).length = 8 * bs.length := by
  induction bs with
  | nil => rfl
  | cons b bs ih =>
    show (lsbFirst 8 b.toNat ++ bitsOf bs).length = 8 * (bs.length + 1)
    rw [List.length_append, lsbFirst_length, ih]
    omega

/-- Strings of one length with the same bits are the same string: no byte is lost on the wire. -/
theorem bitsOf_injective : ∀ {as bs : Bytes}, as.length = bs.length → bitsOf as = bitsOf bs →
    as = bs
  | [], [], _, _ => rfl
  | a :: as, b :: bs, hlen, h => by
    have hlen8 : (lsbFirst 8 a.toNat).length = (lsbFirst 8 b.toNat).length := by
      rw [lsbFirst_length, lsbFirst_length]
    obtain ⟨hhead, htail⟩ := List.append_inj h hlen8
    have hbyte := lsbFirst_injective 8 a.toNat_lt b.toNat_lt hhead
    rw [UInt8.toNat_inj.mp hbyte, bitsOf_injective (Nat.succ.inj hlen) htail]
  | [], _ :: _, h, _ => nomatch h
  | _ :: _, [], h, _ => nomatch h

/-- The loop of the source over bytes is the feed of their bits, each byte with its lowest bit
    first. -/
theorem feedBytes_eq_feed (hw : 8 ≤ w) : ∀ (bs : Bytes) (crc : BitVec w),
    bs.foldl (feedByte poly) crc = feed poly crc (bitsOf bs)
  | [], _ => rfl
  | b :: bs, crc => by
    show bs.foldl (feedByte poly) (feedByte poly crc b) = _
    rw [feedBytes_eq_feed hw bs]
    show _ = feed poly crc (lsbFirst 8 b.toNat ++ bitsOf bs)
    rw [feed_append, feed_lsbFirst poly 8 crc b.toNat_lt hw]
    rfl

/-- Byte strings that differ within a window no wider than the register leave different
    registers. -/
theorem burst_detected_bytes (hpoly : poly.msb = true) (hw : 8 ≤ w) {u v : Bytes}
    (hlen : u.length = v.length) (hwidth : 8 * u.length ≤ w) (hne : u ≠ v) (crc : BitVec w)
    (before after : Bytes) :
    (before ++ u ++ after).foldl (feedByte poly) crc ≠
      (before ++ v ++ after).foldl (feedByte poly) crc := by
  rw [feedBytes_eq_feed poly hw, feedBytes_eq_feed poly hw, bitsOf_append, bitsOf_append,
    bitsOf_append, bitsOf_append]
  refine burst_detected hpoly ?_ ?_ ?_ crc _ _
  · rw [bitsOf_length, bitsOf_length, hlen]
  · rw [bitsOf_length]
    exact hwidth
  · intro h
    exact hne (bitsOf_injective hlen h)

/-! ## Residue -/

/-- A number written low byte first goes onto the wire with its lowest bit first. -/
theorem bitsOf_toLE (k : Nat) : ∀ x, bitsOf (Bytes.toLE k x) = lsbFirst (8 * k) x := by
  induction k with
  | zero =>
    intro x
    rfl
  | succ k ih =>
    intro x
    have hbyte : lsbFirst 8 (UInt8.ofNat x).toNat = lsbFirst 8 x := by
      rw [UInt8.toNat_ofNat', lsbFirst_mod 8 x]
    rw [Nat.mul_succ, Nat.add_comm (8 * k), lsbFirst_append, ← hbyte,
      show x / 2 ^ 8 = x / 256 from rfl, ← ih]
    rfl

/-- A message and its check sequence (the register, masked) leave the same register, whatever the
    message is. -/
theorem residue {k : Nat} (hw : w = 8 * k) (hk : 0 < k) (mask crc : BitVec w) (data : Bytes) :
    (data ++ Bytes.toLE k (data.foldl (feedByte poly) crc ^^^ mask).toNat).foldl (feedByte poly)
      crc = (shiftBit poly)^[w] mask := by
  rw [List.foldl_append, feedBytes_eq_feed poly (by omega) (Bytes.toLE _ _), bitsOf_toLE, ← hw,
    feed_lsbFirst poly w _ (BitVec.isLt _) (Nat.le_refl w), BitVec.ofNat_toNat,
    BitVec.setWidth_eq, ← BitVec.xor_assoc, BitVec.xor_self, BitVec.zero_xor]

end RiseSun.Crc
