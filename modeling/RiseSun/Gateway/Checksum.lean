/-
  What the checksum of a frame finds out.

  1. **Register** — `crcBit` and `crcByte` are the shift and the byte step of the general register
     (`RiseSun.Crc`) for the reflected polynomial 0x8408.

  2. **Residue** (`register_residue`) — bytes that end in their own checksum, two bytes, lowest
     first, leave the same register whatever they are.  The decoder compares the last two bytes of
     the body with the checksum of ALL the bytes before them, so a decoded body leaves this register
     (`decode_residue`), wherever its addresses and its information begin.

  3. **Bursts** (`decode_burst`) — the body of an encoded frame leaves that register, too.  A change
     within two neighbouring bytes moves the register away from it, so the changed frame is never
     returned, also where the change makes the decoder cut the body at other places.
-/
import RiseSun.Lib.Crc
import RiseSun.Gateway.Hdlc

namespace RiseSun.Gateway

/-! ## The register -/

/-- The polynomial of CRC16/X.25, reflected. -/
def crcPolynomial : BitVec 16 := 0x8408

theorem crcBit_eq (crc : BitVec 16) : crcBit crc = Crc.shiftBit crcPolynomial crc := by
  have hlow : crc &&& 1 = 1 ↔ crc.getLsbD 0 = true := by
    rw [show crc &&& 1 = BitVec.setWidth 16 (BitVec.ofBool (crc.getLsbD 0)) from
      BitVec.and_one_eq_setWidth_ofBool_getLsbD]
    cases crc.getLsbD 0
    · decide
    · decide
  show (if crc &&& 1 = 1 then _ else _) = if crc.getLsbD 0 = true then _ else _
  by_cases h : crc.getLsbD 0 = true
  · rw [if_pos (hlow.mpr h), if_pos h]
    rfl
  · rw [if_neg (mt hlow.mp h), if_neg h]

theorem crcByte_eq : crcByte = Crc.feedByte crcPolynomial := by
  funext crc byte
  have hbyte : byte.toBitVec.setWidth 16 = BitVec.ofNat 16 byte.toNat := by
    apply BitVec.eq_of_toNat_eq
    simp
  show crcBit (crcBit (crcBit (crcBit (crcBit (crcBit (crcBit (crcBit _))))))) = _
  simp only [crcBit_eq, Crc.feedByte, ← hbyte]
  rfl

/-- The register after a byte string. -/
def register (data : Bytes) : BitVec 16 := data.foldl crcByte 0xFFFF

theorem register_append (data more : Bytes) :
    register (data ++ more) = more.foldl crcByte (register data) := List.foldl_append

theorem crc16X25_eq (data : Bytes) : crc16X25 data = (register data ^^^ 0xFFFF).toNat := rfl

/-- What a byte string and its checksum leave in the register. -/
def goodRegister : BitVec 16 := 0xF0B8

/-- **Residue.**  A byte string that ends in its own checksum. -/
theorem register_residue (data : Bytes) :
    register (data ++ Bytes.toLE 2 (crc16X25 data)) = goodRegister := by
  rw [crc16X25_eq, register, register, crcByte_eq,
    Crc.residue crcPolynomial (show 16 = 8 * 2 from rfl) (by decide) 0xFFFF 0xFFFF data]
  decide +kernel

/-- Two bytes that read as the checksum are the checksum. -/
theorem register_of_check {data check : Bytes} (hlen : check.length = 2)
    (h : Bytes.fromLE check = crc16X25 data) : register (data ++ check) = goodRegister := by
  rw [← register_residue data, ← h, show Bytes.toLE 2 (Bytes.fromLE check) = check by
    rw [← hlen, Bytes.toLE_fromLE]]

/-! ## Encoded and decoded frames -/

/-- The body of an encoded frame, its checksum included, leaves the register at the good value. -/
theorem encode_residue {f : HdlcFrame} {body : Bytes} (h : f.encode = .ok (flag :: (body ++ [flag]))) :
    register body = goodRegister := by
  obtain ⟨destination, source, _, _, hraw⟩ := encode_layout h
  obtain ⟨front, hfront⟩ : ∃ front, body = front ++ Bytes.toLE 2 (crc16X25 front) :=
    ⟨_, List.append_cancel_right (List.cons.inj hraw).2⟩
  rw [hfront, register_residue]

/-- The body of a decoded frame: the checksum at its end covers everything before it. -/
theorem decode_residue {f : HdlcFrame} {body : Bytes}
    (h : HdlcFrame.decode (flag :: (body ++ [flag])) = .ok f) : register body = goodRegister := by
  obtain ⟨destLen, srcLen, hchecked⟩ := HdlcFrame.decode_ok_iff.mp h
  have hlong : 7 ≤ body.length := by
    have h9 := hchecked.long
    rw [List.length_cons, List.length_append, List.length_singleton] at h9
    omega
  have hcut : Bytes.slice (flag :: (body ++ [flag])) 1 ((flag :: (body ++ [flag])).length - 1) =
      body := by
    rw [List.length_cons, List.length_append, List.length_singleton]
    have hmid := Bytes.slice_mid [flag] body [flag]
    rwa [List.length_singleton, Nat.add_comm 1] at hmid
  have hfcs := hchecked.fcs
  rw [hcut] at hfcs
  have hfront : Bytes.slice body 0 (body.length - 2) = body.take (body.length - 2) := rfl
  have hresidue := register_of_check
    (show (body.drop (body.length - 2)).length = 2 by rw [List.length_drop]; omega) hfcs
  rwa [hfront, List.take_append_drop] at hresidue

/-! ## Bursts -/

/-- **Bursts.**  A frame that differs from an encoded one, within two neighbouring bytes between
    the flags, is never returned. -/
theorem decode_burst {f : HdlcFrame} {before u v after : Bytes}
    (hencode : f.encode = .ok (flag :: (before ++ u ++ after ++ [flag])))
    (hlen : v.length = u.length) (hwidth : u.length ≤ 2) (hchange : v ≠ u) :
    ∃ e, HdlcFrame.decode (flag :: (before ++ v ++ after ++ [flag])) = .error e := by
  rcases hdecode : HdlcFrame.decode (flag :: (before ++ v ++ after ++ [flag])) with e | g
  · exact ⟨e, rfl⟩
  · have hsame : register (before ++ v ++ after) = register (before ++ u ++ after) :=
      (decode_residue hdecode).trans (encode_residue hencode).symm
    rw [register, register, crcByte_eq] at hsame
    exact absurd hsame (Crc.burst_detected_bytes crcPolynomial (by decide) (by decide) hlen
      (by omega) hchange 0xFFFF before after)

/-- A DISC frame whose destination and source bytes were both hit. -/
theorem decode_burst_disc :
    ∃ e, HdlcFrame.decode (flag :: ([0xA0, 0x09] ++ [0x02, 0x60] ++
      [0x53, 0x27, 0x2F, 0x47, 0x0F] ++ [flag])) = .error e := by
  have hencode : HdlcFrame.encode ⟨1, 0x30, controlDisc, []⟩ =
      .ok (flag :: ([0xA0, 0x09] ++ [0x03, 0x61] ++ [0x53, 0x27, 0x2F, 0x47, 0x0F] ++ [flag])) := by
    decide +kernel
  exact decode_burst hencode (show [0x02, 0x60].length = 2 from rfl) (by decide) (by decide)

end RiseSun.Gateway
