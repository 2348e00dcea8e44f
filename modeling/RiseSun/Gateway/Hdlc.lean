/-
  HDLC framing (`protocols/hdlc.py`): addresses, checksums, frames, the server address.

      0x7E | frame format (2) | destination | source | control | HCS (2) | information | FCS (2) | 0x7E

  1. **Program** — `crc16X25`, `encodeHdlcAddress`/`decodeHdlcAddress`, `HdlcFrame.encode`/`decode`
     and `serverHdlcAddress`, branch by branch as the source has them.

  2. **Addresses** — an address is cut into 7-bit groups, most significant first, and only the last
     byte of the field carries the extension bit.  `decodeAddressFrom_groups` is the induction on
     the number of groups, for any number of them.

  3. **Frames** — `encode_layout` says once what an encoded frame looks like; the round trip and
     the prefix property (the declared length is readable from the first three bytes, so it fixes
     the whole length) are both read off it.
-/
import Mathlib.Tactic.Ring
import RiseSun.Lib.PyText
import RiseSun.Gateway.Errors

namespace RiseSun.Gateway

open PyText

def flag : UInt8 := 0x7E

/-- Frame type "format 3", no segmentation. -/
def frameTypeNibble : Nat := 0xA0

def defaultClientAddress : Int := 0x30

/-- The lengths of an HDLC address field; three bytes are not used. -/
def addressLengths : List Nat := [1, 2, 4]

/-! ## Checksum -/

def crcBit (crc : BitVec 16) : BitVec 16 :=
  if crc &&& 1 = 1 then (crc >>> 1) ^^^ 0x8408 else crc >>> 1

/-- One byte of the checksum: eight shifts. -/
def crcByte (crc : BitVec 16) (byte : UInt8) : BitVec 16 :=
  Nat.repeat crcBit 8 (crc ^^^ byte.toBitVec.setWidth 16)

/-- CRC16/X.25. -/
def crc16X25 (data : Bytes) : Nat := (data.foldl crcByte 0xFFFF ^^^ 0xFFFF).toNat

theorem crc16X25_lt (data : Bytes) : crc16X25 data < 256 ^ 2 := (BitVec.isLt _)

/-- The check value of CRC16/X.25 over the digits 1 to 9. -/
example : crc16X25 [0x31, 0x32, 0x33, 0x34, 0x35, 0x36, 0x37, 0x38, 0x39] = 0x906E := by
  decide +kernel

/-! ## Addresses -/

/-- The address field of `numBytes` bytes: group `i` above the extension bit. -/
def addressField (numBytes value : Nat) : Bytes :=
  (List.range numBytes).map fun i =>
    let chunk := (value >>> (7 * (numBytes - 1 - i))) &&& 0x7F
    UInt8.ofNat ((chunk <<< 1) ||| (if i = numBytes - 1 then 1 else 0))

/-- `_encode_hdlc_address`: the shortest field that holds the value. -/
def encodeHdlcAddress (value : Int) : Except PyExc Bytes :=
  if value < 0 then
    .error (.valueError [.text "Адрес ", .int value, .text " отрицательный — недопустимо"])
  else match addressLengths.find? fun numBytes => value < (1 <<< (7 * numBytes) : Nat) with
    | some numBytes => .ok (addressField numBytes value.toNat)
    | none => .error (.valueError [.text "Адрес ", .int value,
        .text " превышает максимум 4-байтной адресации HDLC (2**28 - 1)"])

/-- The longest address field. -/
def maxAddressLen : Nat := 4

def addressUnterminated : PyExc :=
  .plain [.text "Адресное поле HDLC превышает ", .int maxAddressLen,
    .text " байт без признака конца"]

/-- The reading loop of `_decode_hdlc_address`: `left` more bytes may be read. -/
def decodeAddressFrom (body : Bytes) (offset : Nat) :
    (left length value : Nat) → Except PyExc (Nat × Nat)
  | 0, _, _ => .error addressUnterminated
  | left + 1, length, value =>
    match body[offset + length]? with
    | none => .error addressUnterminated
    | some byte =>
      let value := (value <<< 7) ||| (byte.toNat >>> 1)
      if byte.toNat &&& 1 = 1 then .ok (value, length + 1)
      else decodeAddressFrom body offset left (length + 1) value

/-- `_decode_hdlc_address`: the value and the length of its field. -/
def decodeHdlcAddress (body : Bytes) (offset : Nat) : Except PyExc (Nat × Nat) :=
  decodeAddressFrom body offset maxAddressLen 0 0

/-- `server_hdlc_address`. -/
def serverHdlcAddress (physicalAddress : String) (logicalDevice : Int) : Except PyExc Int :=
  match pyInt 10 physicalAddress with
  | none => .error (.addressing [.text "Физический адрес ", .quoted physicalAddress,
      .text " не является числом — ", .text "вероятно, повреждённый серийный номер счётчика"])
  | some lower =>
    if (0 ≤ logicalDevice ∧ logicalDevice < (1 <<< 14 : Nat)) ∧
        (0 ≤ lower ∧ lower < (1 <<< 14 : Nat)) then
      .ok (((logicalDevice.toNat <<< 14) ||| lower.toNat : Nat) : Int)
    else .error (.addressing [.text "Компоненты адреса вне диапазона 14 бит: logical_device=",
      .int logicalDevice, .text ", ", .text "physical_address=", .int lower])

/-! ## Frames -/

structure HdlcFrame where
  destination : Int
  source : Int
  control : UInt8
  information : Bytes := []
  deriving DecidableEq, Repr

namespace HdlcFrame

def encode (f : HdlcFrame) : Except PyExc Bytes := do
  let destination ← encodeHdlcAddress f.destination
  let source ← encodeHdlcAddress f.source
  let headerWoLength := destination ++ source ++ [f.control]
  -- the length leaves out both flags
  let length := 2 + headerWoLength.length + 2 + f.information.length + 2
  let frameFormat ← toBytes 2 ((frameTypeNibble <<< 8) ||| length : Nat)
  let hcs := crc16X25 (frameFormat ++ headerWoLength)
  let body := frameFormat ++ headerWoLength ++ Bytes.toLE 2 hcs ++ f.information
  let fcs := crc16X25 body
  .ok (flag :: body ++ Bytes.toLE 2 fcs ++ [flag])

def decode (raw : Bytes) : Except PyExc HdlcFrame :=
  if raw.length < 9 ∨ raw.head? ≠ some flag ∨ raw.getLast? ≠ some flag then
    .error (.plain [.text
      "Некорректная структура HDLC-кадра (нет открывающего/закрывающего флага)"])
  else
    let body := Bytes.slice raw 1 (raw.length - 1)
    let declaredLen := Bytes.fromBE (Bytes.slice body 0 2) &&& 0x07FF
    if declaredLen ≠ raw.length - 2 then
      .error (.crc [.text "Длина HDLC-кадра не совпадает с полем Frame Format"] raw)
    else do
      let (dest, destLen) ← decodeHdlcAddress body 2
      let (src, srcLen) ← decodeHdlcAddress body (2 + destLen)
      let headerEnd := 2 + destLen + srcLen
      let control ← byteAt body headerEnd
      let hcsPos := headerEnd + 1
      let hcsReceived := Bytes.fromLE (Bytes.slice body hcsPos (hcsPos + 2))
      if hcsReceived ≠ crc16X25 (Bytes.slice body 0 hcsPos) then
        .error (.crc [.text "Контрольная сумма заголовка HDLC (HCS) не сошлась"] raw)
      else
        let infoEnd := body.length - 2
        let fcsReceived := Bytes.fromLE (body.drop infoEnd)
        if fcsReceived ≠ crc16X25 (Bytes.slice body 0 infoEnd) then
          .error (.crc [.text "Контрольная сумма кадра HDLC (FCS) не сошлась"] raw)
        else .ok {
          destination := dest, source := src, control := control
          information := Bytes.slice body (hcsPos + 2) infoEnd }

end HdlcFrame

/-! ## Control bytes and link parameters -/

/-- Set Normal Response Mode. -/
def controlSnrm : UInt8 := 0x93

/-- Unnumbered Acknowledge. -/
def controlUa : UInt8 := 0x73

/-- Disconnect. -/
def controlDisc : UInt8 := 0x53

def snrmParameterNegotiation : Bytes :=
  [0x81, 0x80, 0x12, 0x05, 0x01, 0xff, 0x06, 0x01, 0xff, 0x07, 0x04, 0x00, 0x00, 0x00, 0x01, 0x08,
   0x04, 0x00, 0x00, 0x00, 0x01]

/-- The control byte of an I-frame with N(S) and N(R); the poll bit is always set. -/
def controlInformationFrame (sendSeq recvSeq : Nat) : UInt8 :=
  UInt8.ofNat (((recvSeq &&& 0x7) <<< 5) ||| 0x10 ||| ((sendSeq &&& 0x7) <<< 1))

/-! ## What decoding raises -/

theorem decodeAddressFrom_error {body : Bytes} {offset : Nat} {e : PyExc} :
    ∀ (left length value : Nat), decodeAddressFrom body offset left length value = .error e →
      e = addressUnterminated := by
  intro left
  induction left with
  | zero =>
    intro length value h
    cases h
    rfl
  | succ left ih =>
    intro length value h
    unfold decodeAddressFrom at h
    split at h
    · cases h
      rfl
    · split at h
      · cases h
      · exact ih _ _ h

theorem decodeHdlcAddress_error {body : Bytes} {offset : Nat} {e : PyExc}
    (h : decodeHdlcAddress body offset = .error e) : e = addressUnterminated :=
  decodeAddressFrom_error _ _ _ h

/-- A frame that is not accepted is a bad answer, or an `IndexError` where the control byte is
    missing. -/
theorem HdlcFrame.decode_error {raw : Bytes} {e : PyExc} (h : HdlcFrame.decode raw = .error e) :
    e.isBadAnswer = true ∨ e = .indexError := by
  unfold HdlcFrame.decode at h
  rcases ite_eq_iff.mp h with ⟨_, h⟩ | ⟨_, h⟩
  · cases h
    exact .inl rfl
  rcases ite_eq_iff.mp h with ⟨_, h⟩ | ⟨_, h⟩
  · cases h
    exact .inl rfl
  rcases Result.bind_eq_error h with h | ⟨_, _, h⟩
  · rw [decodeHdlcAddress_error h]
    exact .inl rfl
  rcases Result.bind_eq_error h with h | ⟨_, _, h⟩
  · rw [decodeHdlcAddress_error h]
    exact .inl rfl
  rcases Result.bind_eq_error h with h | ⟨_, _, h⟩
  · rw [(byteAt_eq_error h).2]
    exact .inr rfl
  rcases ite_eq_iff.mp h with ⟨_, h⟩ | ⟨_, h⟩
  · cases h
    exact .inl rfl
  rcases ite_eq_iff.mp h with ⟨_, h⟩ | ⟨_, h⟩
  · cases h
    exact .inl rfl
  · cases h

/-- What a frame passed before it was returned. -/
structure HdlcFrame.Checked (raw : Bytes) (destLen srcLen : Nat) (f : HdlcFrame) : Prop where
  long : 9 ≤ raw.length
  opening : raw.head? = some flag
  closing : raw.getLast? = some flag
  declared : Bytes.fromBE (Bytes.slice (Bytes.slice raw 1 (raw.length - 1)) 0 2) &&& 0x07FF =
    raw.length - 2
  destination : ∃ dest : Nat, f.destination = dest ∧
    decodeHdlcAddress (Bytes.slice raw 1 (raw.length - 1)) 2 = .ok (dest, destLen)
  source : ∃ src : Nat, f.source = src ∧
    decodeHdlcAddress (Bytes.slice raw 1 (raw.length - 1)) (2 + destLen) = .ok (src, srcLen)
  control : byteAt (Bytes.slice raw 1 (raw.length - 1)) (2 + destLen + srcLen) = .ok f.control
  hcs : Bytes.fromLE (Bytes.slice (Bytes.slice raw 1 (raw.length - 1)) (2 + destLen + srcLen + 1)
      (2 + destLen + srcLen + 1 + 2)) =
    crc16X25 (Bytes.slice (Bytes.slice raw 1 (raw.length - 1)) 0 (2 + destLen + srcLen + 1))
  fcs : Bytes.fromLE ((Bytes.slice raw 1 (raw.length - 1)).drop
      ((Bytes.slice raw 1 (raw.length - 1)).length - 2)) =
    crc16X25 (Bytes.slice (Bytes.slice raw 1 (raw.length - 1)) 0
      ((Bytes.slice raw 1 (raw.length - 1)).length - 2))
  information : f.information = Bytes.slice (Bytes.slice raw 1 (raw.length - 1))
    (2 + destLen + srcLen + 1 + 2) ((Bytes.slice raw 1 (raw.length - 1)).length - 2)

/-- A frame is returned exactly when it passes every check. -/
theorem HdlcFrame.decode_ok_iff {raw : Bytes} {f : HdlcFrame} :
    HdlcFrame.decode raw = .ok f ↔ ∃ destLen srcLen, HdlcFrame.Checked raw destLen srcLen f := by
  constructor
  · intro h
    rw [HdlcFrame.decode] at h
    rcases ite_eq_iff.mp h with ⟨_, h⟩ | ⟨hflags, h⟩
    · cases h
    rcases ite_eq_iff.mp h with ⟨_, h⟩ | ⟨hdeclared, h⟩
    · cases h
    obtain ⟨⟨dest, destLen⟩, hdest, h⟩ := Result.bind_eq_ok h
    obtain ⟨⟨src, srcLen⟩, hsrc, h⟩ := Result.bind_eq_ok h
    obtain ⟨control, hcontrol, h⟩ := Result.bind_eq_ok h
    rcases ite_eq_iff.mp h with ⟨_, h⟩ | ⟨hhcs, h⟩
    · cases h
    rcases ite_eq_iff.mp h with ⟨_, h⟩ | ⟨hfcs, h⟩
    · cases h
    obtain rfl := Except.ok.inj h
    push Not at hflags hdeclared hhcs hfcs
    exact ⟨destLen, srcLen, hflags.1, hflags.2.1, hflags.2.2, hdeclared, ⟨dest, rfl, hdest⟩,
      ⟨src, rfl, hsrc⟩, hcontrol, hhcs, hfcs, rfl⟩
  · rintro ⟨destLen, srcLen, h⟩
    obtain ⟨dest, hdest, hdecDest⟩ := h.destination
    obtain ⟨src, hsrc, hdecSrc⟩ := h.source
    have hflags : ¬ (raw.length < 9 ∨ raw.head? ≠ some flag ∨ raw.getLast? ≠ some flag) := by
      have hlong := h.long
      rw [h.opening, h.closing]
      simp only [ne_eq, not_true_eq_false, or_false]
      omega
    rw [HdlcFrame.decode, if_neg hflags]
    show (if _ then _ else _) = _
    rw [if_neg (not_not.mpr h.declared), hdecDest, Result.ok_bind]
    show (decodeHdlcAddress _ _ >>= _) = _
    rw [hdecSrc, Result.ok_bind]
    show (byteAt _ _ >>= _) = _
    rw [h.control, Result.ok_bind]
    show (if _ then _ else _) = _
    rw [if_neg (not_not.mpr h.hcs)]
    show (if _ then _ else _) = _
    rw [if_neg (not_not.mpr h.fcs), ← hdest, ← hsrc, ← h.information]

/-! ## Addresses: round trip -/

/-- The field of `n + 1` groups is its first byte and the field of the `n` groups below. -/
theorem addressField_succ (n value : Nat) :
    addressField (n + 1) value =
      UInt8.ofNat (2 * (value / 128 ^ n % 128) + (if n = 0 then 1 else 0)) ::
        addressField n value := by
  have hchunk : ∀ k, (value >>> (7 * k)) &&& 0x7F = value / 128 ^ k % 128 := by
    intro k
    have hpow : 2 ^ (7 * k) = 128 ^ k := by rw [Nat.pow_mul]
    rw [Nat.shiftRight_eq_div_pow, hpow]
    exact Nat.and_two_pow_sub_one_eq_mod _ 7
  have hbyte : ∀ c b : Nat, b < 2 → (c <<< 1) ||| b = 2 * c + b := by
    intro c b hb
    rw [← Nat.shiftLeft_add_eq_or_of_lt (by omega), Nat.shiftLeft_eq]
    omega
  simp only [addressField, List.range_succ_eq_map, List.map_cons, List.map_map]
  congr 1
  · rw [hbyte _ _ (by split <;> omega), hchunk]
    simp only [Nat.add_sub_cancel, Nat.sub_zero]
    congr 2
    by_cases hn : n = 0 <;> simp [hn, eq_comm]
  · apply List.map_congr_left
    intro i hi
    have hin := List.mem_range.mp hi
    have h1 : n + 1 - 1 - (i + 1) = n - 1 - i := by omega
    have h2 : (i + 1 = n + 1 - 1) = (i = n - 1) := by
      simp only [eq_iff_iff]
      omega
    simp only [Function.comp, Nat.succ_eq_add_one, h1, h2]

@[simp] theorem addressField_length (n value : Nat) : (addressField n value).length = n := by
  simp [addressField]

/-- One round of the reading loop on a byte made of the group `g` and the extension bit `e`. -/
theorem decodeAddressFrom_byte {pre rest : Bytes} {offset left length acc g e : Nat}
    (hpre : pre.length = offset + length) (hg : g < 128) (he : e < 2) :
    decodeAddressFrom (pre ++ UInt8.ofNat (2 * g + e) :: rest) offset (left + 1) length acc =
      if e = 1 then .ok (acc * 128 + g, length + 1)
      else decodeAddressFrom (pre ++ UInt8.ofNat (2 * g + e) :: rest) offset left (length + 1)
        (acc * 128 + g) := by
  have hat : (pre ++ UInt8.ofNat (2 * g + e) :: rest)[offset + length]? =
      some (UInt8.ofNat (2 * g + e)) := by
    rw [← hpre]
    simp
  have hnat : (UInt8.ofNat (2 * g + e)).toNat = 2 * g + e := by
    simp only [UInt8.toNat_ofNat']
    omega
  have hbit : (2 * g + e) &&& 1 = e := by
    rw [Nat.and_one_is_mod]
    omega
  have hgroup : (2 * g + e) >>> 1 = g := by
    rw [Nat.shiftRight_eq_div_pow]
    omega
  have hval : (acc <<< 7) ||| g = acc * 128 + g := by
    rw [← Nat.shiftLeft_add_eq_or_of_lt hg, Nat.shiftLeft_eq]
  simp only [decodeAddressFrom, hat, hnat, hbit, hgroup, hval]

/-- Reading the groups of a field back, `acc` being what the groups before them made.  Only the
    last byte ends the field, so the loop runs over all of them. -/
theorem decodeAddressFrom_groups (value : Nat) (suf : Bytes) (offset : Nat) :
    ∀ (n left length acc : Nat) (pre : Bytes), n < left → pre.length = offset + length →
      decodeAddressFrom (pre ++ (addressField (n + 1) value ++ suf)) offset left length acc =
        .ok (acc * 128 ^ (n + 1) + value % 128 ^ (n + 1), length + (n + 1)) := by
  intro n
  induction n with
  | zero =>
    intro left length acc pre hleft hpre
    obtain ⟨m, rfl⟩ : ∃ m, left = m + 1 := ⟨left - 1, by omega⟩
    rw [addressField_succ, List.cons_append, decodeAddressFrom_byte hpre (by omega) (by simp)]
    simp
  | succ n ih =>
    intro left length acc pre hleft hpre
    obtain ⟨m, rfl⟩ : ∃ m, left = m + 1 := ⟨left - 1, by omega⟩
    rw [addressField_succ, List.cons_append, decodeAddressFrom_byte hpre (by omega) (by simp)]
    have hnext := ih m (length + 1) (acc * 128 + value / 128 ^ (n + 1) % 128)
      (pre ++ [UInt8.ofNat (2 * (value / 128 ^ (n + 1) % 128) + 0)]) (by omega)
      (by simp only [List.length_append, List.length_singleton]; omega)
    rw [List.append_assoc, List.singleton_append] at hnext
    rw [if_neg (by simp), if_neg (by omega), hnext]
    -- the top group and the groups below make the value modulo one more group
    have hsplit : value % 128 ^ (n + 1 + 1) =
        value / 128 ^ (n + 1) % 128 * 128 ^ (n + 1) + value % 128 ^ (n + 1) := by
      rw [Nat.pow_succ, Nat.mod_mul, Nat.mul_comm (128 ^ (n + 1)), Nat.add_comm]
    rw [hsplit]
    congr 2
    · ring
    · omega

/-- The shortest field: its length, and that the value fits. -/
theorem encodeHdlcAddress_ok (value : Int) (h0 : 0 ≤ value) (h1 : value < 2 ^ 28) :
    ∃ n, (n = 1 ∨ n = 2 ∨ n = 4) ∧ value.toNat < 128 ^ n ∧
      (2 ^ 14 ≤ value → n = 4) ∧
      encodeHdlcAddress value = .ok (addressField n value.toNat) := by
  unfold encodeHdlcAddress
  rw [if_neg (by omega)]
  simp only [addressLengths, List.find?]
  by_cases c1 : value < 2 ^ 7
  · exact ⟨1, .inl rfl, by omega, by omega, by simp [show value < 128 from c1]⟩
  · by_cases c2 : value < 2 ^ 14
    · refine ⟨2, .inr (.inl rfl), by omega, by omega, ?_⟩
      simp [show ¬ value < 128 from c1, show value < 16384 from c2]
    · refine ⟨4, .inr (.inr rfl), by omega, fun _ => rfl, ?_⟩
      simp [show ¬ value < 128 from c1, show ¬ value < 16384 from c2,
        show value < 268435456 from h1]

/-- Every address of up to 28 bits is read back from its field, wherever the field stands. -/
theorem decodeHdlcAddress_encode (value : Int) (h0 : 0 ≤ value) (h1 : value < 2 ^ 28) :
    ∃ bs, encodeHdlcAddress value = .ok bs ∧ 1 ≤ bs.length ∧ bs.length ≤ 4 ∧
      (2 ^ 14 ≤ value → bs.length = 4) ∧
      ∀ pre suf : Bytes,
        decodeHdlcAddress (pre ++ (bs ++ suf)) pre.length = .ok (value.toNat, bs.length) := by
  obtain ⟨n, hn, hlt, hfour, henc⟩ := encodeHdlcAddress_ok value h0 h1
  refine ⟨_, henc, by rw [addressField_length]; omega, by rw [addressField_length]; omega,
    by rwa [addressField_length], ?_⟩
  intro pre suf
  obtain ⟨m, rfl⟩ : ∃ m, n = m + 1 := ⟨n - 1, by omega⟩
  have h := decodeAddressFrom_groups value.toNat suf pre.length m maxAddressLen 0 0 pre
    (by simp only [maxAddressLen]; omega) rfl
  rw [decodeHdlcAddress, h, Nat.mod_eq_of_lt hlt, addressField_length]
  simp

/-- Only values of up to 28 bits have an address field. -/
theorem encodeHdlcAddress_range {value : Int} {bs : Bytes} (h : encodeHdlcAddress value = .ok bs) :
    0 ≤ value ∧ value < 2 ^ 28 := by
  unfold encodeHdlcAddress at h
  split at h
  · cases h
  · rename_i hneg
    refine ⟨by omega, ?_⟩
    split at h
    · rename_i n hfind
      have hmem := List.mem_of_find?_eq_some hfind
      have hlt := List.find?_some hfind
      simp only [addressLengths, List.mem_cons, List.not_mem_nil, or_false] at hmem
      rcases hmem with rfl | rfl | rfl
      · simp at hlt
        omega
      · simp at hlt
        omega
      · simp at hlt
        omega
    · cases h

/-! ## Frames: layout -/

/-- The two-byte frame format: the type nibble over the length. -/
def frameFormatField (length : Nat) : Bytes := Bytes.toBE 2 ((frameTypeNibble <<< 8) ||| length)

/-- Header and information with both checksums between two flags. -/
def sealFrame (header information : Bytes) : Bytes :=
  let body := header ++ Bytes.toLE 2 (crc16X25 header) ++ information
  flag :: (body ++ Bytes.toLE 2 (crc16X25 body) ++ [flag])

theorem sealFrame_length (header information : Bytes) :
    (sealFrame header information).length = header.length + information.length + 6 := by
  simp only [sealFrame, List.length_cons, List.length_append, Bytes.toLE_length, List.length_nil]
  omega

theorem frameFormat_eq (length : Nat) (h : length < 8192) :
    (frameTypeNibble <<< 8) ||| length = 40960 + length := by
  have hor : 5 <<< 13 + length = 5 <<< 13 ||| length := Nat.shiftLeft_add_eq_or_of_lt h 5
  exact hor.symm

/-- The 11-bit length is read back from the frame format. -/
theorem declaredLen_frameFormatField {length : Nat} (h : length ≤ 2047) :
    Bytes.fromBE (frameFormatField length) &&& 0x07FF = length := by
  have hformat := frameFormat_eq length (by omega)
  rw [frameFormatField, hformat, Bytes.fromBE_toBE 2 _ (by omega)]
  have hmod : (40960 + length) &&& 2047 = (40960 + length) % 2048 :=
    Nat.and_two_pow_sub_one_eq_mod _ 11
  rw [hmod]
  omega

/-- An encoded frame consists of its format, its addresses and its control byte, sealed with the
    information. -/
theorem encode_layout {f : HdlcFrame} {raw : Bytes} (h : f.encode = .ok raw) :
    ∃ destination source, encodeHdlcAddress f.destination = .ok destination ∧
      encodeHdlcAddress f.source = .ok source ∧
      raw = sealFrame (frameFormatField (raw.length - 2) ++ (destination ++ source ++ [f.control]))
        f.information := by
  unfold HdlcFrame.encode at h
  obtain ⟨destination, hd, h⟩ := Result.bind_eq_ok h
  obtain ⟨source, hs, h⟩ := Result.bind_eq_ok h
  obtain ⟨format, hformat, h⟩ := Result.bind_eq_ok h
  refine ⟨destination, source, hd, hs, ?_⟩
  unfold toBytes at hformat
  split at hformat
  · have hf := Except.ok.inj hformat
    have hraw := Except.ok.inj h
    rw [Int.toNat_natCast] at hf
    have hlen : raw.length - 2 =
        2 + (destination ++ source ++ [f.control]).length + 2 + f.information.length + 2 := by
      rw [← hraw, ← hf]
      simp only [List.length_append, List.length_cons, List.length_nil, Bytes.toLE_length,
        Bytes.toBE_length]
      omega
    rw [hlen, sealFrame, frameFormatField, hf, ← hraw]
    simp only [List.cons_append]
  · cases hformat

/-- Frames that are not too long for the length field are encoded. -/
theorem encode_ok {f : HdlcFrame} {destination source : Bytes}
    (hd : encodeHdlcAddress f.destination = .ok destination)
    (hs : encodeHdlcAddress f.source = .ok source)
    (hlen : destination.length + source.length + f.information.length + 7 < 8192) :
    f.encode = .ok (sealFrame (frameFormatField
      (destination.length + source.length + f.information.length + 7) ++
        (destination ++ source ++ [f.control])) f.information) := by
  have hlength : 2 + (destination ++ source ++ [f.control]).length + 2 + f.information.length + 2
      = destination.length + source.length + f.information.length + 7 := by
    simp only [List.length_append, List.length_cons, List.length_nil]
    omega
  have hformat := frameFormat_eq _ hlen
  rw [HdlcFrame.encode, hd, Result.ok_bind, hs, Result.ok_bind]
  simp only [hlength]
  rw [toBytes, if_pos (by rw [hformat]; omega), Int.toNat_natCast]
  simp only [Result.ok_bind, sealFrame, frameFormatField, List.cons_append]

/-! ## Frames: round trip -/

/-- Cutting a frame at the places its addresses give: header, information and both checksums are
    found again, and with the right header the last check is all that is left. -/
theorem decode_cut {format destination source hcs fcs : Bytes} {dest src : Nat}
    (control : UInt8) (information : Bytes)
    (hd : ∀ pre suf : Bytes, decodeHdlcAddress (pre ++ (destination ++ suf)) pre.length =
      .ok (dest, destination.length))
    (hs : ∀ pre suf : Bytes, decodeHdlcAddress (pre ++ (source ++ suf)) pre.length =
      .ok (src, source.length))
    (hflen : format.length = 2) (hhlen : hcs.length = 2) (hclen : fcs.length = 2)
    (hpos : 1 ≤ destination.length ∧ 1 ≤ source.length)
    (hdecl : Bytes.fromBE format &&& 0x07FF =
      destination.length + source.length + information.length + 7)
    (hhcs : Bytes.fromLE hcs = crc16X25 (format ++ (destination ++ source ++ [control]))) :
    HdlcFrame.decode (flag :: (format ++ (destination ++ source ++ [control]) ++ hcs ++ information
        ++ fcs ++ [flag])) =
      if Bytes.fromLE fcs ≠
          crc16X25 (format ++ (destination ++ source ++ [control]) ++ hcs ++ information) then
        .error (.crc [.text "Контрольная сумма кадра HDLC (FCS) не сошлась"]
          (flag :: (format ++ (destination ++ source ++ [control]) ++ hcs ++ information ++ fcs ++
            [flag])))
      else .ok { destination := dest, source := src, control := control
                 information := information } := by
  obtain ⟨header, hheader⟩ : ∃ header, header = format ++ (destination ++ source ++ [control]) :=
    ⟨_, rfl⟩
  have hheaderLen : header.length = 2 + destination.length + source.length + 1 := by
    simp only [hheader, List.length_append, List.length_cons, List.length_nil, hflen]
    omega
  rw [← hheader] at hhcs ⊢
  obtain ⟨body, hbody⟩ : ∃ body, body = header ++ hcs ++ information ++ fcs := ⟨_, rfl⟩
  have hbodyLen : body.length = header.length + information.length + 4 := by
    simp only [hbody, List.length_append, hhlen, hclen]
    omega
  rw [← hbody]
  -- the flags
  have hraw : (flag :: (body ++ [flag])).length = body.length + 2 := by simp
  have hflags : ¬ ((flag :: (body ++ [flag])).length < 9 ∨
      (flag :: (body ++ [flag])).head? ≠ some flag ∨
      (flag :: (body ++ [flag])).getLast? ≠ some flag) := by
    have hlast : (flag :: (body ++ [flag])).getLast? = some flag := by
      rw [← List.cons_append, List.getLast?_concat]
    simp only [hlast, List.head?_cons, ne_eq, not_true_eq_false, or_false]
    omega
  have hcut : Bytes.slice (flag :: (body ++ [flag])) 1 (body.length + 2 - 1) = body := by
    have h := Bytes.slice_mid [flag] body [flag]
    rwa [List.length_singleton, Nat.add_comm 1] at h
  -- the header
  have hformat : Bytes.slice body 0 2 = format := by
    have h := Bytes.slice_front format
      ((destination ++ source ++ [control]) ++ hcs ++ information ++ fcs)
    rw [hflen] at h
    rw [hbody, hheader]
    simpa only [List.append_assoc] using h
  have hdest : decodeHdlcAddress body 2 = .ok (dest, destination.length) := by
    have h := hd format (source ++ [control] ++ hcs ++ information ++ fcs)
    rw [hflen] at h
    rw [hbody, hheader]
    simpa only [List.append_assoc] using h
  have hsrc : decodeHdlcAddress body (2 + destination.length) = .ok (src, source.length) := by
    have h := hs (format ++ destination) ([control] ++ hcs ++ information ++ fcs)
    rw [List.length_append, hflen] at h
    rw [hbody, hheader]
    simpa only [List.append_assoc] using h
  have hcontrol : byteAt body (2 + destination.length + source.length) = .ok control := by
    have h := byteAt_append_length (format ++ destination ++ source) (hcs ++ information ++ fcs)
      control
    rw [List.length_append, List.length_append, hflen] at h
    rw [hbody, hheader]
    simpa only [List.append_assoc, List.cons_append, List.nil_append] using h
  -- the checksums and the information between them
  have hhcsAt : Bytes.slice body header.length (header.length + 2) = hcs := by
    have h := Bytes.slice_mid header hcs (information ++ fcs)
    rw [hhlen] at h
    rw [hbody]
    simpa only [List.append_assoc] using h
  have hheaderAt : Bytes.slice body 0 header.length = header := by
    have h := Bytes.slice_front header (hcs ++ information ++ fcs)
    rw [hbody]
    simpa only [List.append_assoc] using h
  have hend : body.length - 2 = (header ++ hcs ++ information).length := by
    simp only [hbodyLen, List.length_append, hhlen]
    omega
  have hfcsAt : body.drop (header ++ hcs ++ information).length = fcs := by
    rw [hbody, List.drop_left]
  have hbodyAt : Bytes.slice body 0 (header ++ hcs ++ information).length =
      header ++ hcs ++ information := by
    rw [hbody]
    exact Bytes.slice_front _ _
  have hinfoAt : Bytes.slice body (header.length + 2) (header ++ hcs ++ information).length =
      information := by
    have h := Bytes.slice_mid (header ++ hcs) information fcs
    rw [← List.length_append, List.length_append, hhlen] at h
    rw [hbody]
    exact h
  rw [HdlcFrame.decode, if_neg hflags]
  simp only [hraw, hcut, hformat, hdecl]
  rw [if_neg (by omega)]
  simp only [hdest, hsrc, hcontrol, Result.ok_bind, ← hheaderLen, hhcsAt, hheaderAt, hhcs, hend,
    hfcsAt, hbodyAt, hinfoAt, ne_eq, not_true_eq_false, if_false]

/-- A frame whose checksums both agree with the bytes before them is returned. -/
theorem decode_parts {format destination source hcs fcs : Bytes} {dest src : Nat}
    (control : UInt8) (information : Bytes)
    (hd : ∀ pre suf : Bytes, decodeHdlcAddress (pre ++ (destination ++ suf)) pre.length =
      .ok (dest, destination.length))
    (hs : ∀ pre suf : Bytes, decodeHdlcAddress (pre ++ (source ++ suf)) pre.length =
      .ok (src, source.length))
    (hflen : format.length = 2) (hhlen : hcs.length = 2) (hclen : fcs.length = 2)
    (hpos : 1 ≤ destination.length ∧ 1 ≤ source.length)
    (hdecl : Bytes.fromBE format &&& 0x07FF =
      destination.length + source.length + information.length + 7)
    (hhcs : Bytes.fromLE hcs = crc16X25 (format ++ (destination ++ source ++ [control])))
    (hfcs : Bytes.fromLE fcs =
      crc16X25 (format ++ (destination ++ source ++ [control]) ++ hcs ++ information)) :
    HdlcFrame.decode (flag :: (format ++ (destination ++ source ++ [control]) ++ hcs ++ information
        ++ fcs ++ [flag])) =
      .ok { destination := dest, source := src, control := control, information := information } := by
  rw [decode_cut control information hd hs hflen hhlen hclen hpos hdecl hhcs,
    if_neg (not_not_intro hfcs)]

/-- How many bytes an address of at most 28 bits takes. -/
def addressLength (value : Int) : Nat :=
  if value < 2 ^ 7 then 1 else if value < 2 ^ 14 then 2 else 4

theorem encodeHdlcAddress_length {value : Int} {bs : Bytes} (h : encodeHdlcAddress value = .ok bs) :
    bs.length = addressLength value := by
  unfold encodeHdlcAddress at h
  split at h
  · cases h
  · split at h
    · rename_i n hfind
      cases h
      rw [addressField_length]
      simp only [addressLengths, List.find?] at hfind
      unfold addressLength
      split at hfind <;> rename_i c1
      · cases hfind
        rw [if_pos (by simpa using c1)]
      · rw [if_neg (by simpa using c1)]
        split at hfind <;> rename_i c2
        · cases hfind
          rw [if_pos (by simpa using c2)]
        · rw [if_neg (by simpa using c2)]
          split at hfind
          · cases hfind
            rfl
          · cases hfind
    · cases h

/-- The length of the encoded frame, both flags counted. -/
def HdlcFrame.totalLength (f : HdlcFrame) : Nat :=
  addressLength f.destination + addressLength f.source + f.information.length + 9

/-- Both addresses fit in 28 bits. -/
def HdlcFrame.Addressed (f : HdlcFrame) : Prop :=
  (0 ≤ f.destination ∧ f.destination < 2 ^ 28) ∧ (0 ≤ f.source ∧ f.source < 2 ^ 28)

/-- A frame whose length fits the 11-bit length field (which leaves both flags out) is encoded, and
    its encoding decodes to the frame. -/
theorem frame_roundtrip {f : HdlcFrame} (haddr : f.Addressed) (hlen : f.totalLength ≤ 2047 + 2) :
    ∃ raw, f.encode = .ok raw ∧ raw.length = f.totalLength ∧ HdlcFrame.decode raw = .ok f := by
  obtain ⟨⟨hd0, hd1⟩, hs0, hs1⟩ := haddr
  obtain ⟨destination, hd, hdpos, _, _, hdec⟩ := decodeHdlcAddress_encode _ hd0 hd1
  obtain ⟨source, hs, hspos, _, _, hsec⟩ := decodeHdlcAddress_encode _ hs0 hs1
  have hdl := encodeHdlcAddress_length hd
  have hsl := encodeHdlcAddress_length hs
  have hshort : destination.length + source.length + f.information.length + 7 ≤ 2047 := by
    unfold HdlcFrame.totalLength at hlen
    omega
  refine ⟨_, encode_ok hd hs (by omega), ?_, ?_⟩
  · rw [sealFrame_length]
    simp only [HdlcFrame.totalLength, frameFormatField, List.length_append, List.length_cons,
      List.length_nil, Bytes.toBE_length]
    omega
  · have hcrc : ∀ data, Bytes.fromLE (Bytes.toLE 2 (crc16X25 data)) = crc16X25 data := by
      intro data
      rw [Bytes.fromLE_toLE, Nat.mod_eq_of_lt (crc16X25_lt data)]
    have h := decode_parts f.control f.information hdec hsec
      (Bytes.toBE_length 2 _) (Bytes.toLE_length 2 _) (Bytes.toLE_length 2 _) ⟨hdpos, hspos⟩
      (declaredLen_frameFormatField hshort) (hcrc _) (hcrc _)
    have hdn : ((f.destination.toNat : Nat) : Int) = f.destination := by omega
    have hsn : ((f.source.toNat : Nat) : Int) = f.source := by omega
    rw [hdn, hsn] at h
    exact h

theorem encode_totalLength {f : HdlcFrame} {raw : Bytes} (h : f.encode = .ok raw) :
    f.Addressed ∧ raw.length = f.totalLength := by
  obtain ⟨destination, source, hd, hs, hraw⟩ := encode_layout h
  refine ⟨⟨encodeHdlcAddress_range hd, encodeHdlcAddress_range hs⟩, ?_⟩
  rw [hraw, sealFrame_length]
  simp only [HdlcFrame.totalLength, ← encodeHdlcAddress_length hd, ← encodeHdlcAddress_length hs,
    frameFormatField, List.length_append, List.length_cons, List.length_nil, Bytes.toBE_length]
  omega

/-! ## Frames: no frame is a prefix of another -/

/-- An encoded frame: the flag, its own length, anything, the flag. -/
theorem encode_shape {f : HdlcFrame} {raw : Bytes} (h : f.encode = .ok raw) :
    ∃ mid, raw = flag :: (frameFormatField (raw.length - 2) ++ (mid ++ [flag])) := by
  obtain ⟨destination, source, _, _, hraw⟩ := encode_layout h
  generalize raw.length - 2 = length at hraw ⊢
  obtain ⟨hcs, hhcs⟩ : ∃ hcs, hcs = Bytes.toLE 2 (crc16X25
    (frameFormatField length ++ (destination ++ source ++ [f.control]))) := ⟨_, rfl⟩
  obtain ⟨fcs, hfcs⟩ : ∃ fcs, fcs = Bytes.toLE 2 (crc16X25
    (frameFormatField length ++ (destination ++ source ++ [f.control]) ++ hcs ++
      f.information)) := ⟨_, rfl⟩
  refine ⟨destination ++ source ++ [f.control] ++ hcs ++ f.information ++ fcs, ?_⟩
  rw [hraw, sealFrame, ← hhcs, ← hfcs]
  simp only [List.append_assoc]

/-- The length of an encoded frame is fixed by its first three bytes. -/
theorem encode_prefix_eq {f g : HdlcFrame} {rawf rawg : Bytes} (hf : f.encode = .ok rawf)
    (hg : g.encode = .ok rawg) (hfl : rawf.length < 8192) (hgl : rawg.length < 8192)
    (hpre : rawf <+: rawg) : rawf = rawg := by
  obtain ⟨midf, hrf⟩ := encode_shape hf
  obtain ⟨midg, hrg⟩ := encode_shape hg
  have htwo : ∀ n, (frameFormatField n).length = 2 := fun n => Bytes.toBE_length 2 _
  -- the format fields stand at the same place of both
  have hfield : frameFormatField (rawf.length - 2) = frameFormatField (rawg.length - 2) := by
    obtain ⟨more, hmore⟩ := hpre
    have hmore' := hmore
    rw [hrf] at hmore
    conv_rhs at hmore => rw [hrg]
    rw [List.cons_append, List.append_assoc] at hmore
    have htail := (List.cons.inj hmore).2
    exact (List.append_inj htail (by rw [htwo, htwo])).1
  have hlen : rawf.length - 2 = rawg.length - 2 := by
    have h1 := congrArg Bytes.fromBE hfield
    have hf' := frameFormat_eq (rawf.length - 2) (by omega)
    have hg' := frameFormat_eq (rawg.length - 2) (by omega)
    rw [frameFormatField, frameFormatField, hf', hg', Bytes.fromBE_toBE 2 _ (by omega),
      Bytes.fromBE_toBE 2 _ (by omega)] at h1
    omega
  have h3f : 3 ≤ rawf.length := by
    rw [hrf]
    simp only [List.length_cons, List.length_append, htwo]
    omega
  have h3g : 3 ≤ rawg.length := by
    rw [hrg]
    simp only [List.length_cons, List.length_append, htwo]
    omega
  exact hpre.eq_of_length (by omega)

/-! ## Server addresses -/

/-- What `server_hdlc_address` accepts with logical device 1: numbers of 14 bits. -/
theorem serverHdlcAddress_eq (text : String) :
    (∃ n : Int, pyInt 10 text = some n ∧ 0 ≤ n ∧ n < 2 ^ 14 ∧
      serverHdlcAddress text 1 = .ok (2 ^ 14 + n)) ∨
    ((∀ n : Int, pyInt 10 text = some n → ¬ (0 ≤ n ∧ n < 2 ^ 14)) ∧
      ∃ message, serverHdlcAddress text 1 = .error (.addressing message)) := by
  unfold serverHdlcAddress
  cases hp : pyInt 10 text with
  | none => exact .inr ⟨by simp, _, rfl⟩
  | some n =>
    have hshift : ((1 <<< 14 : Nat) : Int) = 2 ^ 14 := rfl
    simp only [hshift]
    by_cases hn : 0 ≤ n ∧ n < 2 ^ 14
    · refine .inl ⟨n, rfl, hn.1, hn.2, ?_⟩
      have hor : 1 <<< 14 + n.toNat = 1 <<< 14 ||| n.toNat :=
        Nat.shiftLeft_add_eq_or_of_lt (by omega) 1
      rw [if_pos ⟨by norm_num, hn⟩]
      show Except.ok (((1 <<< 14 ||| n.toNat : Nat)) : Int) = _
      rw [← hor]
      congr 1
      push_cast
      omega
    · refine .inr ⟨?_, _, if_neg fun h => hn h.2⟩
      intro m hm
      cases hm
      exact hn

/-- The server addresses made from a serial number fit the four bytes of a frame. -/
theorem serverHdlcAddress_bounds {text : String} {server : Int}
    (h : serverHdlcAddress text 1 = .ok server) : 0 ≤ server ∧ server < 2 ^ 28 := by
  rcases serverHdlcAddress_eq text with ⟨n, _, hlo, hhi, heq⟩ | ⟨_, message, heq⟩
  · rw [h] at heq
    cases heq
    omega
  · rw [h] at heq
    cases heq

/-- **The frame codec.**  Every frame with 28-bit addresses whose length fits the 11-bit length
    field survives encoding and decoding; no encoded frame is a proper prefix of another; a server
    address is accepted exactly for texts of 14-bit numbers, different numbers get different
    addresses, each in the four-byte form, and every other text is an `AddressingError`. -/
theorem hdlcFrame_codec :
    (∀ f : HdlcFrame, f.Addressed → f.totalLength ≤ 2047 + 2 →
      ∃ raw, f.encode = .ok raw ∧ raw.length = f.totalLength ∧ HdlcFrame.decode raw = .ok f) ∧
    (∀ (f g : HdlcFrame) (rawf rawg : Bytes), f.encode = .ok rawf → g.encode = .ok rawg →
      rawf.length < 8192 → rawg.length < 8192 → rawf <+: rawg → rawf = rawg) ∧
    (∀ (text : String) (n : Int), pyInt 10 text = some n → 0 ≤ n → n < 2 ^ 14 →
      ∃ address bs, serverHdlcAddress text 1 = .ok address ∧
        encodeHdlcAddress address = .ok bs ∧ bs.length = 4) ∧
    (∀ (text text' : String) (n n' address address' : Int), pyInt 10 text = some n →
      pyInt 10 text' = some n' → serverHdlcAddress text 1 = .ok address →
      serverHdlcAddress text' 1 = .ok address' → n ≠ n' → address ≠ address') ∧
    (∀ text : String, (∀ n : Int, pyInt 10 text = some n → ¬ (0 ≤ n ∧ n < 2 ^ 14)) →
      ∃ message, serverHdlcAddress text 1 = .error (.addressing message)) := by
  refine ⟨fun f => frame_roundtrip, fun f g rawf rawg => encode_prefix_eq, ?_, ?_, ?_⟩
  · intro text n hn h0 h1
    rcases serverHdlcAddress_eq text with ⟨m, hm, _, _, haddr⟩ | ⟨hbad, _⟩
    · rw [hn] at hm
      cases hm
      obtain ⟨bs, hbs, _, _, hfour, _⟩ :=
        decodeHdlcAddress_encode (2 ^ 14 + n) (by omega) (by omega)
      exact ⟨_, bs, haddr, hbs, hfour (by omega)⟩
    · exact absurd ⟨h0, h1⟩ (hbad n hn)
  · intro text text' n n' address address' hn hn' ha ha' hne heq
    rcases serverHdlcAddress_eq text with ⟨m, hm, _, _, haddr⟩ | ⟨_, _, herr⟩
    · rcases serverHdlcAddress_eq text' with ⟨m', hm', _, _, haddr'⟩ | ⟨_, _, herr⟩
      · rw [hn] at hm
        rw [hn'] at hm'
        rw [ha] at haddr
        rw [ha'] at haddr'
        cases hm
        cases hm'
        cases haddr
        cases haddr'
        omega
      · rw [ha'] at herr
        cases herr
    · rw [ha] at herr
      cases herr
  · intro text hbad
    rcases serverHdlcAddress_eq text with ⟨n, hn, h0, h1, _⟩ | ⟨_, herr⟩
    · exact absurd ⟨h0, h1⟩ (hbad n hn)
    · exact herr

/-- A SNRM frame to the meter with physical address 200, and the texts "00200" and "3ef23". -/
theorem hdlcFrame_codec_snrm :
    (∃ raw, HdlcFrame.encode ⟨16584, 0x30, controlSnrm, snrmParameterNegotiation⟩ = .ok raw ∧
      raw.length = 35 ∧
      HdlcFrame.decode raw = .ok ⟨16584, 0x30, controlSnrm, snrmParameterNegotiation⟩) ∧
    (∃ address bs, serverHdlcAddress "00200" 1 = .ok address ∧
      encodeHdlcAddress address = .ok bs ∧ bs.length = 4) ∧
    (∃ message, serverHdlcAddress "3ef23" 1 = .error (.addressing message)) :=
  ⟨hdlcFrame_codec.1 _ ⟨by decide, by decide⟩ (by decide),
    hdlcFrame_codec.2.2.1 "00200" 200 (by decide) (by decide) (by decide),
    hdlcFrame_codec.2.2.2.2 "3ef23" (by
      have hnone : pyInt 10 "3ef23" = none := by decide
      simp [hnone])⟩

end RiseSun.Gateway
