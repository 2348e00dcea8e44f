/-
  Which byte strings the decoder takes for a frame.

  1. **Grammar** — a layout cuts the bytes between the flags into format, addresses, control byte
     and tail.  `Grammatical` is the frame grammar of the protocol: type nibble 0xA, no
     segmentation, the length of the body, addresses of 1, 2 or 4 bytes, and a tail that is either
     HCS, information and FCS or a single check sequence.  `Accepted` is the same without the type
     nibble, the segmentation bit, and the gap at three bytes.

  2. **Addresses** — the reading loop stops at the first byte with the extension bit
     (`decodeAddressFrom_field` and `decodeAddressFrom_ok`, both by induction on the bytes the loop
     may still read), so a body has one layout only (`FrameLayout.bytes_injective`).

  3. **Tail** (`checkedTail_iff`) — the two checks of the decoder look at the first and at the last
     two bytes of the tail, also where these overlap or where there are fewer.  That a shorter tail
     never passes is a property of the checksum: with no byte, one byte or three bytes after the
     control byte the two checks ask for different registers.

  4. **Decoder** — it returns a frame exactly for accepted layouts (`decode_ok_iff_accepted`), and
     raises `IndexError` exactly where the body ends with the addresses
     (`decode_indexError_iff`).  Together these say when it does what the grammar says.
-/
import RiseSun.Gateway.Checksum

namespace RiseSun.Gateway

/-! ## Grammar -/

/-- An address field: only its last byte carries the extension bit. -/
inductive AddressField : Bytes → Prop
  | last {byte : UInt8} (h : byte.toNat &&& 1 = 1) : AddressField [byte]
  | more {byte : UInt8} {field : Bytes} (h : ¬ byte.toNat &&& 1 = 1) (rest : AddressField field) :
      AddressField (byte :: field)

/-- What follows the control byte: header checksum, information and frame checksum, or a single
    check sequence. -/
inductive CheckedTail (header : Bytes) : Bytes → Prop
  | sequences {hcs information fcs : Bytes} (hcsLength : hcs.length = 2) (fcsLength : fcs.length = 2)
      (hcsCorrect : Bytes.fromLE hcs = crc16X25 header)
      (fcsCorrect : Bytes.fromLE fcs = crc16X25 (header ++ hcs ++ information)) :
      CheckedTail header (hcs ++ information ++ fcs)
  | single {check : Bytes} (length : check.length = 2)
      (correct : Bytes.fromLE check = crc16X25 header) : CheckedTail header check

/-- The parts of a frame between its flags. -/
structure FrameLayout where
  format : Bytes
  destination : Bytes
  source : Bytes
  control : UInt8
  tail : Bytes

namespace FrameLayout

def header (l : FrameLayout) : Bytes := l.format ++ (l.destination ++ l.source) ++ [l.control]

def body (l : FrameLayout) : Bytes := l.header ++ l.tail

def bytes (l : FrameLayout) : Bytes := flag :: (l.body ++ [flag])

/-- Type nibble 0xA, no segmentation. -/
structure StandardFormat (l : FrameLayout) : Prop where
  typeNibble : Bytes.fromBE l.format / 4096 = 0xA
  unsegmented : Bytes.fromBE l.format / 2048 % 2 = 0

/-- The frame grammar. -/
structure Grammatical (l : FrameLayout) : Prop where
  formatLength : l.format.length = 2
  standardFormat : l.StandardFormat
  declared : Bytes.fromBE l.format % 2048 = l.body.length
  destination : AddressField l.destination
  destinationLength : l.destination.length ∈ addressLengths
  source : AddressField l.source
  sourceLength : l.source.length ∈ addressLengths
  tail : CheckedTail l.header l.tail

/-- What the decoder asks for. -/
structure Accepted (l : FrameLayout) : Prop where
  formatLength : l.format.length = 2
  declared : Bytes.fromBE l.format % 2048 = l.body.length
  destination : AddressField l.destination
  destinationLength : l.destination.length ≤ maxAddressLen
  source : AddressField l.source
  sourceLength : l.source.length ≤ maxAddressLen
  tail : CheckedTail l.header l.tail

end FrameLayout

theorem mem_addressLengths {n : Nat} : n ∈ addressLengths ↔ 1 ≤ n ∧ n ≤ maxAddressLen ∧ n ≠ 3 := by
  simp only [addressLengths, maxAddressLen, List.mem_cons, List.not_mem_nil, or_false]
  omega

/-! ## Addresses -/

theorem AddressField.length_pos {field : Bytes} (h : AddressField field) : 1 ≤ field.length := by
  rcases h with _ | _
  · exact Nat.le_refl 1
  · exact Nat.le_add_left 1 _

/-- A byte string begins with one address field at most. -/
theorem AddressField.unique {a : Bytes} (ha : AddressField a) :
    ∀ {b x y : Bytes}, AddressField b → a ++ x = b ++ y → a = b ∧ x = y := by
  induction ha with
  | last hlast =>
    intro b x y hb h
    rcases hb with _ | ⟨hmore, _⟩
    · exact ⟨by rw [(List.cons.inj h).1], (List.cons.inj h).2⟩
    · exact absurd ((List.cons.inj h).1 ▸ hlast) hmore
  | more hmore _ ih =>
    intro b x y hb h
    rcases hb with hlast | ⟨_, hb⟩
    · exact absurd ((List.cons.inj h).1 ▸ hlast) (by assumption)
    · obtain ⟨hfield, hrest⟩ := ih hb (List.cons.inj h).2
      exact ⟨by rw [(List.cons.inj h).1, hfield], hrest⟩

/-- The loop reads a field that is not too long. -/
theorem decodeAddressFrom_field {field : Bytes} (h : AddressField field) (body rest : Bytes)
    (offset : Nat) : ∀ (left length value : Nat), field.length ≤ left →
      body.drop (offset + length) = field ++ rest →
      ∃ v, decodeAddressFrom body offset left length value = .ok (v, length + field.length) := by
  induction h with
  | @last byte hlast =>
    intro left length value hleft hdrop
    obtain ⟨left, rfl⟩ : ∃ m, left = m + 1 := ⟨left - 1, by simp at hleft; omega⟩
    have hat : body[offset + length]? = some byte := by
      rw [← List.head?_drop, hdrop]
      rfl
    refine ⟨(value <<< 7) ||| (byte.toNat >>> 1), ?_⟩
    rw [decodeAddressFrom, hat]
    show (if byte.toNat &&& 1 = 1 then _ else _) = _
    rw [if_pos hlast]
    rfl
  | @more byte field hmore _ ih =>
    intro left length value hleft hdrop
    rw [List.length_cons] at hleft
    obtain ⟨left, rfl⟩ : ∃ m, left = m + 1 := ⟨left - 1, by omega⟩
    have hat : body[offset + length]? = some byte := by
      rw [← List.head?_drop, hdrop]
      rfl
    have hnext : body.drop (offset + (length + 1)) = field ++ rest := by
      rw [← Nat.add_assoc, ← List.drop_drop, hdrop]
      rfl
    obtain ⟨v, hv⟩ := ih left (length + 1) ((value <<< 7) ||| (byte.toNat >>> 1)) (by omega) hnext
    refine ⟨v, ?_⟩
    rw [decodeAddressFrom, hat]
    show (if byte.toNat &&& 1 = 1 then _ else _) = _
    rw [if_neg hmore, hv, List.length_cons, Nat.add_right_comm, Nat.add_assoc]

/-- What the loop has read is a field. -/
theorem decodeAddressFrom_ok {body : Bytes} {offset : Nat} : ∀ {left length value v n : Nat},
    decodeAddressFrom body offset left length value = .ok (v, n) →
      ∃ field, body.drop (offset + length) = field ++ body.drop (offset + n) ∧
        AddressField field ∧ n = length + field.length ∧ field.length ≤ left := by
  intro left
  induction left with
  | zero =>
    intro length value v n h
    cases h
  | succ left ih =>
    intro length value v n h
    rw [decodeAddressFrom] at h
    rcases hat : body[offset + length]? with _ | byte
    · rw [hat] at h
      cases h
    · rw [hat] at h
      have hdrop : body.drop (offset + length) = byte :: body.drop (offset + (length + 1)) := by
        obtain ⟨hlt, hbyte⟩ := List.getElem?_eq_some_iff.mp hat
        rw [List.drop_eq_getElem_cons hlt, hbyte, Nat.add_assoc]
      rcases ite_eq_iff.mp h with ⟨hlast, h⟩ | ⟨hmore, h⟩
      · obtain ⟨_, rfl⟩ := Prod.mk.inj (Except.ok.inj h)
        exact ⟨[byte], hdrop, .last hlast, rfl, by simp⟩
      · obtain ⟨field, hfield, hmark, rfl, hlen⟩ := ih h
        refine ⟨byte :: field, ?_, .more hmore hmark, ?_, ?_⟩
        · rw [hdrop, hfield]
          rfl
        · rw [List.length_cons]
          omega
        · rw [List.length_cons]
          omega

/-- Where both addresses of a body can be decoded, two address fields of these lengths stand there.
    -/
theorem decodeHdlcAddress_both {body : Bytes} {dest src destLen srcLen : Nat}
    (hd : decodeHdlcAddress body 2 = .ok (dest, destLen))
    (hs : decodeHdlcAddress body (2 + destLen) = .ok (src, srcLen)) :
    ∃ destination source, body = body.take 2 ++ (destination ++ source) ++
        body.drop (2 + destLen + srcLen) ∧
      (AddressField destination ∧ destination.length = destLen ∧ destLen ≤ maxAddressLen) ∧
      AddressField source ∧ source.length = srcLen ∧ srcLen ≤ maxAddressLen := by
  obtain ⟨destination, hdrop, hdest, hdlen, hdmax⟩ := decodeAddressFrom_ok hd
  obtain ⟨source, hsdrop, hsrc, hslen, hsmax⟩ := decodeAddressFrom_ok hs
  refine ⟨destination, source, ?_, ⟨hdest, by omega, by omega⟩, hsrc, by omega, by omega⟩
  rw [Nat.add_zero] at hdrop hsdrop
  rw [List.append_assoc, List.append_assoc, ← hsdrop, ← hdrop, List.take_append_drop]

theorem decodeHdlcAddress_of_both {format destination source : Bytes} (rest : Bytes)
    (hformat : format.length = 2) (hd : AddressField destination)
    (hdlen : destination.length ≤ maxAddressLen) (hs : AddressField source)
    (hslen : source.length ≤ maxAddressLen) :
    ∃ dest src,
      decodeHdlcAddress (format ++ (destination ++ source) ++ rest) 2 =
        .ok (dest, destination.length) ∧
      decodeHdlcAddress (format ++ (destination ++ source) ++ rest) (2 + destination.length) =
        .ok (src, source.length) := by
  have hfirst : (format ++ (destination ++ source) ++ rest).drop (2 + 0) =
      destination ++ (source ++ rest) := by
    rw [List.append_assoc, ← hformat, Nat.add_zero, List.drop_left, List.append_assoc]
  have hsecond : (format ++ (destination ++ source) ++ rest).drop (2 + destination.length + 0) =
      source ++ rest := by
    rw [Nat.add_zero, ← List.drop_drop, show 2 = 2 + 0 from rfl, hfirst, List.drop_left]
  obtain ⟨dest, hdest⟩ := decodeAddressFrom_field hd _ _ 2 maxAddressLen 0 0 hdlen hfirst
  obtain ⟨src, hsrc⟩ := decodeAddressFrom_field hs _ _ _ maxAddressLen 0 0 hslen hsecond
  rw [Nat.zero_add] at hdest hsrc
  exact ⟨dest, src, hdest, hsrc⟩

/-- The bytes of accepted layouts fix the layout: the addresses end where their last bytes say. -/
theorem FrameLayout.bytes_injective {l m : FrameLayout} (hl : l.Accepted) (hm : m.Accepted)
    (h : l.bytes = m.bytes) : l = m := by
  rcases l with ⟨format, destination, source, control, tail⟩
  rcases m with ⟨format', destination', source', control', tail'⟩
  have hbody := List.append_cancel_right (List.cons.inj h).2
  simp only [FrameLayout.body, FrameLayout.header, List.append_assoc] at hbody
  obtain ⟨hformat, hbody⟩ := List.append_inj hbody (hl.formatLength.trans hm.formatLength.symm)
  obtain ⟨hdestination, hbody⟩ := hl.destination.unique hm.destination hbody
  obtain ⟨hsource, hbody⟩ := hl.source.unique hm.source hbody
  obtain ⟨hcontrol, htail⟩ := List.cons.inj hbody
  rw [show format = format' from hformat, show destination = destination' from hdestination,
    show source = source' from hsource, show control = control' from hcontrol,
    show tail = tail' from htail]

/-! ## Tail -/

theorem CheckedTail.two_le {header tail : Bytes} (h : CheckedTail header tail) :
    2 ≤ tail.length := by
  rcases h with ⟨hhcs, _, _, _⟩ | ⟨hlen, _⟩
  · simp only [List.length_append]
    omega
  · omega

theorem register_check_ne_zero {header : Bytes} (h : register header = goodRegister) :
    crc16X25 header ≠ 0 := by
  rw [crc16X25_eq, h]
  decide

/-- The checks of the decoder on a header and a tail. -/
def TailChecked (header tail : Bytes) : Prop :=
  Bytes.fromLE (tail.take 2) = crc16X25 header ∧
    Bytes.fromLE ((header ++ tail).drop ((header ++ tail).length - 2)) =
      crc16X25 ((header ++ tail).take ((header ++ tail).length - 2))

/-- The second check is about the register after everything. -/
theorem TailChecked.residue {header tail : Bytes} (hlong : 2 ≤ (header ++ tail).length)
    (h : TailChecked header tail) : register (header ++ tail) = goodRegister := by
  have hlast : ((header ++ tail).drop ((header ++ tail).length - 2)).length = 2 := by
    rw [List.length_drop]
    omega
  have hregister := register_of_check hlast h.2
  rwa [List.take_append_drop] at hregister

/-- A single byte never completes two checksums at once: neither the one before it nor, three bytes
    after the header, the one that ends before it. -/
theorem crcByte_ne_goodRegister (byte : UInt8) : crcByte goodRegister byte ≠ goodRegister := by
  have hall : ∀ n < 256, crcByte goodRegister (UInt8.ofNat n) ≠ goodRegister := by
    decide +kernel
  have hbyte := hall byte.toNat byte.toNat_lt
  rwa [UInt8.ofNat_toNat] at hbyte

theorem crcByte_check (crc : BitVec 16) (byte : UInt8)
    (h : byte.toNat = (crc ^^^ 0xFFFF).toNat) : crcByte crc byte ≠ goodRegister := by
  have hcrc : crc ^^^ byte.toBitVec.setWidth 16 = 0xFFFF := by
    have hsum : byte.toBitVec.setWidth 16 = crc ^^^ 0xFFFF := by
      apply BitVec.eq_of_toNat_eq
      rw [← h]
      simp
    rw [hsum, ← BitVec.xor_assoc, BitVec.xor_self, BitVec.zero_xor]
  rw [crcByte, hcrc]
  decide

/-- The checks pass exactly on the tails of the grammar. -/
theorem checkedTail_iff {header tail : Bytes} (hlong : 2 ≤ header.length) :
    CheckedTail header tail ↔ TailChecked header tail := by
  constructor
  · rintro (⟨hhcs, hfcs, hcs, fcs⟩ | ⟨hlen, hcheck⟩)
    · rename_i first information last
      have hend : (header ++ (first ++ information ++ last)).length - 2 =
          (header ++ first ++ information).length := by
        simp only [List.length_append, hfcs]
        omega
      have hsplit : header ++ (first ++ information ++ last) =
          header ++ first ++ information ++ last := by simp only [List.append_assoc]
      refine ⟨?_, ?_⟩
      · rw [List.append_assoc, ← hhcs, List.take_left]
        exact hcs
      · rw [hend, hsplit, List.drop_left, List.take_left]
        exact fcs
    · have hend : (header ++ tail).length - 2 = header.length := by
        rw [List.length_append, hlen, Nat.add_sub_cancel]
      refine ⟨?_, ?_⟩
      · rw [← hlen, List.take_length]
        exact hcheck
      · rw [hend, List.drop_left, List.take_left]
        exact hcheck
  · intro h
    have hresidue := h.residue (by rw [List.length_append]; omega)
    obtain ⟨hhcs, hfcs⟩ := h
    match tail with
    | [] =>
      rw [List.append_nil] at hresidue
      exact absurd hhcs.symm (register_check_ne_zero hresidue)
    | [a] =>
      rw [register_append] at hresidue
      exact absurd hresidue (crcByte_check _ a hhcs)
    | [a, b] => exact .single rfl hhcs
    | [a, b, c] =>
      rw [show [a, b, c] = [a, b] ++ [c] from rfl, ← List.append_assoc, register_append,
        register_of_check (show [a, b].length = 2 from rfl) hhcs] at hresidue
      exact absurd hresidue (crcByte_ne_goodRegister c)
    | a :: b :: c :: d :: rest =>
      have hlen : (c :: d :: rest).length = rest.length + 2 := rfl
      have hcut : c :: d :: rest = (c :: d :: rest).take rest.length ++
          (c :: d :: rest).drop rest.length := (List.take_append_drop _ _).symm
      have htail : a :: b :: c :: d :: rest = [a, b] ++ (c :: d :: rest).take rest.length ++
          (c :: d :: rest).drop rest.length := by
        rw [List.append_assoc, ← hcut]
        rfl
      have hfront : header ++ a :: b :: c :: d :: rest = header ++ [a, b] ++
          (c :: d :: rest).take rest.length ++ (c :: d :: rest).drop rest.length := by
        rw [htail]
        simp only [List.append_assoc]
      have hend : (header ++ a :: b :: c :: d :: rest).length - 2 =
          (header ++ [a, b] ++ (c :: d :: rest).take rest.length).length := by
        simp only [List.length_append, List.length_cons, List.length_nil, List.length_take]
        omega
      rw [hend, hfront, List.drop_left, List.take_left] at hfcs
      rw [htail]
      exact .sequences rfl (by rw [List.length_drop, hlen]; omega) hhcs hfcs

/-! ## Decoder -/

/-- The bytes between the two flags of a frame are its body. -/
theorem slice_between_flags (body : Bytes) : Bytes.slice (flag :: (body ++ [flag])) 1
    ((flag :: (body ++ [flag])).length - 1) = body := by
  have hmid := Bytes.slice_mid [flag] body [flag]
  rw [List.length_singleton, Nat.add_comm 1] at hmid
  rw [List.length_cons, List.length_append, List.length_singleton]
  exact hmid

theorem between_flags {raw : Bytes} (hlong : 9 ≤ raw.length) (hopening : raw.head? = some flag)
    (hclosing : raw.getLast? = some flag) : ∃ body, raw = flag :: (body ++ [flag]) := by
  obtain ⟨rest, rfl⟩ : ∃ rest, raw = flag :: rest := by
    rcases raw with _ | ⟨b, rest⟩
    · cases hopening
    · exact ⟨rest, by rw [Option.some.inj hopening]⟩
  rcases rest.eq_nil_or_concat with rfl | ⟨body, last, rfl⟩
  · rw [List.length_singleton] at hlong
    omega
  · rw [List.concat_eq_append, ← List.cons_append, List.getLast?_concat] at hclosing
    exact ⟨body, by rw [Option.some.inj hclosing, List.concat_eq_append]⟩

theorem and_2047 (n : Nat) : n &&& 0x07FF = n % 2048 := Nat.and_two_pow_sub_one_eq_mod n 11

theorem FrameLayout.slice_format (l : FrameLayout) (h : l.format.length = 2) :
    Bytes.slice l.body 0 2 = l.format := by
  rw [FrameLayout.body, FrameLayout.header, List.append_assoc, List.append_assoc, ← h]
  exact Bytes.slice_front _ _

theorem FrameLayout.header_length (l : FrameLayout) (h : l.format.length = 2) :
    l.header.length = 2 + l.destination.length + l.source.length + 1 := by
  simp only [FrameLayout.header, List.length_append, h, List.length_singleton]
  omega

/-- The bytes of an accepted layout are decoded to some frame. -/
theorem FrameLayout.Accepted.decode {l : FrameLayout} (h : l.Accepted) :
    ∃ f, HdlcFrame.decode l.bytes = .ok f := by
  have hheader := l.header_length h.formatLength
  have hdpos := h.destination.length_pos
  have hspos := h.source.length_pos
  obtain ⟨hhcs, hfcs⟩ := (checkedTail_iff (by omega)).mp h.tail
  obtain ⟨dest, src, hdest, hsrc⟩ := decodeHdlcAddress_of_both ([l.control] ++ l.tail)
    h.formatLength h.destination h.destinationLength h.source h.sourceLength
  rw [← List.append_assoc _ [l.control]] at hdest hsrc
  have htail := h.tail.two_le
  have hlength : l.bytes.length = l.header.length + l.tail.length + 2 := by
    rw [FrameLayout.bytes, List.length_cons, List.length_append, FrameLayout.body,
      List.length_append, List.length_singleton]
  have hcontrol : byteAt l.body (2 + l.destination.length + l.source.length) = .ok l.control := by
    have hat := byteAt_append_length (l.format ++ (l.destination ++ l.source)) l.tail l.control
    rw [List.length_append, List.length_append, h.formatLength, ← Nat.add_assoc] at hat
    rw [FrameLayout.body, FrameLayout.header, List.append_assoc]
    exact hat
  refine ⟨⟨dest, src, l.control, Bytes.slice (Bytes.slice l.bytes 1 (l.bytes.length - 1))
    (2 + l.destination.length + l.source.length + 1 + 2)
    ((Bytes.slice l.bytes 1 (l.bytes.length - 1)).length - 2)⟩,
    HdlcFrame.decode_ok_iff.mpr ⟨l.destination.length, l.source.length, ⟨by omega, rfl, ?_, ?_,
    ⟨dest, rfl, ?_⟩, ⟨src, rfl, ?_⟩, ?_, ?_, ?_, rfl⟩⟩⟩
  · rw [FrameLayout.bytes, ← List.cons_append, List.getLast?_concat]
  · rw [FrameLayout.bytes, slice_between_flags, l.slice_format h.formatLength, and_2047, h.declared,
      List.length_cons, List.length_append, List.length_singleton]
    rfl
  · rw [FrameLayout.bytes, slice_between_flags]
    exact hdest
  · rw [FrameLayout.bytes, slice_between_flags]
    exact hsrc
  · rw [FrameLayout.bytes, slice_between_flags]
    exact hcontrol
  · rw [FrameLayout.bytes, slice_between_flags, ← hheader, FrameLayout.body, Bytes.slice_front]
    show Bytes.fromLE (List.take _ (List.drop l.header.length (l.header ++ l.tail))) = _
    rw [List.drop_left, Nat.add_sub_cancel_left]
    exact hhcs
  · rw [FrameLayout.bytes, slice_between_flags]
    exact hfcs

/-- Bytes that are decoded to a frame are those of an accepted layout. -/
theorem decode_accepted {raw : Bytes} {f : HdlcFrame} (h : HdlcFrame.decode raw = .ok f) :
    ∃ l : FrameLayout, raw = l.bytes ∧ l.Accepted := by
  obtain ⟨destLen, srcLen, hchecked⟩ := HdlcFrame.decode_ok_iff.mp h
  obtain ⟨body, rfl⟩ := between_flags hchecked.long hchecked.opening hchecked.closing
  obtain ⟨dest, _, hdest⟩ := hchecked.destination
  obtain ⟨src, _, hsrc⟩ := hchecked.source
  have hcontrol := hchecked.control
  have hdeclared := hchecked.declared
  have hhcs := hchecked.hcs
  have hfcs := hchecked.fcs
  have hlong := hchecked.long
  rw [slice_between_flags] at hdest hsrc hcontrol hdeclared hhcs hfcs
  rw [List.length_cons, List.length_append, List.length_singleton] at hdeclared hlong
  obtain ⟨destination, source, hbody, ⟨hd, rfl, hdlen⟩, hs, rfl, hslen⟩ :=
    decodeHdlcAddress_both hdest hsrc
  -- the control byte and what follows it
  obtain ⟨tail, htail⟩ : ∃ tail, body.drop (2 + destination.length + source.length) =
      f.control :: tail := by
    rw [byteAt] at hcontrol
    rcases hat : body[2 + destination.length + source.length]? with _ | c
    · rw [hat] at hcontrol
      cases hcontrol
    · rw [hat] at hcontrol
      obtain ⟨hlt, hc⟩ := List.getElem?_eq_some_iff.mp hat
      refine ⟨body.drop (2 + destination.length + source.length + 1), ?_⟩
      rw [List.drop_eq_getElem_cons hlt, hc, ← Except.ok.inj hcontrol]
  obtain ⟨l, hl⟩ : ∃ l : FrameLayout, l = ⟨body.take 2, destination, source, f.control, tail⟩ :=
    ⟨_, rfl⟩
  have hformat : l.format.length = 2 := by
    rw [hl, List.length_take]
    omega
  have hlbody : l.body = body := by
    rw [htail] at hbody
    rw [hl, FrameLayout.body, FrameLayout.header]
    conv_rhs => rw [hbody]
    simp only [List.append_assoc, List.singleton_append]
  have hheader := l.header_length hformat
  have hparts : l.destination = destination ∧ l.source = source ∧ l.tail = tail := by
    rw [hl]
    exact ⟨rfl, rfl, rfl⟩
  obtain ⟨hld, hls, hlt⟩ := hparts
  rw [hld, hls] at hheader
  refine ⟨l, by rw [FrameLayout.bytes, hlbody], hformat, ?_, hld ▸ hd, hld ▸ hdlen, hls ▸ hs,
    hls ▸ hslen, ?_⟩
  · rw [← hlbody, l.slice_format hformat, and_2047] at hdeclared
    rw [hdeclared, hlbody, Nat.add_assoc, Nat.add_sub_cancel]
  · rw [checkedTail_iff (by omega)]
    refine ⟨?_, ?_⟩
    · rw [← hheader, ← hlbody, FrameLayout.body, Bytes.slice_front] at hhcs
      rw [← hhcs]
      show _ = Bytes.fromLE (List.take _ (List.drop l.header.length (l.header ++ l.tail)))
      rw [List.drop_left, Nat.add_sub_cancel_left]
    · rw [← hlbody] at hfcs
      exact hfcs

/-- The decoder returns a frame exactly for accepted layouts. -/
theorem decode_ok_iff_accepted {raw : Bytes} :
    (∃ f, HdlcFrame.decode raw = .ok f) ↔ ∃ l : FrameLayout, raw = l.bytes ∧ l.Accepted := by
  constructor
  · rintro ⟨f, h⟩
    exact decode_accepted h
  · rintro ⟨l, rfl, hl⟩
    exact hl.decode

/-- Flags, length and both addresses are in order, and nothing follows the addresses. -/
def EndsWithAddresses (raw : Bytes) : Prop :=
  ∃ format destination source : Bytes,
    raw = flag :: (format ++ (destination ++ source) ++ [flag]) ∧ 9 ≤ raw.length ∧
    format.length = 2 ∧ Bytes.fromBE format % 2048 = 2 + (destination ++ source).length ∧
    (AddressField destination ∧ destination.length ≤ maxAddressLen) ∧
    AddressField source ∧ source.length ≤ maxAddressLen

/-- `IndexError` is raised exactly where no byte is left for the control byte. -/
theorem decode_indexError_iff {raw : Bytes} :
    HdlcFrame.decode raw = .error .indexError ↔ EndsWithAddresses raw := by
  constructor
  · intro h
    rw [HdlcFrame.decode] at h
    rcases ite_eq_iff.mp h with ⟨_, h⟩ | ⟨hflags, h⟩
    · cases h
    rcases ite_eq_iff.mp h with ⟨_, h⟩ | ⟨hdeclared, h⟩
    · cases h
    push Not at hflags hdeclared
    obtain ⟨body, rfl⟩ := between_flags hflags.1 hflags.2.1 hflags.2.2
    rw [slice_between_flags] at h hdeclared
    rcases Result.bind_eq_error h with h | ⟨⟨dest, destLen⟩, hdest, h⟩
    · exact absurd (decodeHdlcAddress_error h) (by decide)
    rcases Result.bind_eq_error h with h | ⟨⟨src, srcLen⟩, hsrc, h⟩
    · exact absurd (decodeHdlcAddress_error h) (by decide)
    have hlong := hflags.1
    rw [List.length_cons, List.length_append, List.length_singleton] at hlong hdeclared
    obtain ⟨destination, source, hbody, ⟨hd, rfl, hdlen⟩, hs, rfl, hslen⟩ :=
      decodeHdlcAddress_both hdest hsrc
    rcases Result.bind_eq_error h with h | ⟨_, _, h⟩
    · obtain ⟨hend, _⟩ := byteAt_eq_error h
      rw [List.drop_of_length_le hend, List.append_nil] at hbody
      have hformat : (body.take 2).length = 2 := by
        rw [List.length_take]
        omega
      have hlength := congrArg List.length hbody
      rw [List.length_append, hformat] at hlength
      refine ⟨body.take 2, destination, source, by rw [← hbody], hflags.1, hformat, ?_, ⟨hd, hdlen⟩,
        hs, hslen⟩
      have hslice : Bytes.slice body 0 2 = body.take 2 := rfl
      rw [hslice, and_2047] at hdeclared
      omega
    rcases ite_eq_iff.mp h with ⟨_, h⟩ | ⟨_, h⟩
    · cases h
    rcases ite_eq_iff.mp h with ⟨_, h⟩ | ⟨_, h⟩
    · cases h
    · cases h
  · rintro ⟨format, destination, source, rfl, hlong, hformat, hdeclared, ⟨hd, hdlen⟩, hs, hslen⟩
    obtain ⟨dest, src, hdest, hsrc⟩ := decodeHdlcAddress_of_both [] hformat hd hdlen hs hslen
    rw [List.append_nil] at hdest hsrc
    have hflags : ¬ ((flag :: (format ++ (destination ++ source) ++ [flag])).length < 9 ∨
        (flag :: (format ++ (destination ++ source) ++ [flag])).head? ≠ some flag ∨
        (flag :: (format ++ (destination ++ source) ++ [flag])).getLast? ≠ some flag) := by
      rw [← List.cons_append, List.getLast?_concat]
      simp only [List.cons_append, List.head?_cons, ne_eq, not_true_eq_false, or_false]
      omega
    have hslice : Bytes.slice (format ++ (destination ++ source)) 0 2 = format := by
      rw [← hformat]
      exact Bytes.slice_front _ _
    rw [HdlcFrame.decode, if_neg hflags, slice_between_flags]
    show (if _ then _ else _) = _
    rw [hslice, and_2047, if_neg, hdest, Result.ok_bind]
    · show (decodeHdlcAddress _ _ >>= _) = _
      rw [hsrc, Result.ok_bind]
      show (byteAt _ _ >>= _) = _
      rw [byteAt_error]
      · rfl
      · rw [List.length_append, List.length_append, hformat, Nat.add_assoc]
    · simp only [hdeclared, List.length_cons, List.length_append, List.length_nil, hformat]
      omega

/-! ## When the decoder follows the grammar -/

/-- A frame is returned exactly for the grammar, and everything else is a `GatewayError` or a
    `CrcError`. -/
def FollowsGrammar (raw : Bytes) : Prop :=
  ((∃ f, HdlcFrame.decode raw = .ok f) ↔ ∃ l : FrameLayout, raw = l.bytes ∧ l.Grammatical) ∧
    ∀ e, HdlcFrame.decode raw = .error e → e.isBadAnswer = true

theorem FrameLayout.Grammatical.accepted {l : FrameLayout} (h : l.Grammatical) : l.Accepted :=
  ⟨h.formatLength, h.declared, h.destination, (mem_addressLengths.mp h.destinationLength).2.1,
    h.source, (mem_addressLengths.mp h.sourceLength).2.1, h.tail⟩

/-- What the grammar asks for beyond the decoder. -/
theorem FrameLayout.Accepted.grammatical {l : FrameLayout} (h : l.Accepted)
    (hformat : l.StandardFormat) (hd : l.destination.length ≠ 3) (hs : l.source.length ≠ 3) :
    l.Grammatical :=
  ⟨h.formatLength, hformat, h.declared, h.destination,
    mem_addressLengths.mpr ⟨h.destination.length_pos, h.destinationLength, hd⟩, h.source,
    mem_addressLengths.mpr ⟨h.source.length_pos, h.sourceLength, hs⟩, h.tail⟩

/-- **The frame grammar.**  The decoder follows it exactly on the bytes that are no frame with
    another type nibble, with the segmentation bit or with an address of three bytes, and that do
    not end with the addresses. -/
theorem decode_followsGrammar (raw : Bytes) :
    FollowsGrammar raw ↔
      (∀ l : FrameLayout, raw = l.bytes → l.Accepted →
        l.StandardFormat ∧ l.destination.length ≠ 3 ∧ l.source.length ≠ 3) ∧
      ¬ EndsWithAddresses raw := by
  constructor
  · rintro ⟨hgrammar, herror⟩
    refine ⟨?_, ?_⟩
    · rintro l rfl hl
      obtain ⟨m, hbytes, hm⟩ := hgrammar.mp hl.decode
      obtain rfl := FrameLayout.bytes_injective hl hm.accepted hbytes
      exact ⟨hm.standardFormat, (mem_addressLengths.mp hm.destinationLength).2.2,
        (mem_addressLengths.mp hm.sourceLength).2.2⟩
    · intro hends
      exact absurd (herror _ (decode_indexError_iff.mpr hends)) (by decide)
  · rintro ⟨hstandard, hends⟩
    refine ⟨⟨?_, ?_⟩, ?_⟩
    · rintro ⟨f, h⟩
      obtain ⟨l, hbytes, hl⟩ := decode_accepted h
      obtain ⟨hformat, hd, hs⟩ := hstandard l hbytes hl
      exact ⟨l, hbytes, hl.grammatical hformat hd hs⟩
    · rintro ⟨l, rfl, hl⟩
      exact hl.accepted.decode
    · intro e h
      rcases HdlcFrame.decode_error h with hbad | rfl
      · exact hbad
      · exact absurd (decode_indexError_iff.mp h) hends

/-- A frame with a three-byte address is returned, and a string that ends with its addresses raises
    `IndexError`. -/
theorem decode_beyond_grammar :
    ¬ FollowsGrammar [0x7E, 0xA0, 0x0B, 0x02, 0x04, 0x03, 0x61, 0x93, 0x54, 0x15, 0x47, 0x0F, 0x7E] ∧
    ¬ FollowsGrammar [0x7E, 0xA0, 0x07, 0x02, 0x04, 0x06, 0x03, 0x61, 0x7E] := by
  refine ⟨?_, ?_⟩
  · rintro ⟨hgrammar, _⟩
    have hdecode : HdlcFrame.decode
        [0x7E, 0xA0, 0x0B, 0x02, 0x04, 0x03, 0x61, 0x93, 0x54, 0x15, 0x47, 0x0F, 0x7E] =
        .ok ⟨16641, 0x30, 0x93, []⟩ := by
      decide +kernel
    obtain ⟨l, hbytes, hl⟩ := hgrammar.mp ⟨_, hdecode⟩
    -- the layout with the three-byte address is the only one
    have hm : (⟨[0xA0, 0x0B], [0x02, 0x04, 0x03], [0x61], 0x93, [0x54, 0x15] ++ [] ++ [0x47, 0x0F]⟩ :
        FrameLayout).Accepted :=
      ⟨rfl, by decide, .more (by decide) (.more (by decide) (.last (by decide))), by decide,
        .last (by decide), by decide,
        .sequences rfl rfl (by decide +kernel) (by decide +kernel)⟩
    obtain rfl := FrameLayout.bytes_injective hl.accepted hm hbytes.symm
    exact absurd hl.destinationLength (by decide)
  · rintro ⟨_, herror⟩
    have hdecode : HdlcFrame.decode [0x7E, 0xA0, 0x07, 0x02, 0x04, 0x06, 0x03, 0x61, 0x7E] =
        .error .indexError := by
      decide +kernel
    exact absurd (herror _ hdecode) (by decide)

end RiseSun.Gateway
