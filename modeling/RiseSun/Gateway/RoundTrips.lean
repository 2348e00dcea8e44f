/-
  Round trips of the APDU codecs (`protocols/dlms.py`).

  1. **Meter's side** — the parsers of AARQ, GET, SET and ACTION requests, and the builder of SET
     requests.  The parser of an AARQ scans its fields; the rest read fixed offsets.

  2. **AARQ** (`parseAarq_build`) — the fields are built as tag, length, content, so the scan goes
     from field to field and never takes a byte of the password for a tag.

  3. **Requests and answers** — a fixed header in front of what is given; a value in it is read back
     by the round trip of the data types, up to what a cosem-date-time leaves out
     (`Tree.encode_decodes_whole`).
-/
import RiseSun.Gateway.Dlms

namespace RiseSun.Gateway

/-! ## The meter's side -/

def userInformationInitiateVer2Variant : Bytes :=
  [0xbe, 0x10, 0x04, 0x0e, 0x01, 0x00, 0x00, 0x00, 0x06, 0x5f, 0x1f, 0x04, 0x00, 0x00, 0x08, 0x1d,
   0x00, 0x00]

/-- The OID of the mechanism; its last component is a parameter. -/
def mechanismOid (mechanismId : Nat) : Bytes :=
  if mechanismId ≠ 1 then encodeOid [2, 16, 756, 5, 8, 2, mechanismId] else encodeOid mechanismNameLls

/-- `build_aarq`. -/
def buildAarqFor (password : Bytes) (mechanismId : Nat) (userInformation : Option Bytes) :
    Except PyExc Bytes := do
  let mechanismLength ← singleByte (mechanismOid mechanismId).length
  let passwordLength ← singleByte password.length
  let authValue := [0x80] ++ passwordLength ++ password
  let authLength ← singleByte authValue.length
  let callingAuth := [0xAC] ++ authLength ++ authValue
  let body := applicationContext ++ senderAcseRequirements ++
    ([0x8B] ++ mechanismLength ++ mechanismOid mechanismId) ++ callingAuth ++
    userInformation.getD userInformationInitiate
  if 0x7F < body.length then
    .error (.plain [.text ("AARQ длиннее 127 байт — короткая форма длины BER не подходит " ++
      "(не ожидается при пароле LLS фиксированной длины 8 символов, ТЗ п. 4.3.3)")])
  else .ok ([aarqTag, UInt8.ofNat body.length] ++ body)

/-- What the Gateway sends is built with the mechanism it has by default. -/
theorem buildAarqFor_one (password userInformation : Bytes) :
    buildAarqFor password 1 (some userInformation) = buildAarq password userInformation := rfl

/-- One field of an AARQ: the password stands in `calling-authentication-value`. -/
def aarqField (tag : UInt8) (content password : Bytes) : Except PyExc Bytes :=
  if tag = 0xAC ∧ content.head? = some 0x80 then do
    let length ← byteAt content 1
    .ok (Bytes.slice content 2 (2 + length.toNat))
  else .ok password

/-- The loop of `parse_aarq`. -/
def scanAarq : (fuel : Nat) → Bytes → Bytes → Except PyExc Bytes
  | fuel + 1, tag :: length :: rest, password => do
    let password ← aarqField tag (rest.take length.toNat) password
    scanAarq fuel (rest.drop length.toNat) password
  | _ + 1, [_], _ => .error .indexError
  | _, _, password => .ok password

def parseAarq (data : Bytes) : Except PyExc Bytes :=
  if data.head? ≠ some aarqTag then .error (.plain [.text "Ожидался AARQ (тег 0x60)"])
  else do
    let length ← byteAt data 1
    let body := Bytes.slice data 2 (2 + length.toNat)
    scanAarq body.length body []

structure ParsedGetRequest where
  invokeId : UInt8
  classId : Int
  obis : Bytes
  attributeId : UInt8
  deriving DecidableEq

def parseGetRequest (data : Bytes) : Except PyExc ParsedGetRequest :=
  if data.length < 3 ∨ data[0]? ≠ some getRequestTag ∨ data[1]? ≠ some getRequestNormal then
    .error (.plain [.text "Ожидался GET.request-normal (тег 0xC0 0x01)"])
  else do
    let invokeId ← byteAt data 2
    let attributeId ← byteAt data 11
    .ok { invokeId := invokeId, classId := Bytes.fromBE (Bytes.slice data 3 5)
          obis := Bytes.slice data 5 11, attributeId := attributeId }

def setRequestTag : UInt8 := 0xC1
def setRequestNormal : UInt8 := 0x01

/-- `build_set_request`. -/
def buildSetRequest (obis encodedValue : Bytes) (invokeId attributeId : UInt8) (classId : Int) :
    Except PyExc Bytes :=
  if obis.length ≠ 6 then
    .error (.plain [.text "OBIS для SET.request должен быть ровно 6 байт"])
  else do
    let descriptor ← attributeDescriptor classId obis attributeId
    .ok ([setRequestTag, setRequestNormal, invokeId] ++ descriptor ++ [0x00] ++ encodedValue)

structure ParsedSetRequest where
  invokeId : UInt8
  classId : Int
  obis : Bytes
  attributeId : UInt8
  value : Value
  encodedValue : Bytes
  deriving DecidableEq

def parseSetRequest (data : Bytes) : Except PyExc ParsedSetRequest :=
  if data.length < 13 ∨ data[0]? ≠ some setRequestTag ∨ data[1]? ≠ some setRequestNormal then
    .error (.plain [.text "Ожидался SET.request-normal (тег 0xC1 0x01)"])
  else do
    let invokeId ← byteAt data 2
    let attributeId ← byteAt data 11
    let (value, consumed) ← decodeValue data 13
    .ok { invokeId := invokeId, classId := Bytes.fromBE (Bytes.slice data 3 5)
          obis := Bytes.slice data 5 11, attributeId := attributeId, value := value
          encodedValue := Bytes.slice data 13 (13 + consumed) }

structure ParsedActionRequest where
  invokeId : UInt8
  classId : Int
  obis : Bytes
  methodId : UInt8
  parameters : Option Bytes
  deriving DecidableEq

def parseActionRequest (data : Bytes) : Except PyExc ParsedActionRequest :=
  if data.length < 13 ∨ data[0]? ≠ some actionRequestTag ∨ data[1]? ≠ some actionRequestNormal then
    .error (.plain [.text "Ожидался ACTION.request-normal (тег 0xC3 0x01)"])
  else do
    let invokeId ← byteAt data 2
    let methodId ← byteAt data 11
    let flag ← byteAt data 12
    .ok { invokeId := invokeId, classId := Bytes.fromBE (Bytes.slice data 3 5)
          obis := Bytes.slice data 5 11, methodId := methodId
          parameters := if flag = 0x01 ∧ 13 < data.length then some (data.drop 13) else none }

/-! ## AARQ -/

/-- Tag, length, content. -/
def tlv (tag : UInt8) (content : Bytes) : Bytes := tag :: UInt8.ofNat content.length :: content

/-- The scan of an AARQ takes a field with its tag and length whole, and goes on behind it. -/
theorem scanAarq_tlv {tag : UInt8} {content : Bytes} (hlen : content.length < 256) (fuel : Nat)
    (rest password : Bytes) :
    scanAarq (fuel + 1) (tlv tag content ++ rest) password =
      (aarqField tag content password >>= scanAarq fuel rest) := by
  have hlength : (UInt8.ofNat content.length).toNat = content.length := UInt8.toNat_ofNat_of_lt' hlen
  rw [tlv, List.cons_append, List.cons_append, scanAarq, hlength, List.take_left, List.drop_left]

/-- A field of another tag is passed over. -/
theorem scanAarq_skip {tag : UInt8} {content : Bytes} (htag : tag ≠ 0xAC)
    (hlen : content.length < 256) (fuel : Nat) (rest password : Bytes) :
    scanAarq (fuel + 1) (tlv tag content ++ rest) password = scanAarq fuel rest password := by
  rw [scanAarq_tlv hlen, aarqField, if_neg fun h => htag h.1, Result.ok_bind]

/-- The password is read out of its field. -/
theorem scanAarq_password {password : Bytes} (hlen : password.length < 254) (fuel : Nat)
    (rest before : Bytes) :
    scanAarq (fuel + 1) (tlv 0xAC (0x80 :: UInt8.ofNat password.length :: password) ++ rest) before =
      scanAarq fuel rest password := by
  have hlength : (UInt8.ofNat password.length).toNat = password.length :=
    UInt8.toNat_ofNat_of_lt' (show password.length < 256 by omega)
  have hslice := Bytes.slice_mid [0x80, UInt8.ofNat password.length] password []
  rw [List.append_nil] at hslice
  rw [scanAarq_tlv (by simp only [List.length_cons]; omega), aarqField,
    if_pos ⟨rfl, rfl⟩]
  show (Except.ok (Bytes.slice _ 2 (2 + (UInt8.ofNat password.length).toNat)) >>= _) = _
  rw [Result.ok_bind, hlength]
  exact congrArg (scanAarq fuel rest) hslice

/-- A mechanism below 128 is the last byte of its OID. -/
theorem mechanismOid_eq {mechanismId : Nat} (h : mechanismId ≤ 127) :
    mechanismOid mechanismId =
      [0x60, 0x85, 0x74, 0x05, 0x08, 0x02, UInt8.ofNat mechanismId] := by
  have hall : ∀ m : Fin 128,
      mechanismOid m = [0x60, 0x85, 0x74, 0x05, 0x08, 0x02, UInt8.ofNat m] := by
    decide +kernel
  exact hall ⟨mechanismId, by omega⟩

theorem singleByte_ok {n : Nat} {bytes : Bytes} (h : singleByte n = .ok bytes) :
    n < 256 ∧ bytes = [UInt8.ofNat n] := by
  rw [singleByte] at h
  rcases ite_eq_iff.mp h with ⟨hlt, h⟩ | ⟨_, h⟩
  · exact ⟨hlt, (Except.ok.inj h).symm⟩
  · cases h

/-- An AARQ that can be built has a body of at most 127 bytes with the listed fields. -/
theorem buildAarqFor_ok {password aarq : Bytes} {mechanismId : Nat} {userInformation : Option Bytes}
    (h : buildAarqFor password mechanismId userInformation = .ok aarq) :
    ∃ body, body.length ≤ 127 ∧ aarq = aarqTag :: UInt8.ofNat body.length :: body ∧
      password.length < 254 ∧
      body = applicationContext ++ (senderAcseRequirements ++ (tlv 0x8B (mechanismOid mechanismId) ++
        (tlv 0xAC (0x80 :: UInt8.ofNat password.length :: password) ++
          userInformation.getD userInformationInitiate))) := by
  unfold buildAarqFor at h
  obtain ⟨mechanismLength, hmechanism, h⟩ := Result.bind_eq_ok h
  obtain ⟨passwordLength, hpassword, h⟩ := Result.bind_eq_ok h
  obtain ⟨authLength, hauth, h⟩ := Result.bind_eq_ok h
  obtain ⟨-, rfl⟩ := singleByte_ok hmechanism
  obtain ⟨-, rfl⟩ := singleByte_ok hpassword
  obtain ⟨hlong, rfl⟩ := singleByte_ok hauth
  rcases ite_eq_iff.mp h with ⟨_, h⟩ | ⟨hshort, h⟩
  · cases h
  obtain rfl := Except.ok.inj h
  refine ⟨_, by omega, rfl, ?_, ?_⟩
  · simp only [List.length_append, List.length_cons, List.length_nil] at hlong
    omega
  · simp only [tlv, List.append_assoc, List.cons_append, List.nil_append, List.length_cons]

/-- Both constants are one field with a tag of their own. -/
theorem userInformation_tlv {userInformation : Option Bytes}
    (h : userInformation ∈
      [none, some userInformationInitiate, some userInformationInitiateVer2Variant]) :
    ∃ content : Bytes, content.length = 16 ∧
      userInformation.getD userInformationInitiate = tlv 0xBE content := by
  have hone : ∀ bytes ∈ [userInformationInitiate, userInformationInitiateVer2Variant],
      (bytes.drop 2).length = 16 ∧ bytes = tlv 0xBE (bytes.drop 2) := by decide
  have hmem : userInformation.getD userInformationInitiate ∈
      [userInformationInitiate, userInformationInitiateVer2Variant] := by
    simp only [List.mem_cons, List.not_mem_nil, or_false] at h
    rcases h with rfl | rfl | rfl <;> decide
  exact ⟨_, hone _ hmem⟩

/-- **AARQ.**  The password is read back from what `build_aarq` makes, with each of the known
    variants. -/
theorem parseAarq_build {password aarq : Bytes} {mechanismId : Nat} {userInformation : Option Bytes}
    (hmechanism : mechanismId ≤ 127)
    (huser : userInformation ∈
      [none, some userInformationInitiate, some userInformationInitiateVer2Variant])
    (h : buildAarqFor password mechanismId userInformation = .ok aarq) :
    parseAarq aarq = .ok password := by
  obtain ⟨body, hbody, rfl, hpassword, hfields⟩ := buildAarqFor_ok h
  obtain ⟨content, hcontent, huser⟩ := userInformation_tlv huser
  have hlength : (UInt8.ofNat body.length).toNat = body.length :=
    UInt8.toNat_ofNat_of_lt' (show body.length < 256 by omega)
  have hslice := Bytes.slice_mid [aarqTag, UInt8.ofNat body.length] body []
  rw [List.append_nil] at hslice
  rw [parseAarq, if_neg (by simp)]
  show (Except.ok (UInt8.ofNat body.length) >>= _) = _
  rw [Result.ok_bind, hlength]
  show scanAarq (Bytes.slice _ 2 (2 + body.length)).length (Bytes.slice _ 2 (2 + body.length)) [] = _
  rw [show Bytes.slice (aarqTag :: UInt8.ofNat body.length :: body) 2 (2 + body.length) = body from
    hslice]
  -- five fields, and each costs the scan one round
  have hrounds : ∃ fuel, body.length = fuel + 6 := by
    refine ⟨body.length - 6, ?_⟩
    rw [hfields]
    simp only [tlv, List.length_append, List.length_cons]
    omega
  obtain ⟨fuel, hfuel⟩ := hrounds
  rw [hfuel, hfields, huser, mechanismOid_eq hmechanism,
    show applicationContext = tlv 0xA1 (applicationContext.drop 2) from by decide,
    show senderAcseRequirements = tlv 0x8A [0x07, 0x80] from by decide,
    scanAarq_skip (by decide) (by decide), scanAarq_skip (by decide) (by decide),
    scanAarq_skip (by decide) (Nat.lt_of_le_of_lt (Nat.le_refl 7) (by decide)),
    scanAarq_password hpassword, ← List.append_nil (tlv 0xBE content),
    scanAarq_skip (by decide) (by omega)]
  rfl

/-! ## Values -/

mutual

/-- The value with its dates cut to whole seconds, without time zone. -/
def Value.wholeSeconds : Value → Value
  | .date d => .date d.wholeSeconds
  | .list items => .list (Value.wholeSecondsAll items)
  | .null => .null
  | .int n => .int n
  | .bytes b => .bytes b
  | .text s => .text s

def Value.wholeSecondsAll : List Value → List Value
  | [] => []
  | v :: vs => v.wholeSeconds :: Value.wholeSecondsAll vs

end

namespace Tree

mutual

/-- The tree with its dates cut. -/
def wholeSeconds : Tree → Tree
  | .dateTime d => .dateTime d.wholeSeconds
  | .struct items => .struct (wholeSecondsAll items)
  | .array items => .array (wholeSecondsAll items)
  | t => t

def wholeSecondsAll : List Tree → List Tree
  | [] => []
  | t :: ts => t.wholeSeconds :: wholeSecondsAll ts

end

theorem wholeSecondsAll_length : ∀ ts : List Tree, (wholeSecondsAll ts).length = ts.length
  | [] => rfl
  | t :: ts => by rw [wholeSecondsAll, List.length_cons, List.length_cons, wholeSecondsAll_length ts]

mutual

theorem encode_wholeSeconds : ∀ t : Tree, t.wholeSeconds.encode = t.encode
  | .dateTime d => rfl
  | .struct items => by rw [wholeSeconds, encode, encode, encodeAll_wholeSeconds items]
  | .array items => by rw [wholeSeconds, encode, encode, encodeAll_wholeSeconds items]
  | .null | .doubleLongUnsigned _ | .doubleLong _ | .longUnsigned _ | .long _ | .unsigned _
  | .integer _ | .octetString _ | .visibleString _ => rfl

theorem encodeAll_wholeSeconds : ∀ ts : List Tree, encodeAll (wholeSecondsAll ts) = encodeAll ts
  | [] => rfl
  | t :: ts => by
    rw [wholeSecondsAll, encodeAll, encodeAll, encode_wholeSeconds t, encodeAll_wholeSeconds ts]

end

mutual

theorem value_wholeSeconds : ∀ t : Tree, t.wholeSeconds.value = t.value.wholeSeconds
  | .dateTime d => rfl
  | .struct items => by
    rw [wholeSeconds, value, value, Value.wholeSeconds, valueAll_wholeSeconds items]
  | .array items => by
    rw [wholeSeconds, value, value, Value.wholeSeconds, valueAll_wholeSeconds items]
  | .null | .doubleLongUnsigned _ | .doubleLong _ | .longUnsigned _ | .long _ | .unsigned _
  | .integer _ | .octetString _ | .visibleString _ => rfl

theorem valueAll_wholeSeconds : ∀ ts : List Tree,
    valueAll (wholeSecondsAll ts) = Value.wholeSecondsAll (valueAll ts)
  | [] => rfl
  | t :: ts => by
    rw [wholeSecondsAll, valueAll, valueAll, Value.wholeSecondsAll, value_wholeSeconds t,
      valueAll_wholeSeconds ts]

end

/-- The range check of an encoder of `w` bytes. -/
theorem range_of_unsigned {tag : UInt8} {w : Nat} {n : Int} {bytes : Bytes}
    (h : encodeNumber tag (toBytes w n) = .ok bytes) : 0 ≤ n ∧ n < 256 ^ w := by
  rw [toBytes] at h
  by_contra hout
  rw [if_neg hout] at h
  cases h

theorem range_of_signed {tag : UInt8} {w : Nat} {n : Int} {bytes : Bytes}
    (h : encodeNumber tag (toBytesSigned w n) = .ok bytes) :
    -(256 ^ w : Int) ≤ 2 * n ∧ 2 * n < 256 ^ w := by
  rw [toBytesSigned] at h
  by_contra hout
  rw [if_neg hout] at h
  cases h

mutual

/-- What the encoders build is what they accept, but for the dates. -/
theorem encodable_of_encode : ∀ {t : Tree} {bytes : Bytes}, t.encode = .ok bytes →
    t.wholeSeconds.Encodable
  | .null, _, _ => trivial
  | .doubleLongUnsigned n, _, h => by
    have := range_of_unsigned h
    norm_num at this
    exact this
  | .doubleLong n, _, h => by
    have := range_of_signed h
    norm_num at this
    exact ⟨by omega, by omega⟩
  | .longUnsigned n, _, h => by
    have := range_of_unsigned h
    norm_num at this
    exact this
  | .long n, _, h => by
    have := range_of_signed h
    norm_num at this
    exact ⟨by omega, by omega⟩
  | .unsigned n, _, h => by
    have := range_of_unsigned h
    norm_num at this
    exact this
  | .integer n, _, h => by
    have := range_of_signed h
    norm_num at this
    exact ⟨by omega, by omega⟩
  | .octetString b, _, h => by
    rw [encode, encodeOctetString] at h
    rcases ite_eq_iff.mp h with ⟨_, h⟩ | ⟨hshort, _⟩
    · cases h
    · exact Nat.le_of_not_lt hshort
  | .visibleString s, _, h => by
    rw [encode, encodeVisibleString] at h
    obtain ⟨raw, hraw, h⟩ := Result.bind_eq_ok h
    rw [asciiEncode] at hraw
    rcases ite_eq_iff.mp hraw with ⟨hascii, hraw⟩ | ⟨_, hraw⟩
    · obtain rfl := Except.ok.inj hraw
      rcases ite_eq_iff.mp h with ⟨_, h⟩ | ⟨hshort, _⟩
      · cases h
      · rw [List.length_map] at hshort
        exact ⟨hascii, Nat.le_of_not_lt hshort⟩
    · cases hraw
  -- whole seconds, and no deviation: nothing of it is lost
  | .dateTime d, _, _ => ⟨rfl, rfl⟩
  | .struct items, _, h => by
    rw [encode] at h
    obtain ⟨bss, hitems, h⟩ := Result.bind_eq_ok h
    obtain ⟨hlen, hall⟩ := encodableAll_of_encode hitems
    rcases ite_eq_iff.mp h with ⟨_, h⟩ | ⟨hshort, _⟩
    · cases h
    · exact ⟨by rw [wholeSecondsAll_length]; omega, hall⟩
  | .array items, _, h => by
    rw [encode] at h
    obtain ⟨bss, hitems, h⟩ := Result.bind_eq_ok h
    obtain ⟨hlen, hall⟩ := encodableAll_of_encode hitems
    rcases ite_eq_iff.mp h with ⟨_, h⟩ | ⟨hshort, _⟩
    · cases h
    · exact ⟨by rw [wholeSecondsAll_length]; omega, hall⟩

theorem encodableAll_of_encode : ∀ {ts : List Tree} {bss : List Bytes}, encodeAll ts = .ok bss →
    bss.length = ts.length ∧ EncodableAll (wholeSecondsAll ts)
  | [], _, h => by
    obtain rfl := Except.ok.inj h
    exact ⟨rfl, trivial⟩
  | t :: ts, _, h => by
    rw [encodeAll] at h
    obtain ⟨b, hb, h⟩ := Result.bind_eq_ok h
    obtain ⟨bss, hbss, h⟩ := Result.bind_eq_ok h
    obtain rfl := Except.ok.inj h
    obtain ⟨hlen, hall⟩ := encodableAll_of_encode hbss
    exact ⟨by rw [List.length_cons, List.length_cons, hlen], encodable_of_encode hb, hall⟩

end

mutual

/-- Nothing is cut from a value whose dates are whole seconds without time zone. -/
theorem value_whole_of_encodable : ∀ {t : Tree}, t.Encodable → t.value.wholeSeconds = t.value
  | .dateTime d, h => by
    obtain ⟨year, month, day, hour, minute, second, microsecond, utcoffset, _⟩ := d
    obtain ⟨rfl, rfl⟩ : microsecond = 0 ∧ utcoffset = none := h
    rfl
  | .struct items, h | .array items, h => by
    rw [value, Value.wholeSeconds, valueAll_whole_of_encodable h.2]
  | .null, _ | .doubleLongUnsigned _, _ | .doubleLong _, _ | .longUnsigned _, _ | .long _, _
  | .unsigned _, _ | .integer _, _ | .octetString _, _ | .visibleString _, _ => rfl

theorem valueAll_whole_of_encodable : ∀ {ts : List Tree}, EncodableAll ts →
    Value.wholeSecondsAll (valueAll ts) = valueAll ts
  | [], _ => rfl
  | t :: ts, h => by
    rw [valueAll, Value.wholeSecondsAll, value_whole_of_encodable h.1,
      valueAll_whole_of_encodable h.2]

end

/-- Whatever the encoders build is read back, with its dates cut to whole seconds. -/
theorem encode_decodes_whole {t : Tree} {bytes : Bytes} (h : t.encode = .ok bytes) :
    Decodes bytes t.value.wholeSeconds := by
  obtain ⟨bytes', hbytes, hdecodes⟩ := encode_decodes t.wholeSeconds (encodable_of_encode h)
  rw [encode_wholeSeconds, h] at hbytes
  obtain rfl := Except.ok.inj hbytes
  rw [← value_wholeSeconds]
  exact hdecodes

end Tree

/-! ## Requests -/

/-- What a descriptor is: nine bytes, and the class is read back from the first two. -/
theorem attributeDescriptor_ok {classId : Int} {obis descriptor : Bytes} {attributeId : UInt8}
    (hobis : obis.length = 6) (h : attributeDescriptor classId obis attributeId = .ok descriptor) :
    ∃ c d o₁ o₂ o₃ o₄ o₅ o₆, descriptor = [c, d, o₁, o₂, o₃, o₄, o₅, o₆, attributeId] ∧
      obis = [o₁, o₂, o₃, o₄, o₅, o₆] ∧ (Bytes.fromBE [c, d] : Int) = classId := by
  rw [attributeDescriptor] at h
  obtain ⟨cls, hcls, h⟩ := Result.bind_eq_ok h
  obtain rfl := Except.ok.inj h
  rw [toBytes] at hcls
  rcases ite_eq_iff.mp hcls with ⟨hfit, hcls⟩ | ⟨_, hcls⟩
  · obtain rfl := Except.ok.inj hcls
    have hvalue : (Bytes.fromBE (Bytes.toBE 2 classId.toNat) : Int) = classId := by
      rw [Bytes.fromBE_toBE 2 _ (by omega)]
      omega
    have htwo := Bytes.toBE_length 2 classId.toNat
    generalize Bytes.toBE 2 classId.toNat = cls at hvalue htwo ⊢
    obtain ⟨c, d, rfl⟩ := List.length_eq_two.mp htwo
    rcases obis with _ | ⟨o₁, _ | ⟨o₂, _ | ⟨o₃, _ | ⟨o₄, _ | ⟨o₅, _ | ⟨o₆, _ | ⟨o₇, more⟩⟩⟩⟩⟩⟩⟩
    all_goals first | exact ⟨c, d, _, _, _, _, _, _, rfl, rfl, hvalue⟩ | cases hobis
  · cases hcls

/-- **GET.**  The fields of a request are read back from what `build_get_request` makes. -/
theorem parseGetRequest_build {obis apdu : Bytes} {invokeId attributeId : UInt8} {classId : Int}
    (h : buildGetRequest obis invokeId attributeId classId = .ok apdu) :
    parseGetRequest apdu =
      .ok { invokeId := invokeId, classId := classId, obis := obis, attributeId := attributeId } := by
  rw [buildGetRequest] at h
  rcases ite_eq_iff.mp h with ⟨_, h⟩ | ⟨hobis, h⟩
  · cases h
  obtain ⟨descriptor, hdescriptor, h⟩ := Result.bind_eq_ok h
  obtain rfl := Except.ok.inj h
  obtain ⟨c, d, o₁, o₂, o₃, o₄, o₅, o₆, rfl, rfl, hclass⟩ :=
    attributeDescriptor_ok (not_not.mp hobis) hdescriptor
  show Except.ok (⟨invokeId, (Bytes.fromBE [c, d] : Int), [o₁, o₂, o₃, o₄, o₅, o₆], attributeId⟩ :
    ParsedGetRequest) = _
  rw [hclass]

/-- **SET.**  The value is decoded behind the header, and its bytes are cut out whole. -/
theorem parseSetRequest_build {obis encoded apdu : Bytes} {invokeId attributeId : UInt8}
    {classId : Int} {v : Value} (hvalue : Decodes encoded v)
    (h : buildSetRequest obis encoded invokeId attributeId classId = .ok apdu) :
    parseSetRequest apdu =
      .ok { invokeId := invokeId, classId := classId, obis := obis, attributeId := attributeId
            value := v, encodedValue := encoded } := by
  rw [buildSetRequest] at h
  rcases ite_eq_iff.mp h with ⟨_, h⟩ | ⟨hobis, h⟩
  · cases h
  obtain ⟨descriptor, hdescriptor, h⟩ := Result.bind_eq_ok h
  obtain rfl := Except.ok.inj h
  -- with every byte of the header in sight, the parser computes
  obtain ⟨c, d, o₁, o₂, o₃, o₄, o₅, o₆, rfl, rfl, hclass⟩ :=
    attributeDescriptor_ok (not_not.mp hobis) hdescriptor
  have hdecode := hvalue [setRequestTag, setRequestNormal, invokeId, c, d, o₁, o₂, o₃, o₄, o₅, o₆,
    attributeId, 0x00] []
  have hslice := Bytes.slice_mid [setRequestTag, setRequestNormal, invokeId, c, d, o₁, o₂, o₃, o₄,
    o₅, o₆, attributeId, 0x00] encoded []
  rw [List.append_nil] at hdecode hslice
  rw [parseSetRequest, if_neg (by simp)]
  show (Except.ok invokeId >>= _) = _
  rw [Result.ok_bind]
  show (Except.ok attributeId >>= _) = _
  rw [Result.ok_bind]
  show (decodeValue ([setRequestTag, setRequestNormal, invokeId, c, d, o₁, o₂, o₃, o₄, o₅, o₆,
    attributeId, 0x00] ++ encoded) 13 >>= _) = _
  rw [show decodeValue ([setRequestTag, setRequestNormal, invokeId, c, d, o₁, o₂, o₃, o₄, o₅, o₆,
    attributeId, 0x00] ++ encoded) 13 = .ok (v, encoded.length) from hdecode, Result.ok_bind]
  show Except.ok (⟨invokeId, (Bytes.fromBE [c, d] : Int), [o₁, o₂, o₃, o₄, o₅, o₆], attributeId, v,
    Bytes.slice ([setRequestTag, setRequestNormal, invokeId, c, d, o₁, o₂, o₃, o₄, o₅, o₆,
      attributeId, 0x00] ++ encoded) 13 (13 + encoded.length)⟩ : ParsedSetRequest) = _
  rw [hclass, show Bytes.slice ([setRequestTag, setRequestNormal, invokeId, c, d, o₁, o₂, o₃, o₄, o₅,
    o₆, attributeId, 0x00] ++ encoded) 13 (13 + encoded.length) = encoded from hslice]

/-- **ACTION.**  Parameters given but empty are the one case that is not told from absent ones. -/
theorem parseActionRequest_build {obis apdu : Bytes} {methodId invokeId : UInt8} {classId : Int}
    {parameters : Option Bytes} (hparameters : parameters ≠ some [])
    (h : buildActionRequest obis methodId classId invokeId parameters = .ok apdu) :
    parseActionRequest apdu =
      .ok { invokeId := invokeId, classId := classId, obis := obis, methodId := methodId
            parameters := parameters } := by
  unfold buildActionRequest at h
  rcases ite_eq_iff.mp h with ⟨_, h⟩ | ⟨hobis, h⟩
  · cases h
  obtain ⟨cls, hcls, h⟩ := Result.bind_eq_ok h
  obtain rfl := Except.ok.inj h
  have hdescriptor : attributeDescriptor classId obis methodId = .ok (cls ++ obis ++ [methodId]) := by
    rw [attributeDescriptor, hcls]
    rfl
  obtain ⟨c, d, o₁, o₂, o₃, o₄, o₅, o₆, hbytes, rfl, hclass⟩ :=
    attributeDescriptor_ok (not_not.mp hobis) hdescriptor
  rw [hbytes, ← hclass]
  rcases parameters with _ | _ | ⟨first, more⟩
  · rfl
  · exact absurd rfl hparameters
  · simp [parseActionRequest, byteAt, Bytes.slice]

/-! ## Answers -/

/-- **GET response.**  A value is read back from the answer that carries its encoding. -/
theorem parseGetResponse_build {encoded : Bytes} {v : Value} (invokeId : UInt8)
    (hvalue : Decodes encoded v) :
    parseGetResponse (buildGetResponseData invokeId encoded) = .ok v := by
  have hdecode := hvalue [getResponseTag, getResponseNormal, invokeId, resultData] []
  rw [List.append_nil] at hdecode
  rw [parseGetResponse, buildGetResponseData, if_neg (by simp)]
  show (Except.ok resultData >>= _) = _
  rw [Result.ok_bind, if_neg (by decide), if_neg (by decide),
    show decodeValue ([getResponseTag, getResponseNormal, invokeId, resultData] ++ encoded) 4 =
      .ok (v, encoded.length) from hdecode]
  rfl

/-- Every length up to 65535 has its field. -/
theorem encodeBerLength_total {n : Nat} (h : n ≤ 65535) :
    ∃ length, encodeBerLength n = .ok length := by
  unfold encodeBerLength
  split
  · exact ⟨_, rfl⟩
  · split
    · exact ⟨_, rfl⟩
    · exact ⟨_, rfl⟩

/-- Every block of up to 65535 bytes can be built, under every block number of 32 bits. -/
theorem buildGetResponseDatablock_total (invokeId : UInt8) {block : DatablockResult}
    (hnumber : block.blockNumber < 2 ^ 32) (hraw : block.rawData.length ≤ 65535) :
    ∃ apdu, buildGetResponseDatablock invokeId block = .ok apdu := by
  obtain ⟨length, hlength⟩ := encodeBerLength_total hraw
  have hfour : toBytes 4 block.blockNumber = .ok (Bytes.toBE 4 block.blockNumber) := by
    rw [toBytes, if_pos (by norm_num; omega), Int.toNat_natCast]
  unfold buildGetResponseDatablock
  rw [hfour, Result.ok_bind, hlength, Result.ok_bind]
  exact ⟨_, rfl⟩

/-! ## All of them -/

/-- Every parser undoes its builder. -/
structure ApduRoundTrips : Prop where
  aarq : ∀ (password aarq : Bytes) (mechanismId : Nat) (userInformation : Option Bytes),
    mechanismId ≤ 127 →
    userInformation ∈
      [none, some userInformationInitiate, some userInformationInitiateVer2Variant] →
    buildAarqFor password mechanismId userInformation = .ok aarq → parseAarq aarq = .ok password
  getRequest : ∀ (obis apdu : Bytes) (invokeId attributeId : UInt8) (classId : Int),
    buildGetRequest obis invokeId attributeId classId = .ok apdu →
    parseGetRequest apdu =
      .ok { invokeId := invokeId, classId := classId, obis := obis, attributeId := attributeId }
  setRequest : ∀ (t : Tree) (obis encoded apdu : Bytes) (invokeId attributeId : UInt8)
    (classId : Int), t.encode = .ok encoded →
    buildSetRequest obis encoded invokeId attributeId classId = .ok apdu →
    parseSetRequest apdu =
      .ok { invokeId := invokeId, classId := classId, obis := obis, attributeId := attributeId
            value := t.value.wholeSeconds, encodedValue := encoded }
  actionRequest : ∀ (obis apdu : Bytes) (methodId invokeId : UInt8) (classId : Int)
    (parameters : Option Bytes), parameters ≠ some [] →
    buildActionRequest obis methodId classId invokeId parameters = .ok apdu →
    parseActionRequest apdu =
      .ok { invokeId := invokeId, classId := classId, obis := obis, methodId := methodId
            parameters := parameters }
  getResponse : ∀ (t : Tree) (invokeId : UInt8) (encoded : Bytes), t.encode = .ok encoded →
    parseGetResponse (buildGetResponseData invokeId encoded) = .ok t.value.wholeSeconds
  /-- Nothing is cut from a value without microseconds and time zones. -/
  whole : ∀ t : Tree, t.Encodable → t.value.wholeSeconds = t.value
  datablock : ∀ (invokeId : UInt8) (block : DatablockResult), block.blockNumber < 2 ^ 32 →
    block.rawData.length ≤ 65535 → ∃ apdu, buildGetResponseDatablock invokeId block = .ok apdu ∧
      parseGetResponseDatablock apdu = .ok block

/-- **Round trips.**  Every parser undoes its builder, on all that the builder accepts; of a date
    the whole seconds come back. -/
theorem apdus_roundTrip : ApduRoundTrips where
  aarq _ _ _ _ hmechanism huser h := parseAarq_build hmechanism huser h
  getRequest _ _ _ _ _ h := parseGetRequest_build h
  setRequest _ _ _ _ _ _ _ hencode h := parseSetRequest_build (Tree.encode_decodes_whole hencode) h
  actionRequest _ _ _ _ _ _ hparameters h := parseActionRequest_build hparameters h
  getResponse _ invokeId _ hencode :=
    parseGetResponse_build invokeId (Tree.encode_decodes_whole hencode)
  whole _ h := Tree.value_whole_of_encodable h
  datablock invokeId _ hnumber hraw :=
    let ⟨apdu, happdu⟩ := buildGetResponseDatablock_total invokeId hnumber hraw
    ⟨apdu, happdu, (parseGetResponseDatablock_build happdu).2⟩

/-- A register and its clock, read in one answer; a password of eight characters; a relay command
    without parameters. -/
theorem apdus_roundTrip_examples :
    parseGetResponse (buildGetResponseData 1 [0x02, 0x02, 0x0F, 0xFD, 0x11, 0x1E]) =
      .ok (.list [.int (-3), .int 30]) ∧
    (∃ aarq, buildAarqFor [0x32, 0x32, 0x32, 0x32, 0xAC, 0x80, 0x00, 0x32] 2 none = .ok aarq ∧
      parseAarq aarq = .ok [0x32, 0x32, 0x32, 0x32, 0xAC, 0x80, 0x00, 0x32]) ∧
    parseActionRequest [0xC3, 0x01, 0x01, 0x00, 0x46, 0, 0, 0x60, 3, 0x0A, 0xFF, 1, 0x00] =
      .ok { invokeId := 1, classId := 70, obis := [0, 0, 0x60, 3, 0x0A, 0xFF], methodId := 1
            parameters := none } :=
  ⟨apdus_roundTrip.getResponse (.struct [.integer (-3), .unsigned 30]) 1 _ (by decide),
   ⟨_, rfl, apdus_roundTrip.aarq _ _ 2 none (by decide) (by decide) rfl⟩,
   apdus_roundTrip.actionRequest _ _ 1 1 70 none (by decide) (by decide)⟩

/-- A quarter of a second past midnight is written, and read, as midnight. -/
theorem getResponse_cuts_microseconds :
    ¬ ∀ (t : Tree) (invokeId : UInt8) (encoded : Bytes), t.encode = .ok encoded →
      parseGetResponse (buildGetResponseData invokeId encoded) = .ok t.value := by
  intro h
  have hgiven := h (.dateTime ⟨2026, 1, 1, 0, 0, 0, 250000, none, by decide⟩) 1 _ rfl
  have hcut := parseGetResponse_build 1
    (@Tree.encode_decodes_whole (.dateTime ⟨2026, 1, 1, 0, 0, 0, 250000, none, by decide⟩) _ rfl)
  rw [hgiven] at hcut
  revert hcut
  decide

end RiseSun.Gateway
