/-
  xDLMS messages (`protocols/dlms.py`): LLC header, OBIS codes, AARQ/AARE, the GET service and its
  block transfer.

  1. **Requests** — built as byte strings; building fails only for arguments that do not fit their
     field (`OverflowError`, `ValueError`) or with the `GatewayError`s the source raises.

  2. **Responses** — parsed from ANY byte string.  Each parser keeps the order of the source's
     checks, because the order decides which exception a malformed message raises; the lemmas
     `..._error` at the end say once which exceptions each parser can raise at all.

  3. **Data blocks** (`parseGetResponseDatablock_build`) — a built block is parsed to itself,
     whatever the length of its data.
-/
import RiseSun.Lib.PyText
import RiseSun.Gateway.Datatypes

namespace RiseSun.Gateway

open PyText

/-! ## Constants -/

def aarqTag : UInt8 := 0x60
def aareTag : UInt8 := 0x61

def llcCommandHeader : Bytes := [0xE6, 0xE6, 0x00]
def llcResponseHeader : Bytes := [0xE6, 0xE7, 0x00]

def getRequestTag : UInt8 := 0xC0
def getRequestNormal : UInt8 := 0x01
def getRequestNext : UInt8 := 0x02
def getResponseTag : UInt8 := 0xC4
def getResponseNormal : UInt8 := 0x01
def getResponseWithDatablock : UInt8 := 0x02

def resultData : UInt8 := 0x00
def resultDataAccessError : UInt8 := 0x01
def datablockResultRawData : UInt8 := 0x00
def datablockResultDataAccessError : UInt8 := 0x01

def aareResultAccepted : UInt8 := 0
def aareResultTag : UInt8 := 0xA2

/-- LN referencing without ciphering. -/
def applicationContextLnNoCiphering : List Nat := [2, 16, 756, 5, 8, 1, 1]

/-- Low Level Security. -/
def mechanismNameLls : List Nat := [2, 16, 756, 5, 8, 2, 1]

def senderAcseRequirements : Bytes := [0x8a, 0x02, 0x07, 0x80]

def userInformationInitiate : Bytes :=
  [0xbe, 0x10, 0x04, 0x0e, 0x01, 0x00, 0x00, 0x00, 0x06, 0x5f, 0x1f, 0x04, 0x00, 0x00, 0x08, 0x1d,
   0x08, 0x00]

def registerClassId : Int := 3
def registerValueAttribute : UInt8 := 2
def registerScalerUnitAttribute : UInt8 := 3

/-- The unit code of watt-hours. -/
def unitWattHour : Int := 30

/-- Registers whose value stands under another OBIS code than their scaler. -/
def valueObisOverrides : List (String × String) := [("1.1.1.8.0.ff", "1.1.60.50.0.ff")]

def profileGenericClassId : Int := 7

def rangeDescriptorSelector : UInt8 := 1
def clockClassId : Int := 8
def clockObis : Bytes := [0, 0, 1, 0, 0, 0xFF]

/-! ## LLC -/

def wrapLlcCommand (data : Bytes) : Bytes := llcCommandHeader ++ data

def wrapLlcResponse (data : Bytes) : Bytes := llcResponseHeader ++ data

def unwrapLlc (data : Bytes) : Except PyExc Bytes :=
  match data with
  | a :: b :: c :: rest =>
    if a ≠ 0xE6 ∨ ¬ (b = 0xE6 ∨ b = 0xE7) ∨ c ≠ 0x00 then
      .error (.plain [.text "Некорректный или отсутствующий LLC-заголовок: ", .hex (data.take 3)])
    else .ok rest
  | _ =>
    .error (.plain [.text "Некорректный или отсутствующий LLC-заголовок: ", .hex (data.take 3)])

@[simp] theorem unwrapLlc_wrapLlcResponse (data : Bytes) :
    unwrapLlc (wrapLlcResponse data) = .ok data := rfl

/-! ## OBIS codes -/

/-- `text.split(".")`. -/
def splitDots : List Char → List (List Char)
  | [] => [[]]
  | c :: cs =>
    match splitDots cs with
    | [] => [[]]
    | part :: parts => if c = '.' then [] :: part :: parts else (c :: part) :: parts

/-- The fields as numbers; one that is not hexadecimal spoils them all. -/
def hexFields : List (List Char) → Option (List Int)
  | [] => some []
  | part :: parts => do
    let value ← pyInt 16 (String.ofList part)
    let values ← hexFields parts
    some (value :: values)

theorem hexFields_length : ∀ {parts : List (List Char)} {values : List Int},
    hexFields parts = some values → values.length = parts.length := by
  intro parts
  induction parts with
  | nil =>
    intro values h
    cases h
    rfl
  | cons part parts ih =>
    intro values h
    rw [hexFields] at h
    obtain ⟨value, _, h⟩ := Option.bind_eq_some_iff.mp h
    obtain ⟨rest, hrest, h⟩ := Option.bind_eq_some_iff.mp h
    cases h
    rw [List.length_cons, List.length_cons, ih hrest]

/-- `parse_obis`: six hexadecimal fields of one byte each. -/
def parseObis (text : String) : Except PyExc Bytes :=
  let parts := splitDots text.toList
  if parts.length ≠ 6 then
    .error (.plain [.text "OBIS-код должен состоять из 6 полей вида A.B.C.D.E.F, получено: ",
      .quoted text])
  else
    match hexFields parts with
    | none => .error (.plain [.text "Нечисловое (не hex) поле в OBIS-коде ", .quoted text])
    | some values =>
      if values.any fun v => ¬ (0 ≤ v ∧ v ≤ 0xFF) then
        .error (.plain [.text "Поле OBIS-кода вне диапазона 0..FF: ", .quoted text])
      else .ok (values.map fun v => UInt8.ofNat v.toNat)

example : parseObis "1.1.60.50.0.ff" = .ok [0x01, 0x01, 0x60, 0x50, 0x00, 0xFF] := by decide

/-- Only `GatewayError`s come out of `parse_obis`, and six bytes. -/
theorem parseObis_cases (text : String) :
    (∃ obis, parseObis text = .ok obis ∧ obis.length = 6) ∨
    (∃ message, parseObis text = .error (.plain message)) := by
  unfold parseObis
  dsimp only
  split
  · exact .inr ⟨_, rfl⟩
  · rename_i hlen
    split
    · exact .inr ⟨_, rfl⟩
    · rename_i values hvalues
      split
      · exact .inr ⟨_, rfl⟩
      · refine .inl ⟨_, rfl, ?_⟩
        have hmap := hexFields_length hvalues
        rw [List.length_map]
        omega

/-! ## Association -/

/-- The base-128 digits of `n`, least significant first, at most `fuel` of them. -/
def base128Digits : Nat → Nat → List Nat
  | 0, _ => []
  | fuel + 1, n => if n = 0 then [] else (n &&& 0x7F) :: base128Digits fuel (n >>> 7)

/-- `_base128`: all bytes but the last carry the high bit. -/
def base128 (n : Nat) : Bytes :=
  if n = 0 then [0]
  else
    match base128Digits n n with
    | [] => []
    | low :: high => (high.reverse.map fun d => UInt8.ofNat (d ||| 0x80)) ++ [UInt8.ofNat low]

/-- `encode_oid`: the first two components share a byte. -/
def encodeOid : List Nat → Bytes
  | a :: b :: components => UInt8.ofNat (a * 40 + b) :: (components.map base128).flatten
  | _ => []

example : encodeOid applicationContextLnNoCiphering =
    [0x60, 0x85, 0x74, 0x05, 0x08, 0x01, 0x01] := by decide

def applicationContext : Bytes :=
  let contextOid := encodeOid applicationContextLnNoCiphering
  [0xA1, UInt8.ofNat (contextOid.length + 2), 0x06, UInt8.ofNat contextOid.length] ++ contextOid

def mechanismName : Bytes :=
  let mechanismOid := encodeOid mechanismNameLls
  [0x8B, UInt8.ofNat mechanismOid.length] ++ mechanismOid

/-- `build_aarq` with the low-level-security mechanism. -/
def buildAarq (password userInformation : Bytes) : Except PyExc Bytes := do
  let passwordLength ← singleByte password.length
  let authValue := [0x80] ++ passwordLength ++ password
  let authLength ← singleByte authValue.length
  let callingAuth := [0xAC] ++ authLength ++ authValue
  let body := applicationContext ++ senderAcseRequirements ++ mechanismName ++ callingAuth ++
    userInformation
  if 0x7F < body.length then
    .error (.plain [.text ("AARQ длиннее 127 байт — короткая форма длины BER не подходит " ++
      "(не ожидается при пароле LLS фиксированной длины 8 символов, ТЗ п. 4.3.3)")])
  else .ok ([aarqTag, UInt8.ofNat body.length] ++ body)

/-- The password must leave room for its two length bytes. -/
theorem buildAarq_cases (password userInformation : Bytes) :
    (∃ aarq, password.length ≤ 253 ∧ buildAarq password userInformation = .ok aarq ∧
      aarq.length ≤ 129) ∨
    (∃ message, password.length ≤ 253 ∧
      buildAarq password userInformation = .error (.plain message)) ∨
    (253 < password.length ∧ buildAarq password userInformation = .error (.valueError [])) := by
  unfold buildAarq singleByte
  by_cases hlong : password.length < 256
  · rw [if_pos hlong, Result.ok_bind]
    dsimp only
    by_cases hfit : password.length ≤ 253
    · have hauth : ([0x80] ++ [UInt8.ofNat password.length] ++ password).length < 256 := by
        simp only [List.length_append, List.length_cons, List.length_nil]
        omega
      rw [if_pos hauth, Result.ok_bind]
      split
      · exact .inr (.inl ⟨_, hfit, rfl⟩)
      · rename_i hbody
        refine .inl ⟨_, hfit, rfl, ?_⟩
        rw [List.length_append]
        have htwo : ∀ a b : UInt8, [a, b].length = 2 := fun _ _ => rfl
        rw [htwo]
        omega
    · have hauth : ¬ ([0x80] ++ [UInt8.ofNat password.length] ++ password).length < 256 := by
        simp only [List.length_append, List.length_cons, List.length_nil]
        omega
      rw [if_neg hauth]
      exact .inr (.inr ⟨by omega, rfl⟩)
  · rw [if_neg hlong]
    exact .inr (.inr ⟨by omega, rfl⟩)

/-- An AARQ is its tag and at most 128 bytes. -/
theorem buildAarq_tag {password userInformation aarq : Bytes}
    (h : buildAarq password userInformation = .ok aarq) :
    ∃ rest, aarq = aarqTag :: rest ∧ rest.length ≤ 128 := by
  unfold buildAarq at h
  obtain ⟨passwordLength, _, h⟩ := Result.bind_eq_ok h
  obtain ⟨authLength, _, h⟩ := Result.bind_eq_ok h
  rcases ite_eq_iff.mp h with ⟨_, h⟩ | ⟨hbody, h⟩
  · cases h
  · cases h
    refine ⟨_, rfl, ?_⟩
    show List.length (_ :: _) ≤ 128
    rw [List.length_cons]
    exact Nat.succ_le_succ (Nat.le_of_not_lt hbody)

/-- The TLV scan of `parse_aare`: the last `result` field found wins. -/
def scanAareResult : (fuel : Nat) → Bytes → Option UInt8 → Option UInt8
  | fuel + 1, tag :: length :: rest, result =>
    let content := rest.take length.toNat
    scanAareResult fuel (rest.drop length.toNat)
      (if tag = aareResultTag ∧ 3 ≤ content.length then content[2]? else result)
  | _, _, result => result

def authFailed : PyExc :=
  .gateway { cls := .authFailedError
             message := [.text "Счётчик отклонил ассоциацию (неверный пароль доступа)"] }

/-- `parse_aare`: returns iff the association is accepted. -/
def parseAare (data : Bytes) : Except PyExc Unit :=
  if data.head? ≠ some aareTag then .error (.plain [.text "Ожидался AARE (тег 0x61)"])
  else do
    let length ← byteAt data 1
    let body := Bytes.slice data 2 (2 + length.toNat)
    match scanAareResult body.length body none with
    | none => .error (.plain [.text "Некорректное поле result в AARE"])
    | some result => if result = aareResultAccepted then .ok () else .error authFailed

/-! ## GET requests -/

def obisLengthError : PyExc := .plain [.text "OBIS для GET.request должен быть ровно 6 байт"]

/-- Class, OBIS and attribute of a GET request; the class must fit two bytes. -/
def attributeDescriptor (classId : Int) (obis : Bytes) (attributeId : UInt8) :
    Except PyExc Bytes := do
  let cls ← toBytes 2 classId
  .ok (cls ++ obis ++ [attributeId])

def buildGetRequest (obis : Bytes) (invokeId : UInt8) (attributeId : UInt8) (classId : Int) :
    Except PyExc Bytes :=
  if obis.length ≠ 6 then .error obisLengthError
  else do
    let descriptor ← attributeDescriptor classId obis attributeId
    .ok ([getRequestTag, getRequestNormal, invokeId] ++ descriptor ++ [0x00])

/-- The reference to the Clock object in a range descriptor. -/
def restrictingObject : Except PyExc Bytes := do
  let cls ← encodeLongUnsigned clockClassId
  let obis ← encodeOctetString clockObis
  let attributeId ← encodeInteger 2
  let dataIndex ← encodeLongUnsigned 0
  encodeStructure [cls, obis, attributeId, dataIndex]

/-- `build_get_request_range` with no selected values (all columns). -/
def buildGetRequestRange (obis : Bytes) (classId : Int) (fromDt toDt : DateTime)
    (invokeId : UInt8) : Except PyExc Bytes :=
  if obis.length ≠ 6 then .error obisLengthError
  else do
    let descriptor ← attributeDescriptor classId obis registerValueAttribute
    let restricting ← restrictingObject
    let fromValue ← encodeDateTime fromDt
    let toValue ← encodeDateTime toDt
    let selectedValues ← encodeArray []
    let accessParameters ← encodeStructure [restricting, fromValue, toValue, selectedValues]
    .ok ([getRequestTag, getRequestNormal, invokeId] ++ descriptor ++
      [0x01, rangeDescriptorSelector] ++ accessParameters)

/-- `build_get_request_next`: the block number must fit four bytes. -/
def buildGetRequestNext (blockNumber : Nat) (invokeId : UInt8) : Except PyExc Bytes := do
  let number ← toBytes 4 blockNumber
  .ok ([getRequestTag, getRequestNext, invokeId] ++ number)

/-! ## GET responses -/

/-- `parse_get_response`: the decoded value of the attribute. -/
def parseGetResponse (data : Bytes) : Except PyExc Value :=
  if data.length < 4 ∨ data[0]? ≠ some getResponseTag ∨ data[1]? ≠ some getResponseNormal then
    .error (.plain [.text "Ожидался GET.response-normal (тег 0xC4 0x01)"])
  else do
    let result ← byteAt data 3
    if result = resultDataAccessError then
      let code : Int := (data[4]?).elim (-1) fun b => b.toNat
      .error (.plain [.text "Счётчик вернул data-access-result=", .int code,
        .text " на GET-запрос"])
    else if result ≠ resultData then
      .error (.plain [.text "Неожиданный choice-байт Get-Data-Result: 0x", .hexByte result.toNat,
        .text (" (ожидался 0x00 data или 0x01 data-access-result) — вероятно, счётчик прислал " ++
          "укороченный ответ")])
    else do
      let (value, _) ← decodeValue data 4
      .ok value

/-- `_encode_ber_length`. -/
def encodeBerLength (length : Nat) : Except PyExc Bytes :=
  if length < 0x80 then .ok [UInt8.ofNat length]
  else if length ≤ 0xFF then .ok [0x81, UInt8.ofNat length]
  else if length ≤ 0xFFFF then .ok (0x82 :: Bytes.toBE 2 length)
  else .error (.plain [.text "Датаблок длиннее 65535 байт не поддержан в Этапе 3"])

/-- `_decode_ber_length`: the length and the position after its field. -/
def decodeBerLength (data : Bytes) (pos : Nat) : Except PyExc (Nat × Nat) := do
  let first ← byteAt data pos
  if first.toNat &&& 0x80 = 0 then .ok (first.toNat, pos + 1)
  else
    let n := first.toNat &&& 0x7F
    if n = 0 ∨ data.length < pos + 1 + n then
      .error (.plain [.text "Некорректное BER-поле длины датаблока"])
    else .ok (Bytes.fromBE (Bytes.slice data (pos + 1) (pos + 1 + n)), pos + 1 + n)

structure DatablockResult where
  lastBlock : Bool
  blockNumber : Nat
  rawData : Bytes
  deriving DecidableEq, Repr

/-- `build_get_response_datablock` (the meter's side). -/
def buildGetResponseDatablock (invokeId : UInt8) (block : DatablockResult) :
    Except PyExc Bytes := do
  let number ← toBytes 4 block.blockNumber
  let length ← encodeBerLength block.rawData.length
  .ok ([getResponseTag, getResponseWithDatablock, invokeId] ++
    [if block.lastBlock then 1 else 0] ++ number ++ [datablockResultRawData] ++ length ++
    block.rawData)

/-- `build_get_response_data` (the meter's side). -/
def buildGetResponseData (invokeId : UInt8) (encodedValue : Bytes) : Bytes :=
  [getResponseTag, getResponseNormal, invokeId, resultData] ++ encodedValue

def parseGetResponseDatablock (data : Bytes) : Except PyExc DatablockResult :=
  if data.length < 9 ∨ data[0]? ≠ some getResponseTag ∨
      data[1]? ≠ some getResponseWithDatablock then
    .error (.plain [.text "Ожидался GET.response-with-datablock (тег 0xC4 0x02)"])
  else do
    let last ← byteAt data 3
    let blockNumber := Bytes.fromBE (Bytes.slice data 4 8)
    let resultChoice ← byteAt data 8
    if resultChoice = datablockResultDataAccessError then
      let code : Int := (data[9]?).elim (-1) fun b => b.toNat
      .error (.plain [.text "Счётчик вернул data-access-result=", .int code,
        .text " на датаблоке #", .int blockNumber])
    else do
      let (length, dataStart) ← decodeBerLength data 9
      .ok { lastBlock := last ≠ 0, blockNumber := blockNumber
            rawData := Bytes.slice data dataStart (dataStart + length) }

/-! ## Data blocks: round trip -/

/-- A length is read back behind anything and in front of anything. -/
theorem decodeBerLength_encode {n : Nat} {bs : Bytes} (h : encodeBerLength n = .ok bs)
    (pre suf : Bytes) :
    decodeBerLength (pre ++ (bs ++ suf)) pre.length = .ok (n, pre.length + bs.length) := by
  unfold encodeBerLength at h
  by_cases hshort : n < 0x80
  · rw [if_pos hshort] at h
    cases h
    have hbyte : (UInt8.ofNat n).toNat = n := UInt8.toNat_ofNat_of_lt' (by
      show n < 256
      omega)
    have hbit : ∀ m < 128, m &&& 0x80 = 0 := by decide
    rw [List.singleton_append, decodeBerLength, byteAt_append_length, Result.ok_bind, hbyte,
      if_pos (hbit n hshort), List.length_singleton]
  · rw [if_neg hshort] at h
    -- one or two bytes of length follow the first
    have hlong : ∀ (head : UInt8) (count : Nat) (field : Bytes), head.toNat &&& 0x80 ≠ 0 →
        head.toNat &&& 0x7F = count → field.length = count → count ≠ 0 → Bytes.fromBE field = n →
        decodeBerLength (pre ++ (head :: field ++ suf)) pre.length =
          .ok (n, pre.length + (head :: field).length) := by
      intro head count field hbit hcount hlen hne hvalue
      have hslice : Bytes.slice (pre ++ (head :: field ++ suf)) (pre.length + 1)
          (pre.length + 1 + count) = field := by
        have := Bytes.slice_mid (pre ++ [head]) field suf
        rw [List.length_append, List.length_singleton, hlen] at this
        simpa using this
      have hroom : ¬ (count = 0 ∨ (pre ++ (head :: field ++ suf)).length < pre.length + 1 + count) := by
        simp only [List.length_append, List.length_cons]
        omega
      rw [List.cons_append, decodeBerLength, byteAt_append_length, Result.ok_bind, if_neg hbit]
      rw [List.cons_append] at hslice hroom
      simp only [hcount, if_neg hroom, hslice, hvalue, List.length_cons, hlen]
      rw [Nat.add_assoc, Nat.add_comm 1 count]
    by_cases hone : n ≤ 0xFF
    · rw [if_pos hone] at h
      cases h
      have hbyte : (UInt8.ofNat n).toNat = n := UInt8.toNat_ofNat_of_lt' (by
        show n < 256
        omega)
      refine hlong 0x81 1 [UInt8.ofNat n] (by decide) (by decide) rfl (by decide) ?_
      simp [Bytes.fromBE, Bytes.fromLE, hbyte]
    · rw [if_neg hone] at h
      split at h
      · rename_i htwo
        cases h
        exact hlong 0x82 2 (Bytes.toBE 2 n) (by decide) (by decide) (Bytes.toBE_length 2 n) (by decide)
          (Bytes.fromBE_toBE 2 n (by omega))
      · cases h

/-- A data block that can be built has a number of four bytes, and is laid out as header, length and
    data. -/
theorem buildGetResponseDatablock_ok {invokeId : UInt8} {block : DatablockResult} {apdu : Bytes}
    (h : buildGetResponseDatablock invokeId block = .ok apdu) :
    block.blockNumber < 256 ^ 4 ∧ ∃ length, encodeBerLength block.rawData.length = .ok length ∧
      apdu = [getResponseTag, getResponseWithDatablock, invokeId,
        if block.lastBlock then 1 else 0] ++ Bytes.toBE 4 block.blockNumber ++
        [datablockResultRawData] ++ (length ++ block.rawData) := by
  unfold buildGetResponseDatablock at h
  obtain ⟨number, hnumber, h⟩ := Result.bind_eq_ok h
  obtain ⟨length, hlength, h⟩ := Result.bind_eq_ok h
  unfold toBytes at hnumber
  split at hnumber
  · rename_i hfit
    cases hnumber
    cases h
    refine ⟨by omega, length, hlength, ?_⟩
    simp only [List.append_assoc, List.cons_append, List.nil_append, Int.toNat_natCast]
  · cases hnumber

/-- A built data block is parsed to itself. -/
theorem parseGetResponseDatablock_build {invokeId : UInt8} {block : DatablockResult} {apdu : Bytes}
    (h : buildGetResponseDatablock invokeId block = .ok apdu) :
    apdu[1]? = some getResponseWithDatablock ∧ parseGetResponseDatablock apdu = .ok block := by
  obtain ⟨hfit, length, hlength, rfl⟩ := buildGetResponseDatablock_ok h
  obtain ⟨lastBlock, blockNumber, rawData⟩ := block
  have hnumber := Bytes.fromBE_toBE 4 blockNumber hfit
  have hfour := Bytes.toBE_length 4 blockNumber
  dsimp only at hlength ⊢
  generalize Bytes.toBE 4 blockNumber = number at hnumber hfour ⊢
  obtain ⟨a, b, c, d, rfl⟩ : ∃ a b c d, number = [a, b, c, d] := by
    rcases number with _ | ⟨a, _ | ⟨b, _ | ⟨c, _ | ⟨d, _ | ⟨e, more⟩⟩⟩⟩⟩
    all_goals first | exact ⟨_, _, _, _, rfl⟩ | cases hfour
  refine ⟨rfl, ?_⟩
  generalize hflag : (if lastBlock = true then (1 : UInt8) else 0) = flagByte
  have hlast : (decide (flagByte ≠ 0)) = lastBlock := by
    rw [← hflag]
    cases lastBlock <;> rfl
  have hber := decodeBerLength_encode hlength
    ([getResponseTag, getResponseWithDatablock, invokeId, flagByte] ++ [a, b, c, d] ++
      [datablockResultRawData]) rawData
  have hraw : Bytes.slice ([getResponseTag, getResponseWithDatablock, invokeId, flagByte] ++
      [a, b, c, d] ++ [datablockResultRawData] ++ (length ++ rawData)) (9 + length.length)
      (9 + length.length + rawData.length) = rawData := by
    have := Bytes.slice_mid ([getResponseTag, getResponseWithDatablock, invokeId, flagByte] ++
      [a, b, c, d] ++ [datablockResultRawData] ++ length) rawData []
    simpa [Nat.add_comm, Nat.add_left_comm] using this
  unfold parseGetResponseDatablock
  rw [if_neg (by
    simp only [List.length_append, List.length_cons, List.length_nil, not_or]
    exact ⟨by omega, by simp, by simp⟩)]
  show (Except.ok flagByte >>= _) = _
  rw [Result.ok_bind]
  show (Except.ok datablockResultRawData >>= _) = _
  rw [Result.ok_bind, if_neg (by decide)]
  show (decodeBerLength _ ([getResponseTag, getResponseWithDatablock, invokeId, flagByte] ++
    [a, b, c, d] ++ [datablockResultRawData]).length >>= _) = _
  rw [hber, Result.ok_bind]
  dsimp only
  show Except.ok _ = _
  rw [show ([getResponseTag, getResponseWithDatablock, invokeId, flagByte] ++
    [a, b, c, d] ++ [datablockResultRawData]).length = 9 from rfl, hraw, hlast]
  show Except.ok (⟨lastBlock, Bytes.fromBE [a, b, c, d], rawData⟩ : DatablockResult) = _
  rw [hnumber]

/-! ## ACTION -/

def actionRequestTag : UInt8 := 0xC3
def actionRequestNormal : UInt8 := 0x01
def actionResponseTag : UInt8 := 0xC7
def actionResponseNormal : UInt8 := 0x01

def actionResultSuccess : UInt8 := 0

def disconnectControlClassId : Int := 70
def disconnectControlObis : String := "0.0.60.3.a.ff"

def methodRemoteDisconnect : UInt8 := 1
def methodRemoteReconnect : UInt8 := 2

/-- An empty structure. -/
def disconnectActionParameters : Bytes := [0x0F, 0x00]

def setResultNames : List (Nat × String) :=
  [(0, "success"), (1, "hardware-fault"), (2, "temporary-failure"), (3, "read-write-denied"),
   (4, "object-undefined"), (9, "object-class-inconsistent"), (11, "object-unavailable"),
   (12, "type-unmatched"), (13, "scope-of-access-violated"), (14, "data-block-unavailable"),
   (250, "other-reason")]

/-- `build_action_request`. -/
def buildActionRequest (obis : Bytes) (methodId : UInt8) (classId : Int) (invokeId : UInt8)
    (parameters : Option Bytes) : Except PyExc Bytes :=
  if obis.length ≠ 6 then
    .error (.plain [.text "OBIS для ACTION.request должен быть ровно 6 байт"])
  else do
    let cls ← toBytes 2 classId
    let paramsField := match parameters with
      | none => [0x00]
      | some parameters => [0x01] ++ parameters
    .ok ([actionRequestTag, actionRequestNormal, invokeId] ++ (cls ++ obis ++ [methodId]) ++ paramsField)

/-- `parse_action_response`. -/
def parseActionResponse (data : Bytes) : Except PyExc Unit :=
  if data.length < 4 ∨ data[0]? ≠ some actionResponseTag ∨ data[1]? ≠ some actionResponseNormal then
    .error (.plain [.text "Ожидался ACTION.response-normal (тег 0xC7 0x01)"])
  else do
    let result ← byteAt data 3
    if result ≠ actionResultSuccess then
      let name : Message := match setResultNames.lookup result.toNat with
        | some name => [.text name]
        | none => [.text "0x", .hexByte result.toNat]
      .error (.plain ([.text "Счётчик отклонил ACTION: result=", .int result.toNat, .text " ("] ++
        name ++ [.text ")"]))
    else .ok ()

theorem parseActionResponse_error {data : Bytes} {e : PyExc}
    (h : parseActionResponse data = .error e) : e.isBadAnswer = true := by
  rw [parseActionResponse] at h
  rcases ite_eq_iff.mp h with ⟨_, h⟩ | ⟨hlong, h⟩
  · cases h
    rfl
  · rcases Result.bind_eq_error h with h | ⟨result, _, h⟩
    · have hshort := (byteAt_eq_error h).1
      have hlen : ¬ data.length < 4 := fun hlt => hlong (.inl hlt)
      omega
    · rcases ite_eq_iff.mp h with ⟨_, h⟩ | ⟨_, h⟩
      · cases h
        rfl
      · cases h

/-! ## What the parsers raise -/

theorem unwrapLlc_error {data : Bytes} {e : PyExc} (h : unwrapLlc data = .error e) :
    e.isBadAnswer = true := by
  unfold unwrapLlc at h
  split at h
  · split at h
    · cases h
      rfl
    · cases h
  · cases h
    rfl

/-- `parse_get_response` raises `GatewayError`s of its own and the `ValueError`s of the decoder. -/
theorem parseGetResponse_error {data : Bytes} {e : PyExc} (h : parseGetResponse data = .error e) :
    e.isGatewayError = true ∨ e.isValueError = true := by
  unfold parseGetResponse at h
  split at h
  · cases h
    exact .inl rfl
  · rename_i hshort
    rcases Result.bind_eq_error h with h | ⟨result, _, h⟩
    · have hlen : ¬ data.length < 4 := fun hlt => hshort (.inl hlt)
      have := (byteAt_eq_error h).1
      omega
    split at h
    · cases h
      exact .inl rfl
    · split at h
      · cases h
        exact .inl rfl
      · rcases Result.bind_eq_error h with h | ⟨_, _, h⟩
        · exact .inr (decodeValue_error h)
        · cases h

end RiseSun.Gateway
