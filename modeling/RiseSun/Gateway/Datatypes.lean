/-
  DLMS Common-Data-Types (`protocols/datatypes.py`): the `encode_*` helpers and `decode_value`.

  1. **Program** — every encoder under its source name; the decoder `decodeValue data offset`
     reads one value at an ABSOLUTE offset and returns it with the number of bytes consumed.
     Arrays and structures nest, so the decoder recurses; each nested value starts at least two
     bytes further on, so `data.length - offset` levels are always enough and the fuel of
     `decodeValueAt` is not part of the behaviour: `decodeValue_eq` is the recursion equation of
     the source, with no fuel in it.

  2. **Specification** — a `Tree` is a value as the encoders build it (its tag is part of it);
     `Tree.encode` calls the encoders, `Tree.value` is the Python value it stands for.

  3. **Round trip** (`decodeValue_encode`) — every tree the encoders accept is encoded, and the
     decoder, wherever the encoding stands in a longer string, returns the value and exactly the
     length of the encoding.  One induction on the tree; the list case threads the position
     through the elements (`decodeItems_encodeAll`).
-/
import Mathlib.Logic.Basic
import RiseSun.Lib.Calendar
import RiseSun.Gateway.Errors

namespace RiseSun.Gateway

/-! ## Values -/

/-- What the decoder returns: `None`, `int`, `bytes`, `str`, `list` or `datetime`. -/
inductive Value
  | null
  | int (n : Int)
  | bytes (b : Bytes)
  | text (s : String)
  | list (items : List Value)
  | date (d : DateTime)

mutual

/-- Equality of values is decidable; structural on both trees. -/
def Value.decEq : (a b : Value) → Decidable (a = b)
  | .null, .null => isTrue rfl
  | .int m, .int n => decidable_of_iff (m = n) (by simp)
  | .bytes b, .bytes c => decidable_of_iff (b = c) (by simp)
  | .text s, .text t => decidable_of_iff (s = t) (by simp)
  | .list xs, .list ys => @decidable_of_iff _ (xs = ys) (by simp) (Value.decEqList xs ys)
  | .date d, .date e => decidable_of_iff (d = e) (by simp)
  | .null, .int _ | .null, .bytes _ | .null, .text _ | .null, .list _ | .null, .date _ =>
    isFalse nofun
  | .int _, .null | .int _, .bytes _ | .int _, .text _ | .int _, .list _ | .int _, .date _ =>
    isFalse nofun
  | .bytes _, .null | .bytes _, .int _ | .bytes _, .text _ | .bytes _, .list _
  | .bytes _, .date _ => isFalse nofun
  | .text _, .null | .text _, .int _ | .text _, .bytes _ | .text _, .list _ | .text _, .date _ =>
    isFalse nofun
  | .list _, .null | .list _, .int _ | .list _, .bytes _ | .list _, .text _ | .list _, .date _ =>
    isFalse nofun
  | .date _, .null | .date _, .int _ | .date _, .bytes _ | .date _, .text _ | .date _, .list _ =>
    isFalse nofun

def Value.decEqList : (xs ys : List Value) → Decidable (xs = ys)
  | [], [] => isTrue rfl
  | [], _ :: _ => isFalse nofun
  | _ :: _, [] => isFalse nofun
  | x :: xs, y :: ys =>
    @decidable_of_iff _ (x = y ∧ xs = ys) (by simp)
      (@instDecidableAnd _ _ (Value.decEq x y) (Value.decEqList xs ys))

end

instance : DecidableEq Value := Value.decEq

/-! ## Tags -/

def tagNullData : UInt8 := 0x00
def tagArray : UInt8 := 0x01
def tagStructure : UInt8 := 0x02
def tagDoubleLong : UInt8 := 0x05
def tagDoubleLongUnsigned : UInt8 := 0x06
def tagOctetString : UInt8 := 0x09
def tagVisibleString : UInt8 := 0x0A
def tagInteger : UInt8 := 0x0F
def tagLong : UInt8 := 0x10
def tagUnsigned : UInt8 := 0x11
def tagLongUnsigned : UInt8 := 0x12
def tagLong64 : UInt8 := 0x14
def tagLong64Unsigned : UInt8 := 0x15
def tagEnum : UInt8 := 0x16
def tagDateTime : UInt8 := 0x19

/-! ## Encoders -/

def encodeNull : Except PyExc Bytes := .ok [tagNullData]

/-- The shape of the six integer encoders: the tag, then `w` big-endian bytes. -/
def encodeNumber (tag : UInt8) (number : Except PyExc Bytes) : Except PyExc Bytes :=
  number.map fun bs => tag :: bs

def encodeDoubleLongUnsigned (value : Int) : Except PyExc Bytes :=
  encodeNumber tagDoubleLongUnsigned (toBytes 4 value)

def encodeDoubleLong (value : Int) : Except PyExc Bytes :=
  encodeNumber tagDoubleLong (toBytesSigned 4 value)

def encodeLongUnsigned (value : Int) : Except PyExc Bytes :=
  encodeNumber tagLongUnsigned (toBytes 2 value)

def encodeLong (value : Int) : Except PyExc Bytes :=
  encodeNumber tagLong (toBytesSigned 2 value)

def encodeUnsigned (value : Int) : Except PyExc Bytes :=
  encodeNumber tagUnsigned (toBytes 1 value)

def encodeInteger (value : Int) : Except PyExc Bytes :=
  encodeNumber tagInteger (toBytesSigned 1 value)

def encodeOctetString (value : Bytes) : Except PyExc Bytes :=
  if 0x7F < value.length then
    .error (.dlmsData [.text "Длины octet-string свыше 127 байт не поддержаны в Этапе 0"])
  else .ok (tagOctetString :: UInt8.ofNat value.length :: value)

/-- `value.encode("ascii")`. -/
def asciiEncode (value : String) : Except PyExc Bytes :=
  if value.toList.all (fun c => c.toNat < 128) then
    .ok (value.toList.map fun c => UInt8.ofNat c.toNat)
  else .error .unicodeError

/-- `raw.decode("ascii")`. -/
def asciiDecode (raw : Bytes) : Except PyExc String :=
  if raw.all (fun b => b < 128) then .ok (String.ofList (raw.map fun b => Char.ofNat b.toNat))
  else .error .unicodeError

def encodeVisibleString (value : String) : Except PyExc Bytes := do
  let raw ← asciiEncode value
  if 0x7F < raw.length then
    .error (.dlmsData [.text "Длины visible-string свыше 127 байт не поддержаны в Этапе 0"])
  else .ok (tagVisibleString :: UInt8.ofNat raw.length :: raw)

def encodeStructure (items : List Bytes) : Except PyExc Bytes :=
  if 0xFF < items.length then
    .error (.dlmsData [.text "Структуры свыше 255 элементов не поддержаны в Этапе 3"])
  else .ok (tagStructure :: UInt8.ofNat items.length :: items.flatten)

def encodeArray (items : List Bytes) : Except PyExc Bytes :=
  if 0xFF < items.length then
    .error (.dlmsData [.text "Массивы свыше 255 элементов не поддержаны в Этапе 3"])
  else .ok (tagArray :: UInt8.ofNat items.length :: items.flatten)

/-- The twelve bytes of a cosem-date-time: hundredths, deviation and status are "not specified". -/
def encodeCosemDateTime (dt : DateTime) : Bytes :=
  Bytes.toBE 2 dt.year ++
    [UInt8.ofNat dt.month, UInt8.ofNat dt.day, UInt8.ofNat dt.isoweekday, UInt8.ofNat dt.hour,
     UInt8.ofNat dt.minute, UInt8.ofNat dt.second, 0xFF] ++
    Bytes.toBE 2 0x8000 ++ [0xFF]

def encodeDateTime (dt : DateTime) : Except PyExc Bytes := .ok (tagDateTime :: encodeCosemDateTime dt)

/-! ## The decoder -/

def decodeCosemDateTime (raw : Bytes) : Except PyExc DateTime :=
  if raw.length ≠ 12 then
    .error (.dlmsData [.text "cosem-date-time должен быть ровно 12 байт, получено ",
      .int raw.length])
  else do
    let month ← byteAt raw 2
    let day ← byteAt raw 3
    let hour ← byteAt raw 5
    let minute ← byteAt raw 6
    let second ← byteAt raw 7
    match DateTime.make? (Bytes.fromBE (Bytes.slice raw 0 2)) month.toNat day.toNat hour.toNat
        minute.toNat second.toNat with
    | some dt => .ok dt
    | none => .error (.valueError [])

/-- `_require`: `length` bytes must be left at `pos`. -/
def require (data : Bytes) (pos length : Nat) : Except PyExc Unit :=
  if data.length < pos + length then
    .error (.dlmsData [.text "Данные DLMS обрываются раньше заявленной длины значения"])
  else .ok ()

def emptyData : PyExc := .dlmsData [.text "Пустые данные при разборе значения DLMS"]

/-- An integer of `w` bytes at `pos`; one byte of tag and `w` of value are consumed. -/
def decodeNumber (read : Bytes → Int) (w : Nat) (data : Bytes) (pos : Nat) :
    Except PyExc (Value × Nat) := do
  require data pos w
  .ok (.int (read (Bytes.slice data pos (pos + w))), w + 1)

def readUnsigned (bs : Bytes) : Int := Bytes.fromBE bs

/-- The element loop of arrays and structures: `count` values from `pos` on, each read by `dec`. -/
def decodeItems (dec : Nat → Except PyExc (Value × Nat)) :
    Nat → Nat → Except PyExc (List Value × Nat)
  | 0, pos => .ok ([], pos)
  | count + 1, pos => do
    let (item, consumed) ← dec pos
    let (items, pos') ← decodeItems dec count (pos + consumed)
    .ok (item :: items, pos')

/-- A visible string is text, an octet string stays raw. -/
def stringValue (tag : UInt8) (raw : Bytes) : Except PyExc Value :=
  if tag = tagVisibleString then (asciiDecode raw).map Value.text else .ok (.bytes raw)

/-- The body of `decode_value`; `dec` is the recursive call on the same data. -/
def decodeBody (dec : Nat → Except PyExc (Value × Nat)) (data : Bytes) (offset : Nat) :
    Except PyExc (Value × Nat) :=
  if data.length ≤ offset then .error emptyData
  else do
    let tag ← byteAt data offset
    let pos := offset + 1
    if tag = tagNullData then .ok (.null, 1)
    else if tag = tagDoubleLongUnsigned then decodeNumber readUnsigned 4 data pos
    else if tag = tagDoubleLong then decodeNumber Bytes.signedBE 4 data pos
    else if tag = tagLong64Unsigned then decodeNumber readUnsigned 8 data pos
    else if tag = tagLong64 then decodeNumber Bytes.signedBE 8 data pos
    else if tag = tagLongUnsigned then decodeNumber readUnsigned 2 data pos
    else if tag = tagLong then decodeNumber Bytes.signedBE 2 data pos
    else if tag = tagUnsigned ∨ tag = tagEnum then decodeNumber readUnsigned 1 data pos
    else if tag = tagInteger then decodeNumber Bytes.signedBE 1 data pos
    else if tag = tagOctetString ∨ tag = tagVisibleString then do
      require data pos 1
      let length ← byteAt data pos
      let pos := pos + 1
      require data pos length.toNat
      let raw := Bytes.slice data pos (pos + length.toNat)
      let value ← stringValue tag raw
      .ok (value, pos + length.toNat - offset)
    else if tag = tagArray ∨ tag = tagStructure then do
      require data pos 1
      let count ← byteAt data pos
      let (items, pos') ← decodeItems dec count.toNat (pos + 1)
      .ok (.list items, pos' - offset)
    else if tag = tagDateTime then do
      require data pos 12
      let dt ← decodeCosemDateTime (Bytes.slice data pos (pos + 12))
      .ok (.date dt, 13)
    else .error (.dlmsData [.text "Неподдержанный тег типа данных DLMS: 0x", .hexByte tag.toNat])

/-- `decode_value` with at most `fuel` nested calls.  A position that can be reached without fuel
    lies past the end of the data, where the source raises the same error. -/
def decodeValueAt : Nat → Bytes → Nat → Except PyExc (Value × Nat)
  | 0, _, _ => .error emptyData
  | fuel + 1, data, offset => decodeBody (decodeValueAt fuel data) data offset

/-- `decode_value(data, offset)`. -/
def decodeValue (data : Bytes) (offset : Nat) : Except PyExc (Value × Nat) :=
  decodeValueAt (data.length - offset) data offset

/-! ## The recursion equation, without fuel -/

/-- The element loop only looks at positions from its own on. -/
theorem decodeItems_congr {dec dec' : Nat → Except PyExc (Value × Nat)} :
    ∀ (count pos : Nat), (∀ q, pos ≤ q → dec q = dec' q) →
      decodeItems dec count pos = decodeItems dec' count pos := by
  intro count
  induction count with
  | zero => intro pos _; rfl
  | succ count ih =>
    intro pos h
    simp only [decodeItems]
    rw [← h pos (Nat.le_refl pos)]
    cases dec pos with
    | error e => rfl
    | ok r =>
      have hrest := ih (pos + r.2) (fun q hq => h q (by omega))
      show ((decodeItems dec count (pos + r.2)) >>= _) = ((decodeItems dec' count (pos + r.2)) >>= _)
      rw [hrest]

/-- A nested value starts at least two bytes after the value it is part of. -/
theorem decodeBody_congr {dec dec' : Nat → Except PyExc (Value × Nat)} (data : Bytes)
    (offset : Nat) (h : ∀ q, offset + 2 ≤ q → dec q = dec' q) :
    decodeBody dec data offset = decodeBody dec' data offset := by
  unfold decodeBody
  have hitems : ∀ count, decodeItems dec count (offset + 1 + 1) =
      decodeItems dec' count (offset + 1 + 1) := fun count =>
    decodeItems_congr count _ (fun q hq => h q (by omega))
  simp only [hitems]

/-- Any two fuels that cover the rest of the data give the same result. -/
theorem decodeValueAt_fuel (data : Bytes) : ∀ (fuel fuel' offset : Nat),
    data.length - offset ≤ fuel → data.length - offset ≤ fuel' →
      decodeValueAt fuel data offset = decodeValueAt fuel' data offset := by
  -- past the end of the data the body raises what the empty fuel raises
  have hend : ∀ fuel offset, data.length - offset = 0 →
      decodeValueAt fuel data offset = .error emptyData := by
    intro fuel offset h
    cases fuel with
    | zero => rfl
    | succ fuel => exact if_pos (by omega)
  intro fuel
  induction fuel with
  | zero =>
    intro fuel' offset h _
    rw [hend 0 offset (by omega), hend fuel' offset (by omega)]
  | succ fuel ih =>
    intro fuel' offset h h'
    cases fuel' with
    | zero => rw [hend 0 offset (by omega), hend (fuel + 1) offset (by omega)]
    | succ fuel' =>
      simp only [decodeValueAt]
      apply decodeBody_congr
      intro q hq
      exact ih fuel' q (by omega) (by omega)

/-- The recursion equation of `decode_value`, in which the fuel no longer occurs. -/
theorem decodeValue_eq (data : Bytes) (offset : Nat) :
    decodeValue data offset = decodeBody (decodeValue data) data offset := by
  have hstep : decodeValue data offset =
      decodeValueAt (data.length - offset + 1) data offset :=
    decodeValueAt_fuel data _ _ offset (Nat.le_refl _) (by omega)
  rw [hstep, decodeValueAt]
  apply decodeBody_congr
  intro q hq
  exact decodeValueAt_fuel data _ _ q (by omega) (Nat.le_refl _)

/-! ## What the decoder raises -/

theorem require_eq_error {data : Bytes} {pos length : Nat} {e : PyExc}
    (h : require data pos length = .error e) : e.isValueError = true := by
  unfold require at h
  split at h
  · cases h
    rfl
  · cases h

theorem require_eq_ok {data : Bytes} {pos length : Nat} {u : Unit}
    (h : require data pos length = .ok u) : pos + length ≤ data.length := by
  unfold require at h
  split at h
  · cases h
  · omega

theorem decodeNumber_error {read : Bytes → Int} {w : Nat} {data : Bytes} {pos : Nat} {e : PyExc}
    (h : decodeNumber read w data pos = .error e) : e.isValueError = true := by
  unfold decodeNumber at h
  rcases Result.bind_eq_error h with h | ⟨_, _, h⟩
  · exact require_eq_error h
  · cases h

theorem decodeCosemDateTime_error {raw : Bytes} {e : PyExc}
    (h : decodeCosemDateTime raw = .error e) : e.isValueError = true := by
  unfold decodeCosemDateTime at h
  split at h
  · cases h
    rfl
  · rename_i hlen
    -- all five positions are inside the twelve bytes
    have hpos : ∀ i, i < 12 → ∀ {e}, byteAt raw i ≠ .error e := by
      intro i hi e he
      have := (byteAt_eq_error he).1
      omega
    rcases Result.bind_eq_error h with h | ⟨month, _, h⟩
    · exact absurd h (hpos 2 (by omega))
    rcases Result.bind_eq_error h with h | ⟨day, _, h⟩
    · exact absurd h (hpos 3 (by omega))
    rcases Result.bind_eq_error h with h | ⟨hour, _, h⟩
    · exact absurd h (hpos 5 (by omega))
    rcases Result.bind_eq_error h with h | ⟨minute, _, h⟩
    · exact absurd h (hpos 6 (by omega))
    rcases Result.bind_eq_error h with h | ⟨second, _, h⟩
    · exact absurd h (hpos 7 (by omega))
    split at h
    · cases h
    · cases h
      rfl

theorem stringValue_error {tag : UInt8} {raw : Bytes} {e : PyExc}
    (h : stringValue tag raw = .error e) : e.isValueError = true := by
  unfold stringValue asciiDecode at h
  split at h
  · split at h
    · cases h
    · cases h
      rfl
  · cases h

theorem decodeItems_error {dec : Nat → Except PyExc (Value × Nat)}
    (hdec : ∀ q e, dec q = .error e → e.isValueError = true) :
    ∀ (count pos : Nat) (e : PyExc), decodeItems dec count pos = .error e →
      e.isValueError = true := by
  intro count
  induction count with
  | zero =>
    intro pos e h
    cases h
  | succ count ih =>
    intro pos e h
    unfold decodeItems at h
    rcases Result.bind_eq_error h with h | ⟨⟨item, consumed⟩, _, h⟩
    · exact hdec pos e h
    · rcases Result.bind_eq_error h with h | ⟨_, _, h⟩
      · exact ih _ e h
      · cases h

theorem decodeBody_error {dec : Nat → Except PyExc (Value × Nat)}
    (hdec : ∀ q e, dec q = .error e → e.isValueError = true) {data : Bytes} {offset : Nat}
    {e : PyExc} (h : decodeBody dec data offset = .error e) : e.isValueError = true := by
  unfold decodeBody at h
  rcases ite_eq_iff.mp h with ⟨_, h⟩ | ⟨hoffset, h⟩
  · cases h
    rfl
  · rcases Result.bind_eq_error h with h | ⟨tag, _, h⟩
    · have := (byteAt_eq_error h).1
      omega
    -- the scalar tags
    rcases ite_eq_iff.mp h with ⟨_, h⟩ | ⟨_, h⟩
    · cases h
    iterate 8
      rcases ite_eq_iff.mp h with ⟨_, h⟩ | ⟨_, h⟩
      · exact decodeNumber_error h
    rcases ite_eq_iff.mp h with ⟨_, h⟩ | ⟨_, h⟩
    · rcases Result.bind_eq_error h with h | ⟨_, hone, h⟩
      · exact require_eq_error h
      have hlen := require_eq_ok hone
      rcases Result.bind_eq_error h with h | ⟨length, _, h⟩
      · have := (byteAt_eq_error h).1
        omega
      rcases Result.bind_eq_error h with h | ⟨_, _, h⟩
      · exact require_eq_error h
      rcases Result.bind_eq_error h with h | ⟨_, _, h⟩
      · exact stringValue_error h
      · cases h
    rcases ite_eq_iff.mp h with ⟨_, h⟩ | ⟨_, h⟩
    · rcases Result.bind_eq_error h with h | ⟨_, hone, h⟩
      · exact require_eq_error h
      have hlen := require_eq_ok hone
      rcases Result.bind_eq_error h with h | ⟨count, _, h⟩
      · have := (byteAt_eq_error h).1
        omega
      rcases Result.bind_eq_error h with h | ⟨_, _, h⟩
      · exact decodeItems_error hdec _ _ e h
      · cases h
    rcases ite_eq_iff.mp h with ⟨_, h⟩ | ⟨_, h⟩
    · rcases Result.bind_eq_error h with h | ⟨_, _, h⟩
      · exact require_eq_error h
      rcases Result.bind_eq_error h with h | ⟨_, _, h⟩
      · exact decodeCosemDateTime_error h
      · cases h
    · cases h
      rfl

theorem decodeValueAt_error : ∀ (fuel : Nat) (data : Bytes) (offset : Nat) (e : PyExc),
    decodeValueAt fuel data offset = .error e → e.isValueError = true := by
  intro fuel
  induction fuel with
  | zero =>
    intro data offset e h
    cases h
    rfl
  | succ fuel ih =>
    intro data offset e h
    exact decodeBody_error (ih data) h

/-- Whatever the bytes are, `decode_value` raises nothing but `ValueError`s. -/
theorem decodeValue_error {data : Bytes} {offset : Nat} {e : PyExc}
    (h : decodeValue data offset = .error e) : e.isValueError = true :=
  decodeValueAt_error _ data offset e h

/-! ## Value trees -/

/-- A value as the encoders build it: one constructor per encoder. -/
inductive Tree
  | null
  | doubleLongUnsigned (n : Int)
  | doubleLong (n : Int)
  | longUnsigned (n : Int)
  | long (n : Int)
  | unsigned (n : Int)
  | integer (n : Int)
  | octetString (b : Bytes)
  | visibleString (s : String)
  | dateTime (d : DateTime)
  | struct (items : List Tree)
  | array (items : List Tree)

namespace Tree

mutual

/-- Build the bytes of a tree bottom-up with the encoders. -/
def encode : Tree → Except PyExc Bytes
  | .null => encodeNull
  | .doubleLongUnsigned n => encodeDoubleLongUnsigned n
  | .doubleLong n => encodeDoubleLong n
  | .longUnsigned n => encodeLongUnsigned n
  | .long n => encodeLong n
  | .unsigned n => encodeUnsigned n
  | .integer n => encodeInteger n
  | .octetString b => encodeOctetString b
  | .visibleString s => encodeVisibleString s
  | .dateTime d => encodeDateTime d
  | .struct items => do encodeStructure (← encodeAll items)
  | .array items => do encodeArray (← encodeAll items)

def encodeAll : List Tree → Except PyExc (List Bytes)
  | [] => .ok []
  | t :: ts => do
    let b ← encode t
    let bs ← encodeAll ts
    .ok (b :: bs)

end

mutual

/-- The Python value the tree stands for. -/
def value : Tree → Value
  | .null => .null
  | .doubleLongUnsigned n | .doubleLong n | .longUnsigned n | .long n | .unsigned n
  | .integer n => .int n
  | .octetString b => .bytes b
  | .visibleString s => .text s
  | .dateTime d => .date d
  | .struct items | .array items => .list (valueAll items)

def valueAll : List Tree → List Value
  | [] => []
  | t :: ts => value t :: valueAll ts

end

mutual

/-- What the encoders accept: every integer of its width, strings of up to 127 bytes, ASCII text,
    dates in whole seconds without time zone, up to 255 elements. -/
def Encodable : Tree → Prop
  | .null => True
  | .doubleLongUnsigned n => 0 ≤ n ∧ n < 2 ^ 32
  | .doubleLong n => -2 ^ 31 ≤ n ∧ n < 2 ^ 31
  | .longUnsigned n => 0 ≤ n ∧ n < 2 ^ 16
  | .long n => -2 ^ 15 ≤ n ∧ n < 2 ^ 15
  | .unsigned n => 0 ≤ n ∧ n < 2 ^ 8
  | .integer n => -2 ^ 7 ≤ n ∧ n < 2 ^ 7
  | .octetString b => b.length ≤ 127
  | .visibleString s => s.toList.all (fun c => c.toNat < 128) = true ∧ s.toList.length ≤ 127
  | .dateTime d => d.Plain
  | .struct items | .array items => items.length ≤ 255 ∧ EncodableAll items

def EncodableAll : List Tree → Prop
  | [] => True
  | t :: ts => Encodable t ∧ EncodableAll ts

end

theorem valueAll_length (ts : List Tree) : (valueAll ts).length = ts.length := by
  induction ts with
  | nil => rfl
  | cons t ts ih => rw [valueAll, List.length_cons, List.length_cons, ih]

end Tree

/-! ## Round trip

  `Decodes bytes v` is the invariant of the induction: wherever `bytes` stands in a longer string,
  the decoder reads `v` there and consumes exactly `bytes`. -/

/-- The decoder reads `v` off `bytes`, whatever stands before and after. -/
def Decodes (bytes : Bytes) (v : Value) : Prop :=
  ∀ pre suf : Bytes, decodeValue (pre ++ bytes ++ suf) pre.length = .ok (v, bytes.length)

theorem require_ok {data : Bytes} {pos length : Nat} (h : pos + length ≤ data.length) :
    require data pos length = .ok () := by
  unfold require
  rw [if_neg (by omega)]

/-- Reading the tag byte: the branch is chosen by the first byte of the encoding. -/
theorem decodeValue_cons (pre rest suf : Bytes) (tag : UInt8) :
    decodeValue (pre ++ tag :: rest ++ suf) pre.length =
      decodeBody (decodeValue (pre ++ tag :: rest ++ suf)) (pre ++ tag :: rest ++ suf) pre.length ∧
    byteAt (pre ++ tag :: rest ++ suf) pre.length = .ok tag ∧
    ¬ (pre ++ tag :: rest ++ suf).length ≤ pre.length := by
  refine ⟨decodeValue_eq _ _, ?_, ?_⟩
  · rw [List.append_assoc]
    exact byteAt_append_length pre _ tag
  · simp only [List.length_append, List.length_cons]
    omega

/-- The slice after the tag byte consists of the bytes that were put there. -/
theorem slice_after_tag (pre q suf : Bytes) (tag : UInt8) :
    Bytes.slice (pre ++ tag :: q ++ suf) (pre.length + 1) (pre.length + 1 + q.length) = q := by
  have h := Bytes.slice_mid (pre ++ [tag]) q suf
  rw [List.length_append] at h
  simpa using h

theorem decodeNumber_ok (read : Bytes → Int) (pre q suf : Bytes) (tag : UInt8) :
    decodeNumber read q.length (pre ++ tag :: q ++ suf) (pre.length + 1) =
      .ok (.int (read q), (tag :: q).length) := by
  have hreq : require (pre ++ tag :: q ++ suf) (pre.length + 1) q.length = .ok () := by
    apply require_ok
    simp only [List.length_append, List.length_cons]
    omega
  simp only [decodeNumber, hreq, slice_after_tag]
  rfl

/-- The integer branches: `decodeBody` hands over to `decodeNumber`. -/
theorem decodes_number (tag : UInt8) (read : Bytes → Int) (q : Bytes)
    (hbranch : ∀ dec data offset, ¬ data.length ≤ offset → byteAt data offset = .ok tag →
      decodeBody dec data offset = decodeNumber read q.length data (offset + 1)) :
    Decodes (tag :: q) (.int (read q)) := by
  intro pre suf
  obtain ⟨hrec, htag, hlen⟩ := decodeValue_cons pre q suf tag
  rw [hrec, hbranch _ _ _ hlen htag]
  exact decodeNumber_ok read pre q suf tag

/-- An unsigned encoder of `w` bytes, over the whole range of its width. -/
theorem unsigned_decodes {tag : UInt8} {w : Nat} {n : Int} (h0 : 0 ≤ n) (h1 : n < 256 ^ w)
    (hbranch : ∀ dec data offset, ¬ data.length ≤ offset → byteAt data offset = .ok tag →
      decodeBody dec data offset = decodeNumber readUnsigned w data (offset + 1)) :
    ∃ bytes, encodeNumber tag (toBytes w n) = .ok bytes ∧ Decodes bytes (.int n) := by
  have hn : n.toNat < 256 ^ w := by
    have : ((256 ^ w : Nat) : Int) = 256 ^ w := by push_cast; rfl
    omega
  have hread : readUnsigned (Bytes.toBE w n.toNat) = n := by
    rw [readUnsigned, Bytes.fromBE_toBE w _ hn]
    omega
  refine ⟨tag :: Bytes.toBE w n.toNat, ?_, ?_⟩
  · rw [toBytes, if_pos ⟨h0, h1⟩]
    rfl
  · have hdec := decodes_number tag readUnsigned (Bytes.toBE w n.toNat)
      (by rwa [Bytes.toBE_length])
    rwa [hread] at hdec

/-- A signed encoder of `w` bytes, over the whole range of its width. -/
theorem signed_decodes {tag : UInt8} {w : Nat} {n : Int} (h0 : -(256 ^ w : Int) ≤ 2 * n)
    (h1 : 2 * n < 256 ^ w)
    (hbranch : ∀ dec data offset, ¬ data.length ≤ offset → byteAt data offset = .ok tag →
      decodeBody dec data offset = decodeNumber Bytes.signedBE w data (offset + 1)) :
    ∃ bytes, encodeNumber tag (toBytesSigned w n) = .ok bytes ∧ Decodes bytes (.int n) := by
  have hread : Bytes.signedBE (Bytes.toSignedBE w n) = n := Bytes.signedBE_toSignedBE w n h0 h1
  refine ⟨tag :: Bytes.toSignedBE w n, ?_, ?_⟩
  · rw [toBytesSigned, if_pos ⟨h0, h1⟩]
    rfl
  · have hdec := decodes_number tag Bytes.signedBE (Bytes.toSignedBE w n)
      (by rwa [Bytes.toSignedBE_length])
    rwa [hread] at hdec

/-! ### Strings -/

theorem asciiDecode_encode {s : String} (h : s.toList.all (fun c => c.toNat < 128) = true) :
    asciiDecode (s.toList.map fun c => UInt8.ofNat c.toNat) = .ok s := by
  have hlt : ∀ c ∈ s.toList, c.toNat < 128 := by
    intro c hc
    simpa using List.all_eq_true.mp h c hc
  have hbytes : (s.toList.map fun c => UInt8.ofNat c.toNat).all (fun b => b < 128) = true := by
    rw [List.all_eq_true]
    intro b hb
    obtain ⟨c, hc, rfl⟩ := List.mem_map.mp hb
    have := hlt c hc
    simp only [decide_eq_true_eq, UInt8.lt_iff_toNat_lt, UInt8.toNat_ofNat']
    show c.toNat % 256 < 128
    omega
  have hchars : (s.toList.map fun c => UInt8.ofNat c.toNat).map
      (fun b => Char.ofNat b.toNat) = s.toList := by
    rw [List.map_map]
    conv_rhs => rw [← List.map_id s.toList]
    apply List.map_congr_left
    intro c hc
    have := hlt c hc
    have hmod : (UInt8.ofNat c.toNat).toNat = c.toNat := by
      simp only [UInt8.toNat_ofNat']
      omega
    simp only [Function.comp, hmod, id, Char.ofNat_toNat]
  rw [asciiDecode, if_pos hbytes, hchars, String.ofList_toList]

/-- The length byte after the tag, and the slice after it. -/
theorem string_layout (pre raw suf : Bytes) (tag : UInt8) (hlen : raw.length ≤ 255) :
    let data := pre ++ (tag :: UInt8.ofNat raw.length :: raw) ++ suf
    require data (pre.length + 1) 1 = .ok () ∧
    byteAt data (pre.length + 1) = .ok (UInt8.ofNat raw.length) ∧
    (UInt8.ofNat raw.length).toNat = raw.length ∧
    require data (pre.length + 1 + 1) raw.length = .ok () ∧
    Bytes.slice data (pre.length + 1 + 1) (pre.length + 1 + 1 + raw.length) = raw := by
  intro data
  have hdata : data = (pre ++ [tag]) ++ UInt8.ofNat raw.length :: (raw ++ suf) := by
    simp [data]
  have hdlen : data.length = pre.length + 2 + raw.length + suf.length := by
    simp [data]
    omega
  refine ⟨require_ok (by omega), ?_, ?_, require_ok (by omega), ?_⟩
  · have h := byteAt_append_length (pre ++ [tag]) (raw ++ suf) (UInt8.ofNat raw.length)
    rw [← hdata] at h
    simpa using h
  · simp only [UInt8.toNat_ofNat']
    omega
  · have h := Bytes.slice_mid (pre ++ [tag, UInt8.ofNat raw.length]) raw suf
    simpa [data] using h

/-- The string branch on a well-formed string; `value` is what the tag makes of the raw bytes. -/
theorem decodes_string {tag : UInt8} {raw : Bytes} {value : Value} (hlen : raw.length ≤ 255)
    (htags : tag = tagOctetString ∨ tag = tagVisibleString)
    (hvalue : stringValue tag raw = .ok value) :
    Decodes (tag :: UInt8.ofNat raw.length :: raw) value := by
  intro pre suf
  obtain ⟨hrec, htag, hin⟩ := decodeValue_cons pre (UInt8.ofNat raw.length :: raw) suf tag
  obtain ⟨hreq1, hcount, hnat, hreq, hslice⟩ := string_layout pre raw suf tag hlen
  have htotal : pre.length + 1 + 1 + raw.length - pre.length =
      (tag :: UInt8.ofNat raw.length :: raw).length := by
    simp only [List.length_cons]
    omega
  have hother : tag ≠ tagNullData ∧ tag ≠ tagDoubleLongUnsigned ∧ tag ≠ tagDoubleLong ∧
      tag ≠ tagLong64Unsigned ∧ tag ≠ tagLong64 ∧ tag ≠ tagLongUnsigned ∧ tag ≠ tagLong ∧
      ¬ (tag = tagUnsigned ∨ tag = tagEnum) ∧ tag ≠ tagInteger := by
    rcases htags with rfl | rfl <;> decide
  rw [hrec, decodeBody, if_neg hin, htag]
  simp only [Result.ok_bind, hother, if_false, htags, if_true, hreq1, hcount, hnat, hreq, hslice,
    hvalue, htotal]

theorem octetString_decodes {b : Bytes} (h : b.length ≤ 127) :
    ∃ bytes, encodeOctetString b = .ok bytes ∧ Decodes bytes (.bytes b) := by
  refine ⟨tagOctetString :: UInt8.ofNat b.length :: b, if_neg (by omega), ?_⟩
  exact decodes_string (by omega) (.inl rfl) rfl

theorem visibleString_decodes {s : String} (hascii : s.toList.all (fun c => c.toNat < 128) = true)
    (hlen : s.toList.length ≤ 127) :
    ∃ bytes, encodeVisibleString s = .ok bytes ∧ Decodes bytes (.text s) := by
  have hraw : (s.toList.map fun c => UInt8.ofNat c.toNat).length ≤ 127 := by
    rwa [List.length_map]
  refine ⟨tagVisibleString :: UInt8.ofNat (s.toList.map fun c => UInt8.ofNat c.toNat).length ::
    s.toList.map fun c => UInt8.ofNat c.toNat, ?_, ?_⟩
  · rw [encodeVisibleString, asciiEncode, if_pos hascii, Result.ok_bind, if_neg (by omega)]
  · refine decodes_string (by omega) (.inr rfl) ?_
    rw [stringValue, if_pos rfl, asciiDecode_encode hascii]
    rfl

/-! ### Dates -/

/-- Year (two bytes), month, day, hour, minute, second stand at their places. -/
theorem decodeCosemDateTime_encode {d : DateTime} (h : d.Plain) :
    decodeCosemDateTime (encodeCosemDateTime d) = .ok d := by
  have hv := d.valid
  obtain ⟨⟨_, hy⟩, ⟨_, hmo⟩, ⟨_, hd⟩, hh, hmi, hs, _⟩ := hv
  have hday : d.day < 256 := by
    have : daysInMonth d.year d.month ≤ 31 := by
      unfold daysInMonth
      split
      · split <;> omega
      · split <;> omega
    omega
  have hlen : (encodeCosemDateTime d).length = 12 := by simp [encodeCosemDateTime]
  have hyear : Bytes.slice (encodeCosemDateTime d) 0 2 = Bytes.toBE 2 d.year := by
    simp [encodeCosemDateTime, Bytes.slice, Bytes.toBE, Bytes.toLE]
  have hfield : ∀ n : Nat, n < 256 → (UInt8.ofNat n).toNat = n := by
    intro n hn
    simp only [UInt8.toNat_ofNat']
    omega
  have hbytes : byteAt (encodeCosemDateTime d) 2 = .ok (UInt8.ofNat d.month) ∧
      byteAt (encodeCosemDateTime d) 3 = .ok (UInt8.ofNat d.day) ∧
      byteAt (encodeCosemDateTime d) 5 = .ok (UInt8.ofNat d.hour) ∧
      byteAt (encodeCosemDateTime d) 6 = .ok (UInt8.ofNat d.minute) ∧
      byteAt (encodeCosemDateTime d) 7 = .ok (UInt8.ofNat d.second) := by
    simp [encodeCosemDateTime, Bytes.toBE, Bytes.toLE, byteAt]
  rw [decodeCosemDateTime, if_neg (by simp [hlen]), hyear, Bytes.fromBE_toBE 2 _ (by omega)]
  simp only [hbytes, Result.ok_bind, hfield d.month (by omega), hfield d.day hday,
    hfield d.hour (by omega), hfield d.minute (by omega), hfield d.second (by omega),
    DateTime.make?_fields d h]

theorem decodes_dateTime {d : DateTime} (h : d.Plain) :
    Decodes (tagDateTime :: encodeCosemDateTime d) (.date d) := by
  intro pre suf
  obtain ⟨hrec, htag, hin⟩ := decodeValue_cons pre (encodeCosemDateTime d) suf tagDateTime
  have hlen : (encodeCosemDateTime d).length = 12 := by simp [encodeCosemDateTime]
  have hreq : require (pre ++ tagDateTime :: encodeCosemDateTime d ++ suf) (pre.length + 1) 12 =
      .ok () := by
    apply require_ok
    simp only [List.length_append, List.length_cons]
    omega
  have hslice := slice_after_tag pre (encodeCosemDateTime d) suf tagDateTime
  rw [hlen] at hslice
  rw [hrec, decodeBody, if_neg hin, htag]
  simp +decide only [Result.ok_bind, if_false, if_true, hreq, hslice,
    decodeCosemDateTime_encode h, List.length_cons, hlen]

/-! ### Lists -/

/-- The list branch: the count byte, then the elements, which `decodeItems` reads in order. -/
theorem decodes_list {tag : UInt8} {items : List Value} {body : Bytes} (hcount : items.length ≤ 255)
    (htags : tag = tagArray ∨ tag = tagStructure)
    (hitems : ∀ pre suf : Bytes, decodeItems (decodeValue (pre ++ body ++ suf)) items.length
      pre.length = .ok (items, pre.length + body.length)) :
    Decodes (tag :: UInt8.ofNat items.length :: body) (.list items) := by
  intro pre suf
  obtain ⟨hrec, htag, hin⟩ := decodeValue_cons pre (UInt8.ofNat items.length :: body) suf tag
  have hbyte : byteAt (pre ++ tag :: (UInt8.ofNat items.length :: body) ++ suf) (pre.length + 1) =
      .ok (UInt8.ofNat items.length) := by
    have h := byteAt_append_length (pre ++ [tag]) (body ++ suf) (UInt8.ofNat items.length)
    simpa using h
  have hnat : (UInt8.ofNat items.length).toNat = items.length := by
    simp only [UInt8.toNat_ofNat']
    omega
  have hreq : require (pre ++ tag :: (UInt8.ofNat items.length :: body) ++ suf) (pre.length + 1) 1 =
      .ok () := by
    apply require_ok
    simp only [List.length_append, List.length_cons]
    omega
  have hloop : decodeItems (decodeValue (pre ++ tag :: (UInt8.ofNat items.length :: body) ++ suf))
      items.length (pre.length + 1 + 1) = .ok (items, pre.length + 1 + 1 + body.length) := by
    have h := hitems (pre ++ [tag, UInt8.ofNat items.length]) suf
    simpa using h
  have hother : tag ≠ tagNullData ∧ tag ≠ tagDoubleLongUnsigned ∧ tag ≠ tagDoubleLong ∧
      tag ≠ tagLong64Unsigned ∧ tag ≠ tagLong64 ∧ tag ≠ tagLongUnsigned ∧ tag ≠ tagLong ∧
      ¬ (tag = tagUnsigned ∨ tag = tagEnum) ∧ tag ≠ tagInteger ∧
      ¬ (tag = tagOctetString ∨ tag = tagVisibleString) := by
    rcases htags with rfl | rfl <;> decide
  have htotal : pre.length + 1 + 1 + body.length - pre.length =
      (tag :: UInt8.ofNat items.length :: body).length := by
    simp only [List.length_cons]
    omega
  rw [hrec, decodeBody, if_neg hin, htag]
  simp only [Result.ok_bind, hother, if_false, htags, if_true, hreq, hbyte, hnat, hloop, htotal]

/-! ### The induction -/

mutual

/-- Every encodable tree is encoded, and its encoding decodes to its value. -/
theorem Tree.encode_decodes : ∀ t : Tree, t.Encodable →
    ∃ bytes, t.encode = .ok bytes ∧ Decodes bytes t.value
  | .null, _ => by
    refine ⟨[tagNullData], rfl, ?_⟩
    intro pre suf
    obtain ⟨hrec, htag, hin⟩ := decodeValue_cons pre [] suf tagNullData
    rw [hrec, decodeBody, if_neg hin, htag]
    rfl
  | .doubleLongUnsigned n, h => unsigned_decodes h.1 (by norm_num; exact h.2)
      fun dec data offset hin htag => by rw [decodeBody, if_neg hin, htag]; rfl
  | .doubleLong n, h => signed_decodes (by have := h.1; omega) (by have := h.2; omega)
      fun dec data offset hin htag => by rw [decodeBody, if_neg hin, htag]; rfl
  | .longUnsigned n, h => unsigned_decodes h.1 (by norm_num; exact h.2)
      fun dec data offset hin htag => by rw [decodeBody, if_neg hin, htag]; rfl
  | .long n, h => signed_decodes (by have := h.1; omega) (by have := h.2; omega)
      fun dec data offset hin htag => by rw [decodeBody, if_neg hin, htag]; rfl
  | .unsigned n, h => unsigned_decodes h.1 (by norm_num; exact h.2)
      fun dec data offset hin htag => by rw [decodeBody, if_neg hin, htag]; rfl
  | .integer n, h => signed_decodes (by have := h.1; omega) (by have := h.2; omega)
      fun dec data offset hin htag => by rw [decodeBody, if_neg hin, htag]; rfl
  | .octetString _, h => octetString_decodes h
  | .visibleString _, h => visibleString_decodes h.1 h.2
  | .dateTime _, h => ⟨_, rfl, decodes_dateTime h⟩
  | .struct items, h => by
    obtain ⟨bss, henc, hlen, hdec⟩ := Tree.encodeAll_decodes items h.2
    have hvals : (Tree.valueAll items).length = items.length := Tree.valueAll_length items
    refine ⟨tagStructure :: UInt8.ofNat bss.length :: bss.flatten, ?_, ?_⟩
    · rw [Tree.encode, henc, Result.ok_bind, encodeStructure, if_neg (by have := h.1; omega)]
    · rw [hlen, ← hvals]
      refine decodes_list (by have := h.1; omega) (.inr rfl) ?_
      rw [hvals]
      exact hdec
  | .array items, h => by
    obtain ⟨bss, henc, hlen, hdec⟩ := Tree.encodeAll_decodes items h.2
    have hvals : (Tree.valueAll items).length = items.length := Tree.valueAll_length items
    refine ⟨tagArray :: UInt8.ofNat bss.length :: bss.flatten, ?_, ?_⟩
    · rw [Tree.encode, henc, Result.ok_bind, encodeArray, if_neg (by have := h.1; omega)]
    · rw [hlen, ← hvals]
      refine decodes_list (by have := h.1; omega) (.inl rfl) ?_
      rw [hvals]
      exact hdec

/-- The elements of a list, one after another, are read back one after another. -/
theorem Tree.encodeAll_decodes : ∀ ts : List Tree, Tree.EncodableAll ts →
    ∃ bss, Tree.encodeAll ts = .ok bss ∧ bss.length = ts.length ∧
      ∀ pre suf : Bytes, decodeItems (decodeValue (pre ++ bss.flatten ++ suf)) ts.length
        pre.length = .ok (Tree.valueAll ts, pre.length + bss.flatten.length)
  | [], _ => ⟨[], rfl, rfl, fun _ _ => rfl⟩
  | t :: ts, h => by
    obtain ⟨b, hb, hdec⟩ := Tree.encode_decodes t h.1
    obtain ⟨bss, hbss, hlen, hrest⟩ := Tree.encodeAll_decodes ts h.2
    refine ⟨b :: bss, ?_, by rw [List.length_cons, List.length_cons, hlen], ?_⟩
    · rw [Tree.encodeAll, hb, hbss]
      rfl
    · intro pre suf
      -- the first element stands before the others, the others after the first
      have h1 := hdec pre (bss.flatten ++ suf)
      have h2 := hrest (pre ++ b) suf
      have hdata : pre ++ (b :: bss).flatten ++ suf = pre ++ b ++ (bss.flatten ++ suf) := by
        simp
      have hdata' : pre ++ b ++ (bss.flatten ++ suf) = pre ++ b ++ bss.flatten ++ suf := by
        simp
      rw [hdata, List.length_cons, decodeItems, h1, Result.ok_bind, hdata']
      rw [List.length_append] at h2
      simp only [h2, Result.ok_bind, Tree.valueAll, List.flatten_cons, List.length_append,
        Nat.add_assoc]

end

/-- **The round trip.** Whatever stands before and after the encoding of a value, `decode_value` at
    the place of the encoding returns the value and consumes exactly the encoding. -/
theorem decodeValue_encode (t : Tree) (h : t.Encodable) :
    ∃ bytes, t.encode = .ok bytes ∧ ∀ pre suf : Bytes,
      decodeValue (pre ++ bytes ++ suf) pre.length = .ok (t.value, bytes.length) :=
  Tree.encode_decodes t h

/-- A structure of a scaled register: value, scaler and unit, with a nested array of text. -/
theorem decodeValue_encode_nested :
    ∃ bytes, (Tree.struct [.doubleLongUnsigned 4294967295, .integer (-3),
        .array [.visibleString "kWh", .null]]).encode = .ok bytes ∧
      ∀ pre suf : Bytes, decodeValue (pre ++ bytes ++ suf) pre.length =
        .ok (.list [.int 4294967295, .int (-3), .list [.text "kWh", .null]], bytes.length) :=
  decodeValue_encode _ ⟨by decide, ⟨by norm_num, by norm_num⟩, ⟨by norm_num, by norm_num⟩,
    ⟨by decide, ⟨by decide, by decide⟩, trivial, trivial⟩, trivial⟩

end RiseSun.Gateway
