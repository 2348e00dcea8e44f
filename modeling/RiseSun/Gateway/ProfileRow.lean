/-
  Rows of the load profile buffer (`protocols/dlms.py`): the meter's own BCD format.

      A0 A0 | timestamp (6) | header (1) value (length of the header) | header value | ...

  All fields are BCD with their bytes in reverse order.  A header has the length of its value in
  the upper half and the number of decimals in the lower half; a leading `F` digit is a minus sign.

  1. **Program** — `splitLoadProfileRows` (the marker split of the library), `decodeLoadProfileRow`
     and `encodeLoadProfileRow` (the emulator's side).

  2. **Rows are rows** (`encodeLoadProfileRow_row`) — in an encoded row the byte `A0` can only stand
     as a header, and a BCD byte follows it; so no marker begins inside a row or across its end.

  3. **Decoding an encoded row** (`decodeLoadProfileRow_encode`) — with decimals that fit their half
     of the header, an encoded row always decodes: to its own timestamp, and to what the minus signs
     have left of its values (`ProfileField.readBack`).

  4. **What decoding raises** (`decodeLoadProfileRow_error`, `decodeLoadProfileRow_valueError_iff`) —
     a `ValueError` comes of a digit above 9 in a value, and of nothing else.
-/
import RiseSun.Lib.Calendar
import RiseSun.Lib.Markers
import RiseSun.Gateway.HdlcDlms

namespace RiseSun.Gateway

/-! ## Digits -/

/-- `bs.hex()`, a digit at a time. -/
def hexDigits : Bytes → List Nat
  | [] => []
  | b :: bs => b.toNat / 16 :: b.toNat % 16 :: hexDigits bs

/-- `bytes.fromhex(digits)` for an even number of digits. -/
def fromHexDigits : List Nat → Bytes
  | hi :: lo :: digits => UInt8.ofNat (16 * hi + lo) :: fromHexDigits digits
  | _ => []

/-- The digits as they are printed. -/
def hexText (digits : List Nat) : String :=
  String.ofList (digits.map fun d => Char.ofNat (if d < 10 then '0'.toNat + d else 'a'.toNat + d - 10))

/-- `str(n)`, least significant digit first, with at most `fuel` digits. -/
def decimalDigitsRev : Nat → Nat → List Nat
  | 0, _ => []
  | fuel + 1, n => n % 10 :: if n < 10 then [] else decimalDigitsRev fuel (n / 10)

/-- `str(n)`. -/
def decimalDigits (n : Nat) : List Nat := (decimalDigitsRev (n + 1) n).reverse

/-- `int(digits)`; the hexadecimal digits above 9 are no decimal digits. -/
def intOfDigits (digits : List Nat) : Except PyExc Nat :=
  if digits.all (· < 10) then .ok (digits.foldl (fun n d => 10 * n + d) 0) else .error (.valueError [])

/-- `_decode_bcd_reversed`: the digits, and whether a minus sign stood in front. -/
def decodeBcdReversed (raw : Bytes) : List Nat × Bool :=
  match hexDigits raw.reverse with
  | 15 :: digits => (0 :: digits, true)
  | digits => (digits, false)

/-! ## Decoding -/

def loadProfileRowMarker : Bytes := [0xA0, 0xA0]

/-- `split_load_profile_rows`. -/
def splitLoadProfileRows (buf : Bytes) : List Bytes × Bytes :=
  Markers.split loadProfileRowMarker buf

/-- A decoded row. -/
structure ProfileRow where
  timestamp : DateTime
  values : List ℚ
  deriving DecidableEq

/-- `datetime.strptime("20" + digits, "%Y%m%d%H%M%S")`: all five fields of two decimal digits. -/
def parseTimestamp : List Nat → Option DateTime
  | [y1, y0, mo1, mo0, d1, d0, h1, h0, mi1, mi0, s1, s0] =>
    if [y1, y0, mo1, mo0, d1, d0, h1, h0, mi1, mi0, s1, s0].all (· < 10) then
      DateTime.make? (2000 + 10 * y1 + y0) (10 * mo1 + mo0) (10 * d1 + d0) (10 * h1 + h0)
        (10 * mi1 + mi0) (10 * s1 + s0)
    else none
  | _ => none

def fieldTruncated : PyExc :=
  .plain [.text "Строка буфера профиля нагрузки оборвана посреди поля значения"]

/-- The fields of a row; each takes its header at least, so the bytes left bound their number. -/
def decodeFields : (fuel : Nat) → Bytes → Except PyExc (List ℚ)
  | fuel + 1, header :: rest => do
    let length := header.toNat >>> 4
    let scale := header.toNat &&& 0x0F
    if length = 0 ∨ rest.length < length then .error fieldTruncated
    else do
      let (digits, negative) := decodeBcdReversed (rest.take length)
      let n ← intOfDigits digits
      let value : ℚ := n / 10 ^ scale
      let values ← decodeFields fuel (rest.drop length)
      .ok ((if negative then -value else value) :: values)
  | _, _ => .ok []

/-- `decode_load_profile_row`. -/
def decodeLoadProfileRow (row : Bytes) : Except PyExc ProfileRow :=
  if row.length < 8 ∨ row.take 2 ≠ loadProfileRowMarker then
    .error (.plain [.text "Некорректная строка буфера профиля нагрузки (нет маркера A0 A0)"])
  else
    let digits := (decodeBcdReversed (Bytes.slice row 2 8)).1
    match parseTimestamp digits with
    | none => .error (.plain [.text "Некорректная метка времени строки буфера: ",
        .quoted (hexText digits)])
    | some timestamp => do
      let values ← decodeFields row.length (row.drop 8)
      .ok ⟨timestamp, values⟩

/-! ## Encoding -/

/-- A column: its value, the bytes it takes and its number of decimals. -/
structure ProfileField where
  value : ℚ
  length : Nat
  scale : Nat

/-- The digits of a column: as many as its bytes hold, a minus sign in place of the first. -/
def fieldDigits (f : ProfileField) : Except PyExc (List Nat) :=
  let scaled := (roundHalfEven (|f.value| * 10 ^ f.scale)).toNat
  let digits := decimalDigits scaled
  if f.length * 2 < digits.length then
    .error (.plain [.text "Значение ", .number f.value, .text " не помещается в поле длиной ",
      .int f.length, .text " байт"])
  else
    let padded := List.replicate (f.length * 2 - digits.length) 0 ++ digits
    .ok (if f.value < 0 then 15 :: padded.tail else padded)

def encodeField (f : ProfileField) : Except PyExc Bytes := do
  let digits ← fieldDigits f
  let header ← singleByte ((f.length <<< 4) ||| f.scale)
  .ok (header ++ (fromHexDigits digits).reverse)

def encodeFields : List ProfileField → Except PyExc Bytes
  | [] => .ok []
  | f :: fs => do
    let first ← encodeField f
    let rest ← encodeFields fs
    .ok (first ++ rest)

def twoDigits (n : Nat) : List Nat := [n / 10 % 10, n % 10]

/-- `timestamp.strftime("%y%m%d%H%M%S")`. -/
def timestampDigits (d : DateTime) : List Nat :=
  twoDigits (d.year % 100) ++ twoDigits d.month ++ twoDigits d.day ++ twoDigits d.hour ++
    twoDigits d.minute ++ twoDigits d.second

/-- `encode_load_profile_row`, for timestamps from the year 1000 on.  The source looks at the first two
    digits that `strftime` prints; where that prints years before 1000 without leading zeros, the year 20
    and those from 200 to 209 pass there, and are refused here. -/
def encodeLoadProfileRow (timestamp : DateTime) (fields : List ProfileField) :
    Except PyExc Bytes :=
  if timestamp.year / 100 ≠ 20 then
    .error (.plain [.text "encode_load_profile_row поддерживает только XXI век"])
  else do
    let columns ← encodeFields fields
    .ok (loadProfileRowMarker ++ ((fromHexDigits (timestampDigits timestamp)).reverse ++ columns))

/-! ## Digits: round trip -/

/-- Two hexadecimal digits make a byte, and a last odd one is dropped. -/
theorem fromHexDigits_length : ∀ digits : List Nat,
    (fromHexDigits digits).length = digits.length / 2
  | [] => rfl
  | [_] => by simp [fromHexDigits]
  | hi :: lo :: digits => by
    rw [fromHexDigits, List.length_cons, fromHexDigits_length digits]
    simp only [List.length_cons]
    omega

/-- Digits that were packed into bytes are printed as they were, if their number is even. -/
theorem hexDigits_fromHexDigits : ∀ digits : List Nat, digits.length % 2 = 0 →
    (∀ d ∈ digits, d < 16) → hexDigits (fromHexDigits digits) = digits
  | [], _, _ => rfl
  | [_], h, _ => by cases h
  | hi :: lo :: digits, h, hd => by
    have hhi : hi < 16 := hd hi List.mem_cons_self
    have hlo : lo < 16 := hd lo (List.mem_cons_of_mem _ List.mem_cons_self)
    have hrest := hexDigits_fromHexDigits digits (by simp only [List.length_cons] at h; omega)
      fun d hmem => hd d (List.mem_cons_of_mem _ (List.mem_cons_of_mem _ hmem))
    have hbyte : (UInt8.ofNat (16 * hi + lo)).toNat = 16 * hi + lo :=
      UInt8.toNat_ofNat_of_lt' (by show 16 * hi + lo < 256; omega)
    rw [fromHexDigits, hexDigits, hbyte, hrest]
    congr 1
    · omega
    · congr 1
      omega

/-- A decimal digit, or the sign. -/
def IsBcd (d : Nat) : Prop := d < 10 ∨ d = 15

/-- The digits of a number, lowest first, are decimal: induction on the fuel. -/
theorem decimalDigitsRev_lt : ∀ (fuel n : Nat), ∀ d ∈ decimalDigitsRev fuel n, d < 10 := by
  intro fuel
  induction fuel with
  | zero => exact fun _ d hd => (nomatch hd)
  | succ fuel ih =>
    intro n d hd
    unfold decimalDigitsRev at hd
    rcases List.mem_cons.mp hd with rfl | hd
    · omega
    · split at hd
      · cases hd
      · exact ih _ d hd

/-- The digits of a number are decimal, each of them below ten. -/
theorem decimalDigits_lt {n d : Nat} (h : d ∈ decimalDigits n) : d < 10 :=
  decimalDigitsRev_lt _ _ d (List.mem_reverse.mp h)

/-- A number has at least one digit, also the number zero. -/
theorem decimalDigits_pos (n : Nat) : 1 ≤ (decimalDigits n).length := by
  rw [decimalDigits, List.length_reverse, decimalDigitsRev, List.length_cons]
  omega

/-- What the digits of a column look like. -/
theorem fieldDigits_ok {f : ProfileField} {digits : List Nat} (h : fieldDigits f = .ok digits) :
    1 ≤ f.length ∧ digits.length = 2 * f.length ∧
      ((∀ d ∈ digits, d < 10) ∨ ∃ rest, digits = 15 :: rest ∧ ∀ d ∈ rest, d < 10) := by
  unfold fieldDigits at h
  generalize (roundHalfEven (|f.value| * 10 ^ f.scale)).toNat = scaled at h
  dsimp only at h
  have hpos := decimalDigits_pos scaled
  split at h
  · cases h
  · rename_i hfit
    cases h
    have hlen : (List.replicate (f.length * 2 - (decimalDigits scaled).length) 0 ++
        decimalDigits scaled).length = 2 * f.length := by
      rw [List.length_append, List.length_replicate]
      omega
    have hlt : ∀ d ∈ List.replicate (f.length * 2 - (decimalDigits scaled).length) 0 ++
        decimalDigits scaled, d < 10 := by
      intro d hd
      rcases List.mem_append.mp hd with hd | hd
      · rw [List.eq_of_mem_replicate hd]
        omega
      · exact decimalDigits_lt hd
    refine ⟨by omega, ?_⟩
    split
    · refine ⟨?_, .inr ⟨_, rfl, fun d hd => hlt d (List.mem_of_mem_tail hd)⟩⟩
      rw [List.length_cons, List.length_tail, hlen]
      omega
    · exact ⟨hlen, .inl hlt⟩

/-- The digits a field is written with are decimal, except for the sign. -/
theorem fieldDigits_isBcd {f : ProfileField} {digits : List Nat} (h : fieldDigits f = .ok digits) :
    ∀ d ∈ digits, IsBcd d := by
  obtain ⟨_, _, hlt | ⟨rest, rfl, hlt⟩⟩ := fieldDigits_ok h
  · exact fun d hd => .inl (hlt d hd)
  · intro d hd
    rcases List.mem_cons.mp hd with rfl | hd
    · exact .inr rfl
    · exact .inl (hlt d hd)

/-! ## Encoded rows are rows -/

/-- The byte `A0` stands only in front of another byte. -/
def Calm : Bytes → Prop
  | [] => True
  | x :: xs => (x = 0xA0 → ∃ y ys, xs = y :: ys ∧ y ≠ 0xA0) ∧ Calm xs

/-- Calm bytes behind calm bytes are calm together. -/
theorem Calm.append : ∀ {a b : Bytes}, Calm a → Calm b → Calm (a ++ b) := by
  intro a
  induction a with
  | nil => exact fun _ hb => hb
  | cons x xs ih =>
    rintro b ⟨hx, hxs⟩ hb
    refine ⟨fun heq => ?_, ih hxs hb⟩
    obtain ⟨y, ys, rfl, hy⟩ := hx heq
    exact ⟨y, ys ++ b, rfl, hy⟩

/-- Bytes none of which is `A0` are calm. -/
theorem Calm.of_ne : ∀ {a : Bytes}, (∀ b ∈ a, b ≠ 0xA0) → Calm a := by
  intro a
  induction a with
  | nil => exact fun _ => trivial
  | cons x xs ih =>
    intro h
    exact ⟨fun heq => absurd heq (h x List.mem_cons_self),
      ih fun b hb => h b (List.mem_cons_of_mem _ hb)⟩

/-- A marker in front of calm bytes is the only one. -/
theorem Calm.row {b : UInt8} {bs : Bytes} (hb : b ≠ 0xA0) (h : Calm (b :: bs)) :
    Markers.Row loadProfileRowMarker (loadProfileRowMarker ++ b :: bs) := by
  have hcalm : ∀ (q : Bytes), q <:+ b :: bs → Calm q := by
    intro q hq
    obtain ⟨front, hfront⟩ := hq
    rw [← hfront] at h
    clear hfront hb
    induction front with
    | nil => exact h
    | cons x front ih => exact ih h.2
  refine ⟨List.prefix_append _ _, fun q hq hne hlt hmark => ?_⟩
  rw [loadProfileRowMarker, List.cons_append, List.cons_append, List.nil_append,
    List.suffix_cons_iff, List.suffix_cons_iff] at hq
  cases q with
  | nil => exact hne rfl
  | cons x q =>
    -- two bytes of the marker must stand at the front
    obtain ⟨hx, hq0⟩ := List.cons_prefix_cons.mp hmark
    rcases hq with heq | heq | hsuf
    · rw [heq] at hlt
      exact Nat.lt_irrefl _ hlt
    · obtain ⟨_, rfl⟩ := List.cons.inj heq
      exact hb (List.cons_prefix_cons.mp hq0).1.symm
    · obtain ⟨y, ys, rfl, hy⟩ := (hcalm _ hsuf).1 hx.symm
      exact hy (List.cons_prefix_cons.mp hq0).1.symm

/-- A byte of two BCD digits is never `A0`. -/
theorem fromHexDigits_ne : ∀ digits : List Nat, (∀ d ∈ digits, IsBcd d) →
    ∀ b ∈ fromHexDigits digits, b ≠ 0xA0
  | [], _, b, hb => by cases hb
  | [_], _, b, hb => by cases hb
  | hi :: lo :: digits, h, b, hb => by
    have hhi := h hi List.mem_cons_self
    have hlo := h lo (List.mem_cons_of_mem _ List.mem_cons_self)
    rw [fromHexDigits] at hb
    rcases List.mem_cons.mp hb with rfl | hb
    · intro heq
      have hnat := congrArg UInt8.toNat heq
      rw [UInt8.toNat_ofNat_of_lt' (by
        show 16 * hi + lo < 256
        rcases hhi with hhi | hhi <;> rcases hlo with hlo | hlo <;> omega)] at hnat
      have hval : (0xA0 : UInt8).toNat = 160 := rfl
      rw [hval] at hnat
      rcases hhi with hhi | hhi <;> rcases hlo with hlo | hlo <;> omega
    · exact fromHexDigits_ne digits
        (fun d hd => h d (List.mem_cons_of_mem _ (List.mem_cons_of_mem _ hd))) b hb

/-- An encoded field is its descriptor byte and then its digits in pairs, the last pair first. -/
theorem encodeField_ok {f : ProfileField} {bs : Bytes} (h : encodeField f = .ok bs) :
    ∃ digits, fieldDigits f = .ok digits ∧ (f.length <<< 4 ||| f.scale) < 256 ∧
      bs = UInt8.ofNat (f.length <<< 4 ||| f.scale) :: (fromHexDigits digits).reverse := by
  unfold encodeField at h
  obtain ⟨digits, hdigits, h⟩ := Result.bind_eq_ok h
  obtain ⟨header, hheader, h⟩ := Result.bind_eq_ok h
  unfold singleByte at hheader
  split at hheader
  · rename_i hlt
    cases hheader
    cases h
    exact ⟨digits, hdigits, hlt, rfl⟩
  · cases hheader

/-- An encoded field is calm: only its descriptor can be `A0`, and digits follow it. -/
theorem encodeField_calm {f : ProfileField} {bs : Bytes} (h : encodeField f = .ok bs) : Calm bs := by
  obtain ⟨digits, hdigits, _, rfl⟩ := encodeField_ok h
  have hne : ∀ b ∈ (fromHexDigits digits).reverse, b ≠ 0xA0 := fun b hb =>
    fromHexDigits_ne digits (fieldDigits_isBcd hdigits) b (List.mem_reverse.mp hb)
  obtain ⟨hpos, hlen, _⟩ := fieldDigits_ok hdigits
  have hbytes : (fromHexDigits digits).reverse.length = f.length := by
    rw [List.length_reverse, fromHexDigits_length, hlen]
    omega
  refine ⟨fun _ => ?_, Calm.of_ne hne⟩
  cases hrev : (fromHexDigits digits).reverse with
  | nil =>
    rw [hrev, List.length_nil] at hbytes
    omega
  | cons y ys => exact ⟨y, ys, rfl, hne y (by rw [hrev]; exact List.mem_cons_self)⟩

/-- The encoded fields of a row are calm: induction on the fields. -/
theorem encodeFields_calm : ∀ {fields : List ProfileField} {bs : Bytes},
    encodeFields fields = .ok bs → Calm bs := by
  intro fields
  induction fields with
  | nil =>
    intro bs h
    cases h
    trivial
  | cons f fields ih =>
    intro bs h
    unfold encodeFields at h
    obtain ⟨first, hfirst, h⟩ := Result.bind_eq_ok h
    obtain ⟨rest, hrest, h⟩ := Result.bind_eq_ok h
    cases h
    exact (encodeField_calm hfirst).append (ih hrest)

/-- A timestamp is written with twelve digits, two for each of its parts. -/
theorem timestampDigits_length (d : DateTime) : (timestampDigits d).length = 12 := rfl

/-- The digits of a timestamp are decimal, each of them below ten. -/
theorem timestampDigits_lt (d : DateTime) : ∀ n ∈ timestampDigits d, n < 10 := by
  intro n hn
  simp only [timestampDigits, twoDigits, List.cons_append, List.nil_append, List.mem_cons,
    List.not_mem_nil, or_false] at hn
  omega

/-- A row is encoded only in the years from 2000 to 2099, and then it is the marker, the timestamp
    and the columns. -/
theorem encodeLoadProfileRow_ok {timestamp : DateTime} {fields : List ProfileField} {raw : Bytes}
    (h : encodeLoadProfileRow timestamp fields = .ok raw) :
    timestamp.year / 100 = 20 ∧ ∃ columns, encodeFields fields = .ok columns ∧
      raw = loadProfileRowMarker ++
        ((fromHexDigits (timestampDigits timestamp)).reverse ++ columns) := by
  unfold encodeLoadProfileRow at h
  split at h
  · cases h
  · rename_i hyear
    obtain ⟨columns, hcolumns, h⟩ := Result.bind_eq_ok h
    cases h
    exact ⟨not_not.mp hyear, columns, hcolumns, rfl⟩

/-- **An encoded row is a row**: no marker begins in it but the first. -/
theorem encodeLoadProfileRow_row {timestamp : DateTime} {fields : List ProfileField} {raw : Bytes}
    (h : encodeLoadProfileRow timestamp fields = .ok raw) :
    Markers.Row loadProfileRowMarker raw := by
  obtain ⟨_, columns, hcolumns, rfl⟩ := encodeLoadProfileRow_ok h
  have hne : ∀ b ∈ (fromHexDigits (timestampDigits timestamp)).reverse, b ≠ 0xA0 := fun b hb =>
    fromHexDigits_ne _ (fun d hd => .inl (timestampDigits_lt timestamp d hd)) b
      (List.mem_reverse.mp hb)
  have hcalm := (Calm.of_ne hne).append (encodeFields_calm hcolumns)
  cases hrev : (fromHexDigits (timestampDigits timestamp)).reverse with
  | nil =>
    have hlen := congrArg List.length hrev
    rw [List.length_reverse, fromHexDigits_length, timestampDigits_length] at hlen
    cases hlen
  | cons y ys =>
    rw [hrev] at hcalm hne
    exact hcalm.row (hne y List.mem_cons_self)

/-! ## Decoding an encoded row -/

/-- The number that decimal digits stand for. -/
def digitsValue (digits : List Nat) : Nat := digits.foldl (fun n d => 10 * n + d) 0

/-- The first digit of a number counts the power of ten for the digits behind it. -/
theorem digitsValue_cons (d : Nat) (ds : List Nat) :
    digitsValue (d :: ds) = d * 10 ^ ds.length + digitsValue ds := by
  have hfold : ∀ (ds : List Nat) (n : Nat),
      ds.foldl (fun n d => 10 * n + d) n = n * 10 ^ ds.length + digitsValue ds := by
    intro ds
    induction ds with
    | nil =>
      intro n
      rw [List.foldl_nil, List.length_nil, pow_zero, Nat.mul_one, digitsValue, List.foldl_nil,
        Nat.add_zero]
    | cons e es ih =>
      intro n
      have hfirst : digitsValue (e :: es) = (10 * 0 + e) * 10 ^ es.length + digitsValue es := ih _
      rw [List.foldl_cons, ih, hfirst, List.length_cons, pow_succ]
      ring
  rw [digitsValue, List.foldl_cons, hfold, Nat.mul_zero, Nat.zero_add]

/-- A number of `k` decimal digits is below `10 ^ k`. -/
theorem digitsValue_lt : ∀ {ds : List Nat}, (∀ d ∈ ds, d < 10) → digitsValue ds < 10 ^ ds.length
  | [], _ => Nat.one_pos
  | d :: ds, h => by
    have hd := h d List.mem_cons_self
    have hds := digitsValue_lt fun e he => h e (List.mem_cons_of_mem _ he)
    rw [digitsValue_cons, List.length_cons, pow_succ]
    nlinarith

/-- Zeros in front of a number do not count. -/
theorem digitsValue_zeros (k : Nat) (ds : List Nat) :
    digitsValue (List.replicate k 0 ++ ds) = digitsValue ds := by
  induction k with
  | zero => rfl
  | succ k ih => rw [List.replicate_succ, List.cons_append, digitsValue_cons, ih]; omega

/-- The digits of a number stand for it. -/
theorem digitsValue_decimalDigits (n : Nat) : digitsValue (decimalDigits n) = n := by
  have hrev : ∀ fuel n : Nat, n < fuel →
      (decimalDigitsRev fuel n).foldr (fun d n => 10 * n + d) 0 = n := by
    intro fuel
    induction fuel with
    | zero =>
      intro n h
      omega
    | succ fuel ih =>
      intro n h
      rw [decimalDigitsRev, List.foldr_cons]
      by_cases hone : n < 10
      · rw [if_pos hone, List.foldr_nil]
        omega
      · rw [if_neg hone, ih _ (by omega)]
        omega
  rw [digitsValue, decimalDigits, List.foldl_reverse]
  exact hrev (n + 1) n (Nat.lt_succ_self n)

namespace ProfileField

/-- The value in units of its last decimal. -/
def scaled (f : ProfileField) : Nat := (roundHalfEven (|f.value| * 10 ^ f.scale)).toNat

/-- What is left of it in the row: a minus sign takes the place of the first digit. -/
def kept (f : ProfileField) : Nat :=
  if f.value < 0 then f.scaled % 10 ^ (2 * f.length - 1) else f.scaled

/-- The value that is read back. -/
def readBack (f : ProfileField) : ℚ :=
  if f.value < 0 then -(f.kept / 10 ^ f.scale) else f.kept / 10 ^ f.scale

end ProfileField

/-- What the digits of a column stand for. -/
theorem fieldDigits_value {f : ProfileField} {digits : List Nat} (h : fieldDigits f = .ok digits) :
    (¬ f.value < 0 ∧ (∀ d ∈ digits, d < 10) ∧ digitsValue digits = f.scaled) ∨
    (f.value < 0 ∧ ∃ rest, digits = 15 :: rest ∧ (∀ d ∈ rest, d < 10) ∧
      digitsValue rest = f.scaled % 10 ^ (2 * f.length - 1)) := by
  obtain ⟨hpos, hlen, _⟩ := fieldDigits_ok h
  unfold fieldDigits at h
  dsimp only at h
  rw [← ProfileField.scaled] at h
  rcases ite_eq_iff.mp h with ⟨_, h⟩ | ⟨hfit, h⟩
  · cases h
  have hlt : ∀ d ∈ List.replicate (f.length * 2 - (decimalDigits f.scaled).length) 0 ++
      decimalDigits f.scaled, d < 10 := by
    intro d hd
    rcases List.mem_append.mp hd with hd | hd
    · rw [List.eq_of_mem_replicate hd]
      omega
    · exact decimalDigits_lt hd
  have hvalue := digitsValue_zeros (f.length * 2 - (decimalDigits f.scaled).length)
    (decimalDigits f.scaled)
  rw [digitsValue_decimalDigits] at hvalue
  generalize List.replicate (f.length * 2 - (decimalDigits f.scaled).length) 0 ++
    decimalDigits f.scaled = padded at h hlt hvalue
  obtain rfl := Except.ok.inj h
  by_cases hneg : f.value < 0
  · rw [if_pos hneg] at hlen
    refine .inr ⟨hneg, padded.tail, if_pos hneg, fun d hd => hlt d (List.mem_of_mem_tail hd), ?_⟩
    rcases padded with _ | ⟨first, rest⟩
    · rw [← hvalue]
      rfl
    · have hrest : rest.length = 2 * f.length - 1 := by
        simp only [List.tail_cons, List.length_cons] at hlen
        omega
      have hsmall := digitsValue_lt fun d hd => hlt d (List.mem_cons_of_mem _ hd)
      rw [← hvalue, digitsValue_cons, List.tail_cons, ← hrest, Nat.mul_add_mod_self_right,
        Nat.mod_eq_of_lt hsmall]
  · rw [if_neg hneg]
    exact .inl ⟨hneg, hlt, hvalue⟩

/-- The two halves of a header are read back. -/
theorem fieldHeader_halves {length scale : Nat} (hs : scale < 16)
    (hheader : length <<< 4 ||| scale < 256) :
    (UInt8.ofNat (length <<< 4 ||| scale)).toNat >>> 4 = length ∧
      (UInt8.ofNat (length <<< 4 ||| scale)).toNat &&& 0x0F = scale := by
  have hbyte : (UInt8.ofNat (length <<< 4 ||| scale)).toNat = length <<< 4 + scale := by
    rw [UInt8.toNat_ofNat_of_lt' hheader, ← Nat.shiftLeft_add_eq_or_of_lt hs]
  rw [hbyte]
  constructor
  · rw [Nat.shiftRight_eq_div_pow, Nat.shiftLeft_eq]
    omega
  · rw [show (0x0F : Nat) = 2 ^ 4 - 1 from rfl, Nat.and_two_pow_sub_one_eq_mod, Nat.shiftLeft_eq]
    omega

/-- The digits of a field are read back, and their sign. -/
theorem decodeBcdReversed_digits {f : ProfileField} {digits : List Nat}
    (h : fieldDigits f = .ok digits) :
    ∃ read, decodeBcdReversed (fromHexDigits digits).reverse = (read, decide (f.value < 0)) ∧
      intOfDigits read = .ok f.kept := by
  obtain ⟨_, hlen, _⟩ := fieldDigits_ok h
  have hdecoded : hexDigits (fromHexDigits digits).reverse.reverse = digits := by
    rw [List.reverse_reverse]
    refine hexDigits_fromHexDigits digits (by omega) fun d hd => ?_
    rcases fieldDigits_isBcd h d hd with hd | hd <;> omega
  unfold decodeBcdReversed
  rw [hdecoded]
  rcases fieldDigits_value h with ⟨hneg, hlt, hvalue⟩ | ⟨hneg, more, rfl, hlt, hvalue⟩
  · have hall : digits.all (· < 10) = true :=
      List.all_eq_true.mpr fun d hd => decide_eq_true (hlt d hd)
    refine ⟨digits, ?_, ?_⟩
    · rw [decide_eq_false hneg]
      -- a number of its own never starts with the digit of the sign
      split
      · have := hlt 15 List.mem_cons_self
        omega
      · rfl
    · rw [intOfDigits, if_pos hall, ProfileField.kept, if_neg hneg, ← hvalue]
      rfl
  · have hall : (0 :: more).all (· < 10) = true :=
      List.all_eq_true.mpr (List.forall_mem_cons.mpr
        ⟨rfl, fun d hd => decide_eq_true (hlt d hd)⟩)
    refine ⟨0 :: more, ?_, ?_⟩
    · rw [decide_eq_true hneg]
      rfl
    · rw [intOfDigits, if_pos hall, ProfileField.kept, if_pos hneg, ← hvalue]
      rfl

/-- Columns with a one-digit number of decimals decode, and to what is left of them. -/
theorem decodeFields_encode : ∀ {fields : List ProfileField} {bs : Bytes} (fuel : Nat),
    (∀ f ∈ fields, f.scale < 16) → encodeFields fields = .ok bs → bs.length ≤ fuel →
      decodeFields fuel bs = .ok (fields.map (·.readBack)) := by
  intro fields
  induction fields with
  | nil =>
    intro bs fuel _ h _
    cases h
    cases fuel <;> rfl
  | cons f fields ih =>
    intro bs fuel hscale h hfuel
    unfold encodeFields at h
    obtain ⟨first, hfirst, h⟩ := Result.bind_eq_ok h
    obtain ⟨rest, hrest, h⟩ := Result.bind_eq_ok h
    cases h
    obtain ⟨digits, hdigits, hheader, rfl⟩ := encodeField_ok hfirst
    obtain ⟨hpos, hlen, _⟩ := fieldDigits_ok hdigits
    have hbytes : (fromHexDigits digits).reverse.length = f.length := by
      rw [List.length_reverse, fromHexDigits_length, hlen]
      omega
    cases fuel with
    | zero => cases hfuel
    | succ fuel =>
      obtain ⟨hupper, hlower⟩ := fieldHeader_halves (hscale f List.mem_cons_self) hheader
      have hvalues := ih fuel (fun g hg => hscale g (List.mem_cons_of_mem _ hg)) hrest
        (by simp only [List.cons_append, List.length_cons, List.length_append] at hfuel; omega)
      obtain ⟨read, hread, hkept⟩ := decodeBcdReversed_digits hdigits
      have htake : ((fromHexDigits digits).reverse ++ rest).take f.length =
          (fromHexDigits digits).reverse := by
        rw [← hbytes, List.take_left]
      have hdrop : ((fromHexDigits digits).reverse ++ rest).drop f.length = rest := by
        rw [← hbytes, List.drop_left]
      have hroom : ¬ (f.length = 0 ∨ ((fromHexDigits digits).reverse ++ rest).length < f.length) := by
        rw [List.length_append, hbytes]
        omega
      rw [List.cons_append, decodeFields]
      simp only [hupper, hlower, if_neg hroom, htake, hdrop, hread, hkept, hvalues, Result.ok_bind,
        decide_eq_true_eq]
      rfl

/-- The digits of a timestamp are read back. -/
theorem decodeBcdReversed_timestamp (timestamp : DateTime) :
    (decodeBcdReversed (fromHexDigits (timestampDigits timestamp)).reverse).1 =
      timestampDigits timestamp := by
  unfold decodeBcdReversed
  have heven : (timestampDigits timestamp).length % 2 = 0 := by rw [timestampDigits_length]
  rw [List.reverse_reverse, hexDigits_fromHexDigits _ heven fun d hd => by
    have := timestampDigits_lt timestamp d hd
    omega]
  split
  · rename_i more heq
    have := timestampDigits_lt timestamp 15 (by rw [heq]; exact List.mem_cons_self)
    omega
  · rfl

/-- They are the timestamp, to the second, if it is of this century. -/
theorem parseTimestamp_digits {timestamp : DateTime} (hyear : timestamp.year / 100 = 20) :
    parseTimestamp (timestampDigits timestamp) = some timestamp.wholeSeconds := by
  obtain ⟨hy, hmo, hd, hh, hmi, hs, _⟩ := timestamp.valid
  have hday : daysInMonth timestamp.year timestamp.month ≤ 31 := by
    unfold daysInMonth
    split
    · split <;> omega
    · split <;> omega
  have htwo : ∀ n < 100, 10 * (n / 10 % 10) + n % 10 = n := by
    intro n hn
    omega
  have hall := List.all_eq_true.mpr fun d hd => decide_eq_true (timestampDigits_lt timestamp d hd)
  unfold timestampDigits twoDigits at hall ⊢
  simp only [List.cons_append, List.nil_append] at hall ⊢
  rw [parseTimestamp, if_pos hall, htwo _ (by omega), htwo _ (by omega), htwo _ (by omega),
    htwo _ (by omega), htwo _ (by omega), ← DateTime.make?_wholeSeconds]
  congr 1
  omega

/-- An encoded row is decoded to its timestamp in whole seconds and its fields as they are read
    back. -/
theorem decodeLoadProfileRow_encode {timestamp : DateTime} {fields : List ProfileField}
    {raw : Bytes} (hscale : ∀ f ∈ fields, f.scale < 16)
    (h : encodeLoadProfileRow timestamp fields = .ok raw) :
    decodeLoadProfileRow raw = .ok ⟨timestamp.wholeSeconds, fields.map (·.readBack)⟩ := by
  obtain ⟨hyear, columns, hcolumns, rfl⟩ := encodeLoadProfileRow_ok h
  have hsix : (fromHexDigits (timestampDigits timestamp)).reverse.length = 6 := by
    rw [List.length_reverse, fromHexDigits_length, timestampDigits_length]
  have hslice : Bytes.slice (loadProfileRowMarker ++
      ((fromHexDigits (timestampDigits timestamp)).reverse ++ columns)) 2 8 =
      (fromHexDigits (timestampDigits timestamp)).reverse := by
    have := Bytes.slice_mid loadProfileRowMarker
      (fromHexDigits (timestampDigits timestamp)).reverse columns
    rw [hsix] at this
    exact this
  have hlen : ¬ ((loadProfileRowMarker ++ ((fromHexDigits (timestampDigits timestamp)).reverse ++
      columns)).length < 8 ∨ (loadProfileRowMarker ++
        ((fromHexDigits (timestampDigits timestamp)).reverse ++ columns)).take 2 ≠
          loadProfileRowMarker) := by
    rw [List.length_append, List.length_append, hsix]
    rintro (hlt | hne)
    · have htwo : loadProfileRowMarker.length = 2 := rfl
      omega
    · exact hne rfl
  have hrest : (loadProfileRowMarker ++
      ((fromHexDigits (timestampDigits timestamp)).reverse ++ columns)).drop 8 = columns := by
    rw [← List.append_assoc]
    refine List.drop_left' ?_
    rw [List.length_append, hsix]
    rfl
  have hvalues := decodeFields_encode
    (loadProfileRowMarker ++ ((fromHexDigits (timestampDigits timestamp)).reverse ++ columns)).length
    hscale hcolumns (by simp only [List.length_append]; omega)
  unfold decodeLoadProfileRow
  rw [if_neg hlen, hslice, decodeBcdReversed_timestamp, hrest]
  dsimp only
  rw [parseTimestamp_digits hyear, hvalues]
  rfl

/-! ## What decoding raises -/

/-- The fields of a row fail to decode for two reasons: a field is cut short, or a digit is no
    decimal one. -/
theorem decodeFields_error : ∀ (fuel : Nat) (bs : Bytes) (e : PyExc),
    decodeFields fuel bs = .error e → e = fieldTruncated ∨ e = .valueError [] := by
  intro fuel
  induction fuel with
  | zero =>
    intro bs e h
    cases h
  | succ fuel ih =>
    intro bs e h
    cases bs with
    | nil => cases h
    | cons header rest =>
      unfold decodeFields at h
      rcases ite_eq_iff.mp h with ⟨_, h⟩ | ⟨_, h⟩
      · cases h
        exact .inl rfl
      · rcases Result.bind_eq_error h with h | ⟨n, _, h⟩
        · unfold intOfDigits at h
          rcases ite_eq_iff.mp h with ⟨_, h⟩ | ⟨_, h⟩
          · cases h
          · cases h
            exact .inr rfl
        · rcases Result.bind_eq_error h with h | ⟨_, _, h⟩
          · exact ih _ e h
          · cases h

/-- A value whose bytes are all there, and what follows it. -/
def WholeField (header : UInt8) (rest : Bytes) : Prop :=
  header.toNat >>> 4 ≠ 0 ∧ header.toNat >>> 4 ≤ rest.length

/-- The digits of a value, without its sign. -/
def valueDigits (header : UInt8) (rest : Bytes) : List Nat :=
  (decodeBcdReversed (rest.take (header.toNat >>> 4))).1

/-- Of the values up to the first that is cut short, one has a digit above 9. -/
inductive DigitAboveNine : Bytes → Prop
  | here {header : UInt8} {rest : Bytes} (whole : WholeField header rest)
      (above : ∃ d ∈ valueDigits header rest, 9 < d) : DigitAboveNine (header :: rest)
  | later {header : UInt8} {rest : Bytes} (whole : WholeField header rest)
      (decimal : ∀ d ∈ valueDigits header rest, d ≤ 9)
      (next : DigitAboveNine (rest.drop (header.toNat >>> 4))) : DigitAboveNine (header :: rest)

/-- Digits are a number if each is at most nine; with any other among them they are a `ValueError`.
    -/
theorem intOfDigits_cases (digits : List Nat) :
    ((∀ d ∈ digits, d ≤ 9) ∧ ∃ n, intOfDigits digits = .ok n) ∨
      ((∃ d ∈ digits, 9 < d) ∧ intOfDigits digits = .error (.valueError [])) := by
  unfold intOfDigits
  by_cases h : digits.all (· < 10)
  · rw [if_pos h]
    exact .inl ⟨fun d hd => by simpa [Nat.lt_succ_iff] using List.all_eq_true.mp h d hd, _, rfl⟩
  · rw [if_neg h]
    rw [Bool.not_eq_true, List.all_eq_false] at h
    obtain ⟨d, hd, hbig⟩ := h
    exact .inr ⟨⟨d, hd, Nat.not_lt.mp (by simpa using hbig)⟩, rfl⟩

/-- Decoding raises the `ValueError` exactly for the bytes in which a field that is reached has a
    digit above nine. -/
theorem decodeFields_valueError_iff : ∀ (fuel : Nat) (bs : Bytes), bs.length ≤ fuel →
    (decodeFields fuel bs = .error (.valueError []) ↔ DigitAboveNine bs) := by
  intro fuel
  induction fuel with
  | zero =>
    intro bs hfuel
    obtain rfl := List.length_eq_zero_iff.mp (Nat.le_zero.mp hfuel)
    exact ⟨fun h => (nomatch h), fun h => (nomatch h)⟩
  | succ fuel ih =>
    intro bs hfuel
    cases bs with
    | nil => exact ⟨fun h => (nomatch h), fun h => (nomatch h)⟩
    | cons header rest =>
      unfold decodeFields
      by_cases hcut : header.toNat >>> 4 = 0 ∨ rest.length < header.toNat >>> 4
      · rw [if_pos hcut]
        constructor
        · intro h
          cases h
        · intro h
          have hwhole : WholeField header rest := by
            cases h with
            | here whole => exact whole
            | later whole => exact whole
          rcases hcut with hzero | hshort
          · exact absurd hzero hwhole.1
          · exact absurd hwhole.2 (Nat.not_le.mpr hshort)
      rw [if_neg hcut]
      rw [not_or, Nat.not_lt] at hcut
      have hwhole : WholeField header rest := hcut
      rw [List.length_cons] at hfuel
      have hnext := ih (rest.drop (header.toNat >>> 4)) (by rw [List.length_drop]; omega)
      dsimp only
      rcases intOfDigits_cases (valueDigits header rest) with ⟨hdecimal, n, hn⟩ | ⟨habove, herror⟩
      · rw [valueDigits] at hn
        rw [hn, Result.ok_bind]
        constructor
        · intro h
          rcases Result.bind_eq_error h with h | ⟨_, _, h⟩
          · exact .later hwhole hdecimal (hnext.mp h)
          · cases h
        · intro h
          cases h with
          | here _ above =>
            obtain ⟨d, hd, hbig⟩ := above
            exact absurd (hdecimal d hd) (Nat.not_le.mpr hbig)
          | later _ _ next =>
            rw [hnext.mpr next]
            rfl
      · rw [valueDigits] at herror
        rw [herror, Result.error_bind]
        exact ⟨fun _ => .here hwhole habove, fun _ => rfl⟩

/-- A row with a marker and a moment, and a value that has a digit above 9. -/
def BadDigitRow (row : Bytes) : Prop :=
  8 ≤ row.length ∧ row.take 2 = loadProfileRowMarker ∧
    parseTimestamp (decodeBcdReversed (Bytes.slice row 2 8)).1 ≠ none ∧ DigitAboveNine (row.drop 8)

/-- The `ValueError` of `int(digits)` goes through the decoder of a row. -/
theorem decodeLoadProfileRow_valueError_iff {row : Bytes} :
    decodeLoadProfileRow row = .error (.valueError []) ↔ BadDigitRow row := by
  unfold decodeLoadProfileRow BadDigitRow
  by_cases hmarker : row.length < 8 ∨ row.take 2 ≠ loadProfileRowMarker
  · rw [if_pos hmarker]
    constructor
    · intro h
      cases h
    · rintro ⟨hlong, hfront, -⟩
      rcases hmarker with hshort | hother
      · omega
      · exact absurd hfront hother
  rw [if_neg hmarker]
  rw [not_or, not_not, Nat.not_lt] at hmarker
  rw [and_iff_right hmarker.1, and_iff_right hmarker.2]
  dsimp only
  cases parseTimestamp (decodeBcdReversed (Bytes.slice row 2 8)).1 with
  | none =>
    constructor
    · intro h
      cases h
    · rintro ⟨h, -⟩
      exact absurd rfl h
  | some timestamp =>
    rw [← decodeFields_valueError_iff row.length (row.drop 8) (by rw [List.length_drop]; omega)]
    dsimp only
    constructor
    · intro h
      refine ⟨fun hnone => (by cases hnone), ?_⟩
      rcases Result.bind_eq_error h with h | ⟨_, _, h⟩
      · exact h
      · cases h
    · rintro ⟨-, h⟩
      rw [h]
      rfl

/-- A row that does not decode is a plain `GatewayError`, or the `ValueError` of a digit above 9. -/
theorem decodeLoadProfileRow_error {row : Bytes} {e : PyExc}
    (h : decodeLoadProfileRow row = .error e) :
    (∃ message, e = .plain message) ∨ e = .valueError [] := by
  unfold decodeLoadProfileRow at h
  rcases ite_eq_iff.mp h with ⟨_, h⟩ | ⟨_, h⟩
  · cases h
    exact .inl ⟨_, rfl⟩
  · dsimp only at h
    split at h
    · cases h
      exact .inl ⟨_, rfl⟩
    · rcases Result.bind_eq_error h with h | ⟨_, _, h⟩
      · rcases decodeFields_error _ _ e h with rfl | rfl
        · exact .inl ⟨_, rfl⟩
        · exact .inr rfl
      · cases h

end RiseSun.Gateway
