/-
  A data readout of mode C is never misread.

  1. **Lines** — a reading is written as one line, and the line is read as that reading
     (`readLine_line`); what stops before the closing bracket is no line (`matchDataLine_unclosed`).

  2. **Cut readouts** (`readLines_prefix`) — any front part of the lines of a readout holds the first
     few readings, whole, and nothing else.

  3. **Checksum** (`computeBcc_replace`) — a replaced byte changes the sum.

  4. **Streams** — what `readReadout` makes of the bytes that come: it stops at the first ETX, takes
     the byte after it for the checksum, and fails if there is none.

  A replaced byte is noticed by the checksum unless it becomes an ETX; then what is checked is a front
  part of the lines, and holds the number that was sent or none at all.
-/
import RiseSun.Gateway.ModeC

namespace RiseSun.Gateway.ModeC

open Proc

/-! ## Readings -/

/-- A printable character of ASCII that ends no group of the pattern. -/
def isText (c : Char) : Bool := 0x20 ≤ c.toNat ∧ c.toNat ≤ 0x7E ∧ c ≠ ')' ∧ c ≠ '*'

/-- A reading as the meter writes it; `bare` leaves out the asterisk, where there is no unit. -/
structure Reading where
  code : List Char
  value : List Char
  unit : List Char
  bare : Bool
  code_ne : code ≠ []
  code_chars : ∀ c ∈ code, isCodeChar c = true
  value_chars : ∀ c ∈ value, isText c = true
  unit_chars : ∀ c ∈ unit, isText c = true
  bare_unit : bare = true → unit = []

namespace Reading

/-- All of the line but the closing bracket. -/
def front (r : Reading) : List Char :=
  r.code ++ '(' :: (r.value ++ if r.bare then [] else '*' :: r.unit)

def line (r : Reading) : List Char := r.front ++ [')']

end Reading

/-- The lines of a readout: one for each reading, and the end mark. -/
def readoutLines : List Reading → List Char
  | [] => ['!', '\r', '\n']
  | r :: rs => r.line ++ '\r' :: '\n' :: readoutLines rs

def asciiBytes (text : List Char) : Bytes := text.map fun c => UInt8.ofNat c.toNat

def readoutBody (rs : List Reading) : Bytes := asciiBytes (readoutLines rs) ++ [etx]

def readoutFrame (rs : List Reading) : Bytes :=
  stx :: (readoutBody rs ++ [computeBcc (readoutBody rs)])

section Lines

variable {r : Reading} {rs : List Reading} {c : Char}

/-- What a character of a value or of a unit may be: printable, and neither the closing bracket nor
    the asterisk. -/
theorem isText_spec (h : isText c = true) :
    0x20 ≤ c.toNat ∧ c.toNat ≤ 0x7E ∧ c ≠ ')' ∧ c ≠ '*' := of_decide_eq_true h

/-- The characters of a code are among the printable ones. -/
theorem isText_of_isCodeChar (h : isCodeChar c = true) : isText c = true := by
  refine decide_eq_true ?_
  rcases of_decide_eq_true h with ⟨hlow, hhigh⟩ | rfl
  · have hlow : 48 ≤ c.toNat := hlow
    have hhigh : c.toNat ≤ 57 := hhigh
    refine ⟨by omega, by omega, ?_, ?_⟩
    · rintro rfl
      exact absurd hlow (by decide)
    · rintro rfl
      exact absurd hlow (by decide)
  · decide

theorem not_isCodeChar_paren : isCodeChar '(' = false := by decide

/-- What a line may contain before its closing bracket. -/
theorem mem_front (h : c ∈ r.front) : isText c = true ∨ c = '*' := by
  rcases List.mem_append.mp h with hcode | hrest
  · exact .inl (isText_of_isCodeChar (r.code_chars c hcode))
  · rcases List.mem_cons.mp hrest with rfl | hrest
    · exact .inl (by decide)
    · rcases List.mem_append.mp hrest with hvalue | hunit
      · exact .inl (r.value_chars c hvalue)
      · rcases hbare : r.bare <;> rw [hbare] at hunit
        · rcases List.mem_cons.mp hunit with rfl | hunit
          · exact .inr rfl
          · exact .inl (r.unit_chars c hunit)
        · cases hunit

/-- The line up to its closing bracket is printable, and has no closing bracket of its own. -/
theorem front_printable (h : c ∈ r.front) : 0x20 ≤ c.toNat ∧ c.toNat ≤ 0x7E ∧ c ≠ ')' := by
  rcases mem_front h with htext | rfl
  · exact ⟨(isText_spec htext).1, (isText_spec htext).2.1, (isText_spec htext).2.2.1⟩
  · decide

/-- A line is printable ASCII, so no end of a line, no ETX and no byte above 127 is in it. -/
theorem line_printable (h : c ∈ r.line) : 0x20 ≤ c.toNat ∧ c.toNat ≤ 0x7E := by
  rcases List.mem_append.mp h with hfront | hclose
  · exact ⟨(front_printable hfront).1, (front_printable hfront).2.1⟩
  · rw [List.mem_singleton.mp hclose]
    decide

/-- No line has a carriage return in it, so the lines of a readout can be told apart. -/
theorem return_not_mem_line : '\r' ∉ r.line := fun h => absurd (line_printable h).1 (by decide)

/-- Where the pattern finds its end there is a closing bracket, so what is cut off before it is no
    line. -/
theorem mem_of_closesLine {rest : List Char} (h : closesLine rest = true) : ')' ∈ rest := by
  rcases of_decide_eq_true h with rfl | rfl
  · exact List.mem_singleton.mpr rfl
  · exact List.mem_cons_self ..

/-- A line that fits the pattern has a closing bracket. -/
theorem matchDataLine_unclosed {line : List Char} (h : ')' ∉ line) : matchDataLine line = none := by
  have hdrop : ∀ {p : Char → Bool} {cs : List Char}, ')' ∉ cs → closesLine (cs.dropWhile p) ≠ true :=
    fun hcs hclose => hcs ((List.dropWhile_suffix _).subset (mem_of_closesLine hclose))
  rw [matchDataLine]
  split
  next rest heq =>
    have hrest : ')' ∉ rest := fun hmem =>
      h ((List.dropWhile_suffix isCodeChar).subset (heq ▸ List.mem_cons_of_mem _ hmem))
    dsimp only
    split
    · rfl
    · split
      next rest' heq' =>
        have hrest' : ')' ∉ rest' := fun hmem =>
          hrest ((List.dropWhile_suffix isValueChar).subset (heq' ▸ List.mem_cons_of_mem _ hmem))
        exact if_neg (hdrop hrest')
      next => exact if_neg (hdrop hrest)
  next => rfl

/-- The pattern of the source on the line of a reading finds its code, its value and, if there is
    one, its unit. -/
theorem matchDataLine_line :
    matchDataLine r.line = some (r.code, r.value, if r.bare then none else some r.unit) := by
  have hvalue : ∀ c ∈ r.value, isValueChar c = true := fun c hc =>
    decide_eq_true ⟨(isText_spec (r.value_chars c hc)).2.2.2, (isText_spec (r.value_chars c hc)).2.2.1⟩
  have hunit : ∀ c ∈ r.unit, isUnitChar c = true := fun c hc =>
    decide_eq_true (isText_spec (r.unit_chars c hc)).2.2.1
  rcases hbare : r.bare
  · have hline : r.line = r.code ++ '(' :: (r.value ++ '*' :: (r.unit ++ ')' :: [])) := by
      rw [Reading.line, Reading.front, hbare]
      simp
    have hcode := run_stops r.code_chars not_isCodeChar_paren (r.value ++ '*' :: (r.unit ++ ')' :: []))
    have hrest := run_stops (x := '*') hvalue rfl (r.unit ++ ')' :: [])
    have hlast := run_stops (x := ')') hunit rfl []
    simp only [matchDataLine, hline, hcode.1, hcode.2, hrest.1, hrest.2, hlast.1, hlast.2,
      if_neg r.code_ne]
    rfl
  · have hline : r.line = r.code ++ '(' :: (r.value ++ ')' :: []) := by
      rw [Reading.line, Reading.front, hbare]
      simp
    have hcode := run_stops r.code_chars not_isCodeChar_paren (r.value ++ ')' :: [])
    have hrest := run_stops (x := ')') hvalue rfl []
    simp only [matchDataLine, hline, hcode.1, hcode.2, hrest.1, hrest.2, if_neg r.code_ne]
    rfl

/-! ## Lines -/

/-- A printable character other than the blank is kept by `strip`. -/
theorem not_isSpace (hlow : 0x21 ≤ c.toNat) (hhigh : c.toNat ≤ 0x7E) : PyText.isSpace c = false := by
  have hunicode : c.toNat ∉ PyText.unicodeSpaces := by
    intro h
    simp only [PyText.unicodeSpaces, List.mem_cons, List.not_mem_nil, or_false] at h
    omega
  simp only [PyText.isSpace, hunicode, decide_false, Bool.or_false, Bool.or_eq_false_iff,
    Bool.and_eq_false_iff, decide_eq_false_iff_not]
  omega

theorem not_isSpace_code (h : isCodeChar c = true) : PyText.isSpace c = false := by
  refine not_isSpace ?_ (isText_spec (isText_of_isCodeChar h)).2.1
  rcases of_decide_eq_true h with ⟨hlow, -⟩ | rfl
  · have hlow : 48 ≤ c.toNat := hlow
    omega
  · decide

/-- A line starts with a character of its code. -/
theorem line_head (r : Reading) : ∃ c rest, r.line = c :: rest ∧ isCodeChar c = true := by
  obtain ⟨c, code, hcode⟩ := List.exists_cons_of_ne_nil r.code_ne
  refine ⟨c, (code ++ '(' :: (r.value ++ if r.bare then [] else '*' :: r.unit)) ++ [')'], ?_,
    r.code_chars c (hcode ▸ List.mem_cons_self ..)⟩
  rw [Reading.line, Reading.front, hcode]
  rfl

/-- What `strip` leaves of a line with blanks behind it is the line: its last character is the
    bracket. -/
theorem strip_line {blanks : List Char} (h : ∀ c ∈ blanks, PyText.isSpace c = true) :
    PyText.strip (r.line ++ blanks) = r.line := by
  obtain ⟨c, rest, hline, hc⟩ := line_head r
  have hlast : r.line.getLast? = some ')' := List.getLast?_concat
  have hne : r.line ≠ [] := hline ▸ List.cons_ne_nil c rest
  refine strip_blanks hne ?_ ?_ h
  · simp only [hline, List.head_cons]
    exact not_isSpace_code hc
  · rw [List.getLast?_eq_some_getLast hne] at hlast
    rw [Option.some.inj hlast]
    decide

/-- What a reading does to the values. -/
def enter (values : DataReadout) (r : Reading) : DataReadout :=
  values.setItem r.code (r.value, r.unit)

/-- **A line is its reading.**  Reading the line of a reading, with blanks behind it or not, enters
    that reading. -/
theorem readLine_line {values : DataReadout} {blanks : List Char}
    (h : ∀ c ∈ blanks, PyText.isSpace c = true) :
    readLine values (r.line ++ blanks) = enter values r := by
  obtain ⟨c, rest, hline, hc⟩ := line_head r
  have hmark : ¬ (r.line = [] ∨ r.line = ['!']) := by
    rw [hline]
    rintro (h | h)
    · cases h
    · obtain ⟨rfl, -⟩ := List.cons.inj h
      exact absurd hc (by decide)
  simp only [readLine, strip_line h, if_neg hmark, matchDataLine_line]
  rcases hbare : r.bare
  · rfl
  · rw [enter, r.bare_unit hbare]
    rfl

/-- A line without a closing bracket is passed over. -/
theorem readLine_unclosed {values : DataReadout} {line : List Char} (h : ')' ∉ line) :
    readLine values line = values := by
  have hstrip : ')' ∉ PyText.strip line := fun hmem =>
    h ((List.dropWhile_suffix _).subset ((List.rdropWhile_prefix _ _).subset hmem))
  simp only [readLine, matchDataLine_unclosed hstrip, ite_self]

/-! ## Cut readouts -/

theorem return_not_mem_front : '\r' ∉ r.front := fun h =>
  absurd (front_printable h).1 (by decide)

/-- A line that stops before its closing bracket has none, which is why it is no line. -/
theorem paren_not_mem_front : ')' ∉ r.front := fun h => (front_printable h).2.2 rfl

/-- Reading line by line: the first line enters its reading, and the rest is read behind it. -/
theorem readLines_cons (values : DataReadout) (r : Reading) (rest : List Char) :
    readLines values (r.line ++ '\r' :: '\n' :: rest) = readLines (enter values r) rest := by
  have hline : readLine values (r.line ++ []) = enter values r := readLine_line (by simp)
  rw [List.append_nil] at hline
  rw [readLines, splitPair_line return_not_mem_line, List.foldl_cons, hline]
  rfl

/-- A text without a line break is read as its one line. -/
theorem readLines_single {values : DataReadout} {line : List Char}
    (h : splitPair '\r' '\n' line = [line]) : readLines values line = readLine values line := by
  rw [readLines, h]
  rfl

/-- The readings of a whole readout are entered one after another. -/
theorem readLines_readout (values : DataReadout) :
    readLines values (readoutLines rs) = rs.foldl enter values := by
  induction rs generalizing values with
  | nil => rfl
  | cons r rs ih => rw [readoutLines, readLines_cons, ih, List.foldl_cons]

/-- A front part of a readout holds the first few readings. -/
theorem readLines_prefix (values : DataReadout) {part : List Char}
    (h : part <+: readoutLines rs) : ∃ k, readLines values part = (rs.take k).foldl enter values := by
  induction rs generalizing values part with
  | nil =>
    refine ⟨0, ?_⟩
    rcases List.prefix_cons_iff.mp h with rfl | ⟨_, rfl, hmark⟩
    · rfl
    · rcases List.prefix_cons_iff.mp hmark with rfl | ⟨_, rfl, hreturn⟩
      · rfl
      · rcases List.prefix_cons_iff.mp hreturn with rfl | ⟨_, rfl, hend⟩
        · rfl
        · rw [List.prefix_nil.mp hend]
          rfl
  | cons r rs ih =>
    have hblanks : ∀ blanks, (∀ c ∈ blanks, PyText.isSpace c = true) →
        splitPair '\r' '\n' (r.line ++ blanks) = [r.line ++ blanks] →
        readLines values (r.line ++ blanks) = ((r :: rs).take 1).foldl enter values := by
      intro blanks hspace hsplit
      rw [readLines_single hsplit, readLine_line hspace]
      rfl
    rcases List.prefix_or_prefix_of_prefix h (List.prefix_append r.line _) with hpart | ⟨rest, rfl⟩
    · rcases List.prefix_concat_iff.mp hpart with rfl | hfront
      · have hwhole := hblanks [] (by simp) (by
          rw [List.append_nil]
          exact splitPair_last return_not_mem_line)
        rw [List.append_nil] at hwhole
        exact ⟨1, hwhole⟩
      · -- the closing bracket is missing
        have hsplit := splitPair_last (b := '\n') fun hmem =>
          return_not_mem_front (hfront.subset hmem)
        refine ⟨0, ?_⟩
        rw [readLines_single hsplit]
        exact readLine_unclosed fun hmem => paren_not_mem_front (hfront.subset hmem)
    · rw [readoutLines, List.prefix_append_right_inj] at h
      rcases List.prefix_cons_iff.mp h with rfl | ⟨_, rfl, hreturn⟩
      · exact ⟨1, hblanks [] (by simp) (by
          rw [List.append_nil]
          exact splitPair_last return_not_mem_line)⟩
      · rcases List.prefix_cons_iff.mp hreturn with rfl | ⟨rest, rfl, hrest⟩
        · exact ⟨1, hblanks ['\r'] (List.all_eq_true.mp rfl) (splitPair_half return_not_mem_line)⟩
        · obtain ⟨k, hk⟩ := ih (enter values r) hrest
          exact ⟨k + 1, by rw [readLines_cons, hk, List.take_succ_cons, List.foldl_cons]⟩

/-- What is kept of a reading. -/
def Reading.entry (r : Reading) : List Char × List Char × List Char := (r.code, r.value, r.unit)

/-- Readings of different codes are kept side by side. -/
theorem rows_foldl_enter (values : DataReadout) (hcodes : (rs.map (·.code)).Nodup)
    (hnew : ∀ r ∈ rs, r.code ∉ values.rows.map Prod.fst) :
    (rs.foldl enter values).rows = values.rows ++ rs.map (·.entry) := by
  induction rs generalizing values with
  | nil => rw [List.map_nil, List.append_nil, List.foldl_nil]
  | cons r rs ih =>
    rw [List.map_cons, List.nodup_cons] at hcodes
    have hrows : (enter values r).rows = values.rows ++ [r.entry] :=
      Table.rows_setItem_new (hnew r (List.mem_cons_self ..))
    rw [List.foldl_cons, ih _ hcodes.2, hrows, List.append_assoc]
    · rfl
    · intro r' hr' hmem
      rw [hrows, List.map_append, List.mem_append] at hmem
      rcases hmem with hold | hself
      · exact hnew r' (List.mem_cons_of_mem _ hr') hold
      · rw [List.map_singleton, List.mem_singleton] at hself
        exact hcodes.1 (List.mem_map.mpr ⟨r', hr', hself⟩)

/-- With different codes the dictionary has the readings in the order of their lines. -/
theorem rows_readout (hcodes : (rs.map (·.code)).Nodup) :
    (rs.foldl enter .empty).rows = rs.map (·.entry) :=
  rows_foldl_enter .empty hcodes fun _ _ h => nomatch h

/-- Of a code whose reading is among them there is this value or none. -/
theorem get_take (hcodes : (rs.map (·.code)).Nodup) (hr : r ∈ rs) (k : Nat) :
    ((rs.take k).foldl enter .empty).get r.code = none ∨
      ((rs.take k).foldl enter .empty).get r.code = some (r.value, r.unit) := by
  have htake : ((rs.take k).map (·.code)).Nodup :=
    hcodes.sublist ((List.take_sublist k rs).map _)
  rcases hget : ((rs.take k).foldl enter .empty).get r.code with _ | x
  · exact .inl rfl
  · refine .inr ?_
    have hmem := Table.get_eq_some.mp hget
    rw [rows_readout htake] at hmem
    obtain ⟨r', hr', hentry⟩ := List.mem_map.mp hmem
    obtain ⟨hcode, rfl⟩ := Prod.mk.inj hentry
    obtain rfl : r' = r := List.inj_on_of_nodup_map hcodes (List.mem_of_mem_take hr') hr hcode
    rfl

/-- With different codes every reading of a readout is found under its code. -/
theorem get_readout (hcodes : (rs.map (·.code)).Nodup) (hr : r ∈ rs) :
    (rs.foldl enter .empty).get r.code = some (r.value, r.unit) := by
  rw [Table.get_eq_some, rows_readout hcodes]
  exact List.mem_map.mpr ⟨r, hr, rfl⟩

end Lines

/-! ## Checksum -/

/-- The checksum from any start is the checksum from zero, added to the start. -/
theorem foldl_xor (a : UInt8) (data : Bytes) : data.foldl (· ^^^ ·) a = a ^^^ computeBcc data := by
  induction data generalizing a with
  | nil => exact UInt8.xor_zero.symm
  | cons b data ih =>
    rw [computeBcc, List.foldl_cons, List.foldl_cons, ih, ih (0 ^^^ b), UInt8.zero_xor,
      UInt8.xor_assoc]

/-- The checksum of two pieces is the sum of their checksums. -/
theorem computeBcc_append (p q : Bytes) : computeBcc (p ++ q) = computeBcc p ^^^ computeBcc q := by
  rw [computeBcc, List.foldl_append, foldl_xor]
  rfl

/-- One byte more in front adds that byte to the checksum. -/
theorem computeBcc_cons (b : UInt8) (data : Bytes) : computeBcc (b :: data) = b ^^^ computeBcc data := by
  rw [computeBcc, List.foldl_cons, foldl_xor, UInt8.zero_xor]

/-- The sum of a replaced byte is another one. -/
theorem computeBcc_replace {p t : Bytes} {x y : UInt8} :
    computeBcc (p ++ x :: t) = computeBcc (p ++ y :: t) ↔ x = y := by
  rw [computeBcc_append, computeBcc_append, computeBcc_cons, computeBcc_cons, UInt8.xor_right_inj,
    UInt8.xor_left_inj]

/-! ## Bytes -/

section Ascii

variable {text : List Char} {rs : List Reading}

theorem asciiBytes_append (text text' : List Char) :
    asciiBytes (text ++ text') = asciiBytes text ++ asciiBytes text' := List.map_append

/-- ASCII text comes back from its bytes: nothing is replaced on the way. -/
theorem decodeText_asciiBytes (h : ∀ c ∈ text, c.toNat < 128) :
    decodeText (asciiBytes text) = .ok text := by
  have hall : (String.ofList text).toList.all (fun c => c.toNat < 128) = true := by
    rw [String.toList_ofList, List.all_eq_true]
    exact fun c hc => decide_eq_true (h c hc)
  have hdecode := asciiDecode_encode hall
  rw [String.toList_ofList] at hdecode
  rw [decodeText, asciiBytes, hdecode, Result.ok_map, String.toList_ofList]

/-- ASCII text can be encoded, byte for byte. -/
theorem encodeText_ascii (h : ∀ c ∈ text, c.toNat < 128) : encodeText text = .ok (asciiBytes text) := by
  rw [encodeText, asciiEncode, String.toList_ofList, if_pos]
  · rfl
  · rw [List.all_eq_true]
    exact fun c hc => decide_eq_true (h c hc)

/-- A byte is in a text only if its character is. -/
theorem not_mem_asciiBytes {b : UInt8} (h : ∀ c ∈ text, c.toNat < 128 ∧ c.toNat ≠ b.toNat) :
    b ∉ asciiBytes text := by
  intro hmem
  obtain ⟨c, hc, rfl⟩ := List.mem_map.mp hmem
  refine (h c hc).2 ?_
  rw [UInt8.toNat_ofNat', Nat.mod_eq_of_lt (by have := (h c hc).1; omega)]

/-- A front part of the bytes of a text is a front part of the text. -/
theorem prefix_asciiBytes {q : Bytes} (h : q <+: asciiBytes text) :
    ∃ part, part <+: text ∧ q = asciiBytes part :=
  ⟨text.take q.length, List.take_prefix .., by
    rw [asciiBytes, List.map_take]
    exact List.prefix_iff_eq_take.mp h⟩

/-- Between the lines of a readout there are only ends of lines: every character is printable or one
    of those. -/
theorem mem_readoutLines {c : Char} (h : c ∈ readoutLines rs) : 0x0A ≤ c.toNat ∧ c.toNat ≤ 0x7E := by
  induction rs with
  | nil =>
    simp only [readoutLines, List.mem_cons, List.not_mem_nil, or_false] at h
    rcases h with rfl | rfl | rfl
    · decide
    · decide
    · decide
  | cons r rs ih =>
    rcases List.mem_append.mp h with hline | hrest
    · have := line_printable hline
      omega
    · rcases List.mem_cons.mp hrest with rfl | hrest
      · decide
      · rcases List.mem_cons.mp hrest with rfl | hrest
        · decide
        · exact ih hrest

/-- The lines have no ETX in them, so the first ETX of a frame is the one behind the lines. -/
theorem etx_not_mem_readoutLines : etx ∉ asciiBytes (readoutLines rs) := by
  refine not_mem_asciiBytes fun c hc => ?_
  have hc := mem_readoutLines hc
  have hetx : etx.toNat = 3 := rfl
  omega

end Ascii

/-! ## Parsing -/

section Parsing

variable {rs : List Reading} {q : Bytes} {c : UInt8}

/-- With the marks in place the checksum decides. -/
theorem parseDataReadout_framed : parseDataReadout [stx] (q ++ [etx]) [c] =
    if c = computeBcc (q ++ [etx]) then (decodeText q).map (readLines .empty)
    else .error (.crc [.text "Контрольная сумма (BCC) data readout не сошлась"]
      ([stx] ++ (q ++ [etx]) ++ [c])) := by
  have hlast : (q ++ [etx]).getLast? = some etx := List.getLast?_concat
  rw [parseDataReadout, if_neg (not_not.mpr rfl), if_neg (not_not.mpr hlast), List.head?_cons,
    List.dropLast_concat]
  by_cases hc : c = computeBcc (q ++ [etx])
  · rw [if_pos hc, if_neg (not_not.mpr (congrArg some hc))]
  · rw [if_neg hc, if_pos fun h => hc (Option.some.inj h)]

/-- A readout with its own checksum is parsed as its readings, in order. -/
theorem parseDataReadout_readout :
    parseDataReadout [stx] (readoutBody rs) [computeBcc (readoutBody rs)] =
      .ok (rs.foldl enter .empty) := by
  have hascii : ∀ c ∈ readoutLines rs, c.toNat < 128 := fun c hc => by
    have := mem_readoutLines hc
    omega
  rw [readoutBody, parseDataReadout_framed, if_pos rfl, decodeText_asciiBytes hascii, Result.ok_map,
    readLines_readout]

/-- A readout that is cut off is refused, or holds the first few readings. -/
theorem parseDataReadout_front {part : List Char} (h : part <+: readoutLines rs) :
    (∃ e, parseDataReadout [stx] (asciiBytes part ++ [etx]) [c] = .error e) ∨
    ∃ k, parseDataReadout [stx] (asciiBytes part ++ [etx]) [c] =
      .ok ((rs.take k).foldl enter .empty) := by
  have hascii : ∀ c ∈ part, c.toNat < 128 := fun c hc => by
    have := mem_readoutLines (h.subset hc)
    omega
  rw [parseDataReadout_framed]
  split
  · obtain ⟨k, hk⟩ := readLines_prefix .empty h
    exact .inr ⟨k, by rw [decodeText_asciiBytes hascii, Result.ok_map, hk]⟩
  · exact .inl ⟨_, rfl⟩

/-- The value under the short code, if it is the text of a number, is that number. -/
theorem readoutValue_get {F : Type} {fmt : PyText.FloatFormat F} {serial obis5 unit : List Char}
    {values : DataReadout} {d : PyText.Decimal} (h : values.get obis5 = some (d.text, unit)) :
    readoutValue fmt serial obis5 values = .ok (d.number fmt) := by
  rw [readoutValue, h]
  dsimp only
  rw [decodeBcdAsciiNumber, PyText.pyFloat_decimal]

end Parsing

/-! ## Streams -/

section Streams

variable {F σ : Type} {S : MeterSocket σ} {R : σ → Bytes → Prop} {s : σ} {fmt : PyText.FloatFormat F}
  {serial obis5 : List Char}

/-- Over any delivery of the bytes, `recv_until` returns everything up to the first byte it waits
    for. -/
theorem recvUntil_feeds (D : Stream.Delivery S.toSocket R) {q t rest : Bytes} {b : UInt8}
    (ht : t <:+ q ++ [b]) (hb : b ∈ t) (hq : b ∉ q) (hfits : (q ++ [b]).length ≤ maxAnswerLength)
    (hR : R s (q ++ b :: rest)) : ∃ s', recvUntil S t s = (.ok (q ++ [b]), s') ∧ R s' rest :=
  Stream.upTo_terminator_feeds D.feeds ht hb hq hfits hR

/-- It fails on an answer that is longer than the limit before the byte it waits for comes. -/
theorem recvUntil_tooLong (D : Stream.Delivery S.toSocket R) {q t rest : Bytes} {b : UInt8}
    (hb : b ∈ t) (hq : b ∉ q) (hlong : maxAnswerLength < (q ++ [b]).length)
    (hR : R s (q ++ b :: rest)) : ∃ e s', recvUntil S t s = (.error e, s') :=
  Stream.upTo_terminator_tooLong D.feeds hb hq hlong hR

/-- It fails where the byte it waits for never comes and the stream ends. -/
theorem recvUntil_ends (D : Stream.Delivery S.toSocket R) {q t : Bytes} {b : UInt8} (hb : b ∈ t)
    (hq : b ∉ q) (hR : R s q) : ∃ e s', recvUntil S t s = (.error e, s') :=
  Stream.upTo_terminator_ends D.feeds D.ends hb hq hR

/-- One more byte is received if there is one. -/
theorem recvExact_one (D : Stream.Delivery S.toSocket R) {b : UInt8} {rest : Bytes}
    (hR : R s (b :: rest)) : ∃ s', recvExact S 1 s = (.ok [b], s') ∧ R s' rest :=
  Stream.exactly_feeds (q := [b]) recvExactFailed D.feeds hR

/-- Where the stream is at its end, the wait for one more byte fails. -/
theorem recvExact_ends (D : Stream.Delivery S.toSocket R) (hR : R s []) :
    ∃ e s', recvExact S 1 s = (.error e, s') := Stream.exactly_ends D.ends Nat.zero_lt_one hR

/-- The readout up to the first ETX and the byte after it decide. -/
theorem readReadout_framed (D : Stream.Delivery S.toSocket R) {first c : UInt8} {q rest : Bytes}
    (hfirst : first ≠ nak) (hq : etx ∉ q) (hfits : (q ++ [etx]).length ≤ maxAnswerLength)
    (hR : R s (first :: (q ++ etx :: c :: rest))) :
    (readReadout fmt S serial obis5 s).1 =
      parseDataReadout [first] (q ++ [etx]) [c] >>= readoutValue fmt serial obis5 := by
  obtain ⟨s₁, hstx, hR⟩ := recvExact_one D hR
  obtain ⟨s₂, hbody, hR⟩ := recvUntil_feeds D (List.suffix_append q [etx])
    (List.mem_singleton_self etx) hq hfits hR
  obtain ⟨s₃, hbcc, hR⟩ := recvExact_one D hR
  rw [readReadout, bind_ok hstx, if_neg fun h => hfirst (List.cons.inj h).1, bind_ok hbody,
    bind_ok hbcc]
  rcases parseDataReadout [first] (q ++ [etx]) [c] with e | values
  · rfl
  · rfl

/-- A meter that answers with NAK makes the readout an error. -/
theorem readReadout_nak (D : Stream.Delivery S.toSocket R) {bytes : Bytes} (hR : R s (nak :: bytes)) :
    ∃ e, (readReadout fmt S serial obis5 s).1 = .error e := by
  obtain ⟨s₁, hstx, -⟩ := recvExact_one D hR
  rw [readReadout, bind_ok hstx, if_pos rfl]
  exact ⟨_, rfl⟩

/-- A readout without an ETX and a byte after it is an error. -/
theorem readReadout_unfinished (D : Stream.Delivery S.toSocket R) {first : UInt8} {q rest : Bytes}
    (hq : etx ∉ q) (hrest : rest = [] ∨ rest = [etx]) (hR : R s (first :: (q ++ rest))) :
    ∃ e, (readReadout fmt S serial obis5 s).1 = .error e := by
  obtain ⟨s₁, hstx, hR⟩ := recvExact_one D hR
  rw [readReadout, bind_ok hstx]
  split
  · exact ⟨_, rfl⟩
  · rcases hrest with rfl | rfl
    · rw [List.append_nil] at hR
      obtain ⟨e, s₂, hbody⟩ := recvUntil_ends D (List.mem_singleton_self etx) hq hR
      rw [bind_error hbody]
      exact ⟨e, rfl⟩
    · rcases Nat.lt_or_ge maxAnswerLength (q ++ [etx]).length with hlong | hfits
      · obtain ⟨e, s₂, hbody⟩ := recvUntil_tooLong D (List.mem_singleton_self etx) hq hlong hR
        rw [bind_error hbody]
        exact ⟨e, rfl⟩
      · obtain ⟨s₂, hbody, hR⟩ := recvUntil_feeds D (List.suffix_append q [etx])
          (List.mem_singleton_self etx) hq hfits hR
        obtain ⟨e, s₃, hbcc⟩ := recvExact_ends D hR
        rw [bind_ok hbody, bind_error hbcc]
        exact ⟨e, rfl⟩

end Streams

/-! ## The identification -/

/-- The line of the meter that answers the request: a slash and at least four characters. -/
structure Identification where
  text : List Char
  text_length : 4 ≤ text.length
  text_printable : ∀ c ∈ text, 0x20 ≤ c.toNat ∧ c.toNat ≤ 0x7E
  fits : text.length + 3 ≤ maxAnswerLength

def Identification.bytes (ident : Identification) : Bytes := asciiBytes ('/' :: ident.text) ++ crlf

section Streams

variable {F σ : Type} {S : MeterSocket σ} {R : σ → Bytes → Prop} {s : σ} {fmt : PyText.FloatFormat F}
  {serial obis5 : List Char}

/-- The line of an identification is printable ASCII. -/
theorem Identification.mem_line {ident : Identification} {c : Char} (h : c ∈ '/' :: ident.text) :
    0x20 ≤ c.toNat ∧ c.toNat ≤ 0x7E := by
  rcases List.mem_cons.mp h with rfl | h
  · decide
  · exact ident.text_printable c h

/-- No character of an identification ends its line early. -/
theorem Identification.not_isLineEnd {ident : Identification} {c : Char}
    (h : c ∈ '/' :: ident.text) : isLineEnd c = false := by
  have hlow := (Identification.mem_line h).1
  refine decide_eq_false ?_
  rintro (rfl | rfl)
  · exact absurd hlow (by decide)
  · exact absurd hlow (by decide)

/-- The bytes of an identification decode to its line, ends included. -/
theorem Identification.decode (ident : Identification) :
    decodeText ident.bytes = .ok ('/' :: ident.text ++ ['\r', '\n']) := by
  have hbytes : ident.bytes = asciiBytes ('/' :: ident.text ++ ['\r', '\n']) :=
    (asciiBytes_append ('/' :: ident.text) ['\r', '\n']).symm
  rw [hbytes]
  refine decodeText_asciiBytes fun c hc => ?_
  rcases List.mem_append.mp hc with hc | hc
  · have := Identification.mem_line hc
    omega
  · rcases List.mem_pair.mp hc with rfl | rfl
    · decide
    · decide

/-- An identification is accepted, and its character for the baud rate is ASCII, as the option
    select needs it. -/
theorem parseIdentification_bytes (ident : Identification) :
    ∃ message, parseIdentification ident.bytes = .ok message ∧ message.baudChar.toNat < 128 := by
  have hstrip : (('/' :: ident.text ++ ['\r', '\n']).dropWhile isLineEnd).rdropWhile isLineEnd =
      '/' :: ident.text :=
    strip_blanks (List.cons_ne_nil _ _) rfl (Identification.not_isLineEnd (List.getLast_mem _))
      (List.all_eq_true.mp rfl)
  rw [parseIdentification, ident.decode, Result.ok_bind, hstrip]
  obtain ⟨a, b, c, baudChar, identification, htext⟩ :
      ∃ a b c d rest, ident.text = a :: b :: c :: d :: rest := by
    have hlength := ident.text_length
    match htext : ident.text, hlength with
    | a :: b :: c :: d :: rest, _ => exact ⟨a, b, c, d, rest, rfl⟩
  rw [htext]
  refine ⟨_, rfl, ?_⟩
  have := ident.text_printable baudChar (htext ▸ by simp)
  show baudChar.toNat < 128
  omega

/-- Sending leaves what is still to be received as it is. -/
theorem send_delivery (D : Stream.Delivery S.toSocket R) (data : Bytes) {bytes : Bytes}
    (hR : R s bytes) : ∃ s', send S data s = (.ok (), s') ∧ R s' bytes := by
  obtain ⟨s', hsend, hR⟩ := D.sends data s bytes hR
  exact ⟨s', send_ok hsend, hR⟩

/-- A serial number in ASCII makes a request. -/
theorem buildIdentificationRequest_ascii (hserial : ∀ c ∈ serial, c.toNat < 128) :
    ∃ request, buildIdentificationRequest serial = .ok request := by
  rw [buildIdentificationRequest, encodeText_ascii hserial]
  exact ⟨_, rfl⟩

/-- A character for the baud rate in ASCII makes an option select. -/
theorem buildOptionSelect_ascii {baudChar : Char} (hbaud : baudChar.toNat < 128) :
    ∃ optionSelect, buildOptionSelect baudChar ['0'] = .ok optionSelect := by
  have hone : ∀ {c : Char}, c.toNat < 128 → ∀ c' ∈ [c], c'.toNat < 128 := fun h c' hc' => by
    rwa [List.mem_singleton.mp hc']
  rw [buildOptionSelect, encodeText_ascii (hone hbaud), encodeText_ascii (hone (by decide))]
  exact ⟨_, rfl⟩

/-- The identification is read up to its line end. -/
theorem recvUntil_identification (D : Stream.Delivery S.toSocket R) (ident : Identification)
    {raw : Bytes} (hR : R s (ident.bytes ++ raw)) :
    ∃ s', recvUntil S crlf s = (.ok ident.bytes, s') ∧ R s' raw := by
  have hbytes : ident.bytes = asciiBytes ('/' :: ident.text) ++ [0x0D] ++ [0x0A] := by
    rw [List.append_assoc]
    rfl
  have hfeed : (0x0A : UInt8) ∉ asciiBytes ('/' :: ident.text) ++ [0x0D] := by
    refine List.not_mem_append (not_mem_asciiBytes fun c hc => ?_) (by decide)
    have := Identification.mem_line hc
    have hfeed : (0x0A : UInt8).toNat = 10 := rfl
    omega
  have hend : crlf <:+ asciiBytes ('/' :: ident.text) ++ [0x0D] ++ [0x0A] :=
    ⟨asciiBytes ('/' :: ident.text), hbytes⟩
  have hlength : (asciiBytes ('/' :: ident.text) ++ [0x0D] ++ [0x0A]).length ≤ maxAnswerLength := by
    have := ident.fits
    rw [List.length_append, List.length_append, asciiBytes, List.length_map, List.length_cons]
    exact this
  rw [hbytes] at hR ⊢
  rw [List.append_assoc _ [0x0A] raw] at hR
  exact recvUntil_feeds D hend (by decide) hfeed hlength hR

/-- Behind the identification of the meter, reading a value is reading the readout. -/
theorem readValue_readReadout (D : Stream.Delivery S.toSocket R) (ident : Identification)
    {raw : Bytes} (hserial : ∀ c ∈ serial, c.toNat < 128) (hR : R s (ident.bytes ++ raw)) :
    ∃ s', R s' raw ∧ readValue fmt S serial obis5 s = readReadout fmt S serial obis5 s' := by
  obtain ⟨request, hrequest⟩ := buildIdentificationRequest_ascii hserial
  obtain ⟨message, hparse, hbaud⟩ := parseIdentification_bytes ident
  obtain ⟨optionSelect, hselect⟩ := buildOptionSelect_ascii hbaud
  obtain ⟨s₁, hsend, hR⟩ := send_delivery D request hR
  obtain ⟨s₂, hident, hR⟩ := recvUntil_identification D ident hR
  obtain ⟨s₃, hsend', hR⟩ := send_delivery D optionSelect hR
  refine ⟨s₃, hR, ?_⟩
  rw [readValue, hrequest, lift_ok_bind_run, bind_ok hsend, bind_ok hident, hparse, lift_ok_bind_run,
    hselect, lift_ok_bind_run, bind_ok hsend']

end Streams

/-! ## A replaced byte -/

section Replaced

variable {F σ : Type} {S : MeterSocket σ} {R : σ → Bytes → Prop} {s : σ} {fmt : PyText.FloatFormat F}
  {serial : List Char} {rs : List Reading} {r : Reading} {d : PyText.Decimal}

/-- A place in a list is its last or is in front of it. -/
theorem concat_split {l p t : Bytes} {z x : UInt8} (h : l ++ [z] = p ++ x :: t) :
    (p = l ∧ x = z ∧ t = []) ∨ ∃ t', t = t' ++ [z] ∧ l = p ++ x :: t' := by
  rcases List.eq_nil_or_concat t with rfl | ⟨t, y, rfl⟩
  · obtain ⟨hl, hz⟩ := List.append_inj' h rfl
    exact .inl ⟨hl.symm, (List.singleton_inj.mp hz).symm, rfl⟩
  · rw [List.concat_eq_append, ← List.cons_append, ← List.append_assoc] at h
    obtain ⟨hl, hz⟩ := List.append_inj' h rfl
    exact .inr ⟨t, by rw [List.concat_eq_append, List.singleton_inj.mp hz], hl⟩

/-- A byte of the frame is its first, a byte of a line, the ETX, or the checksum. -/
theorem readoutFrame_split {p t : Bytes} {old : UInt8} (h : readoutFrame rs = p ++ old :: t) :
    (p = [] ∧ old = stx ∧ t = readoutBody rs ++ [computeBcc (readoutBody rs)]) ∨
    (∃ p' t', p = stx :: p' ∧ t = t' ++ [etx] ++ [computeBcc (readoutBody rs)] ∧
      asciiBytes (readoutLines rs) = p' ++ old :: t') ∨
    (p = stx :: asciiBytes (readoutLines rs) ∧ old = etx ∧ t = [computeBcc (readoutBody rs)]) ∨
    (p = stx :: readoutBody rs ∧ old = computeBcc (readoutBody rs) ∧ t = []) := by
  rcases p with _ | ⟨first, p⟩
  · obtain ⟨hfirst, ht⟩ := List.cons.inj h
    exact .inl ⟨rfl, hfirst.symm, ht.symm⟩
  · obtain ⟨rfl, hrest⟩ := List.cons.inj h
    rcases concat_split hrest with ⟨rfl, hold, ht⟩ | ⟨t, rfl, hbody⟩
    · exact .inr (.inr (.inr ⟨rfl, hold, ht⟩))
    · rcases concat_split hbody with ⟨rfl, hold, rfl⟩ | ⟨t, rfl, hlines⟩
      · exact .inr (.inr (.inl ⟨rfl, hold, rfl⟩))
      · exact .inr (.inl ⟨p, t, rfl, rfl, hlines⟩)

/-- From an undamaged readout comes the number that the meter has sent under the code. -/
theorem readReadout_frame (D : Stream.Delivery S.toSocket R) (hcodes : (rs.map (·.code)).Nodup)
    (hfits : (readoutBody rs).length ≤ maxAnswerLength) (hr : r ∈ rs) (hvalue : r.value = d.text)
    (hR : R s (readoutFrame rs)) : (readReadout fmt S serial r.code s).1 = .ok (d.number fmt) := by
  have hframe : readoutFrame rs = stx :: (asciiBytes (readoutLines rs) ++
      etx :: computeBcc (readoutBody rs) :: []) := by
    rw [readoutFrame, readoutBody, List.append_assoc]
    rfl
  rw [hframe] at hR
  rw [readReadout_framed D (by decide) etx_not_mem_readoutLines hfits hR, ← readoutBody,
    parseDataReadout_readout, Result.ok_bind]
  exact readoutValue_get (hvalue ▸ get_readout hcodes hr)

/-- A readout cut off at an ETX gives the number that was sent, or none. -/
theorem readReadout_cut (D : Stream.Delivery S.toSocket R) (hcodes : (rs.map (·.code)).Nodup)
    (hfits : (readoutBody rs).length ≤ maxAnswerLength) (hr : r ∈ rs) (hvalue : r.value = d.text)
    {p rest : Bytes} {c : UInt8} (hp : p <+: asciiBytes (readoutLines rs))
    (hR : R s (stx :: (p ++ etx :: c :: rest))) :
    (readReadout fmt S serial r.code s).1 = .ok (d.number fmt) ∨
      ∃ e, (readReadout fmt S serial r.code s).1 = .error e := by
  have hlength : (p ++ [etx]).length ≤ maxAnswerLength := by
    have hle := hp.length_le
    rw [readoutBody, List.length_append] at hfits
    rw [List.length_append]
    exact (Nat.add_le_add_right hle _).trans hfits
  rw [readReadout_framed D (by decide) (fun h => etx_not_mem_readoutLines (hp.subset h)) hlength hR]
  obtain ⟨part, hpart, rfl⟩ := prefix_asciiBytes hp
  rcases parseDataReadout_front (c := c) hpart with ⟨e, herror⟩ | ⟨k, hok⟩
  · rw [herror]
    exact .inr ⟨e, rfl⟩
  · rw [hok, Result.ok_bind]
    rcases get_take hcodes hr k with hnone | hsome
    · rw [readoutValue, hnone]
      exact .inr ⟨_, rfl⟩
    · exact .inl (readoutValue_get (hvalue ▸ hsome))

/-- A readout whose checksum does not fit its bytes is an error. -/
theorem readReadout_mismatch (D : Stream.Delivery S.toSocket R) {q rest : Bytes} {c : UInt8}
    {obis5 : List Char} (hq : etx ∉ q) (hfits : (q ++ [etx]).length ≤ maxAnswerLength)
    (hc : c ≠ computeBcc (q ++ [etx])) (hR : R s (stx :: (q ++ etx :: c :: rest))) :
    ∃ e, (readReadout fmt S serial obis5 s).1 = .error e := by
  rw [readReadout_framed D (by decide) hq hfits hR, parseDataReadout_framed, if_neg hc]
  exact ⟨_, rfl⟩

/-- Another byte than STX does not start a readout. -/
theorem readReadout_start (D : Stream.Delivery S.toSocket R) {obis5 : List Char} {first : UInt8}
    (hfits : (readoutBody rs).length ≤ maxAnswerLength) (hfirst : first ≠ stx)
    (hR : R s (first :: (readoutBody rs ++ [computeBcc (readoutBody rs)]))) :
    ∃ e, (readReadout fmt S serial obis5 s).1 = .error e := by
  by_cases hnak : first = nak
  · exact readReadout_nak D (hnak ▸ hR)
  · rw [readoutBody, List.append_assoc] at hR
    rw [readReadout_framed D hnak etx_not_mem_readoutLines hfits hR, parseDataReadout,
      if_pos fun h => hfirst (List.singleton_inj.mp h)]
    exact ⟨_, rfl⟩

/-- A byte of a line that becomes no ETX is noticed. -/
theorem readReadout_line (D : Stream.Delivery S.toSocket R) {obis5 : List Char} {p t : Bytes}
    {old new : UInt8} (hfits : (readoutBody rs).length ≤ maxAnswerLength)
    (hlines : asciiBytes (readoutLines rs) = p ++ old :: t) (hnew : new ≠ old) (hetx : new ≠ etx)
    (hR : R s (stx :: (p ++ new :: (t ++ [etx] ++ [computeBcc (readoutBody rs)])))) :
    ∃ e, (readReadout fmt S serial obis5 s).1 = .error e := by
  have hlength : (p ++ new :: t ++ [etx]).length = (readoutBody rs).length := by
    simp only [readoutBody, hlines, List.length_append, List.length_cons]
  have hq : etx ∉ p ++ new :: t := by
    have hold : etx ∉ p ++ old :: t := hlines ▸ etx_not_mem_readoutLines
    simp only [List.mem_append, List.mem_cons, not_or] at hold ⊢
    exact ⟨hold.1, Ne.symm hetx, hold.2.2⟩
  have hbcc : computeBcc (readoutBody rs) ≠ computeBcc (p ++ new :: t ++ [etx]) := by
    rw [readoutBody, hlines, List.append_assoc, List.append_assoc, List.cons_append,
      List.cons_append]
    exact fun h => hnew (computeBcc_replace.mp h).symm
  have hR : R s (stx :: (p ++ new :: t ++ etx :: computeBcc (readoutBody rs) :: [])) := by
    simpa using hR
  exact readReadout_mismatch D hq (hlength ▸ hfits) hbcc hR

/-- Without the ETX the readout has no end, or its checksum is the end. -/
theorem readReadout_endless (D : Stream.Delivery S.toSocket R) {obis5 : List Char} {new : UInt8}
    (hnew : new ≠ etx)
    (hR : R s (stx :: (asciiBytes (readoutLines rs) ++ new :: [computeBcc (readoutBody rs)]))) :
    ∃ e, (readReadout fmt S serial obis5 s).1 = .error e := by
  have hq : etx ∉ asciiBytes (readoutLines rs) ++ [new] :=
    List.not_mem_append etx_not_mem_readoutLines fun h => hnew (List.mem_singleton.mp h).symm
  by_cases hbcc : computeBcc (readoutBody rs) = etx
  · have hR : R s (stx :: (asciiBytes (readoutLines rs) ++ [new] ++ [etx])) := by
      simpa [hbcc] using hR
    exact readReadout_unfinished D hq (.inr rfl) hR
  · have hq : etx ∉ asciiBytes (readoutLines rs) ++ [new] ++ [computeBcc (readoutBody rs)] :=
      List.not_mem_append hq fun h => hbcc (List.mem_singleton.mp h).symm
    have hR : R s (stx ::
        (asciiBytes (readoutLines rs) ++ [new] ++ [computeBcc (readoutBody rs)] ++ [])) := by
      simpa using hR
    exact readReadout_unfinished D hq (.inl rfl) hR

/-- One replaced byte gives the number that was sent or an error, and never another number. -/
theorem readReadout_replaced (D : Stream.Delivery S.toSocket R) (hcodes : (rs.map (·.code)).Nodup)
    (hfits : (readoutBody rs).length ≤ maxAnswerLength) (hr : r ∈ rs) (hvalue : r.value = d.text)
    {p t : Bytes} {old new : UInt8} (hframe : readoutFrame rs = p ++ old :: t) (hnew : new ≠ old)
    (hR : R s (p ++ new :: t)) :
    (readReadout fmt S serial r.code s).1 = .ok (d.number fmt) ∨
      ∃ e, (readReadout fmt S serial r.code s).1 = .error e := by
  rcases readoutFrame_split hframe with ⟨rfl, rfl, rfl⟩ | ⟨p, t, rfl, rfl, hlines⟩ |
    ⟨rfl, rfl, rfl⟩ | ⟨rfl, rfl, rfl⟩
  · exact .inr (readReadout_start D hfits hnew hR)
  · by_cases hetx : new = etx
    · -- the readout ends here, and the byte behind it is taken for the checksum
      obtain ⟨c, rest, hrest⟩ := List.exists_cons_of_ne_nil
        (List.append_ne_nil_of_right_ne_nil (t ++ [etx])
          (List.cons_ne_nil (computeBcc (readoutBody rs)) []))
      rw [hrest, hetx] at hR
      exact readReadout_cut D hcodes hfits hr hvalue ⟨_, hlines.symm⟩ hR
    · exact .inr (readReadout_line D hfits hlines hnew hetx hR)
  · exact .inr (readReadout_endless D hnew hR)
  · have hR : R s (stx :: (asciiBytes (readoutLines rs) ++ etx :: new :: [])) := by
      simpa [readoutBody] using hR
    exact .inr (readReadout_mismatch D etx_not_mem_readoutLines hfits hnew hR)

end Replaced

/-- A readout is read as it was written, and one replaced byte makes no other number of it.  Cut into
    pieces in any way, the frame of the readings is parsed into them and gives the number of each code;
    with one byte of it replaced there is an error or still that number. -/
theorem data_readout_never_misread {F : Type} (fmt : PyText.FloatFormat F) (rs : List Reading)
    (hcodes : (rs.map (·.code)).Nodup) :
    (parseDataReadout [stx] (readoutBody rs) [computeBcc (readoutBody rs)]).map (·.rows) =
        .ok (rs.map (·.entry)) ∧
      ((readoutBody rs).length ≤ maxAnswerLength →
        ∀ r ∈ rs, ∀ d : PyText.Decimal, r.value = d.text →
        ∀ (ident : Identification) (serial : List Char), (∀ c ∈ serial, c.toNat < 128) →
          (∀ w : Wire, w.Delivers (ident.bytes ++ readoutFrame rs) →
            (readValue fmt (MeterSocket.plain (wire fun _ => none)) serial r.code w).1 =
              .ok (d.number fmt)) ∧
          ∀ (p t : Bytes) (old new : UInt8), readoutFrame rs = p ++ old :: t → new ≠ old →
            ∀ w : Wire, w.Delivers (ident.bytes ++ (p ++ new :: t)) →
              (readValue fmt (MeterSocket.plain (wire fun _ => none)) serial r.code w).1 =
                  .ok (d.number fmt) ∨
                ∃ e, (readValue fmt (MeterSocket.plain (wire fun _ => none)) serial r.code w).1 =
                  .error e) := by
  refine ⟨?_, ?_⟩
  · rw [parseDataReadout_readout, Result.ok_map, rows_readout hcodes]
  · intro hfits r hr d hvalue ident serial hserial
    have D : Stream.Delivery (MeterSocket.plain (wire fun _ => none)).toSocket Wire.Delivers :=
      Wire.delivery
    refine ⟨?_, ?_⟩
    · intro w hw
      obtain ⟨w', hw', hread⟩ := readValue_readReadout D ident hserial hw
      rw [hread]
      exact readReadout_frame D hcodes hfits hr hvalue hw'
    · intro p t old new hframe hnew w hw
      obtain ⟨w', hw', hread⟩ := readValue_readReadout D ident hserial hw
      rw [hread]
      exact readReadout_replaced D hcodes hfits hr hvalue hframe hnew hw'

/-- Numbers as they are, in place of the nearest representable ones. -/
def exactFormat : PyText.FloatFormat (Option ℚ) where
  nearest negative digits exponent := some ((if negative then -1 else 1) * digits * 10 ^ exponent)
  infinity _ := none
  nan := none

/-- The register of the active energy, with its unit. -/
def activeEnergy : Reading where
  code := ['1', '.', '8', '.', '0']
  value := ['0', '1', '2', '3', '4', '.', '5']
  unit := ['k', 'W', 'h']
  bare := false
  code_ne := by decide
  code_chars := List.all_eq_true.mp rfl
  value_chars := List.all_eq_true.mp rfl
  unit_chars := List.all_eq_true.mp rfl
  bare_unit := by decide

/-- The time of day. -/
def timeOfDay : Reading where
  code := ['0', '.', '9', '.', '1']
  value := ['1', '2', '0', '0', '0', '0']
  unit := []
  bare := true
  code_ne := by decide
  code_chars := List.all_eq_true.mp rfl
  value_chars := List.all_eq_true.mp rfl
  unit_chars := List.all_eq_true.mp rfl
  bare_unit := by decide

def meterIdentification : Identification where
  text := ['R', 'S', 'N', '5', '1']
  text_length := by decide
  text_printable := by simp
  fits := by decide

def pieceAt (t : ℚ) : Bytes → List (ℚ × RxEvent)
  | [] => []
  | b :: bs => [(t, .data b bs)]

/-- A piece of twenty bytes, and the others two seconds later. -/
def twoPieces (bytes : Bytes) : Wire where
  timeout := 5
  incoming := pieceAt 1 (bytes.take 20) ++ pieceAt 3 (bytes.drop 20)

/-- The second time the last digit has become an ETX. -/
theorem data_readout_never_misread_energy :
    let frame := readoutFrame [timeOfDay, activeEnergy]
    let read := fun bytes : Bytes => (readValue exactFormat (MeterSocket.plain (wire fun _ => none))
      ['1'] activeEnergy.code (twoPieces (meterIdentification.bytes ++ bytes))).1
    read frame = .ok (some 1234.5) ∧
      (read (frame.take 28 ++ etx :: frame.drop 29) = .ok (some 1234.5) ∨
        ∃ e, read (frame.take 28 ++ etx :: frame.drop 29) = .error e) := by
  let d : PyText.Decimal :=
    { whole := [0, 1, 2, 3, 4], fraction := some [5], nonempty := by decide }
  have hnumber : d.number exactFormat = some 1234.5 := by
    norm_num [d, PyText.Decimal.number, exactFormat, PyText.ofDigits]
  have hread := (data_readout_never_misread exactFormat [timeOfDay, activeEnergy] (by decide)).2
    (by decide) activeEnergy (by simp) d rfl meterIdentification ['1'] (by simp)
  rw [hnumber] at hread
  refine ⟨hread.1 _ (by decide +kernel), ?_⟩
  exact hread.2 ((readoutFrame [timeOfDay, activeEnergy]).take 28)
    ((readoutFrame [timeOfDay, activeEnergy]).drop 29) 0x35 etx (by decide) (by decide) _
    (by decide +kernel)

end RiseSun.Gateway.ModeC
