/-
  Where `decode_value` looks (`protocols/datatypes.py`), told from tags and lengths alone.

  1. **Layout** — `layout data offset` goes through the bytes as the decoder does, but decodes
     nothing: it lists the positions whose tags are read, and says where the value ends, if its
     bytes are all there and its tags known.

  2. **Unreadable content** — a visible string with a byte that is not ASCII, a date-time that is no
     moment of the calendar.  Only these two make the decoder raise something else than
     `DlmsDataError`.

  3. **The decoder follows the layout** (`decodeValue_follows`) — one induction on the fuel of the
     decoder, over the element loop inside: what is returned ends where the layout ends, and an
     exception is undeclared iff unreadable content stands at one of the positions.

  4. **Answers** (`parseGetResponse_declared_iff`) — the same for the answer to a GET, whose value
     begins behind a header of four bytes.
-/
import RiseSun.Gateway.HdlcDlms

namespace RiseSun.Gateway

/-! ## Layout -/

/-- The bytes of content after a tag that has no length field. -/
def fixedWidth (tag : UInt8) : Option Nat :=
  if tag = tagNullData then some 0
  else if tag = tagDoubleLongUnsigned ∨ tag = tagDoubleLong then some 4
  else if tag = tagLong64Unsigned ∨ tag = tagLong64 then some 8
  else if tag = tagLongUnsigned ∨ tag = tagLong then some 2
  else if tag = tagUnsigned ∨ tag = tagEnum ∨ tag = tagInteger then some 1
  else if tag = tagDateTime then some 12
  else none

/-- Positions of tags, and the end of the value; `none` when it is cut short or a tag is unknown. -/
structure Layout where
  tags : List Nat
  stop : Option Nat
  deriving DecidableEq, Repr

/-- The elements of an array, up to the first that has no end. -/
def layoutItems (lay : Nat → Layout) : (count pos : Nat) → Layout
  | 0, pos => ⟨[], some pos⟩
  | count + 1, pos =>
    match (lay pos).stop with
    | none => ⟨(lay pos).tags, none⟩
    | some next =>
      ⟨(lay pos).tags ++ (layoutItems lay count next).tags, (layoutItems lay count next).stop⟩

/-- A value whose content ends at `stop`, if the data reach so far. -/
def layoutContent (data : Bytes) (offset stop : Nat) : Layout :=
  ⟨[offset], if stop ≤ data.length then some stop else none⟩

def layoutBody (lay : Nat → Layout) (data : Bytes) (offset : Nat) : Layout :=
  match data[offset]? with
  | none => ⟨[], none⟩
  | some tag =>
    match fixedWidth tag, data[offset + 1]? with
    | some width, _ => layoutContent data offset (offset + 1 + width)
    | none, none => ⟨[offset], none⟩
    | none, some length =>
      if tag = tagOctetString ∨ tag = tagVisibleString then
        layoutContent data offset (offset + 2 + length.toNat)
      else if tag = tagArray ∨ tag = tagStructure then
        ⟨offset :: (layoutItems lay length.toNat (offset + 2)).tags,
         (layoutItems lay length.toNat (offset + 2)).stop⟩
      else ⟨[offset], none⟩

/-- With at most `fuel` levels of nesting. -/
def layoutAt : (fuel : Nat) → Bytes → Nat → Layout
  | 0, _, _ => ⟨[], none⟩
  | fuel + 1, data, offset => layoutBody (layoutAt fuel data) data offset

def layout (data : Bytes) (offset : Nat) : Layout := layoutAt (data.length - offset) data offset

/-! ## Unreadable content -/

/-- Text that is not ASCII. -/
def NonAsciiAt (data : Bytes) (pos : Nat) : Prop :=
  data[pos]? = some tagVisibleString ∧ ∃ length, data[pos + 1]? = some length ∧
    pos + 2 + length.toNat ≤ data.length ∧
    ∃ b ∈ Bytes.slice data (pos + 2) (pos + 2 + length.toNat), 128 ≤ b

/-- The twelve bytes of a cosem-date-time are a moment of the calendar. -/
def isMoment (raw : Bytes) : Bool :=
  (DateTime.make? (Bytes.fromBE (Bytes.slice raw 0 2)) (raw.getD 2 0).toNat (raw.getD 3 0).toNat
    (raw.getD 5 0).toNat (raw.getD 6 0).toNat (raw.getD 7 0).toNat).isSome

/-- A date-time that is no moment: one with a thirteenth month, one with wildcards. -/
def ImpossibleDateAt (data : Bytes) (pos : Nat) : Prop :=
  data[pos]? = some tagDateTime ∧ pos + 13 ≤ data.length ∧
    isMoment (Bytes.slice data (pos + 1) (pos + 13)) = false

def UnreadableAt (data : Bytes) (pos : Nat) : Prop :=
  NonAsciiAt data pos ∨ ImpossibleDateAt data pos

/-- No unreadable content where the decoder looks. -/
def Readable (data : Bytes) (offset : Nat) : Prop :=
  ∀ pos ∈ (layout data offset).tags, ¬ UnreadableAt data pos

mutual

/-- The value holds a date. -/
def Value.hasDate : Value → Bool
  | .date _ => true
  | .list items => Value.anyDate items
  | .null | .int _ | .bytes _ | .text _ => false

def Value.anyDate : List Value → Bool
  | [] => false
  | v :: vs => v.hasDate || Value.anyDate vs

end

/-! ## The decoder follows the layout -/

/-- What a result of the decoder has to do with the layout. -/
def Follows (data : Bytes) (offset : Nat) (l : Layout) : Except PyExc (Value × Nat) → Prop
  | .ok (v, consumed) => l.stop = some (offset + consumed) ∧
      (∀ pos ∈ l.tags, ¬ UnreadableAt data pos) ∧
      (v.hasDate = true ↔ ∃ pos ∈ l.tags, data[pos]? = some tagDateTime)
  | .error e =>
      if e.isAnswerFailure then l.stop = none ∧ ∀ pos ∈ l.tags, ¬ UnreadableAt data pos
      else ∃ pos ∈ l.tags, UnreadableAt data pos

/-- The integer tags: a width and a way to read so many bytes. -/
theorem decodeBody_number {tag : UInt8}
    (h : tag ∈ [tagDoubleLongUnsigned, tagDoubleLong, tagLong64Unsigned, tagLong64,
      tagLongUnsigned, tagLong, tagUnsigned, tagEnum, tagInteger]) :
    ∃ read width, fixedWidth tag = some width ∧ ∀ dec data offset, ¬ data.length ≤ offset →
      byteAt data offset = .ok tag →
      decodeBody dec data offset = decodeNumber read width data (offset + 1) := by
  simp only [List.mem_cons, List.not_mem_nil, or_false] at h
  rcases h with rfl | rfl | rfl | rfl | rfl | rfl | rfl | rfl | rfl
  all_goals first
    | exact ⟨readUnsigned, _, rfl, fun dec data offset hin htag => by
        rw [decodeBody, if_neg hin, htag]; rfl⟩
    | exact ⟨Bytes.signedBE, _, rfl, fun dec data offset hin htag => by
        rw [decodeBody, if_neg hin, htag]; rfl⟩

/-- A tag that the decoder does not know is an error which names the tag. -/
theorem decodeBody_unknown {tag : UInt8}
    (h : tag ∉ [tagNullData, tagDateTime, tagOctetString, tagVisibleString, tagArray, tagStructure,
      tagDoubleLongUnsigned, tagDoubleLong, tagLong64Unsigned, tagLong64, tagLongUnsigned, tagLong,
      tagUnsigned, tagEnum, tagInteger])
    (dec : Nat → Except PyExc (Value × Nat)) {data : Bytes} {offset : Nat}
    (hin : ¬ data.length ≤ offset) (htag : byteAt data offset = .ok tag) :
    fixedWidth tag = none ∧ decodeBody dec data offset =
      .error (.dlmsData [.text "Неподдержанный тег типа данных DLMS: 0x", .hexByte tag.toNat]) := by
  simp only [List.mem_cons, List.not_mem_nil, or_false, not_or] at h
  constructor
  · simp [fixedWidth, h]
  · rw [decodeBody, if_neg hin, htag]
    simp only [Result.ok_bind, h, or_self, if_false]

/-! ### One tag -/

/-- A tag of its own is readable if it is neither bad text nor a bad date. -/
theorem readable_of_tag {data : Bytes} {offset : Nat} {tag : UInt8} (htag : data[offset]? = some tag)
    (htext : tag = tagVisibleString → ¬ NonAsciiAt data offset)
    (hdate : tag = tagDateTime → ¬ ImpossibleDateAt data offset) :
    ∀ pos ∈ [offset], ¬ UnreadableAt data pos := by
  intro pos hpos hbad
  obtain rfl := List.mem_singleton.mp hpos
  rcases hbad with hbad | hbad
  · exact htext (Option.some.inj (htag.symm.trans hbad.1)) hbad
  · exact hdate (Option.some.inj (htag.symm.trans hbad.1)) hbad

/-- A value that holds no date has no date tag. -/
theorem hasDate_iff_of_tag {data : Bytes} {offset : Nat} {tag : UInt8} {v : Value}
    (htag : data[offset]? = some tag) (hdate : tag ≠ tagDateTime) (hv : v.hasDate = false) :
    v.hasDate = true ↔ ∃ pos ∈ [offset], data[pos]? = some tagDateTime := by
  rw [hv]
  refine ⟨fun h => (nomatch h), ?_⟩
  rintro ⟨pos, hpos, h⟩
  obtain rfl := List.mem_singleton.mp hpos
  exact absurd (Option.some.inj (htag.symm.trans h)) hdate

/-- A value whose bytes only have to be there. -/
theorem follows_require {data : Bytes} {offset pos length consumed : Nat} {tag : UInt8} {v : Value}
    (htag : data[offset]? = some tag) (hvisible : tag ≠ tagVisibleString)
    (hdate : tag ≠ tagDateTime) (hv : v.hasDate = false) (hend : pos + length = offset + consumed) :
    Follows data offset (layoutContent data offset (offset + consumed))
      (require data pos length >>= fun _ => .ok (v, consumed)) := by
  have hreadable : ∀ q ∈ [offset], ¬ UnreadableAt data q :=
    readable_of_tag htag (fun h => absurd h hvisible) fun h => absurd h hdate
  by_cases hfit : pos + length ≤ data.length
  · rw [require_ok hfit, Result.ok_bind, layoutContent, if_pos (by omega)]
    exact ⟨rfl, hreadable, hasDate_iff_of_tag htag hdate hv⟩
  · rw [require, if_pos (by omega), layoutContent, if_neg (by omega)]
    exact ⟨rfl, hreadable⟩

theorem follows_number {tag : UInt8}
    (h : tag ∈ [tagDoubleLongUnsigned, tagDoubleLong, tagLong64Unsigned, tagLong64,
      tagLongUnsigned, tagLong, tagUnsigned, tagEnum, tagInteger])
    (dec : Nat → Except PyExc (Value × Nat)) {data : Bytes} {offset : Nat}
    (hin : ¬ data.length ≤ offset) (htag : data[offset]? = some tag) :
    ∃ width, fixedWidth tag = some width ∧
      Follows data offset (layoutContent data offset (offset + 1 + width))
        (decodeBody dec data offset) := by
  obtain ⟨read, width, hwidth, hbranch⟩ := decodeBody_number h
  have hother : tag ≠ tagVisibleString ∧ tag ≠ tagDateTime := by
    constructor
    all_goals
      rintro rfl
      exact absurd h (by decide)
  have hend : offset + 1 + width = offset + (width + 1) := by omega
  have hfollows := @follows_require data offset (offset + 1) width (width + 1) tag
    (.int (read (Bytes.slice data (offset + 1) (offset + 1 + width)))) htag hother.1 hother.2 rfl hend
  rw [← hend] at hfollows
  refine ⟨width, hwidth, ?_⟩
  rw [hbranch dec data offset hin (by rw [byteAt, htag]), decodeNumber]
  exact hfollows

/-! ### Strings and dates -/

/-- A tag that is the last byte holds nothing that could be unreadable. -/
theorem readable_of_cut {data : Bytes} {offset : Nat} (h : data.length ≤ offset + 1) :
    ∀ pos ∈ [offset], ¬ UnreadableAt data pos := by
  intro pos hpos hbad
  obtain rfl := List.mem_singleton.mp hpos
  rcases hbad with ⟨_, length, hlength, _⟩ | ⟨_, hfit, _⟩
  · rw [List.getElem?_eq_none h] at hlength
    cases hlength
  · omega

/-- Where the length field is missing, the layout stops at the tag and the decoder fails. -/
theorem follows_cut {data : Bytes} {offset : Nat} (h : data[offset + 1]? = none)
    (f : Unit → Except PyExc (Value × Nat)) :
    Follows data offset ⟨[offset], none⟩ (require data (offset + 1) 1 >>= f) := by
  have hshort := List.getElem?_eq_none_iff.mp h
  rw [require, if_pos (by omega)]
  exact ⟨rfl, readable_of_cut hshort⟩

/-- The branch of the decoder for strings: a length, and then as many bytes. -/
theorem decodeBody_string {tag : UInt8} (h : tag = tagOctetString ∨ tag = tagVisibleString)
    (dec : Nat → Except PyExc (Value × Nat)) {data : Bytes} {offset : Nat}
    (hin : ¬ data.length ≤ offset) (htag : byteAt data offset = .ok tag) :
    decodeBody dec data offset = (require data (offset + 1) 1 >>= fun _ =>
      byteAt data (offset + 1) >>= fun length =>
      require data (offset + 2) length.toNat >>= fun _ =>
      stringValue tag (Bytes.slice data (offset + 2) (offset + 2 + length.toNat)) >>= fun value =>
      .ok (value, offset + 2 + length.toNat - offset)) := by
  rcases h with rfl | rfl
  · rw [decodeBody, if_neg hin, htag]
    rfl
  · rw [decodeBody, if_neg hin, htag]
    rfl

theorem follows_octetString {dec : Nat → Except PyExc (Value × Nat)} {data : Bytes} {offset : Nat}
    {length : UInt8} (hin : ¬ data.length ≤ offset) (htag : data[offset]? = some tagOctetString)
    (hlength : data[offset + 1]? = some length) :
    Follows data offset (layoutContent data offset (offset + 2 + length.toNat))
      (decodeBody dec data offset) := by
  obtain ⟨hlt, -⟩ := List.getElem?_eq_some_iff.mp hlength
  rw [decodeBody_string (.inl rfl) dec hin (by rw [byteAt, htag]), require_ok (by omega),
    Result.ok_bind, byteAt, hlength, Result.ok_bind]
  have h := @follows_require data offset (offset + 2) length.toNat (2 + length.toNat) tagOctetString
    (.bytes (Bytes.slice data (offset + 2) (offset + 2 + length.toNat))) htag (by decide) (by decide)
    rfl (by omega)
  rw [← Nat.add_assoc] at h
  rw [show offset + 2 + length.toNat - offset = 2 + length.toNat from by omega]
  exact h

theorem follows_visibleString {dec : Nat → Except PyExc (Value × Nat)} {data : Bytes}
    {offset : Nat} {length : UInt8} (hin : ¬ data.length ≤ offset)
    (htag : data[offset]? = some tagVisibleString) (hlength : data[offset + 1]? = some length) :
    Follows data offset (layoutContent data offset (offset + 2 + length.toNat))
      (decodeBody dec data offset) := by
  obtain ⟨hlt, -⟩ := List.getElem?_eq_some_iff.mp hlength
  rw [decodeBody_string (.inr rfl) dec hin (by rw [byteAt, htag]), require_ok (by omega),
    Result.ok_bind, byteAt, hlength, Result.ok_bind]
  by_cases hfit : offset + 2 + length.toNat ≤ data.length
  · rw [require_ok hfit, Result.ok_bind, layoutContent, if_pos hfit, stringValue, if_pos rfl,
      asciiDecode]
    by_cases hascii : (Bytes.slice data (offset + 2) (offset + 2 + length.toNat)).all (fun b => b < 128)
    · rw [if_pos hascii]
      refine ⟨by rw [show offset + (offset + 2 + length.toNat - offset) = offset + 2 + length.toNat
        from by omega], readable_of_tag htag (fun _ => ?_) fun h => absurd h (by decide),
        hasDate_iff_of_tag htag (by decide) rfl⟩
      rintro ⟨_, length', hlength', _, b, hb, hbig⟩
      obtain rfl := Option.some.inj (hlength.symm.trans hlength')
      have hsmall := of_decide_eq_true (List.all_eq_true.mp hascii b hb)
      exact absurd hsmall (UInt8.not_lt.mpr hbig)
    · rw [if_neg hascii]
      refine ⟨offset, List.mem_singleton_self _, .inl ⟨htag, length, hlength, hfit, ?_⟩⟩
      rw [Bool.not_eq_true, List.all_eq_false] at hascii
      obtain ⟨b, hb, hbig⟩ := hascii
      exact ⟨b, hb, UInt8.not_lt.mp fun hlt => hbig (decide_eq_true hlt)⟩
  -- bytes that are not there are not looked at
  · rw [require, if_pos (by omega), layoutContent, if_neg hfit]
    refine ⟨rfl, readable_of_tag htag (fun _ => ?_) fun h => absurd h (by decide)⟩
    rintro ⟨_, length', hlength', hfit', _⟩
    obtain rfl := Option.some.inj (hlength.symm.trans hlength')
    exact hfit hfit'

/-- Twelve bytes are a moment iff they are decoded. -/
theorem decodeCosemDateTime_isMoment {raw : Bytes} (h : raw.length = 12) :
    (isMoment raw = true ∧ ∃ d, decodeCosemDateTime raw = .ok d) ∨
    (isMoment raw = false ∧ decodeCosemDateTime raw = .error (.valueError [])) := by
  have hbyte : ∀ i, i < 12 → byteAt raw i = .ok (raw.getD i 0) := by
    intro i hi
    rw [byteAt_ok (by omega), List.getD_eq_getElem?_getD, List.getElem?_eq_getElem (by omega)]
    rfl
  rw [decodeCosemDateTime, if_neg (by omega), isMoment]
  rw [hbyte 2 (by omega), hbyte 3 (by omega), hbyte 5 (by omega), hbyte 6 (by omega),
    hbyte 7 (by omega)]
  simp only [Result.ok_bind]
  cases DateTime.make? (Bytes.fromBE (Bytes.slice raw 0 2)) (raw.getD 2 0).toNat (raw.getD 3 0).toNat
      (raw.getD 5 0).toNat (raw.getD 6 0).toNat (raw.getD 7 0).toNat with
  | some d => exact .inl ⟨rfl, d, rfl⟩
  | none => exact .inr ⟨rfl, rfl⟩

theorem follows_dateTime {dec : Nat → Except PyExc (Value × Nat)} {data : Bytes} {offset : Nat}
    (hin : ¬ data.length ≤ offset) (htag : data[offset]? = some tagDateTime) :
    Follows data offset (layoutContent data offset (offset + 1 + 12))
      (decodeBody dec data offset) := by
  have hbody : decodeBody dec data offset = (require data (offset + 1) 12 >>= fun _ =>
      decodeCosemDateTime (Bytes.slice data (offset + 1) (offset + 13)) >>= fun d =>
      .ok (.date d, 13)) := by
    rw [decodeBody, if_neg hin, byteAt, htag]
    rfl
  rw [hbody]
  by_cases hfit : offset + 1 + 12 ≤ data.length
  · have htwelve : (Bytes.slice data (offset + 1) (offset + 13)).length = 12 := by
      rw [Bytes.slice_length _ _ _ (by omega) (by omega)]
      omega
    rw [require_ok hfit, Result.ok_bind, layoutContent, if_pos hfit]
    rcases decodeCosemDateTime_isMoment htwelve with ⟨hmoment, d, hd⟩ | ⟨hmoment, hd⟩
    · rw [hd]
      refine ⟨rfl, readable_of_tag htag (fun h => absurd h (by decide)) fun _ => ?_,
        fun _ => ⟨offset, List.mem_singleton_self _, htag⟩, fun _ => rfl⟩
      rintro ⟨_, _, hbad⟩
      rw [hmoment] at hbad
      cases hbad
    · rw [hd]
      exact ⟨offset, List.mem_singleton_self _, .inr ⟨htag, hfit, hmoment⟩⟩
  · rw [require, if_pos (by omega), layoutContent, if_neg hfit]
    exact ⟨rfl, readable_of_tag htag (fun h => absurd h (by decide)) fun _ hbad => hfit hbad.2.1⟩

/-! ### Lists -/

/-- `Follows` for the element loop; it returns the position after the last element. -/
def FollowsItems (data : Bytes) (pos : Nat) (l : Layout) : Except PyExc (List Value × Nat) → Prop
  | .ok (items, stop) => l.stop = some stop ∧ pos ≤ stop ∧
      (∀ q ∈ l.tags, ¬ UnreadableAt data q) ∧
      (Value.anyDate items = true ↔ ∃ q ∈ l.tags, data[q]? = some tagDateTime)
  | .error e =>
      if e.isAnswerFailure then l.stop = none ∧ ∀ q ∈ l.tags, ¬ UnreadableAt data q
      else ∃ q ∈ l.tags, UnreadableAt data q

/-- An exception blames the layout: it stops, or has unreadable content. -/
def Blames (data : Bytes) (tags : List Nat) (stop : Option Nat) (e : PyExc) : Prop :=
  if e.isAnswerFailure then stop = none ∧ ∀ pos ∈ tags, ¬ UnreadableAt data pos
  else ∃ pos ∈ tags, UnreadableAt data pos

theorem Blames.after {data : Bytes} {before tags : List Nat} {stop : Option Nat} {e : PyExc}
    (h : Blames data tags stop e) (clean : ∀ pos ∈ before, ¬ UnreadableAt data pos) :
    Blames data (before ++ tags) stop e := by
  unfold Blames at h ⊢
  by_cases hdeclared : e.isAnswerFailure = true
  · rw [if_pos hdeclared] at h ⊢
    exact ⟨h.1, List.forall_mem_append.mpr ⟨clean, h.2⟩⟩
  · rw [if_neg hdeclared] at h ⊢
    obtain ⟨pos, hpos, hbad⟩ := h
    exact ⟨pos, List.mem_append_right _ hpos, hbad⟩

/-- Where the layout goes on, its content is to blame, and stays so. -/
theorem Blames.before {data : Bytes} {tags : List Nat} {next : Nat} {e : PyExc}
    (h : Blames data tags (some next) e) (more : List Nat) (stop : Option Nat) :
    Blames data (tags ++ more) stop e := by
  unfold Blames at h ⊢
  by_cases hdeclared : e.isAnswerFailure = true
  · rw [if_pos hdeclared] at h
    cases h.1
  · rw [if_neg hdeclared] at h ⊢
    obtain ⟨pos, hpos, hbad⟩ := h
    exact ⟨pos, List.mem_append_left _ hpos, hbad⟩

theorem exists_tag_append {data : Bytes} {tags more : List Nat} :
    (∃ q ∈ tags ++ more, data[q]? = some tagDateTime) ↔
      (∃ q ∈ tags, data[q]? = some tagDateTime) ∨ ∃ q ∈ more, data[q]? = some tagDateTime := by
  simp only [List.mem_append, or_and_right, exists_or]

theorem decodeItems_follows {dec : Nat → Except PyExc (Value × Nat)} {lay : Nat → Layout}
    {data : Bytes} (hdec : ∀ pos, Follows data pos (lay pos) (dec pos)) :
    ∀ count pos : Nat,
      FollowsItems data pos (layoutItems lay count pos) (decodeItems dec count pos) := by
  intro count
  induction count with
  | zero =>
    intro pos
    refine ⟨rfl, Nat.le_refl pos, ?_, ?_⟩
    · intro q hq
      cases hq
    · refine ⟨fun h => (nomatch h), ?_⟩
      rintro ⟨q, hq, _⟩
      cases hq
  | succ count ih =>
    intro pos
    have hfirst := hdec pos
    rw [decodeItems, layoutItems]
    cases hitem : dec pos with
    -- the first element fails: nothing after it is looked at
    | error e =>
      rw [hitem] at hfirst
      have hblames : Blames data (lay pos).tags (lay pos).stop e := hfirst
      rw [Result.error_bind]
      cases hstop : (lay pos).stop with
      | none =>
        rw [hstop] at hblames
        exact hblames
      | some next =>
        rw [hstop] at hblames
        exact hblames.before _ _
    | ok r =>
      obtain ⟨item, consumed⟩ := r
      rw [hitem] at hfirst
      obtain ⟨hstop, hclean, hdate⟩ := hfirst
      have hrest := ih (pos + consumed)
      rw [Result.ok_bind, hstop]
      dsimp only
      cases hitems : decodeItems dec count (pos + consumed) with
      | error e =>
        rw [hitems] at hrest
        have hblames : Blames data (layoutItems lay count (pos + consumed)).tags
          (layoutItems lay count (pos + consumed)).stop e := hrest
        rw [Result.error_bind]
        exact hblames.after hclean
      | ok r =>
        obtain ⟨items, stop⟩ := r
        rw [hitems] at hrest
        obtain ⟨hstop', hle, hclean', hdate'⟩ := hrest
        rw [Result.ok_bind]
        refine ⟨hstop', by omega, List.forall_mem_append.mpr ⟨hclean, hclean'⟩, ?_⟩
        rw [Value.anyDate, Bool.or_eq_true, hdate, hdate']
        exact exists_tag_append.symm

/-- The tag of a list is read, and nothing of it is unreadable by itself. -/
theorem list_readable {data : Bytes} {offset : Nat} {tag : UInt8}
    (h : tag = tagArray ∨ tag = tagStructure) (htag : data[offset]? = some tag) :
    ¬ UnreadableAt data offset ∧ data[offset]? ≠ some tagDateTime := by
  have hother : tag ≠ tagVisibleString ∧ tag ≠ tagDateTime := by
    rcases h with rfl | rfl <;> decide
  refine ⟨readable_of_tag htag (fun h => absurd h hother.1) (fun h => absurd h hother.2) offset
    (List.mem_singleton_self _), fun hdate => ?_⟩
  exact hother.2 (Option.some.inj (htag.symm.trans hdate))

/-- The branch of the decoder for lists: a count, and then as many values. -/
theorem decodeBody_list {tag : UInt8} (h : tag = tagArray ∨ tag = tagStructure)
    (dec : Nat → Except PyExc (Value × Nat)) {data : Bytes} {offset : Nat}
    (hin : ¬ data.length ≤ offset) (htag : byteAt data offset = .ok tag) :
    decodeBody dec data offset = (require data (offset + 1) 1 >>= fun _ =>
      byteAt data (offset + 1) >>= fun count => decodeItems dec count.toNat (offset + 2) >>= fun r =>
      .ok (.list r.1, r.2 - offset)) := by
  rcases h with rfl | rfl
  · rw [decodeBody, if_neg hin, htag]
    rfl
  · rw [decodeBody, if_neg hin, htag]
    rfl

theorem follows_list {dec : Nat → Except PyExc (Value × Nat)} {lay : Nat → Layout} {data : Bytes}
    {offset : Nat} {tag length : UInt8} (hdec : ∀ pos, Follows data pos (lay pos) (dec pos))
    (h : tag = tagArray ∨ tag = tagStructure) (hin : ¬ data.length ≤ offset)
    (htag : data[offset]? = some tag) (hlength : data[offset + 1]? = some length) :
    Follows data offset ⟨offset :: (layoutItems lay length.toNat (offset + 2)).tags,
      (layoutItems lay length.toNat (offset + 2)).stop⟩ (decodeBody dec data offset) := by
  obtain ⟨hlt, -⟩ := List.getElem?_eq_some_iff.mp hlength
  obtain ⟨hreadable, hnodate⟩ := list_readable h htag
  have hitems := decodeItems_follows hdec length.toNat (offset + 2)
  rw [decodeBody_list h dec hin (by rw [byteAt, htag]), require_ok (by omega), Result.ok_bind,
    byteAt, hlength, Result.ok_bind]
  cases hresult : decodeItems dec length.toNat (offset + 2) with
  | error e =>
    rw [hresult] at hitems
    have hblames : Blames data (layoutItems lay length.toNat (offset + 2)).tags
      (layoutItems lay length.toNat (offset + 2)).stop e := hitems
    rw [Result.error_bind]
    exact hblames.after (List.forall_mem_singleton.mpr hreadable)
  | ok r =>
    obtain ⟨items, stop⟩ := r
    rw [hresult] at hitems
    obtain ⟨hstop, hle, hclean, hdate⟩ := hitems
    rw [Result.ok_bind]
    refine ⟨by rw [hstop]; congr 1; dsimp only; omega, List.forall_mem_cons.mpr ⟨hreadable, hclean⟩, ?_⟩
    · rw [Value.hasDate, hdate]
      constructor
      · rintro ⟨q, hq, h⟩
        exact ⟨q, List.mem_cons_of_mem _ hq, h⟩
      · rintro ⟨q, hq, h⟩
        rcases List.mem_cons.mp hq with rfl | hq
        · exact absurd h hnodate
        · exact ⟨q, hq, h⟩

/-! ### The induction -/

theorem decodeBody_follows {dec : Nat → Except PyExc (Value × Nat)} {lay : Nat → Layout}
    {data : Bytes} (hdec : ∀ pos, Follows data pos (lay pos) (dec pos)) (offset : Nat) :
    Follows data offset (layoutBody lay data offset) (decodeBody dec data offset) := by
  unfold layoutBody
  cases htag : data[offset]? with
  | none =>
    rw [decodeBody, if_pos (List.getElem?_eq_none_iff.mp htag)]
    exact ⟨rfl, fun q hq => (nomatch hq)⟩
  | some tag =>
    have hin : ¬ data.length ≤ offset :=
      Nat.not_le.mpr (List.getElem?_eq_some_iff.mp htag).1
    have hbyte : byteAt data offset = .ok tag := by rw [byteAt, htag]
    dsimp only
    -- tags without a length field
    by_cases hnull : tag = tagNullData
    · subst hnull
      rw [show fixedWidth tagNullData = some 0 from rfl]
      have h := @follows_require data offset (offset + 1) 0 1 tagNullData .null htag (by decide)
        (by decide) rfl (Nat.add_zero _)
      rw [require_ok (show offset + 1 + 0 ≤ data.length by omega)] at h
      rw [decodeBody, if_neg hin, hbyte]
      exact h
    by_cases hdate : tag = tagDateTime
    · subst hdate
      exact follows_dateTime hin htag
    by_cases hnumber : tag ∈ [tagDoubleLongUnsigned, tagDoubleLong, tagLong64Unsigned, tagLong64,
        tagLongUnsigned, tagLong, tagUnsigned, tagEnum, tagInteger]
    · obtain ⟨width, hwidth, hfollows⟩ := follows_number hnumber dec hin htag
      rw [hwidth]
      exact hfollows
    -- tags with a length field
    by_cases hstring : tag = tagOctetString ∨ tag = tagVisibleString
    · have hwidth : fixedWidth tag = none := by rcases hstring with rfl | rfl <;> rfl
      rw [hwidth]
      cases hlength : data[offset + 1]? with
      | none =>
        rw [decodeBody_string hstring dec hin hbyte]
        exact follows_cut hlength _
      | some length =>
        dsimp only
        rw [if_pos hstring]
        rcases hstring with rfl | rfl
        · exact follows_octetString hin htag hlength
        · exact follows_visibleString hin htag hlength
    by_cases hlist : tag = tagArray ∨ tag = tagStructure
    · have hwidth : fixedWidth tag = none := by rcases hlist with rfl | rfl <;> rfl
      rw [hwidth]
      cases hlength : data[offset + 1]? with
      | none =>
        rw [decodeBody_list hlist dec hin hbyte]
        exact follows_cut hlength _
      | some length =>
        dsimp only
        rw [if_neg hstring, if_pos hlist]
        exact follows_list hdec hlist hin htag hlength
    obtain ⟨hwidth, hbody⟩ := decodeBody_unknown (by
      simp only [List.mem_cons, List.not_mem_nil, or_false, not_or] at hnumber hstring hlist ⊢
      exact ⟨hnull, hdate, hstring.1, hstring.2, hlist.1, hlist.2, hnumber⟩) dec hin hbyte
    have hunknown : Follows data offset ⟨[offset], none⟩ (decodeBody dec data offset) := by
      rw [hbody]
      exact ⟨rfl, readable_of_tag htag (fun h => absurd (.inr h) hstring) fun h => absurd h hdate⟩
    rw [hwidth]
    cases data[offset + 1]? with
    | none => exact hunknown
    | some length =>
      dsimp only
      rw [if_neg hstring, if_neg hlist]
      exact hunknown

theorem decodeValueAt_follows (data : Bytes) : ∀ fuel offset : Nat,
    Follows data offset (layoutAt fuel data offset) (decodeValueAt fuel data offset) := by
  intro fuel
  induction fuel with
  | zero =>
    intro offset
    exact ⟨rfl, fun q hq => (nomatch hq)⟩
  | succ fuel ih =>
    intro offset
    exact decodeBody_follows ih offset

/-- **The decoder follows the layout**, from every offset of every byte string. -/
theorem decodeValue_follows (data : Bytes) (offset : Nat) :
    Follows data offset (layout data offset) (decodeValue data offset) :=
  decodeValueAt_follows data _ offset

/-- A value, a `GatewayError` or a `DlmsDataError`. -/
def Declared {α : Type} (result : Except PyExc α) : Prop :=
  ∀ e, result = .error e → e.isAnswerFailure = true

/-- Undeclared exceptions come from unreadable content, and from nothing else. -/
theorem decodeValue_declared_iff (data : Bytes) (offset : Nat) :
    Declared (decodeValue data offset) ↔ Readable data offset := by
  have h := decodeValue_follows data offset
  cases hresult : decodeValue data offset with
  | ok r =>
    rw [hresult] at h
    exact ⟨fun _ => h.2.1, fun _ e he => (nomatch he)⟩
  | error e =>
    rw [hresult] at h
    unfold Follows at h
    dsimp only at h
    constructor
    · intro hdeclared
      rw [if_pos (hdeclared e rfl)] at h
      exact h.2
    · intro hreadable e' he
      obtain rfl := Except.error.inj he
      by_contra hundeclared
      rw [if_neg hundeclared] at h
      obtain ⟨pos, hpos, hbad⟩ := h
      exact hreadable pos hpos hbad

/-- A value that is returned holds a date iff the tag of one is read. -/
theorem decodeValue_hasDate {data : Bytes} {offset consumed : Nat} {v : Value}
    (h : decodeValue data offset = .ok (v, consumed)) :
    v.hasDate = true ↔ ∃ pos ∈ (layout data offset).tags, data[pos]? = some tagDateTime := by
  have hfollows := decodeValue_follows data offset
  rw [h] at hfollows
  exact hfollows.2.2

/-! ## Answers to a GET -/

/-- A GET response that says a value follows. -/
def BringsValue (data : Bytes) : Prop :=
  4 ≤ data.length ∧ data[0]? = some getResponseTag ∧ data[1]? = some getResponseNormal ∧
    data[3]? = some resultData

theorem parseGetResponse_declared_iff (data : Bytes) :
    Declared (parseGetResponse data) ↔ (BringsValue data → Readable data 4) := by
  rw [← decodeValue_declared_iff]
  constructor
  -- an answer that brings a value is what the decoder makes of it
  · rintro h ⟨hlen, htag, hnormal, hresult⟩ e he
    refine h e ?_
    rw [parseGetResponse, if_neg (by
      rw [not_or, not_or, not_not, not_not]
      exact ⟨by omega, htag, hnormal⟩), byteAt, hresult, Result.ok_bind, if_neg (by decide),
      if_neg (by decide), he]
    rfl
  · intro h e he
    rw [parseGetResponse] at he
    rcases ite_eq_iff.mp he with ⟨_, he⟩ | ⟨hheader, he⟩
    · cases he
      rfl
    rw [not_or, not_or, not_not, not_not] at hheader
    obtain ⟨hlen, htag, hnormal⟩ := hheader
    -- the header promises four bytes, so the result is there
    rcases Result.bind_eq_error he with he | ⟨result, hresult, he⟩
    · have := (byteAt_eq_error he).1
      omega
    rcases ite_eq_iff.mp he with ⟨_, he⟩ | ⟨_, he⟩
    · cases he
      rfl
    rcases ite_eq_iff.mp he with ⟨_, he⟩ | ⟨hdata, he⟩
    · cases he
      rfl
    rw [not_not] at hdata
    have hbyte : data[3]? = some resultData := by
      rw [byteAt_ok (by omega)] at hresult
      rw [List.getElem?_eq_getElem (by omega), Except.ok.inj hresult, hdata]
    rcases Result.bind_eq_error he with he | ⟨_, _, he⟩
    · exact h ⟨by omega, htag, hnormal, hbyte⟩ e he
    · cases he

end RiseSun.Gateway
