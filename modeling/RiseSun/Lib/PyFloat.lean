/-
  `float(text)`: the number literals a Python program accepts from text.

  The literal is read exactly, as a sign, a string of digits and a power of ten; which floating point
  number is nearest to it is a parameter (`FloatFormat`).  The parser works on the normalised
  characters of `int(text)`:

    * blanks are stripped on both sides, and one sign may stand in front;
    * digits, a point, digits: one digit at least, single underscores between two of them;
    * an exponent may follow; else the text is an infinity or not a number.

  A number in decimal notation (`Decimal`) is read as what it says (`pyFloat_decimal`).
-/
import RiseSun.Lib.PyText

namespace RiseSun.PyText

structure FloatFormat (F : Type) where
  /-- The number nearest to `digits * 10 ^ exponent`, or to its opposite. -/
  nearest : (negative : Bool) → (digits : Nat) → (exponent : Int) → F
  infinity : (negative : Bool) → F
  nan : F

variable {F : Type}

/-! ## The parser -/

def startsWithDigit (cs : List Char) : Bool := cs.head?.any fun c => (baseDigit 10 c).isSome

/-- The digits in front, and what follows them; an underscore goes only between two digits. -/
def digitRun (afterDigit : Bool) : List Char → List Nat × List Char
  | [] => ([], [])
  | c :: cs =>
    match baseDigit 10 c with
    | some d => (d :: (digitRun true cs).1, (digitRun true cs).2)
    | none =>
      if c = '_' ∧ afterDigit ∧ startsWithDigit cs then digitRun false cs else ([], c :: cs)

def ofDigits (digits : List Nat) : Nat := digits.foldl (fun acc d => acc * 10 + d) 0

def fractionRun : List Char → List Nat × List Char
  | '.' :: cs => digitRun false cs
  | cs => ([], cs)

def exponentDigits (cs : List Char) : Option Nat :=
  match digitRun false cs with
  | (d :: ds, []) => some (ofDigits (d :: ds))
  | _ => none

/-- What may follow the digits. -/
def exponentPart : List Char → Option Int
  | [] => some 0
  | c :: cs =>
    if c = 'e' ∨ c = 'E' then
      match cs with
      | '-' :: cs => (exponentDigits cs).map fun n : Nat => -(n : Int)
      | '+' :: cs => (exponentDigits cs).map fun n : Nat => (n : Int)
      | cs => (exponentDigits cs).map fun n : Nat => (n : Int)
    else none

def numeral (fmt : FloatFormat F) (negative : Bool) (cs : List Char) : Option F :=
  let whole := digitRun false cs
  let fraction := fractionRun whole.2
  if whole.1 ++ fraction.1 = [] then none
  else (exponentPart fraction.2).map fun e =>
    fmt.nearest negative (ofDigits (whole.1 ++ fraction.1)) (e - fraction.1.length)

def infOrNan (fmt : FloatFormat F) (negative : Bool) (cs : List Char) : Option F :=
  let lower := String.ofList (cs.map Char.toLower)
  if lower = "inf" ∨ lower = "infinity" then some (fmt.infinity negative)
  else if lower = "nan" then some fmt.nan
  else none

def unsignedFloat (fmt : FloatFormat F) (negative : Bool) (cs : List Char) : Option F :=
  (numeral fmt negative cs).or (infOrNan fmt negative cs)

/-- `float(text)`; `none` is the `ValueError`. -/
def pyFloat (fmt : FloatFormat F) (text : List Char) : Option F :=
  match ((text.map normalize).dropWhile isBlank).rdropWhile isBlank with
  | '-' :: cs => unsignedFloat fmt true cs
  | '+' :: cs => unsignedFloat fmt false cs
  | cs => unsignedFloat fmt false cs

/-! ## Decimal notation -/

/-- A number as it is written: `some true` for a minus sign, and no fraction if there is no point. -/
structure Decimal where
  sign : Option Bool := none
  whole : List (Fin 10)
  fraction : Option (List (Fin 10)) := none
  nonempty : whole ++ fraction.getD [] ≠ []

def digitChar (d : Fin 10) : Char := Char.ofNat (48 + d)

namespace Decimal

/-- Without the sign. -/
def magnitude (d : Decimal) : List Char :=
  d.whole.map digitChar ++ d.fraction.elim [] fun fraction => '.' :: fraction.map digitChar

def text (d : Decimal) : List Char :=
  d.sign.elim [] (fun minus => [if minus then '-' else '+']) ++ d.magnitude

def number (fmt : FloatFormat F) (d : Decimal) : F :=
  fmt.nearest (d.sign.getD false) (ofDigits ((d.whole ++ d.fraction.getD []).map (·.val)))
    (-((d.fraction.getD []).length : Int))

end Decimal

section Reading

theorem baseDigit_digitChar : ∀ d : Fin 10, baseDigit 10 (digitChar d) = some d.val := by decide

theorem digitChar_ne_sign : ∀ d : Fin 10, digitChar d ≠ '-' ∧ digitChar d ≠ '+' := by decide

/-- Digits are read as they are, up to what is no digit. -/
theorem digitRun_map {rest : List Char} (hrest : ∀ afterDigit, digitRun afterDigit rest = ([], rest))
    (ds : List (Fin 10)) : ∀ afterDigit,
      digitRun afterDigit (ds.map digitChar ++ rest) = (ds.map (·.val), rest) := by
  induction ds with
  | nil => exact hrest
  | cons d ds ih =>
    intro afterDigit
    rw [List.map_cons, List.cons_append, digitRun, baseDigit_digitChar]
    dsimp only
    rw [ih]
    rfl

theorem digitRun_nil (afterDigit : Bool) : digitRun afterDigit [] = ([], []) := rfl

theorem digitRun_point (cs : List Char) (afterDigit : Bool) :
    digitRun afterDigit ('.' :: cs) = ([], '.' :: cs) := rfl

theorem numeral_magnitude (fmt : FloatFormat F) (negative : Bool) (d : Decimal) :
    numeral fmt negative d.magnitude = some (fmt.nearest negative
      (ofDigits ((d.whole ++ d.fraction.getD []).map (·.val)))
      (-((d.fraction.getD []).length : Int))) := by
  obtain ⟨sign, whole, fraction, hnonempty⟩ := d
  have hdigits : (whole ++ fraction.getD []).map (·.val) ≠ [] := by
    rwa [Ne, List.map_eq_nil_iff]
  rw [List.map_append] at hdigits
  rcases fraction with _ | fraction
  · have hwhole := digitRun_map digitRun_nil whole false
    rw [List.append_nil] at hwhole
    simp only [Option.getD_none, List.map_nil, List.append_nil] at hdigits
    simp only [numeral, Decimal.magnitude, Option.elim_none, hwhole, fractionRun, List.append_nil,
      if_neg hdigits, exponentPart, Option.getD_none, Option.map_some, List.length_nil]
    rfl
  · have hwhole := digitRun_map (digitRun_point (fraction.map digitChar)) whole false
    have hfraction := digitRun_map digitRun_nil fraction false
    rw [List.append_nil] at hfraction
    simp only [Option.getD_some] at hdigits
    simp only [numeral, Decimal.magnitude, Option.elim_some, hwhole, fractionRun, hfraction,
      if_neg hdigits, exponentPart, Option.getD_some, Option.map_some, List.length_map, List.map_append,
      Int.zero_sub]

/-- The characters of decimal notation. -/
def isDecimalChar (c : Char) : Bool := c = '-' ∨ c = '+' ∨ c = '.' ∨ ∃ d : Fin 10, c = digitChar d

theorem normalize_decimalChar {c : Char} (h : isDecimalChar c = true) :
    normalize c = c ∧ isBlank c = false := by
  rcases of_decide_eq_true h with rfl | rfl | rfl | ⟨d, rfl⟩
  · decide
  · decide
  · decide
  · revert d
    decide

theorem mem_magnitude {d : Decimal} {c : Char} (h : c ∈ d.magnitude) :
    c = '.' ∨ ∃ digit, c = digitChar digit := by
  rcases List.mem_append.mp h with h | h
  · obtain ⟨digit, -, rfl⟩ := List.mem_map.mp h
    exact .inr ⟨digit, rfl⟩
  · rcases hfraction : d.fraction with _ | fraction <;> rw [hfraction] at h
    · cases h
    · rcases List.mem_cons.mp h with rfl | h
      · exact .inl rfl
      · obtain ⟨digit, -, rfl⟩ := List.mem_map.mp h
        exact .inr ⟨digit, rfl⟩

theorem mem_text {d : Decimal} {c : Char} (h : c ∈ d.text) : isDecimalChar c = true := by
  refine decide_eq_true ?_
  rcases List.mem_append.mp h with h | h
  · rcases hsign : d.sign with _ | _ | _ <;> rw [hsign] at h
    · cases h
    · exact .inr (.inl (List.mem_singleton.mp h))
    · exact .inl (List.mem_singleton.mp h)
  · exact .inr (.inr (mem_magnitude h))

/-- Nothing is stripped of a text without blanks. -/
theorem strip_eq_self {p : Char → Bool} {cs : List Char} (h : ∀ c ∈ cs, p c = false) :
    (cs.dropWhile p).rdropWhile p = cs := by
  have hfront : cs.dropWhile p = cs := List.dropWhile_eq_self_iff.mpr fun hpos =>
    ne_true_of_eq_false (h _ (List.getElem_mem hpos))
  rw [hfront]
  exact List.rdropWhile_eq_self_iff.mpr fun hne => ne_true_of_eq_false (h _ (List.getLast_mem hne))

theorem stripped_text (d : Decimal) :
    ((d.text.map normalize).dropWhile isBlank).rdropWhile isBlank = d.text := by
  have hmap : d.text.map normalize = d.text :=
    (List.map_congr_left fun c hc => (normalize_decimalChar (mem_text hc)).1).trans (List.map_id _)
  rw [hmap]
  exact strip_eq_self fun c hc => (normalize_decimalChar (mem_text hc)).2

/-- A number in decimal notation is read as what it says. -/
theorem pyFloat_decimal (fmt : FloatFormat F) (d : Decimal) :
    pyFloat fmt d.text = some (d.number fmt) := by
  have hmagnitude : ∀ negative, unsignedFloat fmt negative d.magnitude =
      some (fmt.nearest negative (ofDigits ((d.whole ++ d.fraction.getD []).map (·.val)))
        (-((d.fraction.getD []).length : Int))) := fun negative => by
    rw [unsignedFloat, numeral_magnitude]
    rfl
  rw [pyFloat, stripped_text, Decimal.number]
  rcases hsign : d.sign with _ | _ | _
  · have htext : d.text = d.magnitude := by
      rw [Decimal.text, hsign]
      rfl
    have hfirst : ∀ c ∈ d.magnitude, c ≠ '-' ∧ c ≠ '+' := by
      intro c hc
      rcases mem_magnitude hc with rfl | ⟨digit, rfl⟩
      · decide
      · exact digitChar_ne_sign digit
    rw [htext]
    split
    next cs heq => exact absurd rfl (hfirst '-' (heq ▸ List.mem_cons_self ..)).1
    next cs heq => exact absurd rfl (hfirst '+' (heq ▸ List.mem_cons_self ..)).2
    next => exact hmagnitude false
  · have htext : d.text = '+' :: d.magnitude := by
      rw [Decimal.text, hsign]
      rfl
    rw [htext]
    exact hmagnitude false
  · have htext : d.text = '-' :: d.magnitude := by
      rw [Decimal.text, hsign]
      rfl
    rw [htext]
    exact hmagnitude true

end Reading

end RiseSun.PyText
