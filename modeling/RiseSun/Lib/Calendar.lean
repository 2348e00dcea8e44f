/-
  Dates of the proleptic Gregorian calendar with a time of day and an optional time zone.

  `DateTime` carries the proof that its fields name a real moment, so a value that exists is a
  valid date: a decoder that reads fields off the wire must go through `DateTime.make?`.
  `utcoffset = none` is a date WITHOUT time zone; two dates are comparable iff both have a zone or
  both have none (`DateTime.le?`).
-/
import Mathlib.Algebra.GroupWithZero.Nat
import Mathlib.Data.List.Basic

namespace RiseSun

def isLeapYear (y : Nat) : Bool := y % 4 == 0 && (y % 100 != 0 || y % 400 == 0)

def daysInMonth (y m : Nat) : Nat :=
  if m = 2 then (if isLeapYear y then 29 else 28)
  else if m = 4 ∨ m = 6 ∨ m = 9 ∨ m = 11 then 30
  else 31

/-- The fields name a moment of the years 1 to 9999. -/
def ValidDate (year month day hour minute second microsecond : Nat) : Prop :=
  (1 ≤ year ∧ year ≤ 9999) ∧ (1 ≤ month ∧ month ≤ 12) ∧
  (1 ≤ day ∧ day ≤ daysInMonth year month) ∧
  hour < 24 ∧ minute < 60 ∧ second < 60 ∧ microsecond < 1000000

instance (y mo d h mi s us : Nat) : Decidable (ValidDate y mo d h mi s us) := by
  unfold ValidDate; exact inferInstance

/-- A moment: its fields, the offset of its time zone from UTC in seconds (if it has one). -/
structure DateTime where
  year : Nat
  month : Nat
  day : Nat
  hour : Nat
  minute : Nat
  second : Nat
  microsecond : Nat
  utcoffset : Option Int
  valid : ValidDate year month day hour minute second microsecond
  deriving DecidableEq, Repr

namespace DateTime

/-- A moment without time zone, in whole seconds; `none` when the fields name no moment. -/
def make? (year month day hour minute second : Nat) : Option DateTime :=
  if h : ValidDate year month day hour minute second 0 then
    some ⟨year, month, day, hour, minute, second, 0, none, h⟩
  else none

/-- Whole seconds and no time zone: the moments a six-field notation can write. -/
def Plain (d : DateTime) : Prop := d.microsecond = 0 ∧ d.utcoffset = none

instance (d : DateTime) : Decidable d.Plain := by
  unfold Plain; exact inferInstance

/-- A plain moment is rebuilt from its six fields. -/
theorem make?_fields (d : DateTime) (h : d.Plain) :
    make? d.year d.month d.day d.hour d.minute d.second = some d := by
  obtain ⟨y, mo, dd, hh, mi, s, us, off, hv⟩ := d
  obtain ⟨hus, hoff⟩ := h
  simp only at hus hoff
  subst hus hoff
  simp only [make?, dif_pos hv]

/-- The moment without its microseconds and its time zone. -/
def wholeSeconds (d : DateTime) : DateTime where
  year := d.year
  month := d.month
  day := d.day
  hour := d.hour
  minute := d.minute
  second := d.second
  microsecond := 0
  utcoffset := none
  valid := by
    obtain ⟨hy, hmo, hd, hh, hmi, hs, _⟩ := d.valid
    exact ⟨hy, hmo, hd, hh, hmi, hs, by decide⟩

/-- The six fields of a moment rebuild it up to its whole seconds. -/
theorem make?_wholeSeconds (d : DateTime) :
    make? d.year d.month d.day d.hour d.minute d.second = some d.wholeSeconds :=
  make?_fields d.wholeSeconds ⟨rfl, rfl⟩

/-- A moment made by `make?` has neither a time zone nor a fraction of a second. -/
theorem make?_plain {y mo d h mi s : Nat} {dt : DateTime} (hm : make? y mo d h mi s = some dt) :
    dt.Plain := by
  unfold make? at hm
  split at hm
  · cases hm
    exact ⟨rfl, rfl⟩
  · cases hm

/-! ## The day count -/

def daysBeforeYear (y : Nat) : Nat := (y - 1) * 365 + (y - 1) / 4 - (y - 1) / 100 + (y - 1) / 400

def daysBeforeMonth (y m : Nat) : Nat := ((List.range (m - 1)).map fun i => daysInMonth y (i + 1)).sum

/-- Days since the day before 1 January of year 1. -/
def toordinal (d : DateTime) : Nat :=
  daysBeforeYear d.year + daysBeforeMonth d.year d.month + d.day

/-- Monday is 1, Sunday is 7. -/
def isoweekday (d : DateTime) : Nat := if d.toordinal % 7 = 0 then 7 else d.toordinal % 7

/-- Microseconds since the day before 1 January of year 1, by the moment's own clock. -/
def clock (d : DateTime) : Int :=
  ((((d.toordinal * 24 + d.hour : Int) * 60 + d.minute) * 60 + d.second) * 1000000) + d.microsecond

/-- `a <= b`; `none` is the `TypeError` of comparing a zoned moment with one that has no zone. -/
def le? (a b : DateTime) : Option Bool :=
  match a.utcoffset, b.utcoffset with
  | none, none => some (a.clock ≤ b.clock)
  | some oa, some ob => some (a.clock - oa * 1000000 ≤ b.clock - ob * 1000000)
  | _, _ => none

/-- Two moments without time zone are compared by their clocks. -/
theorem le?_naive {a b : DateTime} (ha : a.utcoffset = none) (hb : b.utcoffset = none) :
    a.le? b = some (decide (a.clock ≤ b.clock)) := by
  simp only [le?, ha, hb]

/-- A moment with and one without time zone cannot be compared. -/
theorem le?_mixed {a b : DateTime} (h : a.utcoffset.isSome ≠ b.utcoffset.isSome) :
    a.le? b = none := by
  unfold le?
  cases ha : a.utcoffset with
  | none =>
    cases hb : b.utcoffset with
    | none =>
      rw [ha, hb] at h
      exact absurd rfl h
    | some _ => rfl
  | some _ =>
    cases hb : b.utcoffset with
    | none => rfl
    | some _ =>
      rw [ha, hb] at h
      exact absurd rfl h

end DateTime

example : (DateTime.make? 2026 9 12 0 0 0).map DateTime.isoweekday = some 6 := by decide
example : DateTime.make? 2023 2 29 0 0 0 = none := by decide

end RiseSun
