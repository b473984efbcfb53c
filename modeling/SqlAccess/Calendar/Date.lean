import SqlAccess.Number.Digits

/-!
# Dates

A `Date` is a day of the proleptic Gregorian calendar, kept as the number of days since
1970-01-01. The supported years are -262143 to 262142; the year before year 1 is year 0.
-/

namespace SqlAccess

/-- The days from 1970-01-01 to a day of the Gregorian calendar. The year is taken to start in
March, so that a leap day is its last day, and is counted in cycles of 400 years. -/
def daysOfCivil (year : Int) (month day : Nat) : Int :=
  let y := if month ≤ 2 then year - 1 else year
  let cycle := y.fdiv 400
  let yearOfCycle := y - cycle * 400
  let monthFromMarch : Int := if month ≤ 2 then month + 9 else month - 3
  let dayOfYear := (153 * monthFromMarch + 2) / 5 + day - 1
  let dayOfCycle := yearOfCycle * 365 + yearOfCycle / 4 - yearOfCycle / 100 + dayOfYear
  cycle * 146097 + dayOfCycle - 719468

/-- Year, month and day of a number of days since 1970-01-01. -/
def civilOfDays (days : Int) : Int × Nat × Nat :=
  let d := days + 719468
  let cycle := d.fdiv 146097
  let dayOfCycle := d - cycle * 146097
  let yearOfCycle :=
    (dayOfCycle - dayOfCycle / 1460 + dayOfCycle / 36524 - dayOfCycle / 146096) / 365
  let dayOfYear := dayOfCycle - (365 * yearOfCycle + yearOfCycle / 4 - yearOfCycle / 100)
  let monthFromMarch := (5 * dayOfYear + 2) / 153
  let day := dayOfYear - (153 * monthFromMarch + 2) / 5 + 1
  let month := if monthFromMarch < 10 then monthFromMarch + 3 else monthFromMarch - 9
  let year := yearOfCycle + cycle * 400 + if month ≤ 2 then 1 else 0
  (year, month.toNat, day.toNat)

/-- -262143-01-01 -/
def firstDay : Int := -96465292

/-- 262142-12-31 -/
def lastDay : Int := 95026236

example : daysOfCivil (-262143) 1 1 = firstDay ∧ daysOfCivil 262142 12 31 = lastDay := by decide

/-- A day of the supported years. -/
structure Date where
  /-- The days since 1970-01-01. -/
  days : Int
  ge : firstDay ≤ days
  le : days ≤ lastDay

namespace Date

theorem ext {a b : Date} (h : a.days = b.days) : a = b := by cases a; cases b; simp_all

instance : DecidableEq Date := fun a b =>
  if h : a.days = b.days then .isTrue (ext h) else .isFalse fun e => h (e ▸ rfl)

/-- The day with this number, if it is in the supported years. -/
def ofDays? (days : Int) : Option Date :=
  if h : firstDay ≤ days ∧ days ≤ lastDay then some ⟨days, h.1, h.2⟩ else none

/-- 1970-01-01 -/
def epoch : Date := ⟨0, by decide, by decide⟩

instance : Inhabited Date := ⟨epoch⟩

/-- Year, month and day. -/
def civil (d : Date) : Int × Nat × Nat := civilOfDays d.days

/-- The day with this year, month and day, if there is one in the supported years. -/
def ofCivil? (year : Int) (month day : Nat) : Option Date :=
  let days := daysOfCivil year month day
  if civilOfDays days = (year, month, day) then ofDays? days else none

/-- Four digits; a year with more, or below zero, has a sign. -/
def yearText (year : Int) : List Char :=
  if 0 ≤ year ∧ year ≤ 9999 then Digits.padded 4 year.natAbs
  else (if year < 0 then '-' else '+') :: Digits.padded 4 year.natAbs

/-- Year, month and day with hyphens between them. -/
def toText (d : Date) : List Char :=
  let (year, month, day) := d.civil
  yearText year ++ '-' :: Digits.padded 2 month ++ '-' :: Digits.padded 2 day

end Date

end SqlAccess
