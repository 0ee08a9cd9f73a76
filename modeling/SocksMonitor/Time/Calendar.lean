/-!
# Dates

Dates of the proleptic Gregorian calendar, in the range that a timestamp can have. A `Date` is
valid by construction; `Date.next?` and `Date.previous?` move it by a day, which is all that a time
zone offset asks for. Day numbers serve the difference of two times.
-/

namespace SocksMonitor.Time

def isLeapYear (year : Int) : Bool :=
  year % 4 == 0 && (year % 100 != 0 || year % 400 == 0)

/-- The number of days of a month, zero for a number that is no month. -/
def daysInMonth (year : Int) (month : Nat) : Nat :=
  match month with
  | 1 | 3 | 5 | 7 | 8 | 10 | 12 => 31
  | 4 | 6 | 9 | 11 => 30
  | 2 => if isLeapYear year then 29 else 28
  | _ => 0

def firstYear : Int := -262143

def lastYear : Int := 262142

structure Date where
  year : Int
  month : Nat
  day : Nat
  year_ge : firstYear ≤ year
  year_le : year ≤ lastYear
  day_ge : 1 ≤ day
  day_le : day ≤ daysInMonth year month
deriving DecidableEq

namespace Date

/-- The day with the given year, month and day, if there is one. -/
def of? (year : Int) (month day : Nat) : Option Date :=
  if h : firstYear ≤ year ∧ year ≤ lastYear ∧ 1 ≤ day ∧ day ≤ daysInMonth year month then
    some ⟨year, month, day, h.1, h.2.1, h.2.2.1, h.2.2.2⟩
  else none

def next? (d : Date) : Option Date :=
  if d.day < daysInMonth d.year d.month then of? d.year d.month (d.day + 1)
  else if d.month < 12 then of? d.year (d.month + 1) 1
  else of? (d.year + 1) 1 1

def previous? (d : Date) : Option Date :=
  if 1 < d.day then of? d.year d.month (d.day - 1)
  else if 1 < d.month then of? d.year (d.month - 1) (daysInMonth d.year (d.month - 1))
  else of? (d.year - 1) 12 31

/-- The days of a year before the first of a month. -/
def daysBeforeMonth (year : Int) (month : Nat) : Nat :=
  (List.range month).foldl (fun days m => days + daysInMonth year m) 0

/-- The days from 0001-01-01 up to the first of January of a year; negative before that. -/
def daysBeforeYear (year : Int) : Int :=
  let past := year - 1
  365 * past + past / 4 - past / 100 + past / 400

/-- The number of the day, counted from 1970-01-01. -/
def number (d : Date) : Int :=
  daysBeforeYear d.year + daysBeforeMonth d.year d.month + d.day - 719163

/-- The day with the given number, by way of years that begin in March. -/
def ofNumber? (n : Int) : Option Date :=
  let shifted := n + 719468
  let era := shifted / 146097
  let dayOfEra := shifted % 146097
  let yearOfEra := (dayOfEra - dayOfEra / 1460 + dayOfEra / 36524 - dayOfEra / 146096) / 365
  let dayOfYear := dayOfEra - (365 * yearOfEra + yearOfEra / 4 - yearOfEra / 100)
  let march := (5 * dayOfYear + 2) / 153
  let month := if march < 10 then march + 3 else march - 9
  let day := dayOfYear - (153 * march + 2) / 5 + 1
  of? (yearOfEra + era * 400 + if month ≤ 2 then 1 else 0) month.toNat day.toNat

example : (of? 1970 1 1).map number = some 0 := by decide
example : (of? 2024 2 29).map number = some 19782 := by decide
example : (ofNumber? 19782).map (fun d => (d.year, d.month, d.day)) = some (2024, 2, 29) := by
  decide

theorem month_bounds (d : Date) : 1 ≤ d.month ∧ d.month ≤ 12 := by
  have pos : 0 < daysInMonth d.year d.month := Nat.lt_of_lt_of_le d.day_ge d.day_le
  unfold daysInMonth at pos
  split at pos <;> omega

theorem day_le_31 (d : Date) : d.day ≤ 31 := by
  have h := d.day_le
  unfold daysInMonth at h
  split at h <;> (try split at h) <;> omega

theorem of?_fields (d : Date) : of? d.year d.month d.day = some d := by
  simp [of?, d.year_ge, d.year_le, d.day_ge, d.day_le]

end Date

end SocksMonitor.Time
