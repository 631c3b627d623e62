import Snowflake.Text.Decimal

/-!
# `Snowflake.Calendar`: points in time as dates

A Unix time in milliseconds is written as a date of the Gregorian calendar and
a time of day in UTC, with three decimals. A day number is split from the
coarsest cycle to the finest: 400 years always have the same length, and in a
year that starts in March the leap day comes last, so that every shorter cycle
but the last one of its kind has the same length too.

`Date.toDays` counts the days the other way, year by year and month by month,
as calendars do; `toDays_ofDays` says that the two agree.
-/

set_option autoImplicit false

namespace Snowflake

open Text

/-- A day of the calendar. -/
structure Date where
  /-- The year. -/
  year : Nat
  /-- The month, from 1. -/
  month : Nat
  /-- The day of the month, from 1. -/
  day : Nat
deriving DecidableEq, Repr

namespace Date

/-- The date of a day, counted from the start of March of year 0. -/
def ofDayNumber (n : Nat) : Date :=
  let era := n / 146097
  let n := n % 146097
  let century := min (n / 36524) 3
  let n := n - century * 36524
  let cycle := n / 1461
  let n := n % 1461
  let year := min (n / 365) 3
  let n := n - year * 365
  let month := (5 * n + 2) / 153
  let day := n - (153 * month + 2) / 5 + 1
  let marchYear := era * 400 + century * 100 + cycle * 4 + year
  -- January and February, the last two months, are in the next calendar year.
  if month < 10 then ⟨marchYear, month + 3, day⟩ else ⟨marchYear + 1, month - 9, day⟩

/-- The number of the first day of 1970. -/
def epochDay : Nat := 719468

/-- The date of a day, counted from the start of 1970. -/
def ofDays (days : Nat) : Date := ofDayNumber (days + epochDay)

/-- The year has a leap day. -/
def isLeap (year : Nat) : Bool := year % 4 = 0 && (year % 100 ≠ 0 || year % 400 = 0)

/-- The days of a year before the start of a month, when there is no leap
day. -/
def daysBefore : Nat → Nat
  | 1 => 0
  | 2 => 31
  | 3 => 59
  | 4 => 90
  | 5 => 120
  | 6 => 151
  | 7 => 181
  | 8 => 212
  | 9 => 243
  | 10 => 273
  | 11 => 304
  | _ => 334

/-- The number of a date, counted from the start of March of year 0: the days
of all years before it, with a leap day in every fourth, less every hundredth,
with every four-hundredth, and the days of its own year. March of year 0
starts 305 days before the last day of that year. -/
def dayNumber (d : Date) : Nat :=
  let past := d.year - 1
  let leapDay := if isLeap d.year && decide (2 < d.month) then 1 else 0
  past * 365 + past / 4 - past / 100 + past / 400 + daysBefore d.month + leapDay + d.day + 305

/-- The days from the start of 1970 to a date. -/
def toDays (d : Date) : Nat := d.dayNumber - epochDay

/-- A date with four digits of year, more with a sign in front. -/
def text (d : Date) : String :=
  let year :=
    if d.year ≤ 9999 then Decimal.padded 4 d.year else '+' :: Decimal.digits d.year
  String.ofList (year ++ '-' :: Decimal.padded 2 d.month ++ '-' :: Decimal.padded 2 d.day)

/-- The lengths of the months from March on, as one formula. It has no case for
February, which comes last. -/
theorem daysBefore_add_three {m : Nat} (h : m < 10) :
    daysBefore (m + 3) = (153 * m + 2) / 5 + 59 := by
  have : ∀ m : Fin 10, daysBefore (m.val + 3) = (153 * m.val + 2) / 5 + 59 := by decide
  exact this ⟨m, h⟩

/-- A multiple raises the count of multiples, and nothing else does. -/
theorem pred_div_add {y k : Nat} (hy : 0 < y) :
    (y - 1) / k + (if y % k = 0 then 1 else 0) = y / k := by
  obtain ⟨x, rfl⟩ : ∃ x, y = x + 1 := ⟨y - 1, by omega⟩
  rw [Nat.add_sub_cancel, Nat.succ_div]
  simp [Nat.dvd_iff_mod_eq_zero]

/-- The leap days before a year, with the one in it, are the leap days up to
the end of its February. -/
theorem leapDays_add {y : Nat} (hy : 0 < y) :
    (y - 1) / 4 - (y - 1) / 100 + (y - 1) / 400 + (if isLeap y then 1 else 0)
      = y / 4 - y / 100 + y / 400 := by
  have h4 := pred_div_add (k := 4) hy
  have h100 := pred_div_add (k := 100) hy
  have h400 := pred_div_add (k := 400) hy
  have hle : (y - 1) / 100 ≤ (y - 1) / 4 := by omega
  have h100_4 : y % 100 = 0 → y % 4 = 0 := by omega
  have h400_100 : y % 400 = 0 → y % 100 = 0 := by omega
  unfold isLeap
  generalize (y - 1) / 4 = a at *
  generalize (y - 1) / 100 = b at *
  generalize (y - 1) / 400 = c at *
  rw [← h4, ← h100, ← h400]
  clear h4 h100 h400
  by_cases c4 : y % 4 = 0 <;> by_cases c100 : y % 100 = 0 <;> by_cases c400 : y % 400 = 0 <;>
    simp_all <;> omega

/-- Counting the days of a date undoes splitting a day number, from the first
day of year 1 on. -/
theorem dayNumber_ofDayNumber {n : Nat} (hn : 306 ≤ n) : (ofDayNumber n).dayNumber = n := by
  unfold ofDayNumber
  extract_lets era b century c cycle d year e month day my
  -- Each remainder is shorter than the cycle it was split from.
  have hb : b < 146097 := by omega
  have hcen : century ≤ 3 := by omega
  have hc : c ≤ 36524 := by omega
  have hd : d < 1461 := by omega
  have he : e ≤ 365 := by omega
  have hm : month ≤ 11 := by omega
  have hfit : (153 * month + 2) / 5 ≤ e := by omega
  have hday : day = e - (153 * month + 2) / 5 + 1 := rfl
  have hcycle : cycle ≤ 24 := by omega
  have hyear : year ≤ 3 := by omega
  -- The cycles and the day in the year add up to the day number, and say how
  -- many multiples of 4, 100 and 400 there are up to the year.
  have hsplit : n = era * 146097 + century * 36524 + cycle * 1461 + year * 365 + e := by omega
  have hmy : my = era * 400 + century * 100 + cycle * 4 + year := rfl
  have h4 : my / 4 = era * 100 + century * 25 + cycle := by omega
  have h100 : my / 100 = era * 4 + century := by omega
  have h400 : my / 400 = era := by omega
  have hmonth : month = (5 * e + 2) / 153 := rfl
  clear_value era b century c cycle d year e month day my
  clear hb hc hd
  split
  · -- From March on the leap day of the year itself has passed.
    rename_i hlt
    have hgt : 2 < month + 3 := by omega
    have hpos : 0 < my := by omega
    have hleap := leapDays_add hpos
    rw [h4, h100, h400] at hleap
    have hge : (my - 1) / 100 ≤ (my - 1) / 4 := by omega
    simp only [dayNumber, daysBefore_add_three hlt, hgt, decide_true, Bool.and_true]
    generalize (my - 1) / 4 = p at *
    generalize (my - 1) / 100 = q at *
    generalize (my - 1) / 400 = r at *
    generalize (if isLeap my then 1 else 0) = l at *
    omega
  · -- January and February follow the leap days of the years before.
    rename_i hge
    have : month = 10 ∨ month = 11 := by omega
    simp only [dayNumber, Nat.add_sub_cancel, h4, h100, h400]
    rcases this with rfl | rfl
    · simp [daysBefore]; omega
    · simp [daysBefore]; omega

/-- The days to a date are the days that it was made from. -/
theorem toDays_ofDays (n : Nat) : (ofDays n).toDays = n := by
  have h : 306 ≤ n + epochDay := Nat.le_trans (by decide) (Nat.le_add_left epochDay n)
  rw [ofDays, toDays, dayNumber_ofDayNumber h, Nat.add_sub_cancel]

end Date

namespace Calendar

/-- The milliseconds of a day. -/
def millisPerDay : Nat := 86400000

/-- The last millisecond of the last year that is written, 262142. -/
def lastMillis : Nat := 8210266876799999

/-- The time of day at a millisecond of the day. -/
def timeText (ms : Nat) : String :=
  String.ofList
    (Decimal.padded 2 (ms / 3600000) ++ ':' :: Decimal.padded 2 (ms / 60000 % 60)
      ++ ':' :: Decimal.padded 2 (ms / 1000 % 60) ++ '.' :: Decimal.padded 3 (ms % 1000))

/-- A Unix time in milliseconds as date and time. -/
def stampText (ms : Nat) : String :=
  (Date.ofDays (ms / millisPerDay)).text ++ "T" ++ timeText (ms % millisPerDay) ++ "Z"

/-- A Unix time in milliseconds as date and time, when its year is written. -/
def stamp? (ms : Nat) : Option String := if ms ≤ lastMillis then some (stampText ms) else none

example : stamp? 1577836800000 = some "2020-01-01T00:00:00.000Z" := by decide +kernel
example : stamp? 951868799999 = some "2000-02-29T23:59:59.999Z" := by decide +kernel
example : stamp? 253402300800000 = some "+10000-01-01T00:00:00.000Z" := by decide +kernel
example : stamp? lastMillis = some "+262142-12-31T23:59:59.999Z" := by decide +kernel

end Calendar

end Snowflake
