import Snowflake.Calendar
import Snowflake.Proofs.Grammar

/-!
# `Snowflake.Proofs.Dates`: the instant that a text denotes

A Unix time is written as a date and a time of day. `Calendar.Denotes` says
what such a text means, without the function that writes it: the date is a day
of the calendar, the time is one of its milliseconds, and together they are as
many milliseconds behind the start of 1970 as the years, months and days before
them have. A text denotes one instant at most (`Calendar.Denotes.unique`), and
`Calendar.denotes_stampText` shows that the text of an instant denotes it.

`Date.isValid_ofDayNumber` is what the counting of days leaves open: a day
number is split into a month that exists and a day that this month has. In
February that needs the cycles around the year, since the last day of the year
that starts in March is there only if the year is a leap year.
-/

set_option autoImplicit false

namespace Snowflake

open Text.Decimal (padded digits Spells)

/-! ### Days -/

namespace Date

/-- The days of a month. -/
def monthLength (year month : Nat) : Nat :=
  if month = 2 then if isLeap year then 29 else 28
  else if month = 4 ∨ month = 6 ∨ month = 9 ∨ month = 11 then 30 else 31

/-- The month exists and has the day. -/
structure IsValid (d : Date) : Prop where
  month_pos : 1 ≤ d.month
  month_le : d.month ≤ 12
  day_pos : 1 ≤ d.day
  day_le : d.day ≤ monthLength d.year d.month

/-- The days from the first one of a month to the first one of the next, in a
year that starts in March. -/
theorem monthLength_add_three (year : Nat) {m : Nat} (h : m < 10) :
    (153 * (m + 1) + 2) / 5 = (153 * m + 2) / 5 + monthLength year (m + 3) := by
  have hall : ∀ m : Fin 10, (153 * (m.val + 1) + 2) / 5
      = (153 * m.val + 2) / 5 + monthLength 0 (m.val + 3) := by decide
  have hyear : monthLength year (m + 3) = monthLength 0 (m + 3) := by
    have hmonth : m + 3 ≠ 2 := by omega
    simp only [monthLength, if_neg hmonth]
  rw [hyear]
  exact hall ⟨m, h⟩

/-- Every fourth year is a leap year, but of the full centuries only every
fourth one. -/
theorem isLeap_iff (year : Nat) :
    isLeap year = true ↔ year % 4 = 0 ∧ (year % 100 ≠ 0 ∨ year % 400 = 0) := by
  simp [isLeap]

/-- A day of the year that starts in March, counted from zero. Its last day, number
365, is there only if the next February has a leap day. -/
theorem isValid_of_marchYear {year e month day : Nat} (hlast : e ≤ 365)
    (hleap : e = 365 → isLeap (year + 1) = true) (hmonth : month = (5 * e + 2) / 153)
    (hday : day = e - (153 * month + 2) / 5 + 1) :
    (if month < 10 then (⟨year, month + 3, day⟩ : Date)
      else ⟨year + 1, month - 9, day⟩).IsValid := by
  have hpos : 1 ≤ day := hday ▸ Nat.le_add_left 1 _
  split
  · rename_i hlt
    -- From March to December the months lie in one year.
    have hlength := monthLength_add_three year hlt
    constructor
    case month_pos => exact Nat.le_add_left 1 (month + 2)
    case month_le => exact Nat.add_le_add_right (Nat.le_of_lt_succ hlt) 3
    case day_pos => exact hpos
    case day_le =>
      show day ≤ monthLength year (month + 3)
      omega
  · rename_i hge
    -- January and February belong to the next one.
    have hcases : month = 10 ∨ month = 11 := by omega
    constructor
    case month_pos =>
      show 1 ≤ month - 9
      omega
    case month_le =>
      show month - 9 ≤ 12
      omega
    case day_pos => exact hpos
    case day_le =>
      rcases hcases with rfl | rfl
      · have hlength : monthLength (year + 1) 1 = 31 := by simp [monthLength]
        show day ≤ monthLength (year + 1) 1
        omega
      · have hlength : monthLength (year + 1) 2 = if isLeap (year + 1) then 29 else 28 := rfl
        show day ≤ monthLength (year + 1) 2
        -- In February everything turns on the 366th day of the year.
        by_cases he : e = 365
        · rw [hleap he, if_pos rfl] at hlength
          omega
        · have hshort : 28 ≤ monthLength (year + 1) 2 := by
            rw [hlength]
            split <;> decide
          omega

/-- Every day number is a day that its month has. -/
theorem isValid_ofDayNumber (n : Nat) : (ofDayNumber n).IsValid := by
  unfold ofDayNumber
  extract_lets era b century c cycle d year e month day my
  have hb : b < 146097 := Nat.mod_lt _ (by decide)
  have hlast : e ≤ 365 := by omega
  -- Only the last year of a cycle has a 366th day, and of the last cycles in their
  -- centuries only that of the last century.
  have hleap : e = 365 → isLeap (my + 1) = true := by
    intro he
    have hyear : year = 3 := by omega
    have hcycle : cycle = 24 → century = 3 := by omega
    have hcentury : cycle ≤ 24 := by omega
    have hmy : my = era * 400 + century * 100 + cycle * 4 + year := rfl
    clear_value era b century c cycle d year e month day my
    rw [isLeap_iff]
    omega
  exact isValid_of_marchYear hlast hleap rfl rfl

end Date

/-! ### Instants -/

/-- A day and a time of day, to the millisecond. -/
structure Stamp where
  date : Date
  hour : Nat
  minute : Nat
  second : Nat
  milli : Nat

namespace Stamp

/-- The day is one of the calendar, from 1970 on, and the time is a time of
day. -/
structure IsValid (t : Stamp) : Prop where
  date : t.date.IsValid
  from_epoch : Date.epochDay ≤ t.date.dayNumber
  hour_lt : t.hour < 24
  minute_lt : t.minute < 60
  second_lt : t.second < 60
  milli_lt : t.milli < 1000

/-- The milliseconds since the start of 1970. -/
def millis (t : Stamp) : Nat :=
  (((t.date.toDays * 24 + t.hour) * 60 + t.minute) * 60 + t.second) * 1000 + t.milli

/-- The year, with a sign in front when it has more than four digits. -/
def yearText (year : Nat) : List Char :=
  if year ≤ 9999 then padded 4 year else '+' :: digits year

/-- The fields in the order of their size, with a separator behind each. -/
def chars (t : Stamp) : List Char :=
  yearText t.date.year ++ '-' :: (padded 2 t.date.month ++ '-' :: (padded 2 t.date.day ++ 'T' ::
    (padded 2 t.hour ++ ':' :: (padded 2 t.minute ++ ':' :: (padded 2 t.second ++ '.' ::
      (padded 3 t.milli ++ ['Z']))))))

end Stamp

/-! ### What a text says -/

namespace Stamp

/-- The year of a date is a numeral, with a plus sign when it has five digits
or more. -/
theorem spells_yearText (year : Nat) : Spells (yearText year) year := by
  unfold yearText
  split
  · exact Text.Decimal.spells_padded 4 year
  · exact ⟨digits year, Text.Decimal.digits_ne_nil year, Text.Decimal.isDigit_of_mem_digits year,
      .inr rfl, (Text.Decimal.valueFrom_digits year).symm⟩

/-- Numerals in front of a separator are told from the text. -/
theorem field_inj {sep : Char} (hdigit : sep.isDigit = false) (hplus : sep ≠ '+')
    {cs cs' rest rest' : List Char} {m n : Nat} (hm : Spells cs m) (hn : Spells cs' n)
    (h : cs ++ sep :: rest = cs' ++ sep :: rest') : m = n ∧ rest = rest' := by
  -- The separator stands in neither numeral, so both texts are cut at the same
  -- place.
  have hcs : cs = cs' := by
    rw [← WorkerSource.takeWhile_ne_append (hm.notMem hdigit hplus) rest, h,
      WorkerSource.takeWhile_ne_append (hn.notMem hdigit hplus) rest']
  subst hcs
  exact ⟨hm.unique hn, (List.cons.inj (List.append_cancel_left h)).2⟩

/-- The fields can be told from the text. -/
theorem chars_inj {t u : Stamp} (h : t.chars = u.chars) : t = u := by
  -- Field by field, each up to its separator.
  have hpadded := Text.Decimal.spells_padded
  obtain ⟨hyear, h⟩ := field_inj rfl (by decide) (spells_yearText _) (spells_yearText _) h
  obtain ⟨hmonth, h⟩ := field_inj rfl (by decide) (hpadded 2 _) (hpadded 2 _) h
  obtain ⟨hday, h⟩ := field_inj rfl (by decide) (hpadded 2 _) (hpadded 2 _) h
  obtain ⟨hhour, h⟩ := field_inj rfl (by decide) (hpadded 2 _) (hpadded 2 _) h
  obtain ⟨hminute, h⟩ := field_inj rfl (by decide) (hpadded 2 _) (hpadded 2 _) h
  obtain ⟨hsecond, h⟩ := field_inj rfl (by decide) (hpadded 2 _) (hpadded 2 _) h
  obtain ⟨hmilli, -⟩ := field_inj rfl (by decide) (hpadded 3 _) (hpadded 3 _) h
  obtain ⟨⟨year, month, day⟩, hour, minute, second, milli⟩ := t
  cases hyear
  cases hmonth
  cases hday
  cases hhour
  cases hminute
  cases hsecond
  cases hmilli
  rfl

end Stamp

namespace Calendar

/-- The text is a date and a time of day in UTC, so many milliseconds after the
start of 1970. -/
def Denotes (s : String) (ms : Nat) : Prop :=
  ∃ t : Stamp, t.IsValid ∧ s.toList = t.chars ∧ t.millis = ms

/-- A text denotes one instant at most. -/
theorem Denotes.unique {s : String} {ms ms' : Nat} (h : Denotes s ms) (h' : Denotes s ms') :
    ms = ms' := by
  obtain ⟨t, -, ht, rfl⟩ := h
  obtain ⟨u, -, hu, rfl⟩ := h'
  rw [Stamp.chars_inj (ht.symm.trans hu)]

/-- The day and the time of day of a Unix time. -/
def stampOf (ms : Nat) : Stamp where
  date := Date.ofDays (ms / millisPerDay)
  hour := ms % millisPerDay / 3600000
  minute := ms % millisPerDay / 60000 % 60
  second := ms % millisPerDay / 1000 % 60
  milli := ms % millisPerDay % 1000

/-- Every Unix time has a day and a time of day. -/
theorem isValid_stampOf (ms : Nat) : (stampOf ms).IsValid := by
  have hday : ms % millisPerDay < 86400000 := Nat.mod_lt _ (by decide)
  have hnumber : (Date.ofDays (ms / millisPerDay)).dayNumber = ms / millisPerDay + Date.epochDay :=
    Date.dayNumber_ofDayNumber (Nat.le_trans (by decide) (Nat.le_add_left Date.epochDay _))
  constructor
  case date => exact Date.isValid_ofDayNumber _
  case from_epoch => exact hnumber ▸ Nat.le_add_left _ _
  case hour_lt =>
    show ms % millisPerDay / 3600000 < 24
    omega
  case minute_lt => exact Nat.mod_lt _ (by decide)
  case second_lt => exact Nat.mod_lt _ (by decide)
  case milli_lt => exact Nat.mod_lt _ (by decide)

/-- Each unit of time is split from the next smaller one. -/
theorem millis_of_units (days rest : Nat) :
    (((days * 24 + rest / 3600000) * 60 + rest / 60000 % 60) * 60 + rest / 1000 % 60) * 1000
      + rest % 1000 = days * 86400000 + rest := by
  have hminutes : rest / 60000 = rest / 1000 / 60 := by omega
  have hhours : rest / 3600000 = rest / 1000 / 60 / 60 := by omega
  rw [hminutes, hhours]
  omega

/-- The stamp of a number of milliseconds is so many milliseconds after the
start of 1970. -/
theorem millis_stampOf (ms : Nat) : (stampOf ms).millis = ms := by
  have hdays : (Date.ofDays (ms / millisPerDay)).toDays = ms / millisPerDay := Date.toDays_ofDays _
  have hsplit := Nat.div_add_mod' ms millisPerDay
  simp only [Stamp.millis, stampOf, hdays, millis_of_units]
  exact hsplit

/-- The time of day, character by character. -/
theorem toList_timeText (ms : Nat) :
    (timeText ms).toList = padded 2 (ms / 3600000) ++ ':' :: (padded 2 (ms / 60000 % 60) ++
      ':' :: (padded 2 (ms / 1000 % 60) ++ '.' :: padded 3 (ms % 1000))) := by
  rw [timeText, String.toList_ofList]
  simp only [List.append_assoc, List.cons_append]

/-- The date, character by character. -/
theorem toList_dateText (d : Date) :
    d.text.toList = Stamp.yearText d.year ++ '-' :: (padded 2 d.month ++ '-' :: padded 2 d.day) := by
  rw [Date.text, String.toList_ofList, List.append_assoc]
  rfl

/-- The text of an instant is that of its day and time of day. -/
theorem toList_stampText (ms : Nat) : (stampText ms).toList = (stampOf ms).chars := by
  have hT : "T".toList = ['T'] := rfl
  have hZ : "Z".toList = ['Z'] := rfl
  -- The same fields and separators, in other brackets.
  have happend : ∀ a b c d e f g : List Char,
      (a ++ '-' :: (b ++ '-' :: c)) ++ ['T'] ++ (d ++ ':' :: (e ++ ':' :: (f ++ '.' :: g)))
          ++ ['Z']
        = a ++ '-' :: (b ++ '-' :: (c ++ 'T' :: (d ++ ':' :: (e ++ ':' :: (f ++ '.' ::
          (g ++ ['Z'])))))) := by
    intro a b c d e f g
    simp only [List.append_assoc, List.cons_append, List.nil_append]
  rw [stampText, String.toList_append, String.toList_append, String.toList_append,
    toList_dateText, toList_timeText, hT, hZ, happend]
  rfl

/-- The text of an instant denotes the instant. -/
theorem denotes_stampText (ms : Nat) : Denotes (stampText ms) ms :=
  ⟨stampOf ms, isValid_stampOf ms, toList_stampText ms, millis_stampOf ms⟩

end Calendar

end Snowflake
