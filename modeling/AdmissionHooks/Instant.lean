import AdmissionHooks.Text.Digits

/-!
# Instants

A moment in universal time, to the microsecond, and its two written forms: the timestamp of a JSON
line, whose fraction is left out when it is zero, and the clock of a plain line, which shows whole
milliseconds and no zeros before the year.
-/

namespace AdmissionHooks

structure Instant where
  year : Nat
  month : Nat
  day : Nat
  hour : Nat
  minute : Nat
  second : Nat
  microsecond : Nat
  deriving DecidableEq, Repr

namespace Instant

open Text (digits)

def daysInMonth (year month : Nat) : Nat :=
  if month = 2 then
    if year % 4 = 0 ∧ (year % 100 ≠ 0 ∨ year % 400 = 0) then 29 else 28
  else if month = 4 ∨ month = 6 ∨ month = 9 ∨ month = 11 then 30
  else 31

/-- The instants of the calendar from year 1 to year 9999. -/
structure Valid (t : Instant) : Prop where
  year_pos : 1 ≤ t.year
  year_le : t.year ≤ 9999
  month_pos : 1 ≤ t.month
  month_le : t.month ≤ 12
  day_pos : 1 ≤ t.day
  day_le : t.day ≤ daysInMonth t.year t.month
  hour_lt : t.hour < 24
  minute_lt : t.minute < 60
  second_lt : t.second < 60
  microsecond_lt : t.microsecond < 1000000

/-- The date of a day counted from the first of January 1970. The years are counted from March, so
that a leap day is the last of its year, and 400 of them have 146097 days. -/
def dateOfDay (day : Nat) : Nat × Nat × Nat :=
  let shifted := day + 719468
  let era := shifted / 146097
  let inEra := shifted % 146097
  let year := (inEra - inEra / 1460 + inEra / 36524 - inEra / 146096) / 365
  let inYear := inEra - (365 * year + year / 4 - year / 100)
  let march := (5 * inYear + 2) / 153
  let month := if march < 10 then march + 3 else march - 9
  (era * 400 + year + (if month ≤ 2 then 1 else 0), month, inYear - (153 * march + 2) / 5 + 1)

/-- The instant that lies the given number of microseconds after the start of 1970. -/
def ofEpoch (microseconds : Nat) : Instant :=
  let seconds := microseconds / 1000000
  let date := dateOfDay (seconds / 86400)
  ⟨date.1, date.2.1, date.2.2, seconds / 3600 % 24, seconds / 60 % 60, seconds % 60,
    microseconds % 1000000⟩

def dayChars (t : Instant) : List Char := '-' :: digits 10 2 t.month ++ '-' :: digits 10 2 t.day

def dateChars (t : Instant) : List Char := digits 10 4 t.year ++ t.dayChars

def timeChars (t : Instant) : List Char :=
  digits 10 2 t.hour ++ ':' :: digits 10 2 t.minute ++ ':' :: digits 10 2 t.second

def fractionChars (t : Instant) : List Char :=
  if t.microsecond = 0 then [] else '.' :: digits 10 6 t.microsecond

def zoneChars : List Char := ['+', '0', '0', ':', '0', '0']

def timestampChars (t : Instant) : List Char :=
  t.dateChars ++ 'T' :: t.timeChars ++ t.fractionChars ++ zoneChars

def timestamp (t : Instant) : String := String.ofList t.timestampChars

/-- The time of a plain line: the year without zeros in front, and the milliseconds cut and not
rounded. -/
def clock (t : Instant) : String :=
  String.ofList
    (Nat.toDigits 10 t.year ++ t.dayChars ++ ' ' :: t.timeChars ++ ',' ::
      digits 10 3 (t.microsecond / 1000))

example : timestamp ⟨2024, 1, 2, 3, 4, 5, 678901⟩ = "2024-01-02T03:04:05.678901+00:00" := by decide
example : timestamp ⟨2000, 1, 1, 0, 0, 0, 0⟩ = "2000-01-01T00:00:00+00:00" := by decide
example : clock ⟨1999, 12, 31, 23, 59, 59, 999999⟩ = "1999-12-31 23:59:59,999" := by decide
example : clock ⟨99, 2, 28, 1, 2, 3, 4000⟩ = "99-02-28 01:02:03,004" := by decide

example : ofEpoch 0 = ⟨1970, 1, 1, 0, 0, 0, 0⟩ := by decide
example : ofEpoch 1709251199000007 = ⟨2024, 2, 29, 23, 59, 59, 7⟩ := by decide
example : ofEpoch 4107542400000000 = ⟨2100, 3, 1, 0, 0, 0, 0⟩ := by decide

end Instant

end AdmissionHooks
