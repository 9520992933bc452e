import AdmissionHooks.Instant
import AdmissionHooks.Proofs.Text.Order

/-!
# The course of time

The time of an instant is the number of microseconds that have gone by since the start of year 1. It
is counted out by the calendar: a year has the days of its months, and before a day lie the years
before its year and the months before its month. So it does not depend on how an instant is written,
and instants compare in time as their parts do, from the year down.
-/

namespace AdmissionHooks.Instant

/-- The days before the `n`-th of some stretches that are counted from 1. -/
def daysBefore (length : Nat → Nat) : Nat → Nat
  | 0 => 0
  | 1 => 0
  | n + 2 => daysBefore length (n + 1) + length (n + 1)

def daysInYear (year : Nat) : Nat := daysBefore (daysInMonth year) 13

/-- The days from the start of year 1 to a date. -/
def dayNumber (year month day : Nat) : Nat :=
  daysBefore daysInYear year + (daysBefore (daysInMonth year) month + (day - 1))

/-- The microseconds from the start of year 1 to an instant. -/
def elapsed (t : Instant) : Nat :=
  (((dayNumber t.year t.month t.day * 24 + t.hour) * 60 + t.minute) * 60 + t.second) * 1000000 +
    t.microsecond

/-- The parts of an instant, from the largest to the smallest. -/
def parts (t : Instant) : List Nat :=
  [t.year, t.month, t.day, t.hour, t.minute, t.second, t.microsecond]

theorem parts_inj {s t : Instant} : s.parts = t.parts ↔ s = t := by
  constructor
  · intro same
    cases s
    cases t
    simpa [parts] using same
  · exact congrArg parts

/-! ## Stretches of days -/

section

variable {length : Nat → Nat}

theorem daysBefore_succ {n : Nat} (pos : 0 < n) :
    daysBefore length (n + 1) = daysBefore length n + length n := by
  cases n with
  | zero => cases pos
  | succ n => rfl

theorem daysBefore_le {m n : Nat} (le : m ≤ n) : daysBefore length m ≤ daysBefore length n := by
  induction le with
  | refl => exact Nat.le_refl _
  | @step n le ih =>
      cases n with
      | zero => exact ih
      | succ n => exact Nat.le_trans ih (Nat.le_add_right _ _)

theorem compare_daysBefore_add {m n x y : Nat} (hm : 0 < m) (hn : 0 < n) (inside : x < length m)
    (inside' : y < length n) :
    compare (daysBefore length m + x) (daysBefore length n + y) =
      (compare m n).then (compare x y) := by
  apply compare_place_add daysBefore_le
  · rw [daysBefore_succ hm]
    omega
  · rw [daysBefore_succ hn]
    omega

end

/-! ## Instants in time -/

namespace Valid

variable {t : Instant}

theorem inMonth (valid : t.Valid) : t.day - 1 < daysInMonth t.year t.month := by
  have pos := valid.day_pos
  have le := valid.day_le
  omega

theorem inYear (valid : t.Valid) :
    daysBefore (daysInMonth t.year) t.month + (t.day - 1) < daysInYear t.year := by
  have next : daysBefore (daysInMonth t.year) (t.month + 1) = _ := daysBefore_succ valid.month_pos
  have within : daysBefore (daysInMonth t.year) (t.month + 1) ≤ daysInYear t.year :=
    daysBefore_le (Nat.succ_le_succ valid.month_le)
  have inMonth := valid.inMonth
  omega

end Valid

section

variable {s t : Instant} (hs : s.Valid) (ht : t.Valid)

include hs ht

theorem compare_dayNumber :
    compare (dayNumber s.year s.month s.day) (dayNumber t.year t.month t.day) =
      (compare s.year t.year).then ((compare s.month t.month).then (compare s.day t.day)) := by
  unfold dayNumber
  rw [compare_daysBefore_add hs.year_pos ht.year_pos hs.inYear ht.inYear]
  -- Months and days are counted by the lengths of their own year, so they compare within one year.
  apply then_congr
  intro level
  have year : s.year = t.year := Nat.compare_eq_eq.1 level
  have inMonth := ht.inMonth
  have day : compare (s.day - 1) (t.day - 1) = compare s.day t.day := by
    rw [← compare_add_left 1, Nat.add_sub_of_le hs.day_pos, Nat.add_sub_of_le ht.day_pos]
  rw [← year] at inMonth ⊢
  rw [compare_daysBefore_add hs.month_pos ht.month_pos hs.inMonth inMonth, day]

theorem compare_elapsed : compare s.elapsed t.elapsed = compare s.parts t.parts := by
  have last : compare ([] : List Nat) [] = .eq := rfl
  unfold elapsed
  rw [compare_mul_add hs.microsecond_lt ht.microsecond_lt,
    compare_mul_add hs.second_lt ht.second_lt, compare_mul_add hs.minute_lt ht.minute_lt,
    compare_mul_add hs.hour_lt ht.hour_lt, compare_dayNumber hs ht]
  simp only [parts, List.compare_cons_cons, Ordering.then_assoc, last, Ordering.then_eq]

theorem elapsed_inj : s.elapsed = t.elapsed ↔ s = t := by
  rw [← Nat.compare_eq_eq, compare_elapsed hs ht, Std.compare_eq_iff_eq, parts_inj]

end

end AdmissionHooks.Instant
