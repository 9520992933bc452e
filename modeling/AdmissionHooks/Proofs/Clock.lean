import AdmissionHooks.Proofs.Calendar

/-!
# Instants of the clock

The clock counts microseconds from the start of 1970. Its instants are made from the number of the
day by way of years that begin in March, whose leap day comes last. They are valid up to the end of
year 9999, and the time that they stand for is the count of the clock.
-/

namespace AdmissionHooks.Instant

/-! ## Years that begin in March -/

/-- The days of that many years. The leap days are those of the years that end with them. -/
def yearStart (years : Nat) : Nat := 365 * years + years / 4 - years / 100 + years / 400

/-- The days of that many months from March on. -/
def marchStart (months : Nat) : Nat := (153 * months + 2) / 5

theorem february_eq (year : Nat) : daysInMonth year 2 =
    if year % 4 = 0 ∧ (year % 100 ≠ 0 ∨ year % 400 = 0) then 29 else 28 := rfl

theorem marchStart_succ (year : Nat) {k : Nat} (h : k < 10) :
    marchStart (k + 1) = marchStart k + daysInMonth year (k + 3) := by
  have all : ∀ k : Fin 10, marchStart (k.val + 1) = marchStart k.val +
      (if k.val + 3 = 4 ∨ k.val + 3 = 6 ∨ k.val + 3 = 9 ∨ k.val + 3 = 11 then 30 else 31) := by
    decide
  rw [daysInMonth, if_neg (by omega)]
  exact all ⟨k, h⟩

theorem daysBefore_march (year : Nat) {k : Nat} (h : k ≤ 10) :
    daysBefore (daysInMonth year) (k + 3) = 31 + daysInMonth year 2 + marchStart k := by
  induction k with
  | zero => exact congrArg (· + daysInMonth year 2) (Nat.zero_add 31)
  | succ k ih =>
      have month : k + 1 + 3 = k + 3 + 1 := Nat.add_right_comm k 1 3
      rw [month, daysBefore_succ (by omega), ih (by omega), marchStart_succ year (by omega),
        Nat.add_assoc]

theorem daysInYear_eq (year : Nat) : daysInYear year = 337 + daysInMonth year 2 := by
  have whole : daysInYear year = _ := daysBefore_march year (Nat.le_refl 10)
  have march : marchStart 10 = 306 := rfl
  omega

theorem daysInYear_le (year : Nat) : daysInYear year ≤ 366 := by
  rw [daysInYear_eq, february_eq]
  split <;> omega

theorem yearStart_succ (y : Nat) : yearStart (y + 1) = yearStart y + daysInYear (y + 1) := by
  have few : y / 100 ≤ y / 4 := Nat.div_le_div_left (by decide) (by decide)
  have tick (n : Nat) : (y + 1) / n = y / n + if (y + 1) % n = 0 then 1 else 0 := by
    simp only [Nat.succ_div, Nat.dvd_iff_mod_eq_zero]
  have century : (y + 1) % 100 = 0 → (y + 1) % 4 = 0 := by omega
  have era : (y + 1) % 400 = 0 → (y + 1) % 100 = 0 := by omega
  rw [daysInYear_eq, february_eq]
  unfold yearStart
  rw [tick 4, tick 100, tick 400]
  grind

/-- The years that begin in March have as many days as those that begin in January. -/
theorem daysBefore_year (y : Nat) : daysBefore daysInYear (y + 1) = yearStart y := by
  induction y with
  | zero => rfl
  | succ y ih => rw [daysBefore_succ (Nat.succ_pos y), ih, yearStart_succ]

/-- The years of an era repeat those of the first one. -/
theorem yearStart_era (e k : Nat) : yearStart (e * 400 + k) = 146097 * e + yearStart k := by
  have few : k / 100 ≤ k / 4 := Nat.div_le_div_left (by decide) (by decide)
  have quarter : (e * 400 + k) / 4 = 100 * e + k / 4 := by omega
  have century : (e * 400 + k) / 100 = 4 * e + k / 100 := by omega
  have era : (e * 400 + k) / 400 = e + k / 400 := by omega
  unfold yearStart
  rw [quarter, century, era]
  omega

theorem yearStart_of_lt {k : Nat} (h : k < 400) : yearStart k = 365 * k + k / 4 - k / 100 := by
  unfold yearStart
  omega

/-! ## The year of a day -/

def yearOfEra (n : Nat) : Nat := (n - n / 1460 + n / 36524 - n / 146096) / 365

theorem yearOfEra_le {m n : Nat} (le : m ≤ n) (h : n < 146097) : yearOfEra m ≤ yearOfEra n := by
  apply Nat.div_le_div_right
  induction le with
  | refl => exact Nat.le_refl _
  | @step n le ih =>
      have ih := ih (by omega)
      omega

theorem yearOfEra_lt {n : Nat} (h : n < 146097) : yearOfEra n < 400 := by
  have last : yearOfEra 146096 = 399 := rfl
  have le : yearOfEra n ≤ yearOfEra 146096 := yearOfEra_le (by omega) (by omega)
  omega

/-- The year of a day is the last one that has begun. -/
theorem le_yearOfEra_iff {k n : Nat} (hk : k < 400) (hn : n < 146097) :
    k ≤ yearOfEra n ↔ yearStart k ≤ n := by
  have ends : ∀ k : Fin 400, yearOfEra (yearStart k.val) = k.val ∧ yearStart k.val < 146097 ∧
      (k.val = 0 ∨ yearOfEra (yearStart k.val - 1) < k.val) := by
    decide +kernel
  -- The formula is known at both ends of each year of the era, and it only grows in between.
  obtain ⟨first, inEra, last⟩ := ends ⟨k, hk⟩
  dsimp only at first inEra last
  constructor
  · intro le
    apply Nat.le_of_not_lt
    intro early
    have earlier : yearOfEra n ≤ yearOfEra (yearStart k - 1) :=
      yearOfEra_le (Nat.le_sub_one_of_lt early) (by omega)
    cases last with
    | inl zero => rw [zero] at early; cases early
    | inr less => omega
  · intro begun
    have le := yearOfEra_le begun hn
    omega

theorem yearOfEra_bounds {n : Nat} (h : n < 146097) :
    yearStart (yearOfEra n) ≤ n ∧ n < yearStart (yearOfEra n + 1) := by
  have inEra := yearOfEra_lt h
  constructor
  · exact (le_yearOfEra_iff inEra h).1 (Nat.le_refl _)
  · apply Nat.lt_of_not_le
    intro begun
    have whole : yearStart 400 = 146097 := rfl
    by_cases final : yearOfEra n + 1 = 400
    · rw [final] at begun
      omega
    · have le := (le_yearOfEra_iff (by omega) h).2 begun
      omega

/-! ## The date of a day -/

/-- The months since March of a day that is counted from the first of March. -/
def monthOfDay (n : Nat) : Nat := (5 * n + 2) / 153

theorem monthOfDay_bounds (n : Nat) :
    marchStart (monthOfDay n) ≤ n ∧ n < marchStart (monthOfDay n + 1) := by
  unfold marchStart monthOfDay
  omega

theorem monthOfDay_lt {n : Nat} (h : n < 366) : monthOfDay n < 12 := by
  unfold monthOfDay
  omega

/-- The date of a day that is counted from the first of March of a year. -/
def marchDate (year n : Nat) : Nat × Nat × Nat :=
  let month := if monthOfDay n < 10 then monthOfDay n + 3 else monthOfDay n - 9
  (year + (if month ≤ 2 then 1 else 0), month, n - marchStart (monthOfDay n) + 1)

/-- Every day lies in one of the years that begin in March, and has its date by that year. From the
first of March of a year 0 to the start of 1970 there are 719468 days. -/
theorem dateOfDay_eq (day : Nat) :
    ∃ year n, 0 < year ∧ n < daysInYear (year + 1) ∧ yearStart year + n = day + 719468 ∧
      dateOfDay day = marchDate year n := by
  let e := (day + 719468) / 146097
  let n := (day + 719468) % 146097
  have whole : 146097 * e + n = day + 719468 := Nat.div_add_mod _ _
  have lt : n < 146097 := Nat.mod_lt _ (by decide)
  obtain ⟨begun, lasting⟩ := yearOfEra_bounds lt
  have start := yearStart_era e (yearOfEra n)
  have next := yearStart_era e (yearOfEra n + 1)
  refine ⟨e * 400 + yearOfEra n, n - yearStart (yearOfEra n), ?_, ?_, ?_, ?_⟩
  · have late : 4 ≤ e := by omega
    omega
  · have length := yearStart_succ (e * 400 + yearOfEra n)
    rw [Nat.add_assoc] at length ⊢
    omega
  · omega
  · rw [yearStart_of_lt (yearOfEra_lt lt)]
    rfl

/-- A date is in one of the ten months from March on, or in January or February of the next
year. -/
theorem marchDate_cases (year : Nat) {n : Nat} (short : n < 366) :
    (∃ k d, k < 10 ∧ n = marchStart k + d ∧ n < marchStart (k + 1) ∧
      marchDate year n = (year, k + 3, d + 1)) ∨
    (∃ d, n = 306 + d ∧ d < 31 ∧ marchDate year n = (year + 1, 1, d + 1)) ∨
    ∃ d, n = 337 + d ∧ marchDate year n = (year + 1, 2, d + 1) := by
  obtain ⟨begun, lasting⟩ := monthOfDay_bounds n
  have month := monthOfDay_lt short
  unfold marchDate
  dsimp only
  by_cases same : monthOfDay n < 10
  · refine .inl ⟨monthOfDay n, n - marchStart (monthOfDay n), same, by omega, lasting, ?_⟩
    rw [if_pos same, if_neg (by omega), Nat.add_zero]
  · obtain january | february : monthOfDay n = 10 ∨ monthOfDay n = 11 := by omega
    · rw [january] at begun lasting ⊢
      change 306 ≤ n at begun
      change n < 337 at lasting
      exact .inr (.inl ⟨n - 306, by omega, by omega, rfl⟩)
    · rw [february] at begun ⊢
      change 337 ≤ n at begun
      exact .inr (.inr ⟨n - 337, by omega, rfl⟩)

section

variable {year n : Nat} (inYear : n < daysInYear (year + 1))

include inYear

theorem bounds_marchDate :
    year ≤ (marchDate year n).1 ∧ 1 ≤ (marchDate year n).2.1 ∧ (marchDate year n).2.1 ≤ 12 ∧
      1 ≤ (marchDate year n).2.2 ∧
      (marchDate year n).2.2 ≤ daysInMonth (marchDate year n).1 (marchDate year n).2.1 := by
  have short : n < 366 := Nat.lt_of_lt_of_le inYear (daysInYear_le _)
  obtain ⟨k, d, month, sum, lasting, date⟩ | ⟨d, sum, lasting, date⟩ | ⟨d, sum, date⟩ :=
    marchDate_cases year short
  · rw [marchStart_succ year month] at lasting
    rw [date]
    dsimp only
    omega
  · have january : daysInMonth (year + 1) 1 = 31 := rfl
    rw [date]
    dsimp only
    omega
  · rw [daysInYear_eq] at inYear
    rw [date]
    dsimp only
    omega

theorem dayNumber_marchDate (pos : 0 < year) :
    dayNumber (marchDate year n).1 (marchDate year n).2.1 (marchDate year n).2.2 + 306 =
      yearStart year + n := by
  have short : n < 366 := Nat.lt_of_lt_of_le inYear (daysInYear_le _)
  unfold dayNumber
  obtain ⟨k, d, month, sum, -, date⟩ | ⟨d, sum, -, date⟩ | ⟨d, sum, date⟩ :=
    marchDate_cases year short
  · rw [date, ← daysBefore_year, daysBefore_succ pos, daysInYear_eq,
      daysBefore_march year (Nat.le_of_lt month)]
    dsimp only
    omega
  · have january : daysBefore (daysInMonth (year + 1)) 1 = 0 := rfl
    rw [date, daysBefore_year, january]
    dsimp only
    omega
  · have february : daysBefore (daysInMonth (year + 1)) 2 = 31 := rfl
    rw [date, daysBefore_year, february]
    dsimp only
    omega

end

theorem dayNumber_dateOfDay (day : Nat) :
    dayNumber (dateOfDay day).1 (dateOfDay day).2.1 (dateOfDay day).2.2 = day + 719162 := by
  obtain ⟨year, n, pos, inYear, sum, date⟩ := dateOfDay_eq day
  have number := dayNumber_marchDate inYear pos
  rw [date]
  omega

theorem year_lt_of_dayNumber_lt {year month day last : Nat}
    (h : dayNumber year month day < daysBefore daysInYear last) : year < last := by
  apply Nat.lt_of_not_le
  intro late
  have le : daysBefore daysInYear last ≤ daysBefore daysInYear year := daysBefore_le late
  unfold dayNumber at h
  omega

/-! ## The count of the clock -/

/-- The time of the clock's instant is the count of the clock from its start on. -/
theorem elapsed_ofEpoch (n : Nat) : (ofEpoch n).elapsed = (ofEpoch 0).elapsed + n := by
  have made (k : Nat) : (ofEpoch k).elapsed =
      (((dayNumber (dateOfDay (k / 1000000 / 86400)).1 (dateOfDay (k / 1000000 / 86400)).2.1
        (dateOfDay (k / 1000000 / 86400)).2.2 * 24 + k / 1000000 / 3600 % 24) * 60 +
          k / 1000000 / 60 % 60) * 60 + k / 1000000 % 60) * 1000000 + k % 1000000 := rfl
  rw [made n, made 0, dayNumber_dateOfDay, dayNumber_dateOfDay]
  omega

/-- The first count of the clock whose year has five digits. -/
def clockEnd : Nat := 253402300800000000

theorem valid_ofEpoch {n : Nat} (h : n < clockEnd) : (ofEpoch n).Valid := by
  unfold clockEnd at h
  obtain ⟨year, k, pos, inYear, sum, date⟩ := dateOfDay_eq (n / 1000000 / 86400)
  have bounds := bounds_marchDate inYear
  have number := dayNumber_dateOfDay (n / 1000000 / 86400)
  have whole : daysBefore daysInYear 10000 = 3652059 := daysBefore_year 9999
  have last : (dateOfDay (n / 1000000 / 86400)).1 < 10000 := by
    apply year_lt_of_dayNumber_lt
    rw [number, whole]
    omega
  rw [← date] at bounds
  obtain ⟨year_le, month_pos, month_le, day_pos, day_le⟩ := bounds
  constructor
  case year_pos => exact Nat.le_trans pos year_le
  case year_le => exact Nat.le_of_lt_succ last
  case month_pos => exact month_pos
  case month_le => exact month_le
  case day_pos => exact day_pos
  case day_le => exact day_le
  case hour_lt => exact Nat.mod_lt _ (by decide)
  case minute_lt => exact Nat.mod_lt _ (by decide)
  case second_lt => exact Nat.mod_lt _ (by decide)
  case microsecond_lt => exact Nat.mod_lt _ (by decide)

end AdmissionHooks.Instant
