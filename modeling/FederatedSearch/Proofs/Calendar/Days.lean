import FederatedSearch.Proofs.Calendar.Reading

/-!
# Days that are counted and found again

The days of the calendar are counted from the first of March of a year that begins an era of 400
years, so that the leap day is the last of its year and the eras have the same number of days. A
day of an era is at a place in its century, in a span of four years there, and in a year of that.
The parts of a day are computed from its number by divisions that are exact for these places, and
the number of a day with these parts is the one that they were computed from.

* `FederatedSearch.Calendar.EraDay`: the days of an era, by their places.
* `FederatedSearch.Calendar.EraDay.partsOfDayNumber_eq`,
  `FederatedSearch.Calendar.EraDay.countDays_eq`: the parts of a day, and counting it again.
* `FederatedSearch.Calendar.EraDay.isDay`: **the parts are those of a day that exists**.
* `FederatedSearch.Calendar.Date.exists_dayNumber_eq`: the days of the years 0 to 9999.
-/

namespace FederatedSearch.Calendar

/-! ### Days of an era -/

/-- **A day of an era of 400 years** that starts in March: four centuries, in each of them
twenty-five spans of four years, in each span four years. The last year of a span is a leap year,
unless it ends one of the first three centuries. -/
structure EraDay where
  century : Int
  span : Int
  year : Int
  day : Int
  century_mem : 0 ≤ century ∧ century ≤ 3
  span_mem : 0 ≤ span ∧ span ≤ 24
  year_mem : 0 ≤ year ∧ year ≤ 3
  day_mem : 0 ≤ day ∧ (day ≤ 364 ∨ day = 365 ∧ year = 3 ∧ (span < 24 ∨ century = 3))

namespace EraDay

/-- The days of the era before it. -/
def number (x : EraDay) : Int := 36524 * x.century + 1461 * x.span + 365 * x.year + x.day

/-- The years of the era before that of the day. -/
def yearOfEra (x : EraDay) : Int := 100 * x.century + 4 * x.span + x.year

/-- **Every day of an era** is of this form. -/
theorem exists_number_eq {n : Int} (hfirst : 0 ≤ n) (hlast : n ≤ 146096) :
    ∃ x : EraDay, x.number = n := by
  obtain ⟨c, hc⟩ : ∃ c, c = min (n / 36524) 3 := ⟨_, rfl⟩
  obtain ⟨m, hm⟩ : ∃ m, m = n - 36524 * c := ⟨_, rfl⟩
  obtain ⟨q, hq⟩ : ∃ q, q = m / 1461 := ⟨_, rfl⟩
  obtain ⟨k, hk⟩ : ∃ k, k = m - 1461 * q := ⟨_, rfl⟩
  obtain ⟨s, hs⟩ : ∃ s, s = min (k / 365) 3 := ⟨_, rfl⟩
  -- a day more than its centuries or years have belongs to the fourth of them
  refine ⟨⟨c, q, s, k - 365 * s, ?_, ?_, ?_, ?_⟩, ?_⟩
  · omega
  · omega
  · omega
  · omega
  · simp only [number]
    omega

variable (x : EraDay)

theorem number_mem : 0 ≤ x.number ∧ x.number ≤ 146096 := by
  obtain ⟨c, q, s, d, hc, hq, hs, hd⟩ := x
  simp only [number]
  omega

theorem yearOfEra_mem : 0 ≤ x.yearOfEra ∧ x.yearOfEra ≤ 399 := by
  obtain ⟨c, q, s, d, hc, hq, hs, hd⟩ := x
  simp only [yearOfEra]
  omega

theorem day_le : 0 ≤ x.day ∧ x.day ≤ 365 := by
  have h := x.day_mem
  omega

/-- The year of a day is what the divisions of the count give. -/
theorem yearOfEra_eq :
    (x.number - x.number / 1460 + x.number / 36524 - x.number / 146096) / 365 = x.yearOfEra := by
  obtain ⟨c, q, s, d, hc, hq, hs, hd⟩ := x
  simp only [number, yearOfEra]
  obtain ⟨n, hn⟩ : ∃ n, n = 36524 * c + 1461 * q + 365 * s + d := ⟨_, rfl⟩
  rw [← hn]
  -- only the last day of the era is not within its century as it is counted here
  have hlast : n < 36524 * c + 36524 ∨ c = 3 ∧ n = 146096 := by omega
  have hcenturies : n / 36524 - n / 146096 = c := by omega
  have hspans : n / 1460 = 25 * c + q ∨
      n / 1460 = 25 * c + q + 1 ∧ 1364 ≤ 365 * s + d := by omega
  omega

/-- The day of a year is what is left of the count. -/
theorem day_eq : x.number - (365 * x.yearOfEra + x.yearOfEra / 4 - x.yearOfEra / 100) = x.day := by
  obtain ⟨c, q, s, d, hc, hq, hs, hd⟩ := x
  simp only [number, yearOfEra]
  omega

/-- The last day of a long year of the era is the leap day of the year that has begun in it. -/
theorem isLeapYear_of_day_eq (h : x.day = 365) (era : Int) :
    isLeapYear (x.yearOfEra + era * 400 + 1) = true := by
  obtain ⟨c, q, s, d, hc, hq, hs, hd⟩ := x
  simp only at h
  have hfour : (100 * c + 4 * q + s + era * 400 + 1) % 4 = 0 := by omega
  have hhundred : (100 * c + 4 * q + s + era * 400 + 1) % 100 ≠ 0 ∨
      (100 * c + 4 * q + s + era * 400 + 1) % 400 = 0 := by omega
  simpa [isLeapYear, yearOfEra, hfour] using hhundred

/-! ### Months -/

/-- The months from March on that are over. -/
def monthFromMarch : Int := (5 * x.day + 2) / 153

/-- The days of the month that are over. -/
def dayOfMonth : Int := x.day - (153 * x.monthFromMarch + 2) / 5

/-- The month. -/
def month : Nat :=
  (if x.monthFromMarch < 10 then x.monthFromMarch + 3 else x.monthFromMarch - 9).toNat

/-- The year, for a day of an era with a number. January and February belong to the next one. -/
def yearIn (era : Int) : Int :=
  if x.month ≤ 2 then x.yearOfEra + era * 400 + 1 else x.yearOfEra + era * 400

/-- **The parts of a day** are those of its era and of its day in the era. -/
theorem partsOfDayNumber_eq (era : Int) :
    Date.partsOfDayNumber (era * 146097 + x.number - 719468) =
      (x.yearIn era, x.month, (x.dayOfMonth + 1).toNat) := by
  have hnumber := x.number_mem
  have hera : (era * 146097 + x.number - 719468 + 719468) / 146097 = era := by omega
  have hday : era * 146097 + x.number - 719468 + 719468 - era * 146097 = x.number := by omega
  simp only [Date.partsOfDayNumber, hera, hday, x.yearOfEra_eq, x.day_eq]
  rfl

/-- The months that are over and the days of the month are natural numbers, and make up the day of
the year. -/
theorem exists_monthFromMarch_eq : ∃ m k : Nat, x.monthFromMarch = m ∧ x.dayOfMonth = k ∧
    (m < 10 ∧ x.month = m + 3 ∨ 10 ≤ m ∧ m ≤ 11 ∧ x.month = m - 9) ∧
    x.day = k + (153 * m + 2) / 5 ∧ 5 * x.day + 2 < 153 * (m + 1) := by
  have hday := x.day_le
  refine ⟨x.monthFromMarch.toNat, x.dayOfMonth.toNat, ?_⟩
  simp only [month, dayOfMonth, monthFromMarch]
  omega

/-- **A day that is counted to** is the one that the count was taken apart from. -/
theorem countDays_eq (era : Int) :
    Date.countDays (x.yearIn era) x.month (x.dayOfMonth + 1).toNat =
      era * 146097 + x.number - 719468 := by
  have hyear := x.yearOfEra_mem
  have hnumber := x.day_eq
  obtain ⟨m, k, -, hk, hmonth | hmonth, hday, -⟩ := x.exists_monthFromMarch_eq
  · have hera : (x.yearOfEra + era * 400) / 400 = era := by omega
    simp only [Date.countDays, yearIn, hmonth.2, hk, show ¬m + 3 ≤ 2 by omega,
      show m + 3 > 2 by omega, if_true, if_false, hera]
    omega
  · have hera : (x.yearOfEra + era * 400 + 1 - 1) / 400 = era := by omega
    simp only [Date.countDays, yearIn, hmonth.2.2, hk, show m - 9 ≤ 2 by omega,
      show ¬m - 9 > 2 by omega, if_true, if_false, hera]
    omega

/-- **The parts of a day of an era** are those of a day of the calendar. -/
theorem isDay {era : Int} (hfirst : firstYear ≤ x.yearIn era) (hlast : x.yearIn era ≤ lastYear) :
    isDay (x.yearIn era) x.month (x.dayOfMonth + 1).toNat = true := by
  have hyear := x.day_le
  have hleap (h : x.day = 365) (hmonth : x.month = 2) : isLeapYear (x.yearIn era) = true := by
    rw [yearIn, hmonth, if_pos (Nat.le_refl 2), x.isLeapYear_of_day_eq h]
  obtain ⟨m, k, -, hk, hmonth, hday, hnext⟩ := x.exists_monthFromMarch_eq
  have hdays : k + 1 ≤ daysInMonth (x.yearIn era) x.month := by
    simp only [daysInMonth, Bool.or_eq_true, beq_iff_eq]
    by_cases hfebruary : x.month = 2
    · rw [if_pos hfebruary]
      by_cases hlong : x.day = 365
      · rw [if_pos (hleap hlong hfebruary)]
        omega
      · split <;> omega
    · rw [if_neg hfebruary]
      split <;> omega
  simp only [Calendar.isDay, hfirst, hlast, decide_true, Bool.true_and, Bool.and_eq_true,
    decide_eq_true_eq, hk]
  omega

/-- The last two months of an era, from its 146037th day on, belong to the first year of the era
after it. -/
theorem le_number_iff : 146037 ≤ x.number ↔ x.yearOfEra = 399 ∧ x.month ≤ 2 := by
  have hnumber := x.number_mem
  have hyear := x.yearOfEra_mem
  have hday := x.day_eq
  obtain ⟨m, k, -, -, hmonth, hsplit, hnext⟩ := x.exists_monthFromMarch_eq
  have hwinter : x.month ≤ 2 ↔ 306 ≤ x.day := by omega
  rw [hwinter]
  omega

end EraDay

/-! ### Dates -/

/-- A day of the years 0 to 9999, by its distance from the first of January 1970. -/
theorem Date.exists_dayNumber_eq {n : Int} (hfirst : Date.countDays 0 1 1 ≤ n)
    (hlast : n < Date.countDays 10000 1 1) : ∃ d : Date, d.IsFourDigit ∧ d.dayNumber = n ∧
      Date.partsOfDayNumber n = (d.year, d.month, d.day) := by
  obtain ⟨x, hx⟩ := EraDay.exists_number_eq (n := (n + 719468) % 146097) (by omega) (by omega)
  obtain ⟨era, hera⟩ : ∃ era, era = (n + 719468) / 146097 := ⟨_, rfl⟩
  have hn : era * 146097 + x.number - 719468 = n := by omega
  have hyear : 0 ≤ x.yearIn era ∧ x.yearIn era ≤ 9999 := by
    have hfirst' : Date.countDays 0 1 1 = -719528 := rfl
    have hlast' : Date.countDays 10000 1 1 = 2932897 := rfl
    have hyear := x.yearOfEra_mem
    have hnumber := x.number_mem
    have hmonths := x.le_number_iff
    rw [hfirst'] at hfirst
    rw [hlast'] at hlast
    simp only [EraDay.yearIn]
    split <;> omega
  have hvalid : isDay (x.yearIn era) x.month (x.dayOfMonth + 1).toNat = true :=
    x.isDay (Int.le_trans (by decide) hyear.1) (Int.le_trans hyear.2 (by decide))
  refine ⟨⟨_, _, _, hvalid⟩, hyear, ?_, ?_⟩
  · rw [← hn]
    exact x.countDays_eq era
  · rw [← hn]
    exact x.partsOfDayNumber_eq era

end FederatedSearch.Calendar
