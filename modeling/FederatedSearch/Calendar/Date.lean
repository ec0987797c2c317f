import FederatedSearch.Number.Literal

/-!
# Dates

Days of the Gregorian calendar, extended backwards and forwards over some 262,000 years. A value
of `FederatedSearch.Calendar.Date` is always a day that exists.

* `FederatedSearch.Calendar.Date.of?`: the day with a year, month and day of the month.
* `FederatedSearch.Calendar.Date.dayNumber`: its distance in days from the first of January 1970.
* `FederatedSearch.Calendar.Date.toText`: its written form.
-/

namespace FederatedSearch.Calendar

/-! ### The calendar -/

/-- The first year of the calendar. -/
def firstYear : Int := -262143

/-- The last year of the calendar. -/
def lastYear : Int := 262142

/-- A year with a 29th of February. -/
def isLeapYear (year : Int) : Bool :=
  year % 4 == 0 && (year % 100 != 0 || year % 400 == 0)

/-- The number of days of a month. -/
def daysInMonth (year : Int) (month : Nat) : Nat :=
  if month == 2 then if isLeapYear year then 29 else 28
  else if month == 4 || month == 6 || month == 9 || month == 11 then 30
  else 31

/-- A year, a month and a day of the month name a day of the calendar. -/
def isDay (year : Int) (month day : Nat) : Bool :=
  firstYear ≤ year && year ≤ lastYear && 1 ≤ month && month ≤ 12 &&
    1 ≤ day && day ≤ daysInMonth year month

/-- **A day of the calendar.** -/
structure Date where
  year : Int
  month : Nat
  day : Nat
  valid : isDay year month day = true
  deriving DecidableEq, Repr

namespace Date

/-- The day with the given year, month and day of the month, if there is one. -/
def of? (year : Int) (month day : Nat) : Option Date :=
  if h : isDay year month day = true then some ⟨year, month, day, h⟩ else none

theorem of?_eq_some_iff {year : Int} {month day : Nat} {d : Date} :
    of? year month day = some d ↔ d.year = year ∧ d.month = month ∧ d.day = day := by
  unfold of?
  split
  · rename_i h
    simp only [Option.some.injEq]
    exact ⟨fun hd => hd ▸ ⟨rfl, rfl, rfl⟩, fun ⟨hy, hm, hd⟩ => by cases d; subst hy hm hd; rfl⟩
  · rename_i h
    simp only [reduceCtorEq, false_iff, not_and]
    intro hy hm hd
    exact h (hy ▸ hm ▸ hd ▸ d.valid)

@[simp] theorem of?_self (d : Date) : of? d.year d.month d.day = some d :=
  of?_eq_some_iff.2 ⟨rfl, rfl, rfl⟩

/-! ### Order -/

/-- **The order of days**: by year, then month, then day of the month. -/
def cmp (a b : Date) : Ordering :=
  (compare a.year b.year).then ((compare a.month b.month).then (compare a.day b.day))

@[simp] theorem cmp_self (d : Date) : d.cmp d = .eq := by
  simp [cmp]

/-! ### Counting days -/

/-- The days from the first of January 1970 to a day given by its parts. Years are counted from
the first of March, so that the leap day is the last of a year. -/
def countDays (year : Int) (month day : Nat) : Int :=
  let y := if month ≤ 2 then year - 1 else year
  let era := y / 400
  let yearOfEra := y - era * 400
  let monthFromMarch := if month > 2 then month - 3 else month + 9
  let dayOfYear := (153 * monthFromMarch + 2) / 5 + day - 1
  let dayOfEra := yearOfEra * 365 + yearOfEra / 4 - yearOfEra / 100 + dayOfYear
  era * 146097 + dayOfEra - 719468

/-- **The distance in days from the first of January 1970.** -/
def dayNumber (d : Date) : Int := countDays d.year d.month d.day

/-- The parts of the day at a distance from the first of January 1970. -/
def partsOfDayNumber (n : Int) : Int × Nat × Nat :=
  let z := n + 719468
  let era := z / 146097
  let dayOfEra := z - era * 146097
  let yearOfEra := (dayOfEra - dayOfEra / 1460 + dayOfEra / 36524 - dayOfEra / 146096) / 365
  let dayOfYear := dayOfEra - (365 * yearOfEra + yearOfEra / 4 - yearOfEra / 100)
  let monthFromMarch := (5 * dayOfYear + 2) / 153
  let day := (dayOfYear - (153 * monthFromMarch + 2) / 5 + 1).toNat
  let month := (if monthFromMarch < 10 then monthFromMarch + 3 else monthFromMarch - 9).toNat
  let year := yearOfEra + era * 400
  (if month ≤ 2 then year + 1 else year, month, day)

/-! ### Written form -/

/-- A natural number with zeros in front of it up to a width. -/
def padded (width n : Nat) : String :=
  let digits := Nat.toDigits 10 n
  .ofList (List.replicate (width - digits.length) '0' ++ digits)

/-- A year in four digits, with a sign when it is before the year 0 or after the year 9999. -/
def yearText (year : Int) : String :=
  if 0 ≤ year && year ≤ 9999 then padded 4 year.toNat
  else (if year < 0 then "-" else "+") ++ padded 4 year.natAbs

/-- The written form of the parts of a day. -/
def partsText (year : Int) (month day : Nat) : String :=
  yearText year ++ "-" ++ padded 2 month ++ "-" ++ padded 2 day

/-- **The written form**: year, month and day of the month with hyphens between them. -/
def toText (d : Date) : String := partsText d.year d.month d.day

end Date

end FederatedSearch.Calendar
