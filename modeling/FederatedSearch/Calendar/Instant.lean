import FederatedSearch.Calendar.Reading
import FederatedSearch.Calendar.Span

/-!
# Instants

An instant is a second counted from the start of 1970 in universal time, and the nanoseconds that
have passed in it. A leap second is counted with the second before it, so the nanoseconds of an
instant reach up to two seconds.

* `FederatedSearch.Calendar.Instant.le`: the order.
* `FederatedSearch.Calendar.Instant.since`: the span between two instants.
* `FederatedSearch.Calendar.Instant.shift?`: the instant a span later, unless it leaves the
  calendar.
* `FederatedSearch.Calendar.Instant.ofText?` and `FederatedSearch.Calendar.Instant.toText`: the
  written form, a date and a time of day with an offset.
-/

namespace FederatedSearch.Calendar

/-- The seconds of a day, leap seconds left aside. -/
def secondsPerDay : Nat := 86400

/-- **An instant**: seconds from the start of 1970, and nanoseconds into the second. In a leap
second the nanoseconds are a full second or more. -/
structure Instant where
  second : Int
  nano : Nat
  deriving DecidableEq, Repr

namespace Instant

/-- The seconds since midnight. -/
def secondOfDay (t : Instant) : Int := t.second % secondsPerDay

/-- The instant lies in a leap second. -/
def isLeap (t : Instant) : Bool := nanosPerSecond ≤ t.nano

/-! ### Order -/

/-- **The order of instants**: by second, then by nanosecond. -/
def cmp (a b : Instant) : Ordering := (compare a.second b.second).then (compare a.nano b.nano)

/-- The first instant is not after the second. -/
def le (a b : Instant) : Bool := a.cmp b != .gt

@[simp] theorem le_refl (t : Instant) : t.le t = true := by
  simp [le, cmp]

theorem le_iff {a b : Instant} :
    a.le b = true ↔ a.second < b.second ∨ a.second = b.second ∧ a.nano ≤ b.nano := by
  unfold le cmp
  rcases Int.lt_trichotomy a.second b.second with h | h | h
  · have hc : compare a.second b.second = .lt := by simp [Int.compare_eq_lt, h]
    simp [hc, h]
  · have hc : compare a.second b.second = .eq := by simp [h]
    rw [hc]
    simp only [Ordering.then, h, Int.lt_irrefl, true_and, false_or]
    rcases Nat.lt_trichotomy a.nano b.nano with k | k | k
    · have hk : compare a.nano b.nano = .lt := by simp [Nat.compare_eq_lt, k]
      simp [hk]; omega
    · have hk : compare a.nano b.nano = .eq := by simp [k]
      simp [hk]; omega
    · have hk : compare a.nano b.nano = .gt := by simp [Nat.compare_eq_gt, k]
      simp [hk]; omega
  · have hc : compare a.second b.second = .gt := by simp [Int.compare_eq_gt, h]
    simp [hc]
    omega

theorem le_trans {a b c : Instant} (h : a.le b = true) (k : b.le c = true) : a.le c = true := by
  rw [le_iff] at *
  omega

theorem le_total (a b : Instant) : a.le b = true ∨ b.le a = true := by
  rw [le_iff, le_iff]
  omega

/-! ### Spans between instants -/

/-- **The span from an instant to a later one.** A leap second that lies between two times of day
counts once. -/
def since (later earlier : Instant) : Span :=
  let leap : Int :=
    if earlier.secondOfDay < later.secondOfDay && earlier.isLeap then 1
    else if later.secondOfDay < earlier.secondOfDay && later.isLeap then -1
    else 0
  ⟨(later.second - earlier.second + leap) * nanosPerSecond + ((later.nano : Int) - earlier.nano)⟩

@[simp] theorem since_self (t : Instant) : t.since t = ⟨0⟩ := by
  simp [since]

/-- The first second of the calendar. -/
def firstSecond : Int := Date.countDays firstYear 1 1 * secondsPerDay

/-- The last second of the calendar. -/
def lastSecond : Int := (Date.countDays (lastYear + 1) 1 1) * secondsPerDay - 1

/-- The instant, if its second belongs to the calendar. -/
def within? (t : Instant) : Option Instant :=
  if firstSecond ≤ t.second && t.second ≤ lastSecond then some t else none

/-- An instant with any nanoseconds, those beyond the second carried over. -/
def carry (second : Int) (nanos : Int) : Instant :=
  ⟨second + nanos / nanosPerSecond, (nanos % nanosPerSecond).toNat⟩

/-- **The instant a span later**, unless it leaves the calendar. A span that does not leave a leap
second stays in it. -/
def shift? (t : Instant) (d : Span) : Option Instant :=
  let seconds := d.wholeSeconds
  let nanos := d.subsecondNanos
  if t.isLeap then
    if 0 < seconds || (0 < nanos && 2 * (nanosPerSecond : Int) - nanos ≤ t.nano) then
      (carry (t.second + seconds) (t.nano - nanosPerSecond + nanos)).within?
    else if seconds < 0 then
      (carry (t.second + 1 + seconds) (t.nano - nanosPerSecond + nanos)).within?
    else some ⟨t.second, (t.nano + nanos).toNat⟩
  else (carry (t.second + seconds) (t.nano + nanos)).within?

/-! ### Written form -/

/-- The fraction of a second: nothing, or three, six or nine digits, as few as are exact. -/
def fractionText (nano : Nat) : String :=
  if nano == 0 then ""
  else if nano % 1000000 == 0 then "." ++ Date.padded 3 (nano / 1000000)
  else if nano % 1000 == 0 then "." ++ Date.padded 6 (nano / 1000)
  else "." ++ Date.padded 9 nano

/-- **The written form**, in universal time. A leap second is the second 60 of its minute. -/
def toText (t : Instant) : String :=
  let (year, month, day) := Date.partsOfDayNumber (t.second / secondsPerDay)
  let s := t.secondOfDay.toNat
  let sec := if t.isLeap then s % 60 + 1 else s % 60
  Date.partsText year month day ++ "T" ++ Date.padded 2 (s / 3600) ++ ":" ++
    Date.padded 2 (s / 60 % 60) ++ ":" ++ Date.padded 2 sec ++
    fractionText (t.nano % nanosPerSecond) ++ "Z"

/-- The fraction of a second: a point and digits, of which nine count. -/
def readFraction? : List Char → Option (Nat × List Char)
  | '.' :: cs => do
    let (n, _) ← readDigits? 9 cs
    let digits := cs.takeWhile Char.isDigit
    return (n * Number.tenTo (9 - digits.length), cs.drop digits.length)
  | cs => some (0, cs)

/-- Two digits as a number. -/
def readTwoDigits? : List Char → Option (Nat × List Char)
  | a :: b :: rest =>
    if a.isDigit && b.isDigit then some (10 * Number.digitValue a + Number.digitValue b, rest)
    else none
  | _ => none

/-- The sign of an offset, and whether it is negative. A minus may be a hyphen or a minus sign. -/
def readOffsetSign? : List Char → Option (Bool × List Char)
  | '+' :: rest => some (false, rest)
  | '-' :: rest => some (true, rest)
  | '−' :: rest => some (true, rest)
  | _ => none

/-- An offset from universal time, in seconds: the letter `Z`, the word `UTC`, or a sign, two
digits of hours and two of minutes with colons or blanks between them. -/
def readOffset? (cs : List Char) : Option (Int × List Char) :=
  if Text.sameAscii (.ofList (cs.take 3)) "UTC" then some (0, cs.drop 3)
  else match cs with
    | 'Z' :: rest | 'z' :: rest => some (0, rest)
    | _ => do
      let (negative, cs) ← readOffsetSign? cs
      let (hours, cs) ← readTwoDigits? cs
      let (minutes, cs) ← readTwoDigits? (cs.dropWhile fun c => c == ':' || Text.isBlank c)
      if minutes < 60 && hours < 24 then
        let seconds : Int := (hours * 3600 + minutes * 60 : Nat)
        return (if negative then -seconds else seconds, cs)
      else none

/-- The time of day, as seconds since midnight and nanoseconds. A second 60 is a leap second. -/
def readTime? (cs : List Char) : Option ((Nat × Nat) × List Char) := do
  let (hour, cs) ← readNumber? 2 cs
  let cs ← readChar? ':' (Text.trimStart cs)
  let (minute, cs) ← readNumber? 2 cs
  let cs ← readChar? ':' (Text.trimStart cs)
  let (second, cs) ← readNumber? 2 cs
  let (nano, cs) ← readFraction? cs
  if hour < 24 && minute < 60 && second ≤ 60 then
    if second == 60 then
      return ((hour * 3600 + minute * 60 + 59, nanosPerSecond + nano), cs)
    else return ((hour * 3600 + minute * 60 + second, nano), cs)
  else none

/-- **An instant from its written form**: a date, a `T` or a space, a time of day and an offset,
with blanks between the parts and after the last. -/
def ofText? (s : String) : Option Instant := do
  let (date, cs) ← readDate? true s.toList
  let cs ← match cs with
    | 'T' :: rest | 't' :: rest | ' ' :: rest => some rest
    | _ => none
  let ((second, nano), cs) ← readTime? cs
  let (offset, cs) ← readOffset? (Text.trimStart cs)
  if cs.all Text.isBlank then
    within? ⟨date.dayNumber * secondsPerDay + second - offset, nano⟩
  else none

end Instant

end FederatedSearch.Calendar
