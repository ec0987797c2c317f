import FederatedSearch.Proofs.Calendar.Days
import FederatedSearch.Proofs.Calendar.Shifting

/-!
# Instants that are written and read

An instant of the years 0 to 9999 is written as a date of ten characters and a time of day, with as
many digits of the fraction as are exact. What is written is read again, to the nanosecond. A leap
second is written as the second 60 of its minute and read as the one after the second 59, so it has
to be the last of a minute; the calendar by itself lets it be any.

* `FederatedSearch.Calendar.Instant.IsLegible`: the instants that are read as they are written.
* `FederatedSearch.Calendar.Instant.readFraction?_fractionText`,
  `FederatedSearch.Calendar.Instant.readTime?_timeText`: a fraction of a second and a time of day.
* `FederatedSearch.Calendar.Instant.ofText?_toText`: **an instant is read again**.
-/

namespace FederatedSearch.Calendar

open Number Text

/-! ### Times of day -/

namespace Instant

/-- **The instant is read from what is written of it**: a leap second is the last of its minute. -/
structure IsLegible (t : Instant) : Prop where
  inEra : t.InEra
  leap : t.isLeap = true → t.second % 60 = 59

/-- Digits after a point are read again. -/
theorem readFraction?_padded {width n : Nat} (hwidth : 0 < width) (hnine : width ≤ 9)
    (h : n < Number.tenTo width) (rest : List Char) :
    readFraction? (("." ++ Date.padded width n).toList ++ 'Z' :: rest) =
      some (n * Number.tenTo (9 - width), 'Z' :: rest) := by
  have hlength := length_padded hwidth h
  obtain ⟨digits, hlist⟩ : ∃ ds, ds = (Date.padded width n).toList := ⟨_, rfl⟩
  have hdigits : ∀ c ∈ digits, c.isDigit = true := fun c hc => isDigit_of_mem_padded (hlist ▸ hc)
  have hvalue : digitsValue digits = n := hlist ▸ digitsValue_padded width n
  rw [← hlist] at hlength
  -- the letter after the digits is no digit, so the reading ends before it
  have hrun (cs : List Char) : (digits ++ 'Z' :: cs).takeWhile Char.isDigit = digits := by
    rw [List.takeWhile_append_of_pos hdigits, List.takeWhile_cons_of_neg (by decide),
      List.append_nil]
  have hnine : ((digits ++ 'Z' :: rest).take 9).takeWhile Char.isDigit = digits := by
    rw [List.take_append, List.take_of_length_le (by omega), List.takeWhile_append_of_pos hdigits]
    rcases 9 - digits.length with - | k
    · simp
    · rw [List.take_succ_cons, List.takeWhile_cons_of_neg (by decide), List.append_nil]
  have hne : digits.isEmpty = false := by
    rw [← Bool.not_eq_true, List.isEmpty_iff]
    rintro rfl
    rw [List.length_nil] at hlength
    omega
  have htext : ("." ++ Date.padded width n).toList ++ 'Z' :: rest =
      '.' :: (digits ++ 'Z' :: rest) := by
    rw [String.toList_append, hlist]
    rfl
  simp only [htext, readFraction?, readDigits?, hnine, hrun, hne, hvalue, hlength,
    Option.bind_eq_bind, Option.bind_some, Option.pure_def, Bool.false_eq_true, if_false]
  rw [← hlength, List.drop_left]

/-- **The fraction of a second is read again.** -/
theorem readFraction?_fractionText {n : Nat} (h : n < nanosPerSecond) (rest : List Char) :
    readFraction? ((fractionText n).toList ++ 'Z' :: rest) = some (n, 'Z' :: rest) := by
  have hten : nanosPerSecond = 1000000000 := rfl
  have hthree : Number.tenTo 3 = 1000 := rfl
  have hsix : Number.tenTo 6 = 1000000 := rfl
  have hnine : Number.tenTo 9 = 1000000000 := rfl
  simp only [fractionText, beq_iff_eq]
  split
  · rename_i hzero
    rw [hzero]
    rfl
  · split
    · rw [readFraction?_padded (by decide) (by decide) (by omega), hsix]
      simp only [Option.some.injEq, Prod.mk.injEq, and_true]
      omega
    · split
      · rw [readFraction?_padded (by decide) (by decide) (by omega), hthree]
        simp only [Option.some.injEq, Prod.mk.injEq, and_true]
        omega
      · rw [readFraction?_padded (by decide) (by decide) (by omega)]
        simp [Number.tenTo]

/-- The characters of a time of day in universal time. -/
def timeText (hour minute second nano : Nat) : List Char :=
  (Date.padded 2 hour).toList ++ ':' :: ((Date.padded 2 minute).toList ++
    ':' :: ((Date.padded 2 second).toList ++ ((fractionText nano).toList ++ ['Z'])))

/-- **What a time of day stands for**: the seconds since midnight, and the nanoseconds. The second
60 is the leap second after the second 59. -/
def timeParts (hour minute second nano : Nat) : Nat × Nat :=
  if second = 60 then (hour * 3600 + minute * 60 + 59, nanosPerSecond + nano)
  else (hour * 3600 + minute * 60 + second, nano)

/-- **A time of day is read again.** -/
theorem readTime?_timeText {hour minute second nano : Nat} (hhour : hour < 24)
    (hminute : minute < 60) (hsecond : second ≤ 60) (hnano : nano < nanosPerSecond) :
    readTime? (timeText hour minute second nano) =
      some (timeParts hour minute second nano, ['Z']) := by
  have htwo : Number.tenTo 2 = 100 := rfl
  have htrim (cs : List Char) : Text.trimStart (':' :: cs) = ':' :: cs := rfl
  have hcolon (cs : List Char) : readChar? ':' (':' :: cs) = some cs := rfl
  rw [readTime?, timeText, readNumber?_padded (by decide) (by omega), Option.bind_eq_bind,
    Option.bind_some]
  simp only [htrim, hcolon, Option.bind_eq_bind, Option.bind_some]
  rw [readNumber?_padded (by decide) (by omega), Option.bind_some]
  simp only [htrim, hcolon, Option.bind_some]
  rw [readNumber?_padded (by decide) (by omega), Option.bind_some]
  simp only [readFraction?_fractionText hnano, Option.bind_some, hhour, hminute, hsecond,
    decide_true, Bool.and_self, if_true, beq_iff_eq, Option.pure_def, timeParts]
  split <;> rfl

/-! ### Instants -/

/-- The second of its minute that is written of an instant at a second of the day. -/
def writtenSecond (t : Instant) (s : Nat) : Nat := if t.isLeap then s % 60 + 1 else s % 60

/-- The written form of an instant is that of its day and that of its time of day. -/
theorem exists_toList_toText {t : Instant} (h : t.InEra) {s : Nat} (hs : t.secondOfDay = s) :
    ∃ d : Date, d.IsFourDigit ∧ d.dayNumber = t.second / secondsPerDay ∧
      t.toText.toList = d.toText.toList ++ 'T' :: timeText (s / 3600) (s / 60 % 60)
        (t.writtenSecond s) (t.nano % nanosPerSecond) := by
  have hstart := h.start
  have hends := h.ends
  rw [eraStart] at hstart
  rw [eraEnd] at hends
  obtain ⟨d, hd, hnumber, hparts⟩ := Date.exists_dayNumber_eq (n := t.second / secondsPerDay)
    (Int.le_ediv_of_mul_le (by decide) hstart) (Int.ediv_lt_of_lt_mul (by decide) hends)
  refine ⟨d, hd, hnumber, ?_⟩
  simp [toText, hparts, hs, Date.toText, timeText, writtenSecond]

/-- The time of day that is written stands for the one of the instant. -/
theorem IsLegible.timeParts_eq {t : Instant} (h : t.IsLegible) {s : Nat}
    (hs : t.second % 60 = (s % 60 : Nat)) :
    timeParts (s / 3600) (s / 60 % 60) (t.writtenSecond s) (t.nano % nanosPerSecond) =
      (s, t.nano) := by
  have hnano := h.inEra.nano
  rw [timeParts, writtenSecond]
  by_cases hleap : t.isLeap = true
  · have hfull : nanosPerSecond ≤ t.nano := of_decide_eq_true hleap
    have hminute := h.leap hleap
    have hmod : t.nano % nanosPerSecond = t.nano - nanosPerSecond := by
      rw [Nat.mod_eq_sub_mod hfull, Nat.mod_eq_of_lt (by omega)]
    rw [if_pos hleap, if_pos (by omega), hmod, Prod.mk.injEq]
    omega
  · have hfull : t.nano < nanosPerSecond := Nat.lt_of_not_le fun h => hleap (decide_eq_true h)
    rw [if_neg hleap, if_neg (by omega), Nat.mod_eq_of_lt hfull, Prod.mk.injEq]
    omega

/-- **An instant is read again**, to its nanoseconds. -/
theorem ofText?_toText {t : Instant} (h : t.IsLegible) : Instant.ofText? t.toText = some t := by
  have hday : secondsPerDay = 86400 := rfl
  obtain ⟨s, hs⟩ : ∃ s : Nat, t.secondOfDay = s :=
    ⟨_, (Int.toNat_of_nonneg (Int.emod_nonneg _ (by decide))).symm⟩
  have hsecond : s < 86400 ∧ t.second / secondsPerDay * secondsPerDay + s = t.second ∧
      t.second % 60 = (s % 60 : Nat) := by
    rw [secondOfDay, hday] at hs
    rw [hday]
    omega
  have hlate : t.writtenSecond s ≤ 60 := by
    rw [writtenSecond]
    split <;> omega
  have hhour : s / 3600 < 24 := by omega
  have hminute : s / 60 % 60 < 60 := Nat.mod_lt _ (by decide)
  have hfraction : t.nano % nanosPerSecond < nanosPerSecond := Nat.mod_lt _ (by decide)
  obtain ⟨d, hd, hnumber, htext⟩ := exists_toList_toText h.inEra hs
  have hdate := readDate?_toText hd true
  have htime := readTime?_timeText hhour hminute hlate hfraction
  have htrim : Text.trimStart ['Z'] = ['Z'] := rfl
  have hoffset : readOffset? ['Z'] = some (0, []) := rfl
  rw [h.timeParts_eq hsecond.2.2] at htime
  simp only [ofText?, htext, hdate, Option.bind_eq_bind, Option.bind_some, htime, htrim, hoffset,
    List.all_nil, if_true, Int.sub_zero, hnumber, hsecond.2.1]
  exact within?_eq h.inEra.inCalendar.first h.inEra.inCalendar.last

end Instant

end FederatedSearch.Calendar
