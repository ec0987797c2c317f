import FederatedSearch.Calendar.Instant

/-!
# Going back in time

An instant some seconds ago is in the calendar when the calendar has begun by then. The calendar is
much shorter than the longest span of time, so the span between any two of its instants is one that
can be asked for, and a span that can be asked for may well lead out of the calendar.

* `FederatedSearch.Calendar.Instant.InCalendar`, `FederatedSearch.Calendar.Instant.InEra`: the
  instants of the calendar, and those of the years 0 to 9999.
* `FederatedSearch.Calendar.Span.InRange`: the spans that can be asked for.
* `FederatedSearch.Calendar.Instant.since_inRange`: the span between two instants.
* `FederatedSearch.Calendar.Instant.exists_shift?_neg`,
  `FederatedSearch.Calendar.Instant.shift?_neg_eq_none`: the instant some seconds ago.
-/

namespace FederatedSearch.Calendar

/-! ### Instants and spans -/

/-- **The span can be asked for.** -/
def Span.InRange (d : Span) : Prop := d.nanos.natAbs ≤ maxMillis * 1000000

namespace Instant

/-- **An instant of the calendar.** -/
structure InCalendar (t : Instant) : Prop where
  first : firstSecond ≤ t.second
  last : t.second ≤ lastSecond
  nano : t.nano < 2 * nanosPerSecond

/-- The first second of the year 0. -/
def eraStart : Int := Date.countDays 0 1 1 * secondsPerDay

/-- The first second after the year 9999. -/
def eraEnd : Int := Date.countDays 10000 1 1 * secondsPerDay

/-- **An instant of the years 0 to 9999.** -/
structure InEra (t : Instant) : Prop where
  start : eraStart ≤ t.second
  ends : t.second < eraEnd
  nano : t.nano < 2 * nanosPerSecond

theorem firstSecond_eq : firstSecond = -8334601228800 := rfl

theorem lastSecond_eq : lastSecond = 8210266876799 := rfl

theorem eraStart_eq : eraStart = -62167219200 := rfl

theorem eraEnd_eq : eraEnd = 253402300800 := rfl

variable {t later earlier : Instant}

/-- These years belong to the calendar. -/
theorem InEra.inCalendar (h : t.InEra) : t.InCalendar := by
  have hstart := h.start
  have hends := h.ends
  rw [eraStart_eq] at hstart
  rw [eraEnd_eq] at hends
  refine ⟨?_, ?_, h.nano⟩
  · rw [firstSecond_eq]
    omega
  · rw [lastSecond_eq]
    omega

/-- The year 0 has begun at its first second. -/
theorem inEra_eraStart : (⟨eraStart, 0⟩ : Instant).InEra :=
  ⟨Int.le_refl _, by rw [eraStart_eq, eraEnd_eq]; decide, by decide⟩

theorem within?_eq (hfirst : firstSecond ≤ t.second) (hlast : t.second ≤ lastSecond) :
    t.within? = some t := by
  rw [within?, decide_eq_true hfirst, decide_eq_true hlast]
  rfl

theorem within?_eq_none (h : t.second < firstSecond) : t.within? = none := by
  rw [within?, decide_eq_false (Int.not_le.2 h)]
  rfl

/-! ### The span between two instants -/

/-- **The span between two instants of the calendar** can be asked for. -/
theorem since_inRange (hlater : later.InCalendar) (hearlier : earlier.InCalendar) :
    (later.since earlier).InRange := by
  have hfirst := hlater.first
  have hlast := hlater.last
  have hnano := hlater.nano
  have hfirst' := hearlier.first
  have hlast' := hearlier.last
  have hnano' := hearlier.nano
  have hmax : maxMillis = 9223372036854775807 := rfl
  rw [firstSecond_eq] at hfirst hfirst'
  rw [lastSecond_eq] at hlast hlast'
  simp only [Span.InRange, since, nanosPerSecond, hmax] at hnano hnano' ⊢
  split
  · omega
  · split <;> omega

/-! ### Going back some seconds -/

theorem wholeSeconds_neg (n : Nat) : (Span.neg ⟨n * nanosPerSecond⟩).wholeSeconds = -n := by
  simp only [Span.wholeSeconds, Span.neg, Int.neg_tdiv]
  rw [Int.mul_tdiv_cancel _ (by decide)]

theorem subsecondNanos_neg (n : Nat) : (Span.neg ⟨n * nanosPerSecond⟩).subsecondNanos = 0 := by
  simp only [Span.subsecondNanos, Span.neg, Int.neg_tmod, Int.mul_tmod_left]
  rfl

/-- Nanoseconds within a second are not carried over. -/
theorem carry_second {second nanos : Int} (h : 0 ≤ nanos) (h' : nanos < nanosPerSecond) :
    (carry second nanos).second = second := by
  rw [carry, Int.ediv_eq_zero_of_lt h h', Int.add_zero]

/-- **Some seconds ago**, when the calendar had begun by then. -/
theorem exists_shift?_neg (ht : t.InCalendar) {n : Nat} (hn : firstSecond + n ≤ t.second) :
    ∃ t', t.shift? (Span.neg ⟨n * nanosPerSecond⟩) = some t' := by
  have hlast := ht.last
  have hnano := ht.nano
  rw [shift?, wholeSeconds_neg, subsecondNanos_neg]
  by_cases hleap : t.isLeap = true
  · have hnano' : nanosPerSecond ≤ t.nano := of_decide_eq_true hleap
    rw [if_pos hleap, if_neg (by simp)]
    split
    · rename_i hback
      have hsecond : (carry (t.second + 1 + -n) (t.nano - nanosPerSecond + 0)).second =
          t.second + 1 + -n := carry_second (by omega) (by omega)
      exact ⟨_, within?_eq (by rw [hsecond]; omega) (by rw [hsecond]; omega)⟩
    · exact ⟨_, rfl⟩
  · have hnano' : ¬nanosPerSecond ≤ t.nano := fun h => hleap (decide_eq_true h)
    rw [if_neg hleap]
    have hsecond : (carry (t.second + -n) (t.nano + 0)).second = t.second + -n :=
      carry_second (by omega) (by omega)
    exact ⟨_, within?_eq (by rw [hsecond]; omega) (by rw [hsecond]; omega)⟩

/-- **Some seconds ago**, when the calendar had not begun by then. -/
theorem shift?_neg_eq_none (hleap : t.isLeap = false) {n : Nat}
    (hn : t.second < firstSecond + n) : t.shift? (Span.neg ⟨n * nanosPerSecond⟩) = none := by
  have hnano : ¬nanosPerSecond ≤ t.nano := of_decide_eq_false hleap
  have hsecond : (carry (t.second + -n) (t.nano + 0)).second = t.second + -n :=
    carry_second (by omega) (by omega)
  rw [shift?, wholeSeconds_neg, subsecondNanos_neg, if_neg (by simp [hleap])]
  exact within?_eq_none (by rw [hsecond]; omega)

end Instant

end FederatedSearch.Calendar
