import FederatedSearch.Calendar.Reading
import FederatedSearch.Proofs.Text.Blank
import Mathlib.Data.List.TakeWhile

/-!
# Dates that are written and read

A date of the years 0 to 9999 is written in ten characters, each number with as many digits as are
read of it. So what is written is read again, by the reading that lets no blanks pass as by the one
that does. Outside of these years a sign stands in front, and ten bytes are too few.

* `FederatedSearch.Calendar.readDigits?_padded`: a number is read again.
* `FederatedSearch.Calendar.readDate?_toText`: **a date is read again**, whatever follows.
* `FederatedSearch.Calendar.Date.ofField?_toText`: a date as the value of a field.
-/

namespace FederatedSearch.Calendar

open Number Text Date

/-! ### Numbers -/

section Padded

variable {width n : Nat}

theorem toList_padded (width n : Nat) : (padded width n).toList =
    List.replicate (width - (Nat.toDigits 10 n).length) '0' ++ Nat.toDigits 10 n :=
  String.toList_ofList

theorem isDigit_of_mem_padded {c : Char} (h : c ∈ (padded width n).toList) :
    c.isDigit = true := by
  rw [toList_padded, List.mem_append, List.mem_replicate] at h
  rcases h with ⟨-, rfl⟩ | h
  · decide
  · exact Nat.isDigit_of_mem_toDigits (by decide) (by decide) h

/-- A padded number spells the number. -/
theorem digitsValue_padded (width n : Nat) : Number.digitsValue (padded width n).toList = n := by
  have hspell : Number.digitsValue (padded width n).toList =
      Nat.ofDigitChars 10 (padded width n).toList 0 := rfl
  rw [hspell, toList_padded, Nat.ofDigitChars_append, Nat.ofDigitChars_replicate_zero, Nat.mul_zero,
    Nat.ofDigitChars_ten_toDigits]

/-- A number that is not too large has the width that it is padded to. -/
theorem length_padded (hwidth : 0 < width) (h : n < tenTo width) :
    (padded width n).toList.length = width := by
  have hle := (Nat.length_toDigits_le_iff (by decide) hwidth).2 h
  rw [toList_padded, List.length_append, List.length_replicate]
  omega

/-- No digit is a blank. -/
theorem isBlank_of_isDigit {c : Char} (h : c.isDigit = true) : isBlank c = false := by
  rw [← Bool.not_eq_true]
  intro hblank
  exact absurd h (forall_isBlank (P := fun c => ¬c.isDigit = true) (by decide) c hblank)

/-- A padded number starts with a digit. -/
theorem exists_cons_padded (hwidth : 0 < width) (h : n < tenTo width) :
    ∃ c cs, (padded width n).toList = c :: cs ∧ c.isDigit = true := by
  have hlength := length_padded hwidth h
  rcases hlist : (padded width n).toList with - | ⟨c, cs⟩
  · rw [hlist, List.length_nil] at hlength
    omega
  · exact ⟨c, cs, rfl, isDigit_of_mem_padded (hlist ▸ List.mem_cons_self)⟩

/-- There are no blanks before a padded number. -/
theorem trimStart_padded (hwidth : 0 < width) (h : n < tenTo width) (rest : List Char) :
    trimStart ((padded width n).toList ++ rest) = (padded width n).toList ++ rest := by
  obtain ⟨c, cs, hcs, hc⟩ := exists_cons_padded hwidth h
  rw [hcs, List.cons_append, trimStart, List.dropWhile_cons_of_neg]
  rw [isBlank_of_isDigit hc]
  exact Bool.false_ne_true

/-- **A number is read again**, whatever follows. -/
theorem readDigits?_padded (hwidth : 0 < width) (h : n < tenTo width) (rest : List Char) :
    readDigits? width ((padded width n).toList ++ rest) = some (n, rest) := by
  have hlength := length_padded hwidth h
  have hdigits : (((padded width n).toList ++ rest).take width).takeWhile Char.isDigit =
      (padded width n).toList := by
    rw [List.take_left' hlength, List.takeWhile_eq_self_iff]
    exact fun c => isDigit_of_mem_padded
  have hne : (padded width n).toList.isEmpty = false := by
    obtain ⟨c, cs, hcs, -⟩ := exists_cons_padded hwidth h
    rw [hcs, List.isEmpty_cons]
  simp only [readDigits?, hdigits, hne, digitsValue_padded, Bool.false_eq_true, if_false,
    List.drop_left]

theorem readNumber?_padded (hwidth : 0 < width) (h : n < tenTo width) (rest : List Char) :
    readNumber? width ((padded width n).toList ++ rest) = some (n, rest) := by
  rw [readNumber?, trimStart_padded hwidth h, readDigits?_padded hwidth h]

end Padded

/-- A year of four digits is read again. -/
theorem readYear?_padded {n : Nat} (h : n < tenTo 4) (rest : List Char) :
    readYear? ((padded 4 n).toList ++ rest) = some ((n : Int), rest) := by
  unfold readYear?
  rw [trimStart_padded (by decide) h]
  obtain ⟨c, cs, hcs, hc⟩ := exists_cons_padded (by decide) h
  -- a sign is no digit, so only the last of the three ways to read a year is open
  split
  · next hsign =>
    rw [hcs] at hsign
    obtain rfl : c = '-' := (List.cons.inj hsign).1
    cases hc
  · next hsign =>
    rw [hcs] at hsign
    obtain rfl : c = '+' := (List.cons.inj hsign).1
    cases hc
  · rw [readDigits?_padded (by decide) h, Option.map_some]

/-! ### Dates -/

/-- **A year of four digits**, without a sign. -/
def Date.IsFourDigit (d : Date) : Prop := 0 ≤ d.year ∧ d.year ≤ 9999

variable {d : Date}

theorem Date.IsFourDigit.toNat_lt (h : d.IsFourDigit) : d.year.toNat < tenTo 4 := by
  have hten : tenTo 4 = 10000 := rfl
  have hle := h.2
  omega

theorem toList_toText (h : d.IsFourDigit) : d.toText.toList =
    (padded 4 d.year.toNat).toList ++ '-' :: ((padded 2 d.month).toList ++
      '-' :: (padded 2 d.day).toList) := by
  have hyear : yearText d.year = padded 4 d.year.toNat := by
    rw [yearText, if_pos]
    simpa [IsFourDigit] using h
  simp [toText, partsText, hyear]

/-- Months and days of a month have two digits. -/
theorem Date.month_lt (d : Date) : d.month < tenTo 2 := by
  have hten : tenTo 2 = 100 := rfl
  have hvalid := d.valid
  simp only [isDay, Bool.and_eq_true, decide_eq_true_eq] at hvalid
  omega

theorem Date.day_lt (d : Date) : d.day < tenTo 2 := by
  have hten : tenTo 2 = 100 := rfl
  have hvalid := d.valid
  have hmonth : daysInMonth d.year d.month ≤ 31 := by
    unfold daysInMonth
    split
    · split <;> decide
    · split <;> decide
  simp only [isDay, Bool.and_eq_true, decide_eq_true_eq] at hvalid
  omega

/-- **A date is read again**, whatever follows, by both readings. -/
theorem readDate?_toText (h : d.IsFourDigit) (loose : Bool) (rest : List Char) :
    readDate? loose (d.toText.toList ++ rest) = some (d, rest) := by
  have hyear := h.toNat_lt
  have hcast : (d.year.toNat : Int) = d.year := Int.toNat_of_nonneg h.1
  -- no blanks stand before a hyphen, so it makes no difference whether they would pass
  have hskip (cs : List Char) : (if loose then trimStart else id) ('-' :: cs) = '-' :: cs := by
    cases loose <;> rfl
  have hhyphen (cs : List Char) : readChar? '-' ('-' :: cs) = some cs := rfl
  rw [toList_toText h]
  simp only [List.append_assoc, List.cons_append, readDate?, readYear?_padded hyear, hskip, hhyphen,
    readNumber?_padded (by decide) d.month_lt, readNumber?_padded (by decide) d.day_lt, hcast,
    of?_self, Option.bind_eq_bind, Option.bind_some, Option.pure_def]

/-! ### Ten bytes -/

/-- A text of ASCII characters has as many bytes as characters. -/
theorem takeBytes?_of_ascii {cs : List Char} (h : ∀ c ∈ cs, c.utf8Size = 1) :
    takeBytes? cs.length cs = some cs := by
  induction cs with
  | nil => rw [List.length_nil, takeBytes?]
  | cons c cs ih =>
    obtain ⟨hc, hcs⟩ := List.forall_mem_cons.1 h
    rw [List.length_cons, takeBytes?, if_pos (by omega), hc, Nat.add_sub_cancel, ih hcs,
      Option.map_some]

/-- The characters of a date are ASCII. -/
theorem utf8Size_of_mem_toText (h : d.IsFourDigit) {c : Char} (hc : c ∈ d.toText.toList) :
    c.utf8Size = 1 := by
  have hdigit : c.isDigit = true → c.utf8Size = 1 := by
    intro hc
    simp only [Char.isDigit, Bool.and_eq_true, decide_eq_true_eq] at hc
    rw [Char.utf8Size_eq_one_iff]
    exact UInt32.le_trans hc.2 (by decide)
  simp only [toList_toText h, List.mem_append, List.mem_cons] at hc
  rcases hc with hc | rfl | hc | rfl | hc
  · exact hdigit (isDigit_of_mem_padded hc)
  · decide
  · exact hdigit (isDigit_of_mem_padded hc)
  · decide
  · exact hdigit (isDigit_of_mem_padded hc)

theorem length_toText (h : d.IsFourDigit) : d.toText.toList.length = 10 := by
  simp [toList_toText h, length_padded (by decide) h.toNat_lt, length_padded (by decide) d.month_lt,
    length_padded (by decide) d.day_lt]

/-- **A date as the value of a field** is that date. -/
theorem Date.ofField?_toText (h : d.IsFourDigit) : Date.ofField? d.toText = some d := by
  have hbytes : takeBytes? 10 d.toText.toList = some d.toText.toList := by
    rw [← length_toText h]
    exact takeBytes?_of_ascii fun c => utf8Size_of_mem_toText h
  have hread := readDate?_toText h false []
  rw [List.append_nil] at hread
  simp only [ofField?, hbytes, hread, Option.bind_eq_bind, Option.bind_some, List.isEmpty_nil,
    if_true]

end FederatedSearch.Calendar
