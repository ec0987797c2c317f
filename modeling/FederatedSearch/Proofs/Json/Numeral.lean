import FederatedSearch.Json.Numeral
import Mathlib.Data.List.TakeWhile
import Mathlib.Tactic.SplitIfs

/-!
# Numbers that are written and read

A number goes on as long as there are digits, and then with a point or with the mark of an
exponent. Before anything else it ends, so that what is read of a number alone is read of it in
front of a text. The digits of an integer of 64 bits spell it, and are read as this integer. There
is no such law for other numbers: one rounding per step may lead from the nearest one to one of its
neighbours.

* `FederatedSearch.Json.EndsNumber`: the texts that no number goes on with.
* `FederatedSearch.Json.readNumber?_append`: a number is read again in front of such a text.
* `FederatedSearch.Json.readNumber?_toString`: **an integer of 64 bits is read again**.
-/

namespace FederatedSearch.Json

open Number

/-! ### Digits and what follows them -/

section Runs

variable {p : Char → Bool} {rest : List Char}

/-- A run that ends before the rest of a text is one of the text before it. -/
theorem takeWhile_append_of_head? (h : ∀ c ∈ rest.head?, p c = false) (cs : List Char) :
    (cs ++ rest).takeWhile p = cs.takeWhile p := by
  induction cs with
  | nil =>
    rcases rest with - | ⟨c, rest⟩
    · rfl
    · rw [List.nil_append, List.takeWhile_cons_of_neg (by simp [h c rfl]), List.takeWhile_nil]
  | cons c cs ih =>
    rw [List.cons_append, List.takeWhile_cons, List.takeWhile_cons, ih]

theorem dropWhile_append_of_head? (h : ∀ c ∈ rest.head?, p c = false) (cs : List Char) :
    (cs ++ rest).dropWhile p = cs.dropWhile p ++ rest := by
  induction cs with
  | nil =>
    rcases rest with - | ⟨c, rest⟩
    · rfl
    · rw [List.nil_append, List.dropWhile_cons_of_neg (by simp [h c rfl]), List.dropWhile_nil,
        List.nil_append]
  | cons c cs ih =>
    rw [List.cons_append, List.dropWhile_cons, List.dropWhile_cons, ih]
    split <;> rfl

end Runs

/-- **A number ends here**: what follows does not go on with it. -/
def EndsNumber (rest : List Char) : Prop :=
  ∀ c ∈ rest.head?, c.isDigit = false ∧ c ≠ '.' ∧ c ≠ 'e' ∧ c ≠ 'E'

variable {cs rest after : List Char}

theorem readWhole?_append (hrest : EndsNumber rest) {digits : List Char}
    (h : readWhole? cs = some (digits, after)) :
    readWhole? (cs ++ rest) = some (digits, after ++ rest) := by
  have hdigit : ∀ c ∈ rest.head?, c.isDigit = false := fun c hc => (hrest c hc).1
  simp only [readWhole?, takeWhile_append_of_head? hdigit, dropWhile_append_of_head? hdigit] at h ⊢
  split at h
  · cases h
  · cases h
  · rename_i hnil hzero
    simp only [Option.some.injEq, Prod.mk.injEq] at h
    rw [h.1, h.2]

theorem readFractionPart?_append (hrest : EndsNumber rest) {fraction : Option (List Char)}
    (h : readFractionPart? cs = some (fraction, after)) :
    readFractionPart? (cs ++ rest) = some (fraction, after ++ rest) := by
  have hdigit : ∀ c ∈ rest.head?, c.isDigit = false := fun c hc => (hrest c hc).1
  rcases cs with - | ⟨c, cs⟩
  · cases h
    rcases rest with - | ⟨c, rest⟩
    · rfl
    · have hpoint : c ≠ '.' := (hrest c rfl).2.1
      simp [readFractionPart?, hpoint]
  · by_cases hpoint : c = '.'
    · subst hpoint
      simp only [readFractionPart?, List.cons_append, takeWhile_append_of_head? hdigit,
        dropWhile_append_of_head? hdigit] at h ⊢
      split at h
      · cases h
      · rename_i hsome
        simp only [Option.some.injEq, Prod.mk.injEq] at h
        rw [if_neg hsome, ← h.1, ← h.2]
    · have hnone (cs : List Char) : readFractionPart? (c :: cs) = some (none, c :: cs) := by
        simp [readFractionPart?, hpoint]
      rw [hnone] at h
      rw [List.cons_append, hnone]
      cases h
      rfl

/-- The digits of an exponent whose sign has been read. -/
def readSignedExponent? (negative : Bool) (cs : List Char) : Option (Option Int × List Char) :=
  let digits := cs.takeWhile Char.isDigit
  if digits.isEmpty then none
  else
    let n : Int := digitsValue digits
    some (some (if negative then -n else n), cs.dropWhile Char.isDigit)

/-- **An exponent after its mark**: a sign, or none, and digits. -/
theorem readExponentPart?_cons {c : Char} (hmark : (c == 'e' || c == 'E') = true) (d : Char)
    (cs : List Char) : readExponentPart? (c :: d :: cs) =
      if d = '-' then readSignedExponent? true cs
      else if d = '+' then readSignedExponent? false cs
      else readSignedExponent? false (d :: cs) := by
  rw [readExponentPart?.eq_def]
  simp only [hmark, if_true]
  by_cases hminus : d = '-'
  · subst hminus
    rfl
  · by_cases hplus : d = '+'
    · subst hplus
      rfl
    · simp [hminus, hplus, readSignedExponent?]

theorem readSignedExponent?_append (hrest : EndsNumber rest) {negative : Bool}
    {exponent : Option Int} (h : readSignedExponent? negative cs = some (exponent, after)) :
    readSignedExponent? negative (cs ++ rest) = some (exponent, after ++ rest) := by
  have hdigit : ∀ c ∈ rest.head?, c.isDigit = false := fun c hc => (hrest c hc).1
  simp only [readSignedExponent?, takeWhile_append_of_head? hdigit,
    dropWhile_append_of_head? hdigit] at h ⊢
  split at h
  · cases h
  · rename_i hsome
    rw [if_neg hsome]
    cases h
    rfl

theorem readExponentPart?_append (hrest : EndsNumber rest) {exponent : Option Int}
    (h : readExponentPart? cs = some (exponent, after)) :
    readExponentPart? (cs ++ rest) = some (exponent, after ++ rest) := by
  rcases cs with - | ⟨c, cs⟩
  · cases h
    rcases rest with - | ⟨c, rest⟩
    · rfl
    · obtain ⟨-, -, he, hE⟩ := hrest c rfl
      simp [readExponentPart?, he, hE]
  · by_cases hmark : (c == 'e' || c == 'E') = true
    · rcases cs with - | ⟨d, cs⟩
      · simp [readExponentPart?, hmark] at h
      · rw [readExponentPart?_cons hmark] at h
        rw [List.cons_append, List.cons_append, readExponentPart?_cons hmark]
        split_ifs at h ⊢
        · exact readSignedExponent?_append hrest h
        · exact readSignedExponent?_append hrest h
        · exact readSignedExponent?_append hrest h
    · have hnone (cs : List Char) : readExponentPart? (c :: cs) = some (none, c :: cs) := by
        rw [readExponentPart?.eq_def]
        simp only [hmark, Bool.false_eq_true, if_false]
      rw [hnone] at h
      rw [List.cons_append, hnone]
      cases h
      rfl

/-- A number without its sign. -/
def readUnsigned? (negative : Bool) (cs : List Char) : Option (Json × List Char) := do
  let (whole, cs) ← readWhole? cs
  let (fraction, cs) ← readFractionPart? cs
  let (exponent, cs) ← readExponentPart? cs
  return (ofParts negative whole fraction exponent, cs)

theorem readNumber?_minus (cs : List Char) : readNumber? ('-' :: cs) = readUnsigned? true cs := rfl

theorem readNumber?_of_ne {c : Char} (h : c ≠ '-') (cs : List Char) :
    readNumber? (c :: cs) = readUnsigned? false (c :: cs) := by
  simp [readNumber?, readUnsigned?, h]

theorem readUnsigned?_append (hrest : EndsNumber rest) {negative : Bool} {j : Json}
    (h : readUnsigned? negative cs = some (j, after)) :
    readUnsigned? negative (cs ++ rest) = some (j, after ++ rest) := by
  simp only [readUnsigned?, Option.bind_eq_bind, Option.bind_eq_some_iff, Prod.exists,
    Option.pure_def, Option.some.injEq, Prod.mk.injEq] at h ⊢
  obtain ⟨whole, afterWhole, hwhole, fraction, afterFraction, hfraction, exponent, _, hexponent,
    rfl, rfl⟩ := h
  exact ⟨whole, _, readWhole?_append hrest hwhole, fraction, _,
    readFractionPart?_append hrest hfraction, exponent, _,
    readExponentPart?_append hrest hexponent, rfl, rfl⟩

/-- **A number is read again** before anything that does not go on with it. -/
theorem readNumber?_append (hrest : EndsNumber rest) {j : Json}
    (h : readNumber? cs = some (j, after)) :
    readNumber? (cs ++ rest) = some (j, after ++ rest) := by
  rcases cs with - | ⟨c, cs⟩
  · cases h
  · by_cases hminus : c = '-'
    · subst hminus
      exact readUnsigned?_append hrest h
    · rw [readNumber?_of_ne hminus] at h
      rw [List.cons_append, readNumber?_of_ne hminus]
      exact readUnsigned?_append hrest h

/-- Only the digits of zero start with a zero. -/
theorem eq_zero_of_toDigits {n : Nat} {ds : List Char} (h : Nat.toDigits 10 n = '0' :: ds) :
    n = 0 := by
  have hdigit : ∀ k < 10, Nat.digitChar k = '0' → k = 0 := by decide
  induction n using Nat.strong_induction_on generalizing ds with
  | _ n ih =>
    rw [Nat.toDigits_eq_if (by decide)] at h
    split at h
    · rename_i hlt
      exact hdigit n hlt (List.cons.inj h).1
    · rcases hdigits : Nat.toDigits 10 (n / 10) with - | ⟨d, ds'⟩
      · exact absurd hdigits Nat.toDigits_ne_nil
      · rw [hdigits, List.cons_append] at h
        obtain rfl := (List.cons.inj h).1
        have hzero := ih (n / 10) (by omega) hdigits
        omega

/-- **The digits of a number** are read as the whole part of one. -/
theorem readUnsigned?_toDigits (negative : Bool) (n : Nat) :
    readUnsigned? negative (Nat.toDigits 10 n) =
      some (ofParts negative (Nat.toDigits 10 n) none none, []) := by
  have hall : ∀ c ∈ Nat.toDigits 10 n, c.isDigit = true :=
    fun c => Nat.isDigit_of_mem_toDigits (by decide) (by decide)
  have htake := List.takeWhile_eq_self_iff.2 hall
  have hdrop := List.dropWhile_eq_nil_iff.2 hall
  have hwhole : readWhole? (Nat.toDigits 10 n) = some (Nat.toDigits 10 n, []) := by
    unfold readWhole?
    simp only [htake, hdrop]
    split
    · rename_i hnil
      exact absurd hnil Nat.toDigits_ne_nil
    · rename_i d ds hzero
      rw [eq_zero_of_toDigits hzero] at hzero
      cases hzero
    · rfl
  simp only [readUnsigned?, hwhole, readFractionPart?, readExponentPart?, Option.bind_eq_bind,
    Option.bind_some, Option.pure_def]

theorem digitsValue_toDigits (n : Nat) : digitsValue (Nat.toDigits 10 n) = n :=
  Nat.ofDigitChars_ten_toDigits

theorem toList_toString (n : Nat) : (toString n).toList = Nat.toDigits 10 n := by
  rw [Nat.toString_eq_ofList_toDigits, String.toList_ofList]

/-- **An integer of 64 bits is read again.** -/
theorem readNumber?_toString {n : Int} (hleast : leastInt ≤ n) (hgreatest : n ≤ maxWord 64) :
    readNumber? (toString n).toList = some (.integer n, []) := by
  rcases n with n | n
  · have htext : (toString (Int.ofNat n)).toList = Nat.toDigits 10 n :=
      toList_toString n
    rcases hdigits : Nat.toDigits 10 n with - | ⟨d, ds⟩
    · exact absurd hdigits Nat.toDigits_ne_nil
    · have hd : d ≠ '-' := by
        rintro rfl
        have hdigit := Nat.isDigit_of_mem_toDigits (b := 10) (n := n) (by decide) (by decide)
          (hdigits ▸ List.mem_cons_self)
        cases hdigit
      have hword : n ≤ maxWord 64 := Int.ofNat_le.1 hgreatest
      rw [htext, hdigits, readNumber?_of_ne hd, ← hdigits, readUnsigned?_toDigits]
      simp [ofParts, digitsValue_toDigits, hword]
  · have htext : (toString (Int.negSucc n)).toList = '-' :: Nat.toDigits 10 (n + 1) := by
      have hrepr : toString (Int.negSucc n) = "-" ++ toString (n + 1) := rfl
      rw [hrepr, String.toList_append, toList_toString]
      rfl
    have hword : n + 1 ≤ twoTo 63 := by
      rw [leastInt] at hleast
      omega
    rw [htext, readNumber?_minus, readUnsigned?_toDigits]
    simp [ofParts, digitsValue_toDigits, hword]
    omega

end FederatedSearch.Json
