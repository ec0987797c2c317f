import FederatedSearch.Proofs.Text.Blank
import FederatedSearch.Text.Alphanumeric
import FederatedSearch.Text.Case
import Mathlib.Data.List.Flatten

/-!
# What lowercase does to single characters

The lowercase form of a text puts one character or more in the place of each. Which ones depends on
the neighbours for a capital sigma only, and how many they are never does. So lowercase does not
make a text shorter. Blanks and the asterisk have no case: lowercase keeps them and makes no new
ones.

* `FederatedSearch.Text.lowerChar_cases`: the form of a character.
* `FederatedSearch.Text.length_lowercase`: the length of a lowercase form.
* `FederatedSearch.Text.length_lowercase_lt`: **a part of a text has a shorter form than the text**.
* `FederatedSearch.Text.IsUntouched`: the characters that lowercase leaves alone.
* `FederatedSearch.Text.mem_lowercase_iff`: **lowercase keeps them and adds none**.
* `FederatedSearch.Text.lowercase_concat`: a character without case behind a text.
-/

/-- A character before the capitals has no other case. -/
theorem Char.toLower_of_lt {c : Char} (h : c.toNat < 65) : c.toLower = c := by
  unfold Char.toLower
  split
  · rename_i hc
    have hle : 65 ≤ c.toNat := UInt32.le_iff_toNat_le.1 hc.1
    omega
  · rfl

namespace FederatedSearch.Text

/-! ### Forms -/

/-- **The lowercase form of a character**: an ASCII character has one of ASCII, one character has a
form of two, and a character of a run is moved along. All others stay. -/
theorem lowerChar_cases (c : Char) :
    c.toNat < 128 ∧ lowerChar c = [c.toLower] ∨
    c.toNat = 0x130 ∧ lowerChar c = ['i', '\u0307'] ∨
    (∃ run ∈ caseRuns, run.first ≤ c.toNat ∧ c.toNat ≤ run.last ∧
      lowerChar c = [Char.ofNat ((c.toNat : Int) + run.shift).toNat]) ∨
    lowerChar c = [c] := by
  unfold lowerChar
  split
  · next hascii => exact .inl ⟨hascii, rfl⟩
  · split
    · next hdot => exact .inr (.inl ⟨beq_iff_eq.1 hdot, rfl⟩)
    · split
      · next run hfind =>
        have hcontains := List.find?_some hfind
        simp only [CaseRun.contains, Bool.and_eq_true, decide_eq_true_eq] at hcontains
        obtain ⟨⟨hfirst, hlast⟩, -⟩ := hcontains
        exact .inr (.inr (.inl ⟨run, List.mem_of_find?_eq_some hfind, hfirst, hlast, rfl⟩))
      · exact .inr (.inr (.inr rfl))

/-! ### Length -/

/-- A capital sigma has a lowercase form of one character where it stands alone, too. -/
theorem length_lowerChar_sigma : (lowerChar 'Σ').length = 1 := by decide +kernel

/-- No character is lost in lowercase. -/
theorem length_lowerChar_pos (c : Char) : 0 < (lowerChar c).length := by
  rcases lowerChar_cases c with ⟨-, h⟩ | ⟨-, h⟩ | ⟨_, -, -, -, h⟩ | h <;>
    simp [h]

theorem length_lowercaseFrom (afterCased : Bool) (cs : List Char) :
    (lowercaseFrom afterCased cs).length = (cs.flatMap lowerChar).length := by
  induction cs generalizing afterCased with
  | nil => rfl
  | cons c cs ih =>
    rw [lowercaseFrom, List.length_append, ih, List.flatMap_cons, List.length_append]
    congr 1
    split
    · next hsigma => rw [beq_iff_eq.1 hsigma, length_lowerChar_sigma, List.length_singleton]
    · rfl

/-- **The length of a lowercase form** is the same as if each character stood alone. -/
theorem length_lowercase (cs : List Char) :
    (lowercase cs).length = (cs.flatMap lowerChar).length :=
  length_lowercaseFrom false cs

/-- **The lowercase form of a part is shorter** when a character of the text is not in the part. -/
theorem length_lowercase_lt {cs ds : List Char} {c : Char} (hsub : cs.Sublist ds) (hin : c ∈ ds)
    (hout : c ∉ cs) : (lowercase cs).length < (lowercase ds).length := by
  have hpart : cs.Sublist (ds.erase c) := by
    rw [← List.erase_of_not_mem hout]
    exact hsub.erase c
  have hle := (hpart.flatMap lowerChar).length_le
  have hperm := ((List.perm_cons_erase hin).flatMap_right lowerChar).length_eq
  have hpos := length_lowerChar_pos c
  rw [List.flatMap_cons, List.length_append] at hperm
  rw [length_lowercase, length_lowercase]
  omega

/-! ### Characters without case -/

/-- **Lowercase does not touch the character**: it is its own lowercase form, and it is in the form
of no other character. -/
structure IsUntouched (c : Char) : Prop where
  /-- It is its own form. -/
  own : lowerChar c = [c]
  /-- It is in no other form. -/
  only : ∀ d, c ∈ lowerChar d → d = c
  /-- It is no sigma. -/
  sigma : c ∉ ['Σ', 'σ', 'ς']

/-- Ranges of characters without case, in which there are all the blanks. -/
def uncasedRanges : List Range :=
  [(1, 0x40), (0x80, 0xA0), (0x1680, 0x1680), (0x2000, 0x205F), (0x3000, 0x3000)]

/-- No run of characters with a lowercase form reaches into these ranges, and no run of forms. -/
theorem caseRuns_apart : ∀ run ∈ caseRuns, ∀ r ∈ uncasedRanges,
    (run.last < r.1 ∨ r.2 < run.first) ∧
      (run.last + run.shift < r.1 ∨ (r.2 : Int) < run.first + run.shift) := by
  decide +kernel

/-- The ASCII characters that lowercase makes of others are the small letters. -/
theorem toLower_eq_or (c : Char) :
    c.toLower = c ∨ 97 ≤ c.toLower.toNat ∧ c.toLower.toNat ≤ 122 := by
  unfold Char.toLower
  split
  · next hupper =>
    have hlow : 65 ≤ c.val.toNat := UInt32.le_iff_toNat_le.1 hupper.1
    have hhigh : c.val.toNat ≤ 90 := UInt32.le_iff_toNat_le.1 hupper.2
    have hshift : ('a'.val - 'A'.val).toNat = 32 := rfl
    simp only [Char.toNat, UInt32.toNat_add, hshift]
    omega
  · exact .inl rfl

/-- A character other than the first of all has one number. -/
theorem toNat_eq_of_ofNat {c : Char} {n : Nat} (hpos : 0 < c.toNat) (h : c = Char.ofNat n) :
    c.toNat = n := by
  by_cases hvalid : n.isValidChar
  · rw [h, Char.ofNat, dif_pos hvalid]
    exact UInt32.toNat_ofNatLT
  · rw [Char.ofNat, dif_neg hvalid] at h
    rw [h] at hpos
    exact absurd hpos (Nat.lt_irrefl 0)

section Uncased

variable {c : Char} (h : c.inRanges uncasedRanges = true)

include h

/-- The ASCII characters in the ranges stand before the capitals. -/
theorem toNat_of_uncased : 0 < c.toNat ∧ (c.toNat ≤ 0x40 ∨ 0x80 ≤ c.toNat) := by
  simp only [Char.inRanges, uncasedRanges, List.any_cons, List.any_nil, Bool.or_false,
    Bool.or_eq_true, Bool.and_eq_true, decide_eq_true_eq] at h
  omega

theorem lowerChar_of_uncased : lowerChar c = [c] := by
  obtain ⟨r, hr, hlow, hhigh⟩ := Char.inRanges_eq_true.1 h
  have hnumber := toNat_of_uncased h
  rcases lowerChar_cases c with ⟨hascii, hform⟩ | ⟨hdot, -⟩ | ⟨run, hrun, hfirst, hlast, -⟩ | hform
  · rw [hform, Char.toLower_of_lt (by omega)]
  · rw [Char.inRanges, hdot] at h
    exact absurd h (by decide)
  · have hapart := (caseRuns_apart run hrun r hr).1
    omega
  · exact hform

theorem eq_of_mem_lowerChar_of_uncased {d : Char} (hmem : c ∈ lowerChar d) : d = c := by
  obtain ⟨r, hr, hlow, hhigh⟩ := Char.inRanges_eq_true.1 h
  have hnumber := toNat_of_uncased h
  rcases lowerChar_cases d with ⟨-, hform⟩ | ⟨-, hform⟩ | ⟨run, hrun, hfirst, hlast, hform⟩ | hform
  · have hcases := toLower_eq_or d
    rw [hform, List.mem_singleton] at hmem
    rw [← hmem] at hcases
    exact (hcases.resolve_right (by omega)).symm
  · -- neither character of the only form with two of them is in the ranges
    simp only [hform, List.mem_cons, List.not_mem_nil, or_false] at hmem
    rcases hmem with rfl | rfl <;> exact absurd h (by decide)
  · rw [hform, List.mem_singleton] at hmem
    have hshifted := toNat_eq_of_ofNat hnumber.1 hmem
    have hapart := (caseRuns_apart run hrun r hr).2
    omega
  · rw [hform, List.mem_singleton] at hmem
    exact hmem.symm

/-- **Lowercase does not touch the characters of these ranges.** -/
theorem isUntouched_of_uncased : IsUntouched c where
  own := lowerChar_of_uncased h
  only _ := eq_of_mem_lowerChar_of_uncased h
  sigma hmem := by
    simp only [List.mem_cons, List.not_mem_nil, or_false] at hmem
    rcases hmem with rfl | rfl | rfl <;> exact absurd h (by decide)

end Uncased

theorem mem_lowercaseFrom_iff {c : Char} (hc : IsUntouched c) (afterCased : Bool) (cs : List Char) :
    c ∈ lowercaseFrom afterCased cs ↔ c ∈ cs := by
  obtain ⟨hsigma, hsmall, hfinal⟩ : c ≠ 'Σ' ∧ c ≠ 'σ' ∧ c ≠ 'ς' := by simpa using hc.sigma
  induction cs generalizing afterCased with
  | nil => exact Iff.rfl
  | cons d ds ih =>
    rw [lowercaseFrom, List.mem_append, ih, List.mem_cons]
    refine or_congr_left ?_
    split
    · next hd =>
      rw [beq_iff_eq.1 hd, List.mem_singleton]
      refine iff_of_false ?_ hsigma
      split
      · exact hfinal
      · exact hsmall
    · constructor
      · exact fun hmem => (hc.only d hmem).symm
      · rintro rfl
        rw [hc.own]
        exact List.mem_singleton_self c

/-- **A text has a character that lowercase does not touch** when its lowercase form has. -/
theorem mem_lowercase_iff {c : Char} (hc : IsUntouched c) (cs : List Char) :
    c ∈ lowercase cs ↔ c ∈ cs :=
  mem_lowercaseFrom_iff hc false cs

/-! ### What follows a text -/

section Ending

variable {d : Char} (hpassed : isPassedOver d = false) (hcased : isCased d = false)

include hpassed hcased

/-- A character without case behind a text is no cased neighbour. -/
theorem beforeCased_concat (cs : List Char) : beforeCased (cs ++ [d]) = beforeCased cs := by
  induction cs with
  | nil => simp [beforeCased, List.dropWhile, hpassed, hcased]
  | cons c cs ih =>
    unfold beforeCased at ih ⊢
    rw [List.cons_append, List.dropWhile_cons, List.dropWhile_cons]
    by_cases hc : isPassedOver c = true
    · rw [if_pos hc, if_pos hc, ih]
    · rw [if_neg hc, if_neg hc]

theorem lowercaseFrom_concat (hd : IsUntouched d) (afterCased : Bool) (cs : List Char) :
    lowercaseFrom afterCased (cs ++ [d]) = lowercaseFrom afterCased cs ++ [d] := by
  induction cs generalizing afterCased with
  | nil =>
    obtain ⟨hsigma, -⟩ : d ≠ 'Σ' ∧ _ := by simpa using hd.sigma
    simp [lowercaseFrom, hsigma, hd.own]
  | cons c cs ih =>
    rw [List.cons_append, lowercaseFrom, lowercaseFrom, ih, beforeCased_concat hpassed hcased,
      List.append_assoc]

/-- **A character without case behind a text** stays behind its lowercase form, and changes nothing
before it. -/
theorem lowercase_concat (hd : IsUntouched d) (cs : List Char) :
    lowercase (cs ++ [d]) = lowercase cs ++ [d] :=
  lowercaseFrom_concat hpassed hcased hd false cs

end Ending

/-! ### Blanks -/

theorem uncased_of_isBlank {c : Char} (hc : isBlank c = true) :
    c.inRanges uncasedRanges = true := by
  simp only [isBlank, Bool.or_eq_true, Bool.and_eq_true, decide_eq_true_eq, beq_iff_eq] at hc
  simp only [Char.inRanges, uncasedRanges, List.any_cons, List.any_nil, Bool.or_false,
    Bool.or_eq_true, Bool.and_eq_true, decide_eq_true_eq]
  omega

/-- **Lowercase does not touch blanks.** -/
theorem isUntouched_of_isBlank {c : Char} (hc : isBlank c = true) : IsUntouched c :=
  isUntouched_of_uncased (uncased_of_isBlank hc)

/-- Lowercase does not touch the asterisk. -/
theorem isUntouched_asterisk : IsUntouched '*' := isUntouched_of_uncased (by decide)

/-- The lowercase form of a text with an asterisk behind it. -/
theorem lowercase_concat_asterisk (cs : List Char) :
    lowercase (cs ++ ['*']) = lowercase cs ++ ['*'] :=
  lowercase_concat (by decide) (by decide +kernel) isUntouched_asterisk cs

/-- No alphanumeric character above ASCII is in the ranges of blanks. -/
theorem alphanumericRanges_apart :
    ∀ a ∈ alphanumericRanges, ∀ r ∈ uncasedRanges, a.2 < r.1 ∨ r.2 < a.1 := by
  decide +kernel

/-- The first 33 characters are not alphanumeric. -/
theorem isAlphanum_ofNat : ∀ n < 33, (Char.ofNat n).isAlphanum = false := by decide +kernel

/-- **No blank is alphanumeric.** -/
theorem isAlphanumeric_of_isBlank {c : Char} (hc : isBlank c = true) :
    isAlphanumeric c = false := by
  obtain ⟨r, hr, hlow, hhigh⟩ := Char.inRanges_eq_true.1 (uncased_of_isBlank hc)
  by_cases hascii : c.toNat < 128
  · rw [isAlphanumeric_of_ascii hascii, ← Char.ofNat_toNat c]
    refine isAlphanum_ofNat c.toNat ?_
    simp only [isBlank, Bool.or_eq_true, Bool.and_eq_true, decide_eq_true_eq, beq_iff_eq] at hc
    omega
  · rw [isAlphanumeric, if_neg hascii, ← Bool.not_eq_true, Char.inRanges_eq_true]
    rintro ⟨a, ha, hfirst, hlast⟩
    have hapart := alphanumericRanges_apart a ha r hr
    omega

end FederatedSearch.Text
