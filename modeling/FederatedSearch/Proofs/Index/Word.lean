import FederatedSearch.Index.Matching
import FederatedSearch.Proofs.Text.Case
import FederatedSearch.Proofs.Text.Pieces
import Mathlib.Data.List.Infix

/-!
# Words of a value and words of a query

The words of a value are runs of alphanumeric characters in lowercase, and a word of a query is
compared with each of them as a whole. What the query has in it that no run has, it can never find.
A blank is of this kind: no stem and no prefix gets rid of it. Every row of words finds itself, also
in the middle of others.

* `FederatedSearch.Index.not_isBlank_of_mem_words`: **no word of a value has a blank in it**.
* `FederatedSearch.Index.wordMatches_of_isBlank`: a pattern with a blank in it matches no such word.
* `FederatedSearch.Index.words_of_standsIn`: the words of a text that stands in a value.
* `FederatedSearch.Index.Matcher.hasRow_between`: **a row of words is found** among others.
-/

namespace FederatedSearch.Index

open Text

/-! ### Words of a value -/

/-- **No word of a value has a blank in it.** -/
theorem not_isBlank_of_mem_words {value : String} {w : Word} (hw : w ∈ words value) {c : Char}
    (hc : isBlank c = true) : c ∉ w := by
  obtain ⟨run, hrun, rfl⟩ := List.mem_map.1 hw
  rw [mem_lowercase_iff (isUntouched_of_isBlank hc)]
  intro hmem
  have hclass := (List.mem_filter.1 ((sublist_of_mem_runs hrun).subset hmem)).2
  rw [isAlphanumeric_of_isBlank hc] at hclass
  cases hclass

/-- A text with an alphanumeric character has a word. -/
theorem words_ne_nil {text : String} (h : ∃ c ∈ text.toList, isAlphanumeric c = true) :
    words text ≠ [] :=
  mt List.map_eq_nil_iff.1 (runs_ne_nil h)

/-- A text of alphanumeric characters is one word. -/
theorem words_eq_singleton {text : String} (hne : text.toList ≠ [])
    (h : ∀ c ∈ text.toList, isAlphanumeric c = true) : words text = [lowercase text.toList] := by
  rw [words, runs_eq_singleton hne h, List.map_singleton]

/-- **The text stands in the value**: no alphanumeric character is next to it. -/
def StandsIn (text value : String) : Prop :=
  ∃ before after : List Char, value.toList = before ++ (text.toList ++ after) ∧
    (∀ c ∈ before.getLast?, isAlphanumeric c = false) ∧
      ∀ c ∈ after.head?, isAlphanumeric c = false

/-- A text stands in itself. -/
theorem standsIn_self (text : String) : StandsIn text text :=
  ⟨[], [], by simp, by simp, by simp⟩

/-- The words of a text that stands in a value are there among the words of the value. -/
theorem words_of_standsIn {text value : String} (h : StandsIn text value) :
    ∃ before after, words value = before ++ (words text ++ after) := by
  obtain ⟨before, after, hvalue, hbefore, hafter⟩ := h
  refine ⟨(runs isAlphanumeric before).map lowercase, (runs isAlphanumeric after).map lowercase, ?_⟩
  rw [words, hvalue, runs_between hbefore hafter, List.map_append, List.map_append, words]

/-! ### Matching -/

/-- A word matches itself as a pattern. -/
theorem wordMatches_self (stemmer : Option Stemmer) (w : Word) :
    wordMatches stemmer w w = true := by
  unfold wordMatches
  split
  · exact List.isPrefixOf_iff_prefix.2 (List.dropLast_prefix w)
  · exact sameWord_self stemmer w

/-- A stem is what is left of a word before a suffix. -/
theorem Stemmer.exists_stem_append (s : Stemmer) (w : Word) :
    ∃ suffix, (suffix = [] ∨ suffix ∈ s.suffixes) ∧ s.stem w ++ suffix = w := by
  unfold stem
  cases hcut : s.suffixes.findSome? (cut? w) with
  | none => exact ⟨[], .inl rfl, List.append_nil w⟩
  | some root =>
    obtain ⟨suffix, hsuffix, hroot⟩ := List.exists_of_findSome?_eq_some hcut
    unfold cut? at hroot
    split at hroot
    · next hend =>
      simp only [Bool.and_eq_true, List.isSuffixOf_iff_suffix] at hend
      obtain ⟨before, rfl⟩ := hend.2
      have htake : before = root := by simpa using hroot
      exact ⟨suffix, .inr hsuffix, by rw [Option.getD_some, htake]⟩
    · cases hroot

/-- No suffix has a blank in it. -/
theorem Stemmer.not_isBlank_of_mem_suffixes {s : Stemmer} {suffix : Word}
    (h : suffix ∈ s.suffixes) : ∀ c ∈ suffix, isBlank c = false := by
  have hall : (s.suffixes.all fun suffix => suffix.all (!isBlank ·)) = true := by
    cases s <;> decide
  simp only [List.all_eq_true, Bool.not_eq_true'] at hall
  exact hall suffix h

/-- A stem has the blanks of its word. -/
theorem Stemmer.mem_stem_iff_of_isBlank (s : Stemmer) {c : Char} (hc : isBlank c = true)
    (w : Word) : c ∈ s.stem w ↔ c ∈ w := by
  obtain ⟨suffix, hsuffix, heq⟩ := s.exists_stem_append w
  have hout : c ∉ suffix := by
    rcases hsuffix with rfl | hmem
    · exact List.not_mem_nil
    · intro hin
      rw [not_isBlank_of_mem_suffixes hmem c hin] at hc
      cases hc
  conv_rhs => rw [← heq, List.mem_append]
  exact (or_iff_left hout).symm

/-- **A pattern with a blank in it matches no word without.** -/
theorem wordMatches_of_isBlank (stemmer : Option Stemmer) {w p : Word} {c : Char}
    (hc : isBlank c = true) (hp : c ∈ p) (hw : c ∉ w) : wordMatches stemmer w p = false := by
  unfold wordMatches
  split
  · next hstar =>
    -- what stands before the asterisk still has the blank
    rw [← List.dropLast_append_getLast? '*' hstar, List.mem_append, List.mem_singleton] at hp
    have hfront : c ∈ p.dropLast := hp.resolve_right (by rintro rfl; exact absurd hc (by decide))
    rw [← Bool.not_eq_true, List.isPrefixOf_iff_prefix]
    exact fun h => hw (h.subset hfront)
  · cases stemmer with
    | none =>
      rw [sameWord, beq_eq_false_iff_ne]
      rintro rfl
      exact hw hp
    | some s =>
      rw [sameWord, beq_eq_false_iff_ne]
      intro heq
      rw [← s.mem_stem_iff_of_isBlank hc, ← heq, s.mem_stem_iff_of_isBlank hc] at hp
      exact hw hp

namespace Matcher

/-! ### Rows of words -/

/-- A text starts with its own words. -/
theorem startsWith_append (stemmer : Option Stemmer) (ps ws : List Word) :
    startsWith stemmer ps (ps ++ ws) = true := by
  induction ps with
  | nil => rw [startsWith]
  | cons p ps ih => rw [List.cons_append, startsWith, wordMatches_self, ih, Bool.and_self]

/-- **A row of words is found** where it stands, whatever the words around it. -/
theorem hasRow_between (stemmer : Option Stemmer) {ps : List Word} (hne : ps ≠ [])
    (before after : List Word) : hasRow stemmer ps (before ++ (ps ++ after)) = true := by
  induction before with
  | nil =>
    rcases ps with - | ⟨p, ps⟩
    · exact absurd rfl hne
    · have hstart := startsWith_append stemmer (p :: ps) after
      rw [List.nil_append, List.cons_append, hasRow, ← List.cons_append, hstart, Bool.true_or]
  | cons w before ih => rw [List.cons_append, hasRow, ih, Bool.or_true]

/-- A row of one word is found where the word is. -/
theorem hasRow_singleton (stemmer : Option Stemmer) (p : Word) (ws : List Word) :
    hasRow stemmer [p] ws = ws.any (wordMatches stemmer · p) := by
  induction ws with
  | nil => rfl
  | cons w ws ih => rw [hasRow, ih, List.any_cons, startsWith, startsWith, Bool.and_true]

end Matcher

end FederatedSearch.Index
